import FieldSurvey.Registry.Reconciliation

/-!
# Delivery

Batches wait in a short queue between the runs that publish them and their
reconciliation with the registry.  A queue that is closed takes no more batches,
but those that it holds are still reconciled.
-/

namespace FieldSurvey.Registry

open Model (Context ResultRecord)
open Time (Timestamp)

/-- The batches that are still to be reconciled. -/
structure Delivery where
  batches : List (List ResultRecord) := []
  isClosed : Bool := false
  deriving DecidableEq

/-- What becomes of a batch that is handed over. -/
inductive Handover where
  | taken (delivery : Delivery)
  | refused (reason : String)
  /-- the queue is full; the batch has to wait -/
  | full

namespace Delivery

/-- How many batches may wait. -/
def capacity : Nat :=
  16

/-- Hands a batch over, on behalf of a run that may have been cancelled. -/
def offer (batch : List ResultRecord) (isCancelled : Bool) (delivery : Delivery) : Handover :=
  if isCancelled then .refused "Publishing cancelled"
  else if delivery.isClosed then .refused "Reconciliation stopped"
  else if delivery.batches.length < capacity then
    .taken { delivery with batches := delivery.batches ++ [batch] }
  else .full

/-- Takes no more batches. -/
def close (delivery : Delivery) : Delivery :=
  { delivery with isClosed := true }

/-- Whether no batch is left and none will come. -/
def isOver (delivery : Delivery) : Bool :=
  delivery.isClosed && delivery.batches.isEmpty

end Delivery

/-- The context of a batch: the one that its last record with a context names, or
else the present. -/
def contextOf (now : Timestamp) (batch : List ResultRecord) : Context :=
  (batch.reverse.findSome? fun record => record.info.bind Model.BatchInfo.context).getD
    { authorityId := none, time := now }

/-- Reconciles the registry with a delivered batch. -/
def reconcileBatch (discovererId : String) (attempts : Nat) (now : Timestamp)
    (batch : List ResultRecord) : Program Calls (Except Fault Summary) :=
  reconcile { discovererId, context := contextOf now batch, attempts } now batch

end FieldSurvey.Registry
