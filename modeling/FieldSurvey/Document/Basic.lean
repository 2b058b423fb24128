import FieldSurvey.Number.Double

/-!
# Documents

A document is a tree of records, lists and scalars, as JSON and YAML texts hold
it.  A plain scalar is one whose kind is left to whoever reads it.
-/

namespace FieldSurvey

/-- A tree of records, lists and scalars. -/
inductive Document where
  | null
  | bool (value : Bool)
  | integer (value : Int)
  | real (value : Number.Double)
  | text (value : String)
  /-- a scalar written without quotes -/
  | plain (value : String)
  | list (items : List Document)
  /-- fields in the order in which they were written -/
  | record (fields : List (String × Document))
  deriving Repr, Inhabited

namespace Document

/-- A number that is not negative. -/
def natural (n : Nat) : Document :=
  .integer n

/-- The value of a field, if the document is a record that has one of that
name. -/
def get? (document : Document) (name : String) : Option Document :=
  match document with
  | .record fields => fields.lookup name
  | _ => none

end Document

end FieldSurvey
