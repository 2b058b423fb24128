import FieldSurvey.Model.Registration
import Mathlib.Data.List.Induction
import Mathlib.Data.List.Nodup
import Mathlib.Data.List.Sort
import Mathlib.Data.String.Basic

/-!
# Merging registrations

Endpoints are kept under their ids and registrations under those of their applications: an item is
combined with the one that has its key, or is added at the end.  So the keys of such a list stand
in the order in which they were first met, and each of its items is what all items of its key come
to.  Merging registrations is associative as long as no endpoint is listed twice.
-/

namespace FieldSurvey

/-! ## Lists under keys -/

namespace Keyed

variable {α κ : Type} [DecidableEq κ] {key : α → κ} {combine : α → α → α} {item other first : α}
  {list items others : List α}

/-- Combines an item with the first one of its key, or adds it at the end. -/
def place (key : α → κ) (combine : α → α → α) (item : α) : List α → List α
  | [] => [item]
  | first :: rest =>
    if key first = key item then combine first item :: rest
    else first :: place key combine item rest

/-- Places items one after the other. -/
def placeAll (key : α → κ) (combine : α → α → α) (items list : List α) : List α :=
  items.foldl (fun list item => place key combine item list) list

/-- What items come to, if there are any. -/
def combined? (combine : α → α → α) : List α → Option α
  | [] => none
  | first :: rest => some (rest.foldl combine first)

theorem combined?_concat : combined? combine (items ++ [item]) =
    some ((combined? combine items).elim item (combine · item)) := by
  cases items with
  | nil => rfl
  | cons first rest => simp [combined?]

theorem placeAll_concat : placeAll key combine (items ++ [item]) list =
    place key combine item (placeAll key combine items list) :=
  List.foldl_concat _ _ _ _

theorem placeAll_append (front back : List α) : placeAll key combine (front ++ back) list =
    placeAll key combine back (placeAll key combine front list) :=
  List.foldl_append

theorem eraseDups_concat (front : List κ) (last : κ) : (front ++ [last]).eraseDups =
    if last ∈ front then front.eraseDups else front.eraseDups ++ [last] := by
  rw [List.eraseDups_append]
  by_cases met : last ∈ front <;> simp [List.removeAll, List.eraseDups_cons, met]

section Keys

variable (keeps : ∀ first item, key first = key item → key (combine first item) = key first)

include keeps

theorem map_place : (place key combine item list).map key =
    if key item ∈ list.map key then list.map key else list.map key ++ [key item] := by
  induction list with
  | nil => rfl
  | cons first rest ih =>
      unfold place
      by_cases head : key first = key item
      · simp [head, keeps first item head]
      · have apart : key item ≠ key first := Ne.symm head
        simp only [if_neg head, List.map_cons, ih, List.mem_cons, apart, false_or]
        split <;> rfl

/-- The keys of items that were placed stand in the order in which they were first met. -/
theorem map_placeAll : (placeAll key combine items []).map key = (items.map key).eraseDups := by
  induction items using List.reverseRecOn with
  | nil => rfl
  | append_singleton front last ih =>
      rw [placeAll_concat, map_place keeps, ih, List.map_append, List.map_singleton,
        eraseDups_concat]
      simp only [List.mem_eraseDups]

theorem find?_place (wanted : κ) :
    (place key combine item list).find? (fun listed => key listed = wanted) =
      if key item = wanted then
        some ((list.find? fun listed => key listed = wanted).elim item (combine · item))
      else list.find? fun listed => key listed = wanted := by
  induction list with
  | nil => by_cases same : key item = wanted <;> simp [place, same]
  | cons first rest ih =>
      unfold place
      by_cases head : key first = key item
      · have kept := keeps first item head
        by_cases same : key item = wanted <;> simp [head, kept, same]
      · by_cases same : key item = wanted
        · subst same
          simp [head, ih]
        · simp only [if_neg head, List.find?_cons, ih, if_neg same]

/-- What stands under a key is what all items of that key come to. -/
theorem find?_placeAll (wanted : κ) :
    (placeAll key combine items []).find? (fun listed => key listed = wanted) =
      combined? combine (items.filter fun item => key item = wanted) := by
  induction items using List.reverseRecOn with
  | nil => rfl
  | append_singleton front last ih =>
      rw [placeAll_concat, find?_place keeps, ih, List.filter_append]
      split
      · next same => simp [same, combined?_concat]
      · next different => simp [different]

theorem nodup_place (nodup : (list.map key).Nodup) :
    ((place key combine item list).map key).Nodup := by
  rw [map_place keeps]
  split
  · exact nodup
  · next new =>
      rw [← List.concat_eq_append]
      exact List.Nodup.concat new nodup

theorem nodup_placeAll (nodup : (list.map key).Nodup) :
    ((placeAll key combine items list).map key).Nodup := by
  induction items generalizing list with
  | nil => exact nodup
  | cons first rest ih => exact ih (nodup_place keeps nodup)

end Keys

theorem place_of_not_mem (new : key item ∉ list.map key) :
    place key combine item list = list ++ [item] := by
  induction list with
  | nil => rfl
  | cons first rest ih =>
      rw [List.map_cons, List.mem_cons, not_or] at new
      rw [place, if_neg (Ne.symm new.1), ih new.2, List.cons_append]

/-- Items of different keys are placed as they stand. -/
theorem placeAll_of_nodup (nodup : (items.map key).Nodup) :
    placeAll key combine items [] = items := by
  induction items using List.reverseRecOn with
  | nil => rfl
  | append_singleton front last ih =>
      rw [List.map_append, List.map_singleton, ← List.concat_eq_append, List.nodup_concat] at nodup
      rw [placeAll_concat, ih nodup.2, place_of_not_mem nodup.1]

/-- Items of different keys are found under their keys. -/
theorem find?_of_mem (nodup : (list.map key).Nodup) (member : item ∈ list) :
    list.find? (fun listed => key listed = key item) = some item := by
  induction list with
  | nil => contradiction
  | cons first rest ih =>
      rw [List.map_cons, List.nodup_cons] at nodup
      rcases List.mem_cons.mp member with rfl | inRest
      · simp
      · have apart : key first ≠ key item :=
          fun same => nodup.1 (same ▸ List.mem_map_of_mem inRest)
        rw [List.find?_cons_of_neg (by simpa using apart)]
        exact ih nodup.2 inRest

/-- Each of the items that were placed is what all items of its key come to. -/
theorem combined?_of_mem_placeAll
    (keeps : ∀ first item, key first = key item → key (combine first item) = key first)
    (member : item ∈ placeAll key combine items []) :
    combined? combine (items.filter fun placed => key placed = key item) = some item := by
  rw [← find?_placeAll keeps]
  exact find?_of_mem (nodup_placeAll keeps List.nodup_nil) member

/-! ### Associativity -/

section Associative

variable (keeps : ∀ first item, key first = key item → key (combine first item) = key first)
  (assoc : ∀ a b c, combine (combine a b) c = combine a (combine b c))

include keeps

/-- Items of two keys are placed in any order if one of the keys is listed. -/
theorem place_comm (listed : key item ∈ list.map key) (apart : key other ≠ key item) :
    place key combine item (place key combine other list) =
      place key combine other (place key combine item list) := by
  induction list with
  | nil => contradiction
  | cons first rest ih =>
      by_cases isItem : key first = key item
      · have notOther : key first ≠ key other := fun same => apart (same.symm.trans isItem)
        have kept : key (combine first item) ≠ key other := by
          rwa [keeps first item isItem]
        simp only [place, if_pos isItem, if_neg notOther, if_neg kept]
      · have inRest : key item ∈ rest.map key := by
          rw [List.map_cons, List.mem_cons] at listed
          exact listed.resolve_left (Ne.symm isItem)
        by_cases isOther : key first = key other
        · have kept : key (combine first other) ≠ key item := by
            rwa [keeps first other isOther]
          simp only [place, if_pos isOther, if_neg isItem, if_neg kept]
        · simp only [place, if_neg isOther, if_neg isItem, ih inRest]

theorem placeAll_place_comm (listed : key item ∈ list.map key) (apart : key item ∉ items.map key) :
    placeAll key combine items (place key combine item list) =
      place key combine item (placeAll key combine items list) := by
  induction items generalizing list with
  | nil => rfl
  | cons first rest ih =>
      rw [List.map_cons, List.mem_cons, not_or] at apart
      have still : key item ∈ (place key combine first list).map key := by
        rw [map_place keeps]
        split
        · exact listed
        · exact List.mem_append_left _ listed
      change placeAll key combine rest (place key combine first (place key combine item list)) =
        place key combine item (placeAll key combine rest (place key combine first list))
      rw [← place_comm keeps listed (Ne.symm apart.1), ih still apart.2]

include assoc

theorem place_combine (same : key first = key item) :
    place key combine (combine first item) list =
      place key combine item (place key combine first list) := by
  have kept := keeps first item same
  induction list with
  | nil => simp [place, same]
  | cons head rest ih =>
      by_cases isFirst : key head = key first
      · have isItem : key (combine head first) = key item :=
          (keeps head first isFirst).trans (isFirst.trans same)
        simp only [place, kept, if_pos isFirst, if_pos isItem, assoc]
      · have notItem : key head ≠ key item := fun equal => isFirst (equal.trans same.symm)
        simp only [place, kept, if_neg isFirst, if_neg notItem, ih]

/-- To place an item with others first, or to place it after them, comes to the same. -/
theorem placeAll_place (nodup : (items.map key).Nodup) :
    placeAll key combine (place key combine item items) list =
      place key combine item (placeAll key combine items list) := by
  induction items generalizing list with
  | nil => rfl
  | cons first rest ih =>
      rw [List.map_cons, List.nodup_cons] at nodup
      by_cases same : key first = key item
      · have listed : key item ∈ (place key combine first list).map key := by
          rw [map_place keeps, same]
          split
          · assumption
          · simp
        have apart : key item ∉ rest.map key := same ▸ nodup.1
        rw [place, if_pos same]
        change placeAll key combine rest (place key combine (combine first item) list) =
          place key combine item (placeAll key combine rest (place key combine first list))
        rw [place_combine keeps assoc same, placeAll_place_comm keeps listed apart]
      · rw [place, if_neg same]
        exact ih nodup.2

theorem placeAll_placeAll (nodup : (items.map key).Nodup) :
    placeAll key combine (placeAll key combine others items) list =
      placeAll key combine others (placeAll key combine items list) := by
  induction others generalizing items with
  | nil => rfl
  | cons next rest ih =>
      change placeAll key combine (placeAll key combine rest (place key combine next items)) list =
        placeAll key combine rest (place key combine next (placeAll key combine items list))
      rw [ih (nodup_place keeps nodup), placeAll_place keeps assoc nodup]

end Associative

theorem combined?_replace (items : List α) :
    combined? (fun _ later => later) items = items.getLast? := by
  induction items using List.reverseRecOn with
  | nil => rfl
  | append_singleton front last _ =>
      rw [combined?_concat, List.getLast?_concat]
      cases combined? (fun _ later => later) front <;> rfl

end Keyed

/-! ## Sets of texts -/

namespace Text.TextSet

variable {a b : TextSet} {text : String}

/-- Sets of the same texts are the same. -/
theorem eq_of_mem_iff (same : ∀ text, text ∈ a.items ↔ text ∈ b.items) : a = b := by
  obtain ⟨items, ascending⟩ := a
  obtain ⟨others, ascending'⟩ := b
  obtain rfl := ascending.eq_of_mem_iff ascending' same
  rfl

theorem mem_foldl_insert (texts : List String) (set : TextSet) :
    text ∈ (texts.foldl insert set).items ↔ text ∈ set.items ∨ text ∈ texts := by
  induction texts generalizing set with
  | nil => simp
  | cons first rest ih =>
      rw [List.foldl_cons, ih, insert, mem_insertInto, List.mem_cons, or_assoc, or_left_comm]

theorem mem_union : text ∈ (a.union b).items ↔ text ∈ a.items ∨ text ∈ b.items :=
  mem_foldl_insert b.items a

theorem union_assoc (a b c : TextSet) : (a.union b).union c = a.union (b.union c) := by
  apply eq_of_mem_iff
  intro text
  simp only [mem_union, or_assoc]

end Text.TextSet

namespace Model

open Keyed (place placeAll combined?)
open Text (TextSet)

theorem Application.joined_assoc (a b c : Application) :
    (a.joined b).joined c = a.joined (b.joined c) := by
  simp only [joined, TextSet.union_assoc]

/-- An application with the sets of another one. -/
def Application.withSetsOf (application other : Application) : Application :=
  { application with
    discoveryUrls := other.discoveryUrls
    hostAddresses := other.hostAddresses
    capabilities := other.capabilities }

namespace Registration

variable {registration other first : Registration} {rest occurrences : List Registration}

/-! ## Merging -/

/-- Whether no two endpoints of a registration have one id. -/
def Distinct (registration : Registration) : Prop :=
  (registration.endpoints.map Endpoint.id).Nodup

theorem putEndpoint_eq (endpoint : Endpoint) (endpoints : List Endpoint) :
    putEndpoint endpoint endpoints =
      place Endpoint.id (fun _ later => later) endpoint endpoints := by
  induction endpoints with
  | nil => rfl
  | cons first rest ih => rw [putEndpoint, place, ih]

theorem endpoints_merge : (registration.merge other).endpoints =
    placeAll Endpoint.id (fun _ later => later) other.endpoints registration.endpoints := by
  simp only [merge, putEndpoint_eq]
  rfl

/-- A replaced endpoint keeps its id. -/
theorem id_replaced (first later : Endpoint) (same : first.id = later.id) : later.id = first.id :=
  same.symm

theorem Distinct.merge (distinct : registration.Distinct) (other : Registration) :
    (registration.merge other).Distinct := by
  rw [Distinct, endpoints_merge]
  exact Keyed.nodup_placeAll id_replaced distinct

/-- Merging is associative if the registration in the middle lists no endpoint twice. -/
theorem merge_assoc (a : Registration) {b : Registration} (distinct : b.Distinct)
    (c : Registration) : (a.merge b).merge c = a.merge (b.merge c) := by
  have applications := Application.joined_assoc a.application b.application c.application
  have endpoints : ((a.merge b).merge c).endpoints = (a.merge (b.merge c)).endpoints := by
    simp only [endpoints_merge]
    exact (Keyed.placeAll_placeAll id_replaced (fun _ _ _ => rfl) distinct).symm
  exact congrArg₂ Registration.mk applications endpoints

/-- The id of the application. -/
def applicationId (registration : Registration) : String :=
  registration.application.applicationId

theorem mergeInto_eq (registration : Registration) (registrations : List Registration) :
    registration.mergeInto registrations =
      Keyed.place applicationId merge registration registrations := by
  induction registrations with
  | nil => rfl
  | cons first rest ih =>
      rw [mergeInto, Keyed.place, ih]
      rfl

theorem applicationId_merge (first other : Registration) :
    (first.merge other).applicationId = first.applicationId :=
  rfl

/-! ## What several registrations come to -/

/-- Whether a registration is what its occurrences in a run come to. -/
structure Sums (registration : Registration) (occurrences : List Registration) : Prop where
  /-- apart from its sets, the application is that of the first occurrence -/
  application : ∃ first, occurrences.head? = some first ∧
    registration.application = first.application.withSetsOf registration.application
  discoveryUrls : ∀ url, url ∈ registration.application.discoveryUrls.items ↔
    ∃ occurrence ∈ occurrences, url ∈ occurrence.application.discoveryUrls.items
  hostAddresses : ∀ host, host ∈ registration.application.hostAddresses.items ↔
    ∃ occurrence ∈ occurrences, host ∈ occurrence.application.hostAddresses.items
  capabilities : ∀ capability, capability ∈ registration.application.capabilities.items ↔
    ∃ occurrence ∈ occurrences, capability ∈ occurrence.application.capabilities.items
  /-- one endpoint for each id, in the order in which they first occur -/
  endpointIds : registration.endpoints.map Endpoint.id =
    ((occurrences.flatMap endpoints).map Endpoint.id).eraseDups
  /-- each as it occurs last -/
  endpoints : ∀ endpoint ∈ registration.endpoints,
    ((occurrences.flatMap Registration.endpoints).filter
      fun occurrence => occurrence.id = endpoint.id).getLast? = some endpoint

theorem application_foldl_merge (first : Registration) (rest : List Registration) :
    (rest.foldl merge first).application =
      first.application.withSetsOf (rest.foldl merge first).application := by
  induction rest generalizing first with
  | nil => rfl
  | cons next rest ih => exact (ih (first.merge next)).trans rfl

theorem mem_set_foldl_merge {set : Application → TextSet}
    (joins : ∀ a b : Application, set (a.joined b) = (set a).union (set b)) (text : String) :
    text ∈ (set (rest.foldl merge first).application).items ↔
      ∃ occurrence ∈ first :: rest, text ∈ (set occurrence.application).items := by
  induction rest generalizing first with
  | nil => simp
  | cons next rest ih =>
      have joined : set (first.merge next).application =
          (set first.application).union (set next.application) := joins _ _
      rw [List.foldl_cons, ih]
      simp only [List.exists_mem_cons_iff, joined, TextSet.mem_union, or_assoc]

theorem endpoints_foldl_merge (first : Registration) (rest : List Registration) :
    (rest.foldl merge first).endpoints =
      placeAll Endpoint.id (fun _ later => later) (rest.flatMap endpoints) first.endpoints := by
  induction rest generalizing first with
  | nil => rfl
  | cons next rest ih =>
      rw [List.foldl_cons, ih, endpoints_merge, List.flatMap_cons, Keyed.placeAll_append]

/-- Registrations that are merged one after the other come to their sum. -/
theorem sums_of_combined? (distinct : ∀ occurrence ∈ occurrences, occurrence.Distinct)
    (combined : combined? merge occurrences = some registration) :
    registration.Sums occurrences := by
  cases occurrences with
  | nil => contradiction
  | cons first rest =>
      cases combined
      have placed : (rest.foldl merge first).endpoints =
          placeAll Endpoint.id (fun _ later => later)
            ((first :: rest).flatMap endpoints) [] := by
        rw [endpoints_foldl_merge, List.flatMap_cons, Keyed.placeAll_append,
          Keyed.placeAll_of_nodup (distinct first List.mem_cons_self)]
      constructor
      case application => exact ⟨first, rfl, application_foldl_merge first rest⟩
      case discoveryUrls => exact mem_set_foldl_merge fun _ _ => rfl
      case hostAddresses => exact mem_set_foldl_merge fun _ _ => rfl
      case capabilities => exact mem_set_foldl_merge fun _ _ => rfl
      case endpointIds => rw [placed, Keyed.map_placeAll id_replaced]
      case endpoints =>
        intro endpoint member
        rw [placed] at member
        rw [← Keyed.combined?_replace]
        exact Keyed.combined?_of_mem_placeAll id_replaced member

end Registration

end Model

end FieldSurvey
