import FieldSurvey.Proofs.Registry.Lodging
import FieldSurvey.Registry.Listing
import Mathlib.Data.List.Sort
import Mathlib.Data.String.Basic

/-!
# Listings are partitions

A listing joins applications and endpoints that were listed apart.  It shows each of them once and
drops nothing, because every endpoint is of a stored application of its own discoverer.  Its order
is strict, so that nothing is left to the order in which the stores hold their entities.
-/

namespace FieldSurvey.Registry

open Model (Application Endpoint Registration)

/-! ## Order by a text and an id -/

section Order

variable {α : Type} {text id : α → String}

/-- Whether something stands before something else, by a text, or by an id where the texts are
equal. -/
def Precedes (text id : α → String) (a b : α) : Prop :=
  text a < text b ∨ text a = text b ∧ id a < id b

theorem Precedes.asymm {a b : α} (before : Precedes text id a b) : ¬Precedes text id b a := by
  rintro (after | ⟨same, after⟩) <;> rcases before with less | ⟨equal, less⟩
  · exact lt_asymm less after
  · exact after.ne equal.symm
  · exact less.ne same.symm
  · exact lt_asymm less after

theorem leByText_iff {a b : α} :
    leByText text id a b ↔ Precedes text id a b ∨ text a = text b ∧ id a = id b := by
  simp only [leByText, Bool.or_eq_true, Bool.and_eq_true, decide_eq_true_eq, beq_iff_eq, Precedes,
    le_iff_lt_or_eq]
  tauto

theorem leByText_trans (a b c : α) (first : leByText text id a b) (second : leByText text id b c) :
    leByText text id a c := by
  simp only [leByText, Bool.or_eq_true, Bool.and_eq_true, decide_eq_true_eq, beq_iff_eq] at *
  rcases first with less | ⟨same, le⟩ <;> rcases second with more | ⟨equal, more⟩
  · exact .inl (less.trans more)
  · exact .inl (equal ▸ less)
  · exact .inl (same ▸ more)
  · exact .inr ⟨same.trans equal, le.trans more⟩

theorem leByText_total (a b : α) : (leByText text id a b || leByText text id b a) = true := by
  simp only [leByText, Bool.or_eq_true, Bool.and_eq_true, decide_eq_true_eq, beq_iff_eq]
  rcases lt_trichotomy (text a) (text b) with less | same | more
  · exact .inl (.inl less)
  · rcases le_total (id a) (id b) with le | ge
    · exact .inl (.inr ⟨same, le⟩)
    · exact .inr (.inr ⟨same.symm, ge⟩)
  · exact .inr (.inl more)

/-- Sorting is strict where ids are. -/
theorem precedes_mergeSort {list : List α} (nodup : (list.map id).Nodup) :
    (list.mergeSort (leByText text id)).Pairwise (Precedes text id) := by
  have sorted : (list.mergeSort (leByText text id)).Pairwise fun a b => leByText text id a b :=
    List.pairwise_mergeSort leByText_trans leByText_total list
  have perm := (List.mergeSort_perm list (leByText text id)).map id
  have apart := List.pairwise_map.mp (perm.nodup_iff.mpr nodup)
  refine (sorted.and apart).imp ?_
  rintro a b ⟨le, distinct⟩
  rcases leByText_iff.mp le with before | ⟨-, same⟩
  · exact before
  · exact absurd same distinct

theorem mergeSort_eq_of_perm {list other : List α} (perm : list.Perm other)
    (nodup : (list.map id).Nodup) :
    list.mergeSort (leByText text id) = other.mergeSort (leByText text id) := by
  have sorted : (list.mergeSort (leByText text id)).Pairwise (Precedes text id) :=
    precedes_mergeSort nodup
  have otherSorted : (other.mergeSort (leByText text id)).Pairwise (Precedes text id) :=
    precedes_mergeSort ((perm.map id).nodup_iff.mp nodup)
  refine List.Perm.eq_of_pairwise ?_ sorted otherSorted ?_
  · intro a b _ _ before after
    exact absurd after before.asymm
  · exact (List.mergeSort_perm list _).trans (perm.trans (List.mergeSort_perm other _).symm)

end Order

/-! ## What a store shows -/

namespace Store

variable {α : Type} [Entity α] {filter : Option String} {store : Store α}

/-- Whether an entity is stored, and is of a discoverer if one is given. -/
def Shows (filter : Option String) (store : Store α) (entity : α) : Prop :=
  (∃ id, store.get? id = some entity) ∧
    ∀ discovererId ∈ filter, Entity.discovererId entity = some discovererId

/-- The stored entities of a discoverer, or all. -/
def shown (filter : Option String) (store : Store α) : List α :=
  match filter with
  | some discovererId => store.ownedBy discovererId
  | none => store.toList

theorem WellKept.mem_toList_iff_exists (kept : store.WellKept) (entity : α) :
    entity ∈ store.toList ↔ ∃ id, store.get? id = some entity := by
  rw [kept.mem_toList]
  constructor
  · exact fun stands => ⟨_, stands⟩
  · rintro ⟨id, stands⟩
    rwa [kept.id_of_get? stands]

theorem WellKept.mem_shown (kept : store.WellKept) (entity : α) :
    entity ∈ store.shown filter ↔ store.Shows filter entity := by
  cases filter with
  | none => simp [shown, Shows, kept.mem_toList_iff_exists]
  | some discovererId => simp [shown, Shows, ownedBy, kept.mem_toList_iff_exists]

theorem WellKept.nodup_shown_ids (kept : store.WellKept) :
    ((store.shown filter).map Entity.id).Nodup := by
  cases filter with
  | none => exact kept.nodup_ids
  | some discovererId => exact kept.nodup_ownedBy_ids discovererId

/-- Stores of the same entries show the same. -/
theorem shown_perm {other : Store α} (perm : other.entries.Perm store.entries) :
    (other.shown filter).Perm (store.shown filter) := by
  have all : other.toList.Perm store.toList := perm.map Prod.snd
  cases filter with
  | none => exact all
  | some discovererId => exact all.filter _

end Store

/-! ## Registrations of what is shown -/

/-- The registration of an application, with what of given endpoints is of the application. -/
def housing (endpoints : List Endpoint) (application : Application) : Registration where
  application := application
  endpoints := (endpoints.filter fun endpoint =>
    endpoint.applicationId == application.applicationId).mergeSort
      (leByText Endpoint.endpointUrl Endpoint.id)

theorem mem_housing {endpoints : List Endpoint} {application : Application}
    {endpoint : Endpoint} : endpoint ∈ (housing endpoints application).endpoints ↔
      endpoint ∈ endpoints ∧ endpoint.applicationId = application.applicationId := by
  simp [housing, (List.mergeSort_perm _ _).mem_iff]

/-- Endpoints of other applications are not missed where those of one are taken away. -/
theorem housing_filter {application other : Application}
    (apart : other.applicationId ≠ application.applicationId) (endpoints : List Endpoint) :
    housing (endpoints.filter fun endpoint =>
      !(endpoint.applicationId == application.applicationId)) other = housing endpoints other := by
  simp only [housing, List.filter_filter]
  congr 2
  apply List.filter_congr
  intro endpoint _
  by_cases its : endpoint.applicationId = other.applicationId <;> simp [its, apart]

/-- Applications of different ids do not take endpoints from each other. -/
theorem house_eq {applications : List Application}
    (nodup : (applications.map Application.applicationId).Nodup) (endpoints : List Endpoint) :
    house applications endpoints = applications.map (housing endpoints) := by
  induction applications generalizing endpoints with
  | nil => rfl
  | cons application others ih =>
      obtain ⟨fresh, others_nodup⟩ := List.nodup_cons.mp nodup
      simp only [house, List.partition_eq_filter_filter, List.map_cons, ih others_nodup]
      congr 1
      apply List.map_congr_left
      intro other member
      apply housing_filter
      intro same
      exact fresh (same ▸ List.mem_map_of_mem member)

section Arranging

variable {applications : List Application} {endpoints : List Endpoint}

theorem ids_map_housing (endpoints : List Endpoint) (applications : List Application) :
    (applications.map (housing endpoints)).map (fun registration =>
      registration.application.applicationId) = applications.map Application.applicationId := by
  simp [housing]

theorem arrange_perm (nodup : (applications.map Application.applicationId).Nodup)
    (endpoints : List Endpoint) :
    (arrange applications endpoints).Perm (applications.map (housing endpoints)) := by
  rw [← house_eq nodup]
  exact List.mergeSort_perm _ _

theorem mem_arrange (nodup : (applications.map Application.applicationId).Nodup)
    {registration : Registration} : registration ∈ arrange applications endpoints ↔
      ∃ application ∈ applications, housing endpoints application = registration := by
  rw [(arrange_perm nodup endpoints).mem_iff, List.mem_map]

/-- The order of what was listed does not matter. -/
theorem arrange_eq_of_perm {otherApplications : List Application}
    {otherEndpoints : List Endpoint} (perm : applications.Perm otherApplications)
    (endpointsPerm : endpoints.Perm otherEndpoints)
    (nodup : (applications.map Application.applicationId).Nodup)
    (endpoints_nodup : (endpoints.map Endpoint.id).Nodup) :
    arrange applications endpoints = arrange otherApplications otherEndpoints := by
  have other_nodup := (perm.map Application.applicationId).nodup_iff.mp nodup
  have same : housing endpoints = housing otherEndpoints := by
    funext application
    have its := endpointsPerm.filter fun endpoint =>
      endpoint.applicationId == application.applicationId
    have its_nodup := endpoints_nodup.sublist
      ((List.filter_sublist (p := fun endpoint =>
        endpoint.applicationId == application.applicationId)).map Endpoint.id)
    simp only [housing, mergeSort_eq_of_perm its its_nodup]
  rw [arrange, arrange, house_eq nodup, house_eq other_nodup, ← same]
  refine mergeSort_eq_of_perm (perm.map (housing endpoints)) ?_
  rw [ids_map_housing]
  exact nodup

end Arranging

/-! ## Partitions -/

/-- A listing that shows every application and every endpoint once, the endpoints with the
applications that they name, and all in order. -/
structure Partitions (filter : Option String) (contents : Contents)
    (listing : List Registration) : Prop where
  mem_applications : ∀ application, application ∈ listing.map Registration.application ↔
    contents.applications.Shows filter application
  applications_nodup :
    (listing.map fun registration => registration.application.applicationId).Nodup
  mem_endpoints : ∀ endpoint, endpoint ∈ listing.flatMap Registration.endpoints ↔
    contents.endpoints.Shows filter endpoint
  endpoints_nodup : ((listing.flatMap Registration.endpoints).map Endpoint.id).Nodup
  housed : ∀ registration ∈ listing, ∀ endpoint ∈ registration.endpoints,
    endpoint.applicationId = registration.application.applicationId
  ascending : listing.Pairwise
    (Precedes (fun registration => registration.application.applicationUri)
      (fun registration => registration.application.applicationId))
  endpoints_ascending : ∀ registration ∈ listing,
    registration.endpoints.Pairwise (Precedes Endpoint.endpointUrl Endpoint.id)

namespace Contents

/-- Whether two registries hold the same entries, in whatever order. -/
structure SameEntries (contents other : Contents) : Prop where
  applications : contents.applications.entries.Perm other.applications.entries
  endpoints : contents.endpoints.entries.Perm other.endpoints.entries

/-- The listing of a registry. -/
def listing (filter : Option String) (contents : Contents) : List Registration :=
  arrange (contents.applications.shown filter) (contents.endpoints.shown filter)

variable {filter : Option String} {contents : Contents} {registration : Registration}

theorem run_registrations (supply : Nat → String) (filter : Option String)
    (contents : Contents) :
    (registrations filter).run (handler supply) contents =
      (.ok (contents.listing filter), contents) := by
  cases filter <;> rfl

theorem SameEntries.listing_eq {other : Contents} (same : contents.SameEntries other)
    (kept : contents.WellKept) (filter : Option String) :
    contents.listing filter = other.listing filter :=
  arrange_eq_of_perm (Store.shown_perm same.applications) (Store.shown_perm same.endpoints)
    kept.applications.nodup_shown_ids kept.endpoints.nodup_shown_ids

namespace WellKept

theorem listing_perm (kept : contents.WellKept) :
    (contents.listing filter).Perm ((contents.applications.shown filter).map
      (housing (contents.endpoints.shown filter))) :=
  arrange_perm kept.applications.nodup_shown_ids _

theorem exists_of_mem_listing (kept : contents.WellKept)
    (member : registration ∈ contents.listing filter) :
    ∃ application, housing (contents.endpoints.shown filter) application = registration := by
  obtain ⟨application, -, housed⟩ := (mem_arrange kept.applications.nodup_shown_ids).mp member
  exact ⟨application, housed⟩

theorem housed (kept : contents.WellKept) (member : registration ∈ contents.listing filter)
    {endpoint : Endpoint} (inside : endpoint ∈ registration.endpoints) :
    endpoint ∈ contents.endpoints.shown filter ∧
      endpoint.applicationId = registration.application.applicationId := by
  obtain ⟨application, rfl⟩ := kept.exists_of_mem_listing member
  exact mem_housing.mp inside

theorem listing_ids_nodup (kept : contents.WellKept) :
    ((contents.listing filter).map fun registration =>
      registration.application.applicationId).Nodup := by
  rw [(kept.listing_perm.map _).nodup_iff, ids_map_housing]
  exact kept.applications.nodup_shown_ids

theorem listing_ascending (kept : contents.WellKept) :
    (contents.listing filter).Pairwise
      (Precedes (fun registration => registration.application.applicationUri)
        (fun registration => registration.application.applicationId)) := by
  refine precedes_mergeSort ?_
  rw [house_eq kept.applications.nodup_shown_ids, ids_map_housing]
  exact kept.applications.nodup_shown_ids

theorem endpoints_ascending (kept : contents.WellKept)
    (member : registration ∈ contents.listing filter) :
    registration.endpoints.Pairwise (Precedes Endpoint.endpointUrl Endpoint.id) := by
  obtain ⟨application, rfl⟩ := kept.exists_of_mem_listing member
  have nodup : ((contents.endpoints.shown filter).map Endpoint.id).Nodup :=
    kept.endpoints.nodup_shown_ids
  exact precedes_mergeSort (nodup.sublist (List.filter_sublist.map Endpoint.id))

theorem mem_shown_of_listed (kept : contents.WellKept) {endpoint : Endpoint}
    (listed : endpoint ∈ (contents.listing filter).flatMap Registration.endpoints) :
    endpoint ∈ contents.endpoints.shown filter := by
  obtain ⟨registration, member, inside⟩ := List.mem_flatMap.mp listed
  exact (kept.housed member inside).1

/-- No endpoint is listed twice: not in one registration, whose order is strict, and not in two,
which are of different applications. -/
theorem listed_endpoints_nodup (kept : contents.WellKept) :
    (((contents.listing filter).flatMap Registration.endpoints).map Endpoint.id).Nodup := by
  have nodup : ((contents.endpoints.shown filter).map Endpoint.id).Nodup :=
    kept.endpoints.nodup_shown_ids
  refine List.Nodup.map_on (fun first inFirst second inSecond same =>
    List.inj_on_of_nodup_map nodup (kept.mem_shown_of_listed inFirst)
      (kept.mem_shown_of_listed inSecond) same) ?_
  refine List.nodup_flatMap.mpr ⟨fun registration member => ?_, ?_⟩
  · refine (kept.endpoints_ascending member).imp ?_
    rintro first _ before rfl
    exact before.asymm before
  · refine (List.pairwise_map.mp kept.listing_ids_nodup).imp_of_mem ?_
    intro first second inFirst inSecond apart endpoint inside otherwise
    exact apart ((kept.housed inFirst inside).2.symm.trans (kept.housed inSecond otherwise).2)

end WellKept

/-- Where an endpoint is shown, its application is shown too, which is of the same discoverer. -/
theorem IsLodged.exists_shown (lodged : contents.IsLodged) (kept : contents.WellKept)
    {endpoint : Endpoint} (shown : contents.endpoints.Shows filter endpoint) :
    ∃ application, contents.applications.Shows filter application ∧
      endpoint.applicationId = application.applicationId := by
  obtain ⟨⟨id, present⟩, owned⟩ := shown
  obtain ⟨owner, isOwner, home⟩ := lodged id endpoint present
  obtain ⟨application, stored, its⟩ := Store.isOwned_iff.mp home
  refine ⟨application, ⟨⟨_, stored⟩, fun discovererId given => ?_⟩,
    (kept.applications.id_of_get? stored).symm⟩
  exact its.trans (isOwner.symm.trans (owned discovererId given))

/-- Nothing is dropped where every endpoint has an application. -/
theorem IsLodged.mem_listed_endpoints (lodged : contents.IsLodged) (kept : contents.WellKept)
    (endpoint : Endpoint) :
    endpoint ∈ (contents.listing filter).flatMap Registration.endpoints ↔
      contents.endpoints.Shows filter endpoint := by
  rw [← kept.endpoints.mem_shown]
  constructor
  · exact kept.mem_shown_of_listed
  · intro shown
    obtain ⟨application, shows_, names⟩ :=
      lodged.exists_shown kept ((kept.endpoints.mem_shown endpoint).mp shown)
    have given := (kept.applications.mem_shown application).mpr shows_
    refine List.mem_flatMap.mpr ⟨_, ?_, mem_housing.mpr ⟨shown, names⟩⟩
    exact (mem_arrange kept.applications.nodup_shown_ids).mpr ⟨application, given, rfl⟩

theorem IsLodged.partitions (lodged : contents.IsLodged) (kept : contents.WellKept)
    (filter : Option String) : Partitions filter contents (contents.listing filter) where
  mem_applications application := by
    rw [← kept.applications.mem_shown, (kept.listing_perm.map Registration.application).mem_iff]
    simp [housing]
  applications_nodup := kept.listing_ids_nodup
  mem_endpoints := lodged.mem_listed_endpoints kept
  endpoints_nodup := kept.listed_endpoints_nodup
  housed _ member _ inside := (kept.housed member inside).2
  ascending := kept.listing_ascending
  endpoints_ascending _ member := kept.endpoints_ascending member

end Contents

/-- A listing of one discoverer or of all, of a registry that only reconciliations have written,
is a partition of what is stored, and is the same in whatever order the stores hold it.  The
reconciliations may have taken turns in any order, and any of their calls may have failed. -/
theorem registrations_partition {ι : Type} [DecidableEq ι] (supply : Nat → String)
    (errands : ι → Errand) (turns : List (ι × Option Fault)) (filter : Option String) :
    ∃ listing, Partitions filter (Traffic.play supply errands {} turns).contents listing ∧
      ∀ other, (Traffic.play supply errands {} turns).contents.SameEntries other →
        (registrations filter).run (Contents.handler supply) other = (.ok listing, other) := by
  have settled := Traffic.lodged_play supply errands turns
  refine ⟨_, settled.lodged.partitions settled.wellKept filter, fun other same => ?_⟩
  rw [Contents.run_registrations, same.listing_eq settled.wellKept]

/-- A registry with its entries in the opposite order. -/
def Contents.reversed (contents : Contents) : Contents where
  applications := { contents.applications with entries := contents.applications.entries.reverse }
  endpoints := { contents.endpoints with entries := contents.endpoints.entries.reverse }

theorem gateway_listing_is_partition :
    let contents := (Traffic.play toString Traffic.gatewayErrands {}
      [(true, none), (false, none), (true, none), (false, none), (true, none), (false, none),
        (true, some (Fault.storage "")), (true, none), (false, none), (true, none)]).contents
    contents.SameEntries contents.reversed ∧
    ∃ listing, Partitions (some "gate_module_a") contents listing ∧
      (registrations (some "gate_module_a")).run (Contents.handler toString) contents.reversed =
        (.ok listing, contents.reversed) := by
  intro contents
  have same : contents.SameEntries contents.reversed :=
    ⟨(List.reverse_perm _).symm, (List.reverse_perm _).symm⟩
  obtain ⟨listing, partitions, listed⟩ := registrations_partition toString
    Traffic.gatewayErrands _ (some "gate_module_a")
  exact ⟨same, listing, partitions, listed _ same⟩

end FieldSurvey.Registry
