import FieldSurvey.Document.Codec
import Mathlib.Data.List.Forall2
import Mathlib.Data.List.Nodup

/-!
# Records read back

What is written for a value is read as the value again, also if records in it have got unknown
fields and hold their fields in another order.  For a record this follows from one fact for each of
its fields: the reader asks for the fields in the order in which they are written, and what it reads
under a name is what was written under it.

What is read from a document, whatever that looks like, meets a condition if the values that are
read from its fields meet theirs.
-/

namespace FieldSurvey

/-! ## Documents with unknown fields -/

/-- Which records a document of a type has, and which fields these know. -/
inductive Shape where
  /-- no records, or one whose keys are free -/
  | plain
  | list (item : Shape)
  | record (fields : List (String × Shape))

/-- A type whose documents have a known shape. -/
class Shaped (α : Type) where
  shape : Shape

instance : Shaped String := ⟨.plain⟩
instance : Shaped UInt8 := ⟨.plain⟩
instance : Shaped UInt32 := ⟨.plain⟩
instance : Shaped UInt64 := ⟨.plain⟩
instance : Shaped Int32 := ⟨.plain⟩
instance : Shaped Time.Timestamp := ⟨.plain⟩
instance : Shaped Text.TextSet := ⟨.plain⟩
instance : Shaped Text.TextTable := ⟨.plain⟩
instance {α : Type} [Shaped α] : Shaped (List α) := ⟨.list (Shaped.shape α)⟩

mutual

/-- A document, and the same with unknown fields added to its records.  The fields of a record have
no order. -/
inductive Extended : Shape → Document → Document → Prop
  | same (shape : Shape) (document : Document) : Extended shape document document
  | list {item : Shape} {items extended : List Document}
      (each : ExtendedItems item items extended) :
      Extended (.list item) (.list items) (.list extended)
  | record {shapes : List (String × Shape)}
      {known extended unknown fields : List (String × Document)}
      (each : ExtendedFields shapes known extended)
      (new : ∀ field ∈ unknown, field.1 ∉ shapes.map Prod.fst)
      (order : (extended ++ unknown).Perm fields) :
      Extended (.record shapes) (.record known) (.record fields)

/-- Items of one shape, and the same with unknown fields. -/
inductive ExtendedItems : Shape → List Document → List Document → Prop
  | nil (item : Shape) : ExtendedItems item [] []
  | cons {item : Shape} {first extendedFirst : Document} {rest extendedRest : List Document}
      (head : Extended item first extendedFirst) (tail : ExtendedItems item rest extendedRest) :
      ExtendedItems item (first :: rest) (extendedFirst :: extendedRest)

/-- The known fields of a record, and the same with unknown fields in their values. -/
inductive ExtendedFields :
    List (String × Shape) → List (String × Document) → List (String × Document) → Prop
  | nil (shapes : List (String × Shape)) : ExtendedFields shapes [] []
  | cons {shapes : List (String × Shape)} {name : String} {shape : Shape}
      {value extendedValue : Document} {rest extendedRest : List (String × Document)}
      (isKnown : (name, shape) ∈ shapes) (head : Extended shape value extendedValue)
      (tail : ExtendedFields shapes rest extendedRest) :
      ExtendedFields shapes ((name, value) :: rest) ((name, extendedValue) :: extendedRest)

end

theorem Extended.plain {document extended : Document}
    (isExtended : Extended .plain document extended) : extended = document := by
  cases isExtended
  rfl

theorem Extended.null {shape : Shape} {extended : Document}
    (isExtended : Extended shape .null extended) : extended = .null := by
  cases isExtended
  rfl

/-! ## Values that are read back -/

/-- A value that is read from every document written for it, also from one with unknown fields. -/
def ReadsBack {α : Type} [Codec α] [Shaped α] (value : α) : Prop :=
  ∀ document, Extended (Shaped.shape α) (Codec.write value) document →
    Codec.read .json document = some value

/-- A type all of whose values are read back. -/
class Lossless (α : Type) [Codec α] [Shaped α] : Prop where
  readsBack : ∀ value : α, ReadsBack value

/-- Whether a record holds under a name what was written under it, but for unknown fields inside. -/
def HasField (fields : List (String × Document)) (name : String) (shape : Shape)
    (written : List (String × Document)) : Prop :=
  ∃ extended, ExtendedFields [(name, shape)] written extended ∧
    extended.Perm (fields.filter fun field => field.1 == name)

/-- A reader of the field of a name, and what is written for the value that it returns. -/
structure ReadsField {α : Type} (reader : RecordReader α) (name : String) (shape : Shape)
    (written : List (String × Document)) (value : α) : Prop where
  named : ∀ field ∈ written, field.1 = name
  reads : ∀ fields, HasField fields name shape written →
    reader .json (.named fields) = some (value, .named fields)

/-- A reader that asks for the fields of a record in the order in which they are written, and
returns the value that they were written for. -/
inductive Mirrors {β : Type} :
    RecordReader β → List (String × Shape) → List (String × Document) → β → Prop
  | done (result : β) : Mirrors (pure result) [] [] result
  | field {α : Type} {reader : RecordReader α} {name : String} {shape : Shape}
      {written : List (String × Document)} {value : α} {next : α → RecordReader β}
      {shapes : List (String × Shape)} {rest : List (String × Document)} {result : β}
      (first : ReadsField reader name shape written value)
      (later : Mirrors (next value) shapes rest result) :
      Mirrors (reader >>= next) ((name, shape) :: shapes) (written ++ rest) result

/-! ## Fields -/

section Field

variable {fields extended : List (String × Document)} {name : String} {shape : Shape}
  {document : Document}

theorem HasField.empty (holds : HasField fields name shape []) :
    RecordReader.next? name (.named fields) = some (none, .named fields) := by
  obtain ⟨extended, each, order⟩ := holds
  cases each
  have nothing := List.nil_perm.mp order
  simp only [RecordReader.next?, nothing]

theorem HasField.single (holds : HasField fields name shape [(name, document)]) :
    ∃ extended, Extended shape document extended ∧
      RecordReader.next? name (.named fields) = some (some extended, .named fields) := by
  obtain ⟨extended, each, order⟩ := holds
  cases each with
  | cons isKnown head tail =>
      cases tail
      cases List.mem_singleton.mp isKnown
      have only := List.singleton_perm.mp order
      refine ⟨_, head, ?_⟩
      rw [RecordReader.next?, ← only]

end Field

section Readers

variable {α : Type} [Codec α] [Shaped α] {name : String}

theorem ReadsField.required {value : α}
    (readsBack : ReadsBack value := by exact Lossless.readsBack _) :
    ReadsField (RecordReader.required name) name (Shaped.shape α) (Document.field name value)
      value where
  named := by simp [Document.field]
  reads := by
    intro fields holds
    obtain ⟨extended, isExtended, next⟩ := holds.single
    simp only [RecordReader.required, next, readsBack extended isExtended, Option.bind_eq_bind,
      Option.bind_some]

theorem ReadsField.withDefault {value default : α}
    (readsBack : ReadsBack value := by exact Lossless.readsBack _) :
    ReadsField (RecordReader.withDefault name default) name (Shaped.shape α)
      (Document.field name value) value where
  named := by simp [Document.field]
  reads := by
    intro fields holds
    obtain ⟨extended, isExtended, next⟩ := holds.single
    simp only [RecordReader.withDefault, next, readsBack extended isExtended, Option.bind_eq_bind,
      Option.bind_some]

theorem ReadsField.ifSome {value : Option α}
    (readsBack : ∀ inner ∈ value, ReadsBack inner := by exact fun _ _ => Lossless.readsBack _)
    (refuses : Codec.read (α := α) .json .null = none := by rfl) :
    ReadsField (RecordReader.optional name) name (Shaped.shape α) (Document.fieldIfSome name value)
      value where
  named := by
    cases value with
    | none => exact fun _ isWritten => absurd isWritten List.not_mem_nil
    | some inner => simp [Document.fieldIfSome]
  reads := by
    intro fields holds
    cases value with
    | none =>
        simp only [RecordReader.optional, HasField.empty holds, Option.bind_eq_bind,
          Option.bind_some]
    | some inner =>
        obtain ⟨extended, isExtended, next⟩ := HasField.single holds
        have read := readsBack inner rfl extended isExtended
        have present : Dialect.json.isNull extended = false := by
          cases extended with
          | null => rw [refuses] at read; contradiction
          | _ => rfl
        simp only [RecordReader.optional, next, present, read, Option.bind_eq_bind,
          Option.bind_some, Bool.false_eq_true, if_false]

theorem ReadsField.orNull {value : Option α}
    (readsBack : ∀ inner ∈ value, ReadsBack inner := by exact fun _ _ => Lossless.readsBack _)
    (refuses : Codec.read (α := α) .json .null = none := by rfl) :
    ReadsField (RecordReader.optional name) name (Shaped.shape α) (Document.fieldOrNull name value)
      value := by
  cases value with
  | some inner => exact ifSome readsBack refuses
  | none =>
      constructor
      case named => simp [Document.fieldOrNull]
      case reads =>
        intro fields holds
        obtain ⟨extended, isExtended, next⟩ := HasField.single holds
        cases isExtended.null
        simp only [RecordReader.optional, next, Option.bind_eq_bind, Option.bind_some]
        rfl

theorem ReadsField.ifFilled {table : Text.TextTable}
    (readsBack : ReadsBack table := by exact Lossless.readsBack _) :
    ReadsField (RecordReader.withDefault name .empty) name .plain
      (Document.fieldIfFilled name table) table := by
  obtain ⟨_ | ⟨entry, entries⟩, ascending⟩ := table
  case cons => exact withDefault readsBack
  case nil =>
    constructor
    case named => exact fun _ isWritten => absurd isWritten List.not_mem_nil
    case reads =>
      intro fields holds
      simp only [RecordReader.withDefault, HasField.empty holds, Option.bind_eq_bind,
        Option.bind_some]
      rfl

end Readers

/-! ## Records -/

section Records

variable {β : Type} {reader : RecordReader β} {shapes : List (String × Shape)}
  {known written extended fields : List (String × Document)} {result : β} {name : String}
  {shape : Shape}

theorem ExtendedFields.same (areKnown : ∀ field ∈ known, field.1 ∈ shapes.map Prod.fst) :
    ExtendedFields shapes known known := by
  induction known with
  | nil => exact .nil _
  | cons first rest ih =>
      obtain ⟨isKnown, others⟩ := List.forall_mem_cons.mp areKnown
      obtain ⟨⟨name, shape⟩, isShape, rfl⟩ := List.mem_map.mp isKnown
      exact .cons isShape (.same shape _) (ih others)

/-- Unknown fields may stand in front of the known ones. -/
theorem Extended.annotated {unknown : List (String × Document)}
    (areKnown : ∀ field ∈ known, field.1 ∈ shapes.map Prod.fst)
    (new : ∀ field ∈ unknown, field.1 ∉ shapes.map Prod.fst) :
    Extended (.record shapes) (.record known) (.record (unknown ++ known)) :=
  .record (.same areKnown) new List.perm_append_comm

/-- The known fields of one name, with unknown ones inside. -/
theorem ExtendedFields.filter (each : ExtendedFields shapes known extended)
    (distinct : (shapes.map Prod.fst).Nodup) (isKnown : (name, shape) ∈ shapes) :
    ExtendedFields [(name, shape)] (known.filter fun field => field.1 == name)
      (extended.filter fun field => field.1 == name) := by
  induction known generalizing extended with
  | nil =>
      cases each
      exact .nil _
  | cons first rest ih =>
      cases each with
      | @cons _ firstName firstShape value extendedValue _ extendedRest isFirst head tail =>
          by_cases here : firstName = name
          · subst here
            have sameShape : firstShape = shape := by
              have same := List.inj_on_of_nodup_map distinct isFirst isKnown rfl
              exact congrArg Prod.snd same
            subst sameShape
            simp only [List.filter_cons, BEq.rfl, if_true]
            exact .cons (List.mem_singleton_self _) head (ih tail)
          · simp only [List.filter_cons, beq_eq_false_iff_ne.mpr here, Bool.false_eq_true, if_false]
            exact ih tail

/-- A record with unknown fields holds under every known name what was written under it. -/
theorem Extended.hasField {document : Document}
    (isExtended : Extended (.record shapes) (.record known) document)
    (distinct : (shapes.map Prod.fst).Nodup) :
    ∃ fields, document = .record fields ∧ ∀ name shape, (name, shape) ∈ shapes →
      HasField fields name shape (known.filter fun field => field.1 == name) := by
  cases isExtended with
  | same =>
      refine ⟨known, rfl, fun name shape _ => ⟨_, .same ?_, .refl _⟩⟩
      intro field isField
      exact List.mem_singleton.mpr (beq_iff_eq.mp (List.mem_filter.mp isField).2)
  | @record _ _ extended unknown fields each new order =>
      refine ⟨fields, rfl, fun name shape isKnown => ⟨_, each.filter distinct isKnown, ?_⟩⟩
      have others : (unknown.filter fun field => field.1 == name) = [] := by
        rw [List.filter_eq_nil_iff]
        intro field isField isNamed
        refine new field isField (List.mem_map.mpr ⟨(name, shape), isKnown, ?_⟩)
        exact (beq_iff_eq.mp isNamed).symm
      have ordered := order.filter fun field => field.1 == name
      rwa [List.filter_append, others, List.append_nil] at ordered

theorem Mirrors.name_mem (mirrors : Mirrors reader shapes known result) {field : String × Document}
    (isField : field ∈ known) : field.1 ∈ shapes.map Prod.fst := by
  induction mirrors with
  | done result => exact absurd isField List.not_mem_nil
  | field first later ih =>
      rcases List.mem_append.mp isField with isField | isField
      · rw [first.named field isField]
        exact List.mem_cons_self
      · exact List.mem_cons_of_mem _ (ih isField)

/-- Fields of other names are passed over. -/
theorem filter_name_eq_nil (others : ∀ field ∈ known, field.1 ≠ name) :
    (known.filter fun field => field.1 == name) = [] := by
  rw [List.filter_eq_nil_iff]
  intro field isField isNamed
  exact others field isField (beq_iff_eq.mp isNamed)

/-- A reader that mirrors what is written reads it from every record that holds it. -/
theorem Mirrors.reads (mirrors : Mirrors reader shapes known result)
    (distinct : (shapes.map Prod.fst).Nodup)
    (holds : ∀ name shape, (name, shape) ∈ shapes →
      HasField fields name shape (known.filter fun field => field.1 == name)) :
    reader .json (.named fields) = some (result, .named fields) := by
  induction mirrors with
  | done result => rfl
  | @field α reader name shape written value next shapes rest result first later ih =>
      obtain ⟨new, distinct⟩ := List.nodup_cons.mp distinct
      have own : ((written ++ rest).filter fun field => field.1 == name) = written := by
        have later : (rest.filter fun field => field.1 == name) = [] := by
          apply filter_name_eq_nil
          intro field isField isNamed
          exact new (isNamed ▸ later.name_mem isField)
        rw [List.filter_append, later, List.append_nil, List.filter_eq_self]
        exact fun field isField => beq_iff_eq.mpr (first.named field isField)
      have read := first.reads fields (own ▸ holds name shape List.mem_cons_self)
      have rest := ih distinct fun other otherShape isKnown => by
        have apart : (written.filter fun field => field.1 == other) = [] := by
          apply filter_name_eq_nil
          intro field isField isNamed
          rw [first.named field isField] at isNamed
          exact new (List.mem_map.mpr ⟨(other, otherShape), isKnown, isNamed.symm⟩)
        have held := holds other otherShape (List.mem_cons_of_mem _ isKnown)
        rwa [List.filter_append, apart, List.nil_append] at held
      change (reader .json (.named fields)).bind _ = _
      rw [read]
      exact rest

theorem Mirrors.run (mirrors : Mirrors reader shapes (known ++ []) result)
    (distinct : (shapes.map Prod.fst).Nodup) {document : Document}
    (isExtended : Extended (.record shapes) (.record known) document) :
    reader.run .json document = some result := by
  rw [List.append_nil] at mirrors
  obtain ⟨fields, rfl, holds⟩ := isExtended.hasField distinct
  have named : Dialect.json.fields? (.record fields) = some (.named fields) := rfl
  simp only [RecordReader.run, named, mirrors.reads distinct holds, Option.bind_eq_bind,
    Option.bind_some]
  rfl

/-- A record is read back if its reader mirrors what is written for it. -/
theorem readsBack_of_mirrors {α : Type} [Codec α] [Shaped α] {value : α} {reader : RecordReader α}
    (mirrors : Mirrors reader shapes (known ++ []) value)
    (reads : Codec.read .json = reader.run .json := by rfl)
    (writes : Codec.write value = .record known := by rfl)
    (isRecord : Shaped.shape α = .record shapes := by rfl)
    (distinct : (shapes.map Prod.fst).Nodup := by decide) : ReadsBack value := by
  intro document isExtended
  rw [isRecord, writes] at isExtended
  rw [reads]
  exact mirrors.run distinct isExtended

end Records

/-! ## Values without records -/

theorem readsBack_of_plain {α : Type} [Codec α] [Shaped α] {value : α}
    (read : Codec.read .json (Codec.write value) = some value)
    (isPlain : Shaped.shape α = .plain := by rfl) : ReadsBack value := by
  intro document isExtended
  rw [isPlain] at isExtended
  rw [isExtended.plain, read]

instance : Lossless String where
  readsBack _ := readsBack_of_plain rfl

/-- A number without a sign that its bits hold. -/
theorem map_natural?_json {α : Type} {bits n : Nat} (ofNat : Nat → α)
    (fits : n < Nat.pow 2 bits) :
    (Dialect.json.natural? bits (.natural n)).map ofNat = some (ofNat n) := by
  have fitting : fitsUnsigned bits n = true := by
    simp only [fitsUnsigned, Bool.and_eq_true, decide_eq_true_eq]
    exact ⟨Int.natCast_nonneg n, Int.ofNat_lt.mpr fits⟩
  simp only [Dialect.json, Document.natural, fitting, if_true, Int.toNat_natCast, Option.map_some]

instance : Lossless UInt8 where
  readsBack value := readsBack_of_plain
    ((map_natural?_json _ value.toNat_lt).trans (congrArg some UInt8.ofNat_toNat))

instance : Lossless UInt32 where
  readsBack value := readsBack_of_plain
    ((map_natural?_json _ value.toNat_lt).trans (congrArg some UInt32.ofNat_toNat))

instance : Lossless UInt64 where
  readsBack value := readsBack_of_plain
    ((map_natural?_json _ value.toNat_lt).trans (congrArg some UInt64.ofNat_toNat))

instance : Lossless Int32 where
  readsBack value := readsBack_of_plain (by
    have fits : fitsSigned 32 value.toInt = true := by
      simp only [fitsSigned, Bool.and_eq_true, decide_eq_true_eq]
      exact ⟨value.le_toInt, value.toInt_lt⟩
    change (if fitsSigned 32 value.toInt = true then some value.toInt else none).map _ = _
    rw [if_pos fits, Option.map_some, Int32.ofInt_toInt])

/-- A variant is read back by its name, if no other one has this. -/
theorem readsBack_ofNames {α : Type} {values : List α} {name : α → String} {value : α}
    (distinct : (values.map name).Nodup) (listed : value ∈ values) :
    @ReadsBack α (Codec.ofNames values name) ⟨.plain⟩ value := by
  have found : values.find? (fun other => name other == name value) = some value := by
    rw [List.find?_eq_some_iff_append]
    obtain ⟨before, after, rfl⟩ := List.append_of_mem listed
    refine ⟨BEq.rfl, before, after, rfl, fun other isBefore => ?_⟩
    rw [List.map_append, List.nodup_append] at distinct
    have apart := distinct.2.2 _ (List.mem_map_of_mem isBefore) _ List.mem_cons_self
    rw [beq_eq_false_iff_ne.mpr apart]
    rfl
  intro document isExtended
  rw [isExtended.plain]
  exact found

section Items

variable {α : Type} [Codec α] [Shaped α] {items : List α} {extended : List Document}

theorem mapM_read_of_extendedItems (each : ∀ item ∈ items, ReadsBack item)
    (areExtended : ExtendedItems (Shaped.shape α) (items.map Codec.write) extended) :
    extended.mapM (Codec.read .json) = some items := by
  induction items generalizing extended with
  | nil =>
      cases areExtended
      rfl
  | cons first rest ih =>
      cases areExtended with
      | cons head tail =>
          have readFirst := each first List.mem_cons_self _ head
          have readRest := ih (fun item isItem => each item (List.mem_cons_of_mem _ isItem)) tail
          simp only [List.mapM_cons, readFirst, readRest, Option.bind_eq_bind, Option.bind_some,
            Option.pure_def]

theorem ExtendedItems.same (shape : Shape) (documents : List Document) :
    ExtendedItems shape documents documents := by
  induction documents with
  | nil => exact .nil shape
  | cons first rest ih => exact .cons (.same shape first) ih

/-- A list is read back item by item. -/
theorem readsBack_list (each : ∀ item ∈ items, ReadsBack item) : ReadsBack items := by
  intro document isExtended
  have areExtended : ∃ extended, document = .list extended ∧
      ExtendedItems (Shaped.shape α) (items.map Codec.write) extended := by
    cases isExtended with
    | same => exact ⟨_, rfl, .same _ _⟩
    | list areExtended => exact ⟨_, rfl, areExtended⟩
  obtain ⟨extended, rfl, areExtended⟩ := areExtended
  exact mapM_read_of_extendedItems each areExtended

instance [Lossless α] : Lossless (List α) where
  readsBack _ := readsBack_list fun _ _ => Lossless.readsBack _

end Items

/-! ## Values that were read -/

/-- Whether all values that are read from documents meet a condition. -/
def AllRead {α : Type} [Codec α] (condition : α → Prop) : Prop :=
  ∀ ⦃document : Document⦄ ⦃value : α⦄,
    Codec.read .json document = some value → condition value

/-- Whether all that a reader returns meets a condition. -/
def Yields {α : Type} (reader : RecordReader α) (condition : α → Prop) : Prop :=
  ∀ ⦃fields rest : Fields⦄ ⦃value : α⦄,
    reader .json fields = some (value, rest) → condition value

section Yields

variable {α β : Type} {name : String} {condition : α → Prop}

theorem Yields.done {value : α} (holds : condition value) : Yields (pure value) condition := by
  intro fields rest result read
  cases read
  exact holds

theorem Yields.field {reader : RecordReader α} {next : α → RecordReader β} {whole : β → Prop}
    (first : Yields reader condition)
    (later : ∀ value, condition value → Yields (next value) whole) :
    Yields (reader >>= next) whole := by
  intro fields rest result read
  obtain ⟨⟨value, between⟩, readFirst, readLater⟩ := Option.bind_eq_some_iff.mp read
  exact later value (first readFirst) readLater

/-- A condition may leave out a field. -/
theorem Yields.skip {reader : RecordReader α} {next : α → RecordReader β} {whole : β → Prop}
    (later : ∀ value, Yields (next value) whole) : Yields (reader >>= next) whole :=
  field (fun _ _ _ _ => trivial) fun value _ => later value

theorem Yields.run {reader : RecordReader α} (yields : Yields reader condition)
    ⦃document : Document⦄ ⦃value : α⦄ (read : reader.run .json document = some value) :
    condition value := by
  obtain ⟨fields, -, read⟩ := Option.bind_eq_some_iff.mp read
  obtain ⟨⟨result, rest⟩, readAll, read⟩ := Option.bind_eq_some_iff.mp read
  obtain ⟨-, same⟩ := Option.ite_none_right_eq_some.mp read
  cases same
  exact yields readAll

variable [Codec α]

theorem Yields.required (allRead : AllRead condition) :
    Yields (RecordReader.required name) condition := by
  intro fields rest value read
  obtain ⟨⟨found, _⟩, -, read⟩ := Option.bind_eq_some_iff.mp read
  obtain ⟨document, -, read⟩ := Option.bind_eq_some_iff.mp read
  obtain ⟨_, readValue, same⟩ := Option.bind_eq_some_iff.mp read
  cases same
  exact allRead readValue

theorem Yields.withDefault {default : α} (allRead : AllRead condition)
    (holds : condition default) : Yields (RecordReader.withDefault name default) condition := by
  intro fields rest value read
  obtain ⟨⟨found, _⟩, -, read⟩ := Option.bind_eq_some_iff.mp read
  cases found with
  | none =>
      cases read
      exact holds
  | some document =>
      obtain ⟨_, readValue, same⟩ := Option.bind_eq_some_iff.mp read
      cases same
      exact allRead readValue

theorem Yields.optional (allRead : AllRead condition) :
    Yields (RecordReader.optional name) fun value => ∀ inner ∈ value, condition inner := by
  intro fields rest value read inner isInner
  cases isInner
  obtain ⟨⟨found, _⟩, -, read⟩ := Option.bind_eq_some_iff.mp read
  cases found with
  | none => cases read
  | some document =>
      dsimp only at read
      split at read
      · cases read
      · obtain ⟨_, readValue, same⟩ := Option.bind_eq_some_iff.mp read
        cases same
        exact allRead readValue

theorem AllRead.mapM {documents : List Document} {items : List α} (allRead : AllRead condition)
    (read : documents.mapM (Codec.read .json) = some items) : ∀ item ∈ items, condition item := by
  induction documents generalizing items with
  | nil =>
      cases read
      exact fun _ isItem => absurd isItem List.not_mem_nil
  | cons first rest ih =>
      rw [List.mapM_cons] at read
      obtain ⟨item, readFirst, read⟩ := Option.bind_eq_some_iff.mp read
      obtain ⟨others, readRest, same⟩ := Option.bind_eq_some_iff.mp read
      cases same
      exact List.forall_mem_cons.mpr ⟨allRead readFirst, ih readRest⟩

theorem AllRead.list (allRead : AllRead condition) :
    AllRead fun items : List α => ∀ item ∈ items, condition item := by
  intro document items read
  obtain ⟨documents, -, read⟩ := Option.bind_eq_some_iff.mp read
  exact allRead.mapM read

end Yields

end FieldSurvey
