import FieldSurvey.Identity
import Mathlib.Data.List.TakeWhile

/-!
# What an identity is derived from

The text whose digest is the id of an endpoint tells its url and the id of its application: the
first capital in it begins the title of the security mode, because nothing that stands before it
has capitals, and the id of an application that stands right before it is of fixed length.
As long as no two such texts share a digest, endpoints of one id are therefore endpoints of
one application.

The text whose digest is the id of an application tells the site, the type and the uri: the last
capital in it is the last one of the title of the type, and a title has no dashes.

So two ids are one exactly if they are derived from the same, but for the case of uris, urls and
policies, and but for what counts as missing.
-/

namespace FieldSurvey.Identity

open FieldSurvey.Text
open FieldSurvey.Model (ApplicationType SecurityMode)

/-- Whether a character is none of the capitals of the basic alphabet. -/
def isSmall (c : Char) : Bool :=
  c.toNat < 0x41 || 0x5A < c.toNat

/-! ## Lowercase texts -/

theorem isSmall_ofNat {code : Nat} (beyond : 0x5A < code) : isSmall (Char.ofNat code) = true := by
  by_cases valid : code.isValidChar
  · have itself : (Char.ofNat code).toNat = code := by
      rw [Char.ofNat, dif_pos valid]
      rfl
    rw [isSmall, itself]
    simp [beyond]
  · rw [Char.ofNat, dif_neg valid]
    rfl

theorem isSmall_of_not_ascii {c : Char} (beyond : ¬c.toNat < 0x80) : isSmall c = true := by
  have high : 0x5A < c.toNat := by omega
  simp [isSmall, high]

/-- No mapping of a character beyond the basic ones leads to a capital. -/
theorem mappings_beyond : ∀ row ∈ CaseTable.mappings, 0x80 ≤ row.last →
    0x5A < (row.first : Int) + row.shift := by
  decide +kernel

theorem isSmall_of_mem_lowerChar {c image : Char} (member : image ∈ lowerChar c) :
    isSmall image = true := by
  unfold lowerChar at member
  split at member
  · rw [List.mem_singleton.mp member]
    split
    · rename_i capital
      have low : 0x41 ≤ c.toNat := capital.1
      exact isSmall_ofNat (by omega)
    · rename_i other
      have outside : ¬(0x41 ≤ c.toNat ∧ c.toNat ≤ 0x5A) := other
      simp only [isSmall, Bool.or_eq_true, decide_eq_true_eq]
      omega
  · rename_i beyond
    split at member
    · rcases List.mem_cons.mp member with rfl | rest
      · decide
      · rw [List.mem_singleton.mp rest]
        decide
    · split at member
      · rename_i row found
        obtain ⟨first, last⟩ : row.first ≤ c.toNat ∧ c.toNat ≤ row.last := by
          simpa using List.find?_some found
        split at member
        · have image := mappings_beyond row (List.mem_of_find?_eq_some found) (by omega)
          rw [List.mem_singleton.mp member]
          exact isSmall_ofNat (by omega)
        · rw [List.mem_singleton.mp member]
          exact isSmall_of_not_ascii beyond
      · rw [List.mem_singleton.mp member]
        exact isSmall_of_not_ascii beyond

theorem isSmall_of_mem_lowerAfter (seen : List Char) {cs : List Char} {image : Char}
    (member : image ∈ lowerAfter seen cs) : isSmall image = true := by
  induction cs generalizing seen with
  | nil => contradiction
  | cons c rest ih =>
      unfold lowerAfter at member
      rcases List.mem_append.mp member with first | later
      · split at first
        · rw [List.mem_singleton.mp first]
          split <;> decide
        · exact isSmall_of_mem_lowerChar first
      · exact ih (c :: seen) later

/-- A lowercase text has no capitals. -/
theorem isSmall_of_mem_lowered (text : String) : ∀ c ∈ (lowered text).toList, isSmall c = true := by
  intro c member
  rw [lowered, String.toList_ofList] at member
  exact isSmall_of_mem_lowerAfter [] member

/-! ## Digests -/

theorem length_sha256 (message : List UInt8) : (Digest.sha256 message).length = 32 := by
  simp [Digest.sha256, Digest.State.words, Digest.bytesOf]

theorem length_digestText (text : String) : (digestText text).toList.length = 64 := by
  have bytes : ((Digest.sha256Text text).flatMap (hexByte false)).length =
      2 * (Digest.sha256Text text).length := by
    induction Digest.sha256Text text with
    | nil => rfl
    | cons first rest ih =>
        rw [List.flatMap_cons, List.length_append, ih, List.length_cons]
        simp only [hexByte, List.length_cons, List.length_nil]
        omega
  rw [digestText, hex, String.toList_ofList, bytes, Digest.sha256Text, length_sha256]

theorem isSmall_hexDigit : ∀ value < 16, isSmall (hexDigit false value) = true := by
  decide

theorem isSmall_of_mem_digestText (text : String) :
    ∀ c ∈ (digestText text).toList, isSmall c = true := by
  intro c member
  rw [digestText, hex, String.toList_ofList] at member
  obtain ⟨byte, -, digit⟩ := List.mem_flatMap.mp member
  have bound := byte.toNat_lt
  rcases List.mem_cons.mp digit with rfl | rest
  · exact isSmall_hexDigit _ (by omega)
  · rw [List.mem_singleton.mp rest]
    exact isSmall_hexDigit _ (by omega)

/-! ## Ids -/

theorem length_applicationMark (type : ApplicationType) :
    (applicationMark type).toList.length = 3 := by
  cases type <;> rfl

theorem isSmall_of_mem_applicationMark (type : ApplicationType) :
    ∀ c ∈ (applicationMark type).toList, isSmall c = true := by
  cases type <;> simp [applicationMark, isSmall]

/-- An id that is derived for an application. -/
def IsApplicationId (id : String) : Prop :=
  ∃ site uri type, applicationId? site uri type = some id

theorem IsApplicationId.exists_digest {id : String} (derived : IsApplicationId id) :
    ∃ type text, id = applicationMark type ++ digestText text := by
  obtain ⟨site, uri, type, found⟩ := derived
  unfold applicationId? at found
  split at found
  · contradiction
  · exact ⟨type, applicationSource site uri type, (Option.some.inj found).symm⟩

theorem IsApplicationId.length {id : String} (derived : IsApplicationId id) :
    id.toList.length = 67 := by
  obtain ⟨type, text, rfl⟩ := derived.exists_digest
  rw [String.toList_append, List.length_append, length_digestText, length_applicationMark]

theorem IsApplicationId.isSmall {id : String} (derived : IsApplicationId id) :
    ∀ c ∈ id.toList, Identity.isSmall c = true := by
  obtain ⟨type, text, rfl⟩ := derived.exists_digest
  intro c member
  rw [String.toList_append] at member
  rcases List.mem_append.mp member with mark | digest
  · exact isSmall_of_mem_applicationMark type c mark
  · exact isSmall_of_mem_digestText text c digest

/-! ## Endpoints -/

/-- What stands before the title of the security mode. -/
def sourceFront (url applicationId : String) : List Char :=
  (lowered (trimmed url)).toList ++ '-' :: (applicationId.toList ++ ['-'])

theorem toList_endpointSource (url applicationId : String) (mode : Option SecurityMode)
    (policy : Option String) :
    (endpointSource url applicationId mode policy).toList =
      sourceFront url applicationId ++ ((mode.getD .best).title.toList ++
        '-' :: (lowered (policy.getD "")).toList) := by
  simp [endpointSource, sourceFront]

theorem takeWhile_endpointSource {url applicationId : String}
    (derived : IsApplicationId applicationId) (mode : Option SecurityMode)
    (policy : Option String) :
    (endpointSource url applicationId mode policy).toList.takeWhile isSmall =
      sourceFront url applicationId := by
  have small : ∀ c ∈ sourceFront url applicationId, isSmall c = true := by
    intro c member
    simp only [sourceFront, List.mem_append, List.mem_cons, List.not_mem_nil, or_false] at member
    rcases member with inUrl | rfl | inId | rfl
    · exact isSmall_of_mem_lowered _ c inUrl
    · rfl
    · exact derived.isSmall c inId
    · rfl
  have title : ((mode.getD .best).title.toList ++
      '-' :: (lowered (policy.getD "")).toList).takeWhile isSmall = [] := by
    cases mode.getD .best <;> rfl
  rw [toList_endpointSource, List.takeWhile_append_of_pos small, title, List.append_nil]

/-- The text from which the id of an endpoint is derived tells its url, but for the case, and its
application. -/
theorem endpointSource_inj {firstUrl secondUrl first second : String}
    {firstMode secondMode : Option SecurityMode} {firstPolicy secondPolicy : Option String}
    (firstDerived : IsApplicationId first) (secondDerived : IsApplicationId second)
    (same : endpointSource firstUrl first firstMode firstPolicy =
      endpointSource secondUrl second secondMode secondPolicy) :
    lowered (trimmed firstUrl) = lowered (trimmed secondUrl) ∧ first = second := by
  have fronts : sourceFront firstUrl first = sourceFront secondUrl second := by
    rw [← takeWhile_endpointSource firstDerived firstMode firstPolicy, same,
      takeWhile_endpointSource secondDerived secondMode secondPolicy]
  have lengths : ('-' :: (first.toList ++ ['-'])).length =
      ('-' :: (second.toList ++ ['-'])).length := by
    simp [firstDerived.length, secondDerived.length]
  obtain ⟨urls, ids⟩ := List.append_inj' fronts lengths
  simp only [List.cons.injEq, true_and, List.append_cancel_right_eq] at ids
  exact ⟨String.toList_inj.mp urls, String.toList_inj.mp ids⟩

theorem applicationId_of_endpointSource {firstUrl secondUrl first second : String}
    {firstMode secondMode : Option SecurityMode} {firstPolicy secondPolicy : Option String}
    (firstDerived : IsApplicationId first) (secondDerived : IsApplicationId second)
    (same : endpointSource firstUrl first firstMode firstPolicy =
      endpointSource secondUrl second secondMode secondPolicy) : first = second :=
  (endpointSource_inj firstDerived secondDerived same).2

theorem takeWhile_modeTitle (mode : SecurityMode) (rest : List Char) :
    (mode.title.toList ++ '-' :: rest).takeWhile (· ≠ '-') = mode.title.toList := by
  cases mode <;> rfl

theorem modeTitle_injective : Function.Injective SecurityMode.title := by
  intro first second same
  cases first <;> cases second <;> first | rfl | exact absurd same (by decide)

/-- Behind its url and its application the text of an endpoint tells the security mode, whose
title has no dashes, and the policy. -/
theorem mode_policy_of_endpointSource {firstUrl secondUrl first second : String}
    {firstMode secondMode : Option SecurityMode} {firstPolicy secondPolicy : Option String}
    (firstDerived : IsApplicationId first) (secondDerived : IsApplicationId second)
    (same : endpointSource firstUrl first firstMode firstPolicy =
      endpointSource secondUrl second secondMode secondPolicy) :
    firstMode.getD .best = secondMode.getD .best ∧
      lowered (firstPolicy.getD "") = lowered (secondPolicy.getD "") := by
  obtain ⟨urls, ids⟩ := endpointSource_inj firstDerived secondDerived same
  have backs :
      (firstMode.getD .best).title.toList ++ '-' :: (lowered (firstPolicy.getD "")).toList =
        (secondMode.getD .best).title.toList ++ '-' :: (lowered (secondPolicy.getD "")).toList := by
    have texts := congrArg String.toList same
    rw [toList_endpointSource, toList_endpointSource, sourceFront, sourceFront, urls, ids] at texts
    exact List.append_cancel_left texts
  have titles : (firstMode.getD .best).title.toList = (secondMode.getD .best).title.toList := by
    rw [← takeWhile_modeTitle _ (lowered (firstPolicy.getD "")).toList, backs, takeWhile_modeTitle]
  rw [titles] at backs
  have policies := List.append_cancel_left backs
  simp only [List.cons.injEq, true_and] at policies
  exact ⟨modeTitle_injective (String.toList_inj.mp titles), String.toList_inj.mp policies⟩

/-! ## Applications -/

/-- What follows the last capital of a title, read backwards. -/
def titleTail (type : ApplicationType) : List Char :=
  type.title.toList.reverse.takeWhile isSmall

theorem length_titleTail (type : ApplicationType) : (titleTail type).length = 5 := by
  cases type <;> rfl

theorem toList_applicationSource (site uri : String) (type : ApplicationType) :
    (applicationSource (some site) uri type).toList =
      (site.toList ++ '-' :: type.title.toList) ++ '-' :: (lowered (trimmed uri)).toList := by
  simp [applicationSource]

/-- The last capital of the text of an application is the last one of the title of its type. -/
theorem takeWhile_reverse_applicationSource (site uri : String) (type : ApplicationType) :
    (applicationSource (some site) uri type).toList.reverse.takeWhile isSmall =
      (lowered (trimmed uri)).toList.reverse ++ '-' :: titleTail type := by
  have small : ∀ c ∈ (lowered (trimmed uri)).toList.reverse ++ ['-'], isSmall c = true := by
    intro c member
    rcases List.mem_append.mp member with inUri | dash
    · exact isSmall_of_mem_lowered _ c (List.mem_reverse.mp inUri)
    · rw [List.mem_singleton.mp dash]
      rfl
  have split : (applicationSource (some site) uri type).toList.reverse =
      ((lowered (trimmed uri)).toList.reverse ++ ['-']) ++
        (type.title.toList.reverse ++ '-' :: site.toList.reverse) := by
    simp [toList_applicationSource]
  have title : (type.title.toList.reverse ++ '-' :: site.toList.reverse).takeWhile isSmall =
      titleTail type := by
    cases type <;> rfl
  rw [split, List.takeWhile_append_of_pos small, title, List.append_assoc, List.singleton_append]

theorem takeWhile_title (type : ApplicationType) (rest : List Char) :
    (type.title.toList.reverse ++ '-' :: rest).takeWhile (· ≠ '-') = type.title.toList.reverse := by
  cases type <;> rfl

theorem title_injective : Function.Injective ApplicationType.title := by
  intro first second same
  cases first <;> cases second <;> first | rfl | exact absurd same (by decide)

/-- The text from which the id of an application is derived tells all that it is made of. -/
theorem applicationSource_inj {firstSite secondSite firstUri secondUri : String}
    {firstType secondType : ApplicationType}
    (same : applicationSource (some firstSite) firstUri firstType =
      applicationSource (some secondSite) secondUri secondType) :
    firstSite = secondSite ∧ firstType = secondType ∧
      lowered (trimmed firstUri) = lowered (trimmed secondUri) := by
  have tails : (lowered (trimmed firstUri)).toList.reverse ++ '-' :: titleTail firstType =
      (lowered (trimmed secondUri)).toList.reverse ++ '-' :: titleTail secondType := by
    rw [← takeWhile_reverse_applicationSource firstSite, same,
      takeWhile_reverse_applicationSource]
  have uris : (lowered (trimmed firstUri)).toList = (lowered (trimmed secondUri)).toList :=
    List.reverse_inj.mp (List.append_inj' tails (by simp [length_titleTail])).1
  have fronts : firstSite.toList ++ '-' :: firstType.title.toList =
      secondSite.toList ++ '-' :: secondType.title.toList := by
    have texts := congrArg String.toList same
    rw [toList_applicationSource, toList_applicationSource] at texts
    exact (List.append_inj' texts (by simp [uris])).1
  have titles : firstType.title.toList = secondType.title.toList := by
    have backwards := congrArg (fun text => text.reverse.takeWhile (· ≠ '-')) fronts
    simp only [List.reverse_append, List.reverse_cons, List.append_assoc, List.singleton_append,
      takeWhile_title] at backwards
    exact List.reverse_inj.mp backwards
  refine ⟨?_, title_injective (String.toList_inj.mp titles), String.toList_inj.mp uris⟩
  rw [titles] at fronts
  exact String.toList_inj.mp (List.append_cancel_right fronts)

/-! ## What ids tell -/

/-- Two texts do not share a digest, unless they are one. -/
def Unmixed (first second : String) : Prop :=
  digestText first = digestText second → first = second

theorem applicationId?_eq_some {site : Option String} {uri id : String} {type : ApplicationType}
    (derived : applicationId? site uri type = some id) :
    id = applicationMark type ++ digestText (applicationSource site uri type) := by
  unfold applicationId? at derived
  split at derived
  · contradiction
  · exact (Option.some.inj derived).symm

/-- Behind marks of one length, the id of an application is the digest of its text. -/
theorem digestText_of_applicationId? {firstSite secondSite : Option String}
    {firstUri secondUri id : String} {firstType secondType : ApplicationType}
    (first : applicationId? firstSite firstUri firstType = some id)
    (second : applicationId? secondSite secondUri secondType = some id) :
    digestText (applicationSource firstSite firstUri firstType) =
      digestText (applicationSource secondSite secondUri secondType) := by
  have ids := (applicationId?_eq_some first).symm.trans (applicationId?_eq_some second)
  have marks : (applicationMark firstType).toList.length =
      (applicationMark secondType).toList.length := by
    rw [length_applicationMark, length_applicationMark]
  have letters := congrArg String.toList ids
  rw [String.toList_append, String.toList_append] at letters
  exact String.toList_inj.mp (List.append_inj letters marks).2

/-- Ids of applications are one exactly if site, type and uri are, and ids of endpoints exactly if
url, application, security mode and policy are. -/
theorem ids_agree_iff :
    (∀ (firstSite secondSite : Option String) (firstUri secondUri : String)
      (firstType secondType : ApplicationType) (first second : String),
      applicationId? firstSite firstUri firstType = some first →
      applicationId? secondSite secondUri secondType = some second →
      Unmixed (applicationSource firstSite firstUri firstType)
        (applicationSource secondSite secondUri secondType) →
      (first = second ↔ firstSite.getD "" = secondSite.getD "" ∧ firstType = secondType ∧
        lowered (trimmed firstUri) = lowered (trimmed secondUri))) ∧
    (∀ (firstUrl secondUrl first second : String) (firstMode secondMode : Option SecurityMode)
      (firstPolicy secondPolicy : Option String),
      IsApplicationId first → IsApplicationId second →
      Unmixed (endpointSource firstUrl first firstMode firstPolicy)
        (endpointSource secondUrl second secondMode secondPolicy) →
      (endpointId firstUrl first firstMode firstPolicy =
          endpointId secondUrl second secondMode secondPolicy ↔
        lowered (trimmed firstUrl) = lowered (trimmed secondUrl) ∧ first = second ∧
          firstMode.getD .best = secondMode.getD .best ∧
          lowered (firstPolicy.getD "") = lowered (secondPolicy.getD ""))) := by
  constructor
  · intro firstSite secondSite firstUri secondUri firstType secondType first second firstDerived
      secondDerived unmixed
    constructor
    · rintro rfl
      have texts : applicationSource (some (firstSite.getD "")) firstUri firstType =
          applicationSource (some (secondSite.getD "")) secondUri secondType :=
        unmixed (digestText_of_applicationId? firstDerived secondDerived)
      exact applicationSource_inj texts
    · rintro ⟨sites, rfl, uris⟩
      rw [applicationId?_eq_some firstDerived, applicationId?_eq_some secondDerived,
        applicationSource, applicationSource, sites, uris]
  · intro firstUrl secondUrl first second firstMode secondMode firstPolicy secondPolicy
      firstDerived secondDerived unmixed
    constructor
    · intro same
      have texts := unmixed ((String.append_right_inj _).mp same)
      obtain ⟨urls, ids⟩ := endpointSource_inj firstDerived secondDerived texts
      exact ⟨urls, ids, mode_policy_of_endpointSource firstDerived secondDerived texts⟩
    · rintro ⟨urls, rfl, modes, policies⟩
      rw [endpointId, endpointId, endpointSource, endpointSource, urls, modes, policies]

/-- The texts of these two applications differ in the case of one letter. -/
theorem titles_in_sites_mix_no_ids :
    ∃ first second : String,
      applicationId? (some "a-Server") "urn:x" .server = some first ∧
      applicationId? (some "a") "server-urn:x" .server = some second ∧
      Unmixed (applicationSource (some "a-Server") "urn:x" .server)
        (applicationSource (some "a") "server-urn:x" .server) ∧
      first ≠ second ∧
      Unmixed (endpointSource "opc.tcp://A" first none none)
        (endpointSource " opc.tcp://a" first (some .best) (some "")) ∧
      endpointId "opc.tcp://A" first none none =
        endpointId " opc.tcp://a" first (some .best) (some "") := by
  obtain ⟨first, firstDerived⟩ : ∃ id, applicationId? (some "a-Server") "urn:x" .server = some id :=
    ⟨_, if_neg (by decide)⟩
  obtain ⟨second, secondDerived⟩ :
      ∃ id, applicationId? (some "a") "server-urn:x" .server = some id :=
    ⟨_, if_neg (by decide)⟩
  have unmixed : Unmixed (applicationSource (some "a-Server") "urn:x" .server)
      (applicationSource (some "a") "server-urn:x" .server) := by
    intro same
    have differ : digestText (applicationSource (some "a-Server") "urn:x" .server) ≠
        digestText (applicationSource (some "a") "server-urn:x" .server) := by decide +kernel
    exact absurd same differ
  have urls : lowered (trimmed "opc.tcp://A") = lowered (trimmed " opc.tcp://a") := by
    decide +kernel
  have alike : Unmixed (endpointSource "opc.tcp://A" first none none)
      (endpointSource " opc.tcp://a" first (some .best) (some "")) := by
    intro _
    rw [endpointSource, endpointSource, urls]
    rfl
  obtain ⟨applications, endpoints⟩ := ids_agree_iff
  refine ⟨first, second, firstDerived, secondDerived, unmixed, ?_, alike, ?_⟩
  · intro same
    have sites := ((applications _ _ _ _ _ _ _ _ firstDerived secondDerived unmixed).mp same).1
    exact absurd sites (by decide)
  · exact (endpoints _ _ _ _ _ _ _ _ ⟨_, _, _, firstDerived⟩ ⟨_, _, _, firstDerived⟩ alike).mpr
      ⟨urls, rfl, rfl, rfl⟩

end FieldSurvey.Identity
