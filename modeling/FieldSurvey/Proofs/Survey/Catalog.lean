import FieldSurvey.Proofs.Address.Grammar
import FieldSurvey.Survey.Catalog

/-!
# Servers found in the catalog

A server of the catalog is found by the host of its url and by its address.  The address is compared
as it is written, and an IPv6 address is written otherwise than in a url, where it stands in
brackets.  So a server is found by its address exactly if the address is an IPv4 address, and one
whose url has nothing but an IPv6 address in common with the target is not found.
-/

namespace FieldSurvey

/-! ## Characters of written addresses -/

namespace Address

theorem V4.colon_not_mem_toChars (address : V4) : ':' ∉ address.toChars :=
  V4.not_mem_toChars (by decide) (by decide)

theorem V4.bracket_not_mem_toChars (address : V4) : '[' ∉ address.toChars :=
  V4.not_mem_toChars (by decide) (by decide)

namespace V6

theorem bracket_not_mem_toDigits (n : Nat) : '[' ∉ Nat.toDigits 16 n := by
  induction n using Nat.strong_induction_on with
  | _ n ih =>
      have apart : ∀ m, '[' ≠ Nat.digitChar m := fun m => (Nat.digitChar_ne '[' (by decide)).symm
      rw [Nat.toDigits_eq_if (by decide)]
      split
      · simp [apart]
      · simp [apart, ih (n / 16) (by omega)]

theorem bracket_not_mem_groupsText (groups : List Nat) : '[' ∉ groupsText groups := by
  intro member
  rcases Text.mem_intercalate member with isColon | ⟨piece, inPieces, inside⟩
  · exact absurd isColon (by decide)
  · obtain ⟨group, -, rfl⟩ := List.mem_map.mp inPieces
    exact bracket_not_mem_toDigits group inside

theorem bracket_not_mem_toHexChars (address : V6) : '[' ∉ address.toHexChars := by
  unfold toHexChars
  dsimp only
  split
  · exact bracket_not_mem_groupsText _
  · simp [bracket_not_mem_groupsText]

theorem bracket_not_mem_toChars (address : V6) : '[' ∉ address.toChars := by
  unfold toChars
  split
  · simp [V4.bracket_not_mem_toChars]
  · exact address.bracket_not_mem_toHexChars

theorem colon_mem_toHexChars (address : V6) : ':' ∈ address.toHexChars := by
  unfold toHexChars
  dsimp only
  split
  · simp [groups, groupsText, List.range, List.range.loop, List.intercalate, List.intersperse]
  · simp

theorem colon_mem_toChars (address : V6) : ':' ∈ address.toChars := by
  unfold toChars
  split
  · simp
  · exact address.colon_mem_toHexChars

end V6

end Address

/-! ## Hosts of urls that were read -/

namespace Url

open Address (Ip V4 V6)

/-- The host, if there is one. -/
def host? (url : Url) : Option Host :=
  url.authority.bind Authority.host

namespace Host

/-- The address that a host is the literal of, if it is one. -/
def literal? : Host → Option Ip
  | name text => (V4.ofText? text).map .v4
  | v4 address => some (.v4 address)
  | v6 address => some (.v6 address)

/-- Whether a host is one that a text stands for. -/
def IsRead (host : Host) : Prop :=
  ∃ cs, special? cs = some host ∨ opaque? cs = some host

variable {host : Host} {text : String} {cs : List Char}

theorem colon_not_mem_encodeByte (byte : UInt8) : ':' ∉ encodeByte byte := by
  have each : ∀ n < 16, ':' ≠ hexDigit n := by decide
  have high : byte.toNat / 16 < 16 := by
    have bound := byte.toNat_lt
    omega
  simp [encodeByte, each _ high, each _ (Nat.mod_lt _ (by decide : 0 < 16))]

theorem colon_not_mem_encode (absent : ':' ∉ cs) : ':' ∉ encode opaqueSet cs := by
  simp only [encode, List.mem_flatMap, not_exists, not_and]
  intro c member inside
  unfold encodeChar at inside
  split at inside
  · obtain ⟨byte, -, inByte⟩ := List.mem_flatMap.mp inside
    exact colon_not_mem_encodeByte byte inByte
  · exact absent (List.mem_singleton.mp inside ▸ member)

/-- A colon ends the name of a host. -/
theorem IsRead.colon_not_mem (read : (name text).IsRead) : ':' ∉ text.toList := by
  obtain ⟨cs, special | opaque_⟩ := read
  · unfold special? at special
    split at special
    · cases bracketed? cs <;> simp at special
    · simp only [Option.bind_eq_bind, Option.bind_eq_some_iff] at special
      obtain ⟨decoded, -, ascii, -, named⟩ := special
      split at named
      · contradiction
      · rename_i proper
        split at named
        · cases address? ascii <;> simp at named
        · cases named
          simp only [Bool.or_eq_true, List.any_eq_true, not_or, not_exists, not_and] at proper
          rw [String.toList_ofList]
          exact fun member => proper.2 ':' member (by decide)
  · unfold opaque? at opaque_
    split at opaque_
    · cases bracketed? cs <;> simp at opaque_
    · split at opaque_
      · contradiction
      · rename_i proper
        cases opaque_
        simp only [List.any_eq_true, not_exists, not_and] at proper
        rw [String.toList_ofList]
        exact colon_not_mem_encode fun member => proper ':' member (by decide)

/-- A host is written like an address exactly if it is the literal of an IPv4 address. -/
theorem IsRead.toText_eq_iff (read : host.IsRead) (ip : Ip) :
    host.toText = ip.toText ↔ ip.isV4 ∧ host.literal? = some ip := by
  cases host with
  | name text =>
      cases ip with
      | v4 address =>
          simp [toText, Ip.toText, Ip.toChars, Ip.isV4, literal?, V4.ofText?_eq_some_iff, V4.toText]
      | v6 address =>
          simp only [Ip.isV4, Bool.false_eq_true, false_and, iff_false]
          intro same
          apply read.colon_not_mem
          rw [show text = _ from same, Ip.toText, String.toList_ofList]
          exact address.colon_mem_toChars
  | v4 own =>
      cases ip with
      | v4 address =>
          simp only [toText, Ip.isV4, literal?, Option.some.injEq, Ip.v4.injEq, true_and]
          exact ⟨fun same => V4.toText_injective same, fun same => same ▸ rfl⟩
      | v6 address =>
          simp only [Ip.isV4, Bool.false_eq_true, false_and, iff_false]
          intro same
          apply own.colon_not_mem_toChars
          have chars : own.toChars = address.toChars := String.ofList_injective same
          rw [chars]
          exact address.colon_mem_toChars
  | v6 own =>
      have bracket : '[' ∈ (v6 own).toText.toList := by simp [toText]
      have absent : '[' ∉ ip.toText.toList := by
        cases ip with
        | v4 address => simpa [Ip.toText, Ip.toChars] using address.bracket_not_mem_toChars
        | v6 address => simpa [Ip.toText, Ip.toChars] using address.bracket_not_mem_toChars
      constructor
      · intro same
        exact absurd (same ▸ bracket) absent
      · rintro ⟨isV4, same⟩
        obtain rfl : Ip.v6 own = ip := Option.some.inj same
        exact absurd isV4 Bool.false_ne_true

end Host

/-! ## What is read as the host of a url -/

variable {scheme text path : String} {endsUrl : Bool} {cs left : List Char} {host : Host}
  {authority : Authority}

theorem isRead_of_readHost? (reads : readHost? scheme cs = some (some host)) : host.IsRead := by
  unfold readHost? at reads
  split at reads
  · obtain ⟨found, special, same⟩ := Option.map_eq_some_iff.mp reads
    exact ⟨cs, .inl (Option.some.inj same ▸ special)⟩
  · split at reads
    · cases reads
    · obtain ⟨found, opaque_, same⟩ := Option.map_eq_some_iff.mp reads
      exact ⟨cs, .inr (Option.some.inj same ▸ opaque_)⟩

theorem isRead_of_readFileHost? (reads : readFileHost? cs = some (some host)) : host.IsRead := by
  unfold readFileHost? at reads
  split at reads
  · cases reads
  · obtain ⟨found, special, same⟩ := Option.map_eq_some_iff.mp reads
    split at same
    · cases same
    · exact ⟨cs, .inl (Option.some.inj same ▸ special)⟩

theorem isRead_of_readAuthority? (reads : readAuthority? scheme endsUrl cs = some (authority, left))
    (hosted : authority.host = some host) : host.IsRead := by
  unfold readAuthority? at reads
  dsimp only at reads
  split at reads
  · contradiction
  · simp only [Option.bind_eq_bind, Option.bind_eq_some_iff] at reads
    obtain ⟨found, first, rest⟩ := reads
    have same : authority.host = found := by
      split at rest
      · split at rest
        · contradiction
        · obtain ⟨⟨port, after⟩, -, same⟩ := Option.bind_eq_some_iff.mp rest
          cases same
          rfl
      · split at rest
        · contradiction
        · cases rest
          rfl
    rw [← same, hosted] at first
    exact isRead_of_readHost? first

theorem isRead_of_readLocated?
    (reads : readLocated? scheme endsUrl cs = some (some authority, path))
    (hosted : authority.host = some host) : host.IsRead := by
  simp only [readLocated?, Option.bind_eq_bind, Option.bind_eq_some_iff] at reads
  obtain ⟨⟨found, left⟩, first, same⟩ := reads
  cases same
  exact isRead_of_readAuthority? first hosted

theorem isRead_of_readFile? (reads : readFile? cs = some (some authority, path))
    (hosted : authority.host = some host) : host.IsRead := by
  unfold readFile? at reads
  dsimp only at reads
  split at reads
  · cases reads
    contradiction
  · simp only [Option.bind_eq_bind, Option.bind_eq_some_iff] at reads
    obtain ⟨found, first, rest⟩ := reads
    split at rest
    · cases rest
      contradiction
    · cases rest
      dsimp only at hosted
      split at hosted
      · contradiction
      · cases hosted
        exact isRead_of_readFileHost? first

theorem isRead_of_readHierarchy?
    (reads : readHierarchy? scheme endsUrl cs = some (some authority, path))
    (hosted : authority.host = some host) : host.IsRead := by
  have unhosted : ∀ {path : String}, some (some ({} : Authority), filePathText cs) =
      some (some authority, path) → host.IsRead := by
    intro path same
    cases same
    contradiction
  unfold readHierarchy? at reads
  split at reads
  · split at reads
    · split at reads
      · exact isRead_of_readFile? reads hosted
      · exact unhosted reads
    · exact unhosted reads
  · split at reads
    · exact isRead_of_readLocated? reads hosted
    · split at reads
      · exact isRead_of_readLocated? reads hosted
      · cases reads
      · cases reads

/-- The host of a url that was read is one that a text stands for. -/
theorem isRead_of_ofText? {url : Url} (reads : ofText? text = some url)
    (hosted : url.host? = some host) : host.IsRead := by
  simp only [ofText?, Option.bind_eq_bind, Option.bind_eq_some_iff] at reads
  obtain ⟨⟨scheme, rest⟩, -, reads⟩ := reads
  obtain ⟨⟨authority?, path⟩, first, same⟩ := reads
  cases same
  obtain ⟨authority, rfl, hosted⟩ := Option.bind_eq_some_iff.mp hosted
  exact isRead_of_readHierarchy? first hosted

end Url

/-! ## Servers and targets -/

namespace Survey

open Model (DiscoveredEndpoint)
open Settings (CatalogServer CatalogEndpoint)
open Url (Host)

section Matching

variable {target : Target} {server : CatalogServer}

/-- Whether the url of a server can be read, has the port of a target, and has a host that
suits. -/
def IsAtHost (target : Target) (server : CatalogServer) (suits : Host → Prop) : Prop :=
  ∃ url host, Url.ofText? server.discoveryUrl = some url ∧ url.host? = some host ∧
    portOf url = portOf target.url ∧ suits host

/-- Whether a host is that of the target's url, up to the case of letters. -/
def HasHost (target : Target) (host : Host) : Prop :=
  ∃ own, target.url.host? = some own ∧ Text.sameIgnoringAsciiCase host.toText own.toText

/-- Whether a server is known by the host of a target or by its address. -/
def Suits (target : Target) (server : CatalogServer) : Prop :=
  IsAtHost target server fun host => HasHost target host ∨ host.literal? = some target.address.ip

/-- Whether all that a server has in common with a target is an IPv6 address. -/
def SuitsByV6Alone (target : Target) (server : CatalogServer) : Prop :=
  IsAtHost target server fun host =>
    ¬HasHost target host ∧ host.literal? = some target.address.ip ∧ ¬target.address.ip.isV4

theorem isAtHost_iff {url : Url} {host : Host} {suits : Host → Prop}
    (reads : Url.ofText? server.discoveryUrl = some url) (hosted : url.host? = some host) :
    IsAtHost target server suits ↔ portOf url = portOf target.url ∧ suits host := by
  constructor
  · rintro ⟨url', host', reads', hosted', rest⟩
    obtain rfl : url = url' := Option.some.inj (reads.symm.trans reads')
    obtain rfl : host = host' := Option.some.inj (hosted.symm.trans hosted')
    exact rest
  · exact fun rest => ⟨url, host, reads, hosted, rest⟩

theorem not_suits_of_unreadable (unreadable : Url.ofText? server.discoveryUrl = none) :
    ¬Suits target server := by
  rintro ⟨url, host, reads, -⟩
  simp [unreadable] at reads

theorem not_suits_of_unhosted {url : Url} (reads : Url.ofText? server.discoveryUrl = some url)
    (unhosted : url.host? = none) : ¬Suits target server := by
  rintro ⟨url', host, reads', hosted, -⟩
  obtain rfl : url = url' := Option.some.inj (reads.symm.trans reads')
  simp [unhosted] at hosted

theorem hasHost_iff (hosted : target.url.host?.isSome) (host : Host) :
    HasHost target host ↔
      Text.sameIgnoringAsciiCase host.toText (target.url.hostText?.getD "") := by
  obtain ⟨own, isOwn⟩ := Option.isSome_iff_exists.mp hosted
  have text : target.url.hostText? = some own.toText := congrArg (Option.map Host.toText) isOwn
  simp [HasHost, isOwn, text]

/-- A server is taken for the one at a target exactly if it is, unless all that they have in common
is an IPv6 address. -/
theorem isAt_iff (hosted : target.url.host?.isSome) :
    isAt target server ↔ Suits target server ∧ ¬SuitsByV6Alone target server := by
  unfold isAt
  cases reads : Url.ofText? server.discoveryUrl with
  | none => simp [not_suits_of_unreadable reads]
  | some url =>
      cases atHost : url.host? with
      | none =>
          have text : url.hostText? = none := congrArg (Option.map Host.toText) atHost
          simp [text, not_suits_of_unhosted reads atHost]
      | some host =>
          have text : url.hostText? = some host.toText := congrArg (Option.map Host.toText) atHost
          have literal := (Url.isRead_of_ofText? reads atHost).toText_eq_iff target.address.ip
          rw [Suits, SuitsByV6Alone, isAtHost_iff reads atHost, isAtHost_iff reads atHost]
          simp only [text, Bool.and_eq_true, Bool.or_eq_true, beq_iff_eq, ← hasHost_iff hosted,
            literal]
          constructor
          · rintro ⟨port, same | ⟨isV4, equal⟩⟩
            · exact ⟨⟨port, .inl same⟩, fun alone => alone.2.1 same⟩
            · exact ⟨⟨port, .inr equal⟩, fun alone => alone.2.2.2 isV4⟩
          · rintro ⟨⟨port, same | equal⟩, notAlone⟩
            · exact ⟨port, .inl same⟩
            · by_cases same : HasHost target host
              · exact ⟨port, .inl same⟩
              · by_contra missed
                exact notAlone ⟨port, same, equal, fun isV4 => missed ⟨port, .inr ⟨isV4, equal⟩⟩⟩

end Matching

/-! ## Answers -/

/-- Whether an endpoint is what is answered for an endpoint of the settings. -/
structure Describes (target : Target) (server : CatalogServer) (configured : CatalogEndpoint)
    (found : DiscoveredEndpoint) : Prop where
  accessibleUrl : found.accessibleUrl = target.url.toText
  endpointUrl :
    found.description.endpointUrl = configured.endpointUrl.getD server.discoveryUrl
  application : found.description.server = server.application
  securityMode : found.description.securityMode = configured.securityMode
  securityPolicyUri : found.description.securityPolicyUri = configured.securityPolicyUri
  securityLevel : found.description.securityLevel = configured.securityLevel
  userIdentityTokens : found.description.userIdentityTokens = configured.userIdentityTokens

/-- Whether an answer has an endpoint for each one that the settings list for a server, or for a
default one if they list none. -/
def Answers (target : Target) (server : CatalogServer) (answer : List DiscoveredEndpoint) : Prop :=
  (server.endpoints ≠ [] → List.Forall₂ (Describes target server) server.endpoints answer) ∧
    (server.endpoints = [] → List.Forall₂ (Describes target server) [{}] answer)

theorem describes_describe (target : Target) (server : CatalogServer)
    (configured : CatalogEndpoint) :
    Describes target server configured (describe server target.url.toText configured) :=
  ⟨rfl, rfl, rfl, rfl, rfl, rfl, rfl⟩

theorem answers_offered (target : Target) (server : CatalogServer) :
    Answers target server ((offered server).map (describe server target.url.toText)) := by
  have all : ∀ configured, List.Forall₂ (Describes target server) configured
      (configured.map (describe server target.url.toText)) := by
    intro configured
    rw [List.forall₂_map_right_iff, List.forall₂_same]
    exact fun endpoint _ => describes_describe target server endpoint
  constructor
  · intro listed
    rw [offered, if_neg (by simpa using listed)]
    exact all _
  · intro unlisted
    rw [offered, if_pos (by simpa using unlisted)]
    exact all _

/-- Whether something is the first of a list that a property holds of. -/
def IsFirst {α : Type} (holds : α → Prop) (list : List α) (first : α) : Prop :=
  holds first ∧ ∃ front back, list = front ++ first :: back ∧ ∀ other ∈ front, ¬holds other

theorem find?_isAt_of_isFirst {catalog : List CatalogServer} {target : Target}
    {server : CatalogServer} (hosted : target.url.host?.isSome)
    (first : IsFirst (fun server => Suits target server ∧ ¬SuitsByV6Alone target server)
      catalog server) : catalog.find? (isAt target) = some server := by
  obtain ⟨suits, front, back, split, others⟩ := first
  refine List.find?_eq_some_iff_append.mpr
    ⟨(isAt_iff hosted).mpr suits, front, back, split, fun other member => ?_⟩
  have unsuited := mt (isAt_iff hosted).mp (others other member)
  simpa using unsuited

theorem findInCatalog_eq_error_iff {catalog : List CatalogServer} {target : Target}
    {fault : CatalogFault} (hosted : target.url.host?.isSome) :
    findInCatalog catalog target false = .error fault ↔ fault = .noServer target ∧
      ∀ server ∈ catalog, ¬(Suits target server ∧ ¬SuitsByV6Alone target server) := by
  have none_iff : catalog.find? (isAt target) = none ↔
      ∀ server ∈ catalog, ¬(Suits target server ∧ ¬SuitsByV6Alone target server) := by
    simp only [List.find?_eq_none, isAt_iff hosted]
  rw [← none_iff]
  cases found : catalog.find? (isAt target) with
  | none => simp [findInCatalog, found, eq_comm]
  | some server => simp [findInCatalog, found]

/-- The catalog answers for the first server that is known by the host of the target or by its
address, passing over those that have nothing but an IPv6 address in common with the target, and
fails exactly if there is none. -/
theorem catalog_finds_first (catalog : List CatalogServer) (target : Target)
    (hosted : target.url.host?.isSome) :
    (∀ server,
      IsFirst (fun server => Suits target server ∧ ¬SuitsByV6Alone target server) catalog server →
        ∃ answer, findInCatalog catalog target false = .ok answer ∧
          Answers target server answer) ∧
    ∀ fault, findInCatalog catalog target false = .error fault ↔ fault = .noServer target ∧
      ∀ server ∈ catalog, ¬(Suits target server ∧ ¬SuitsByV6Alone target server) := by
  refine ⟨fun server first => ⟨_, ?_, answers_offered target server⟩,
    fun fault => findInCatalog_eq_error_iff hosted⟩
  rw [findInCatalog, if_neg Bool.false_ne_true, find?_isAt_of_isFirst hosted first]

/-- A controller that is known by an IPv6 address. -/
def knownByAddress : CatalogServer where
  discoveryUrl := "opc.tcp://[fd00::7]:4840"
  application := { applicationUri := "urn:plant:controller" }

/-- A pump that is known by its name. -/
def knownByName : CatalogServer where
  discoveryUrl := "opc.tcp://Pump"
  application := { applicationUri := "urn:plant:pump" }
  endpoints := [{ endpointUrl := some "opc.tcp://pump/a" }, {}]

/-- A host with a name, which has led to an IPv6 address. -/
def namedTarget (name : String) (groups : List Nat) : Target where
  url :=
    { scheme := "opc.tcp", authority := some { host := some (.name name), port := some 4840 } }
  address := { ip := .v6 (.ofGroups groups), port := 4840 }

theorem pump_is_found :
    let target := namedTarget "pump" [0xFD00, 0, 0, 0, 0, 0, 0, 8]
    target.url.host?.isSome ∧
    IsFirst (fun server => Suits target server ∧ ¬SuitsByV6Alone target server)
      [knownByAddress, knownByName] knownByName ∧
    ∃ answer, findInCatalog [knownByAddress, knownByName] target false = .ok answer ∧
      Answers target knownByName answer := by
  intro target
  have hosted : target.url.host?.isSome := rfl
  have first : IsFirst (fun server => Suits target server ∧ ¬SuitsByV6Alone target server)
      [knownByAddress, knownByName] knownByName := by
    refine ⟨(isAt_iff hosted).mp (by decide), [knownByAddress], [], rfl, fun other member => ?_⟩
    rw [List.mem_singleton.mp member]
    exact mt (isAt_iff hosted).mpr (by decide)
  exact ⟨hosted, first, (catalog_finds_first _ target hosted).1 knownByName first⟩

/-- The controller is the only server, and at the target's address, and is not found: its url has
brackets around the address, and the address of the target is written without. -/
theorem controller_is_not_found :
    let target := namedTarget "plc" [0xFD00, 0, 0, 0, 0, 0, 0, 7]
    IsFirst (Suits target) [knownByAddress] knownByAddress ∧
    findInCatalog [knownByAddress] target false = .error (.noServer target) := by
  intro target
  have reads : Url.ofText? knownByAddress.discoveryUrl = some
      { scheme := "opc.tcp"
        authority := some { host := some (.v6 (.ofGroups [0xFD00, 0, 0, 0, 0, 0, 0, 7]))
                            port := some 4840 } } := by
    decide
  have suits : Suits target knownByAddress :=
    (isAtHost_iff reads rfl).mpr ⟨rfl, .inr rfl⟩
  exact ⟨⟨suits, [], [], rfl, by simp⟩, by decide⟩

end Survey

end FieldSurvey
