import FieldSurvey.Proofs.Address.Hosts
import FieldSurvey.Proofs.Plan.Report

/-!
# What a plan covers

The addresses of a plan are those that the request names, or else those that its mode finds on the
interfaces, and the container host if the mode scans at all.  Neither the texts that could not be
read nor those that name nothing leave a trace: the plan is the one that there would be without
them.
-/

namespace FieldSurvey

namespace Plan

open Address (V4 Interface)
open Address.Range (Holds)
open Model (Mode Request ScanConfig)

/-! ## What is named -/

/-- Whether the parameters name any addresses. -/
def NamesAddresses (config : ScanConfig) : Prop :=
  ∃ ranges, Names Address.Range.parse config.addressRanges ranges

/-- Whether the parameters name any ports. -/
def NamesPorts (config : ScanConfig) : Prop :=
  ∃ ranges, Names Port.Range.parse config.portRanges ranges

/-! ## What a mode derives -/

/-- Whether an address is that of a host on one of the subnets, given the lengths of the
prefixes. -/
def OnSubnet (bits : Interface → Nat) (interfaces : List Interface) (address : V4) : Prop :=
  ∃ interface ∈ interfaces, interface.IsHost (bits interface) address

/-- Whether an address is that of a gateway. -/
def IsGateway (interfaces : List Interface) (address : V4) : Prop :=
  ∃ interface ∈ interfaces, interface.gateway = some address

/-- The length of the prefix of an interface. -/
def fullBits (interface : Interface) : Nat :=
  min interface.prefixLength 32

/-- The same for a subnet that is no wider than 24 bits leave it. -/
def narrowBits (interface : Interface) : Nat :=
  min (max interface.prefixLength 24) 32

/-- Whether a mode finds an address on the interfaces. -/
def Derives (interfaces : List Interface) (address : V4) : Mode → Prop
  | .local => OnSubnet fullBits interfaces address
  | .fast => OnSubnet narrowBits interfaces address ∨ IsGateway interfaces address
  | .network | .scan => OnSubnet fullBits interfaces address ∨ IsGateway interfaces address
  | .url | .off => False

/-- The plan of a request, with the parameters in place of those that it has. -/
def planOf (request : Request) (config : ScanConfig) (surroundings : Surroundings) : Plan :=
  resolve { request with config := some config } surroundings

/-- The plan of a request covers what it names, or else what its mode derives. -/
structure Covers (request : Request) (config : ScanConfig) (surroundings : Surroundings)
    (plan : Plan) : Prop where
  asked : ∀ mode, request.mode = some mode → plan.mode = mode
  fast : request.mode = none → NamesPorts config ∨ NamesAddresses config → plan.mode = .fast
  off : request.mode = none → ¬NamesPorts config → ¬NamesAddresses config → plan.mode = .off
  named : ∀ ranges, Names Address.Range.parse config.addressRanges ranges → ∀ address,
    Holds plan.addressRanges address ↔ Holds ranges address ∨
      plan.mode.isScanning ∧ surroundings.containerHost = some address
  derived : ¬NamesAddresses config → ∀ address,
    Holds plan.addressRanges address ↔ Derives surroundings.interfaces address plan.mode ∨
      plan.mode.isScanning ∧ surroundings.containerHost = some address
  ports : ∀ ranges, Names Port.Range.parse config.portRanges ranges → plan.portRanges = ranges
  modePorts : ¬NamesPorts config → plan.portRanges = portsOf plan.mode
  /-- a text that names nothing is like none, whatever the other text names -/
  addressText : ¬NamesAddresses config →
    plan = planOf request { config with addressRanges := none } surroundings
  portText : ¬NamesPorts config →
    plan = planOf request { config with portRanges := none } surroundings

variable {request : Request} {config other : ScanConfig} {surroundings : Surroundings}
  {interfaces : List Interface} {address : V4} {mode : Mode}

theorem holds_subnets (full : Bool) : Holds (subnets interfaces full) address ↔
    OnSubnet (Interface.scannedPrefix · full) interfaces address := by
  simp only [Holds, subnets, List.mem_map, exists_exists_and_eq_and, Interface.contains_hostRange,
    OnSubnet]

theorem holds_gateways :
    Holds (gateways interfaces) address ↔ IsGateway interfaces address := by
  simp only [Holds, gateways, List.mem_filterMap, Option.map_eq_some_iff]
  constructor
  · rintro ⟨_, ⟨interface, member, gateway, isGateway, rfl⟩, held⟩
    obtain rfl := (Address.Range.contains_single gateway).mp held
    exact ⟨interface, member, isGateway⟩
  · rintro ⟨interface, member, isGateway⟩
    exact ⟨_, ⟨interface, member, address, isGateway, rfl⟩,
      (Address.Range.contains_single address).mpr rfl⟩

theorem holds_containerRange : Holds (containerRange mode surroundings) address ↔
    mode.isScanning ∧ surroundings.containerHost = some address := by
  unfold containerRange
  split
  case isTrue scans =>
    simp only [Holds, List.mem_map, Option.mem_toList, exists_exists_and_eq_and, scans, true_and]
    constructor
    · rintro ⟨host, isHost, held⟩
      obtain rfl := (Address.Range.contains_single host).mp held
      exact isHost
    · intro isHost
      exact ⟨address, isHost, (Address.Range.contains_single address).mpr rfl⟩
  case isFalse idle => simp [Holds, idle]

theorem holds_addressesOf :
    Holds (addressesOf mode interfaces) address ↔ Derives interfaces address mode := by
  cases mode with
  | «local» => exact holds_subnets true
  | fast =>
      rw [addressesOf, Address.Range.holds_append, holds_subnets, holds_gateways]
      rfl
  | network =>
      rw [addressesOf, Address.Range.holds_append, holds_subnets, holds_gateways]
      rfl
  | scan =>
      rw [addressesOf, Address.Range.holds_append, holds_subnets, holds_gateways]
      rfl
  | url => simp [addressesOf, Holds, Derives]
  | off => simp [addressesOf, Holds, Derives]

/-! ## Texts that name nothing -/

/-- Of their two texts, the parameters count by the ranges that these name. -/
theorem ofConfig_congr (ports : explicitPorts? other = explicitPorts? config)
    (addresses : explicitAddresses? other = explicitAddresses? config)
    (rest : { other with addressRanges := none, portRanges := none } =
      { config with addressRanges := none, portRanges := none }) :
    ofConfig request other surroundings = ofConfig request config surroundings := by
  have filled : ∀ addressRanges portRanges,
      { withDefaults other with addressRanges, portRanges } =
        { withDefaults config with addressRanges, portRanges } := by
    intro addressRanges portRanges
    exact congrArg (fun config => { withDefaults config with addressRanges, portRanges }) rest
  simp only [ofConfig, modeOf, ports, addresses, filled]

/-- The addresses of a plan are those that the request names if it names any, and otherwise those
that its mode derives, and the container host of a mode that scans.  A text that cannot be read or
names nothing is like none. -/
theorem covers_planOf (request : Request) (config : ScanConfig) (surroundings : Surroundings) :
    Covers request config surroundings (planOf request config surroundings) := by
  have resolved : planOf request config surroundings =
      ofConfig { request with config := some config } config surroundings := rfl
  have mode : (planOf request config surroundings).mode = modeOf request.mode config := rfl
  have holds : ∀ address, Holds (planOf request config surroundings).addressRanges address ↔
      Holds ((explicitAddresses? config).getD
        (addressesOf (planOf request config surroundings).mode surroundings.interfaces)) address ∨
      (planOf request config surroundings).mode.isScanning ∧
        surroundings.containerHost = some address := by
    intro address
    rw [addressRanges_eq resolved, Address.Range.holds_merge, unmerged,
      Address.Range.holds_append, holds_containerRange]
  have ports := portRanges_eq resolved
  generalize planOf request config surroundings = plan at *
  constructor
  case asked =>
    intro asked isAsked
    rw [mode, isAsked]
    rfl
  case fast =>
    intro leftOpen named
    have found : (explicitPorts? config).isSome || (explicitAddresses? config).isSome :=
      Bool.or_eq_true _ _ ▸ named.imp named_isSome_iff.mpr named_isSome_iff.mpr
    rw [mode, leftOpen]
    exact if_pos found
  case off =>
    intro leftOpen noPorts noAddresses
    have withoutPorts : explicitPorts? config = none := named_eq_none_iff.mpr noPorts
    have withoutAddresses : explicitAddresses? config = none := named_eq_none_iff.mpr noAddresses
    rw [mode, leftOpen, modeOf, withoutPorts, withoutAddresses]
    rfl
  case named =>
    intro ranges named address
    have explicit : explicitAddresses? config = some ranges := named_eq_some_iff.mpr named
    rw [holds, explicit, Option.getD_some]
  case derived =>
    intro nothing address
    have implicit : explicitAddresses? config = none := named_eq_none_iff.mpr nothing
    rw [holds, implicit, Option.getD_none, holds_addressesOf]
  case ports =>
    intro ranges named
    have explicit : explicitPorts? config = some ranges := named_eq_some_iff.mpr named
    rw [ports, explicit, Option.getD_some]
  case modePorts =>
    intro nothing
    have implicit : explicitPorts? config = none := named_eq_none_iff.mpr nothing
    rw [ports, implicit, Option.getD_none]
  case addressText =>
    intro nothing
    rw [resolved]
    exact ofConfig_congr rfl (named_eq_none_iff.mpr nothing) rfl
  case portText =>
    intro nothing
    rw [resolved]
    exact ofConfig_congr (named_eq_none_iff.mpr nothing) rfl rfl

/-- Parameters with addresses that cannot be read, and a port. -/
def misspelled : ScanConfig where
  addressRanges := some "10.1.2.0/33"
  portRanges := some "4840"

/-- A container on a wide subnet. -/
def onWideSubnet : Surroundings where
  interfaces := [
    { name := "eth0"
      address := .ofOctets 10 1 2 3
      prefixLength := 16
      gateway := some (.ofOctets 10 1 0 1) }]
  containerHost := some (.ofOctets 172 17 0 1)

/-- The port alone makes the scan a fast one, and it covers the addresses of such a scan. -/
theorem covers_misspelled :
    NamesPorts misspelled ∧ ¬NamesAddresses misspelled ∧
      (planOf {} misspelled onWideSubnet).mode = .fast ∧
      ∀ address, Holds (planOf {} misspelled onWideSubnet).addressRanges address ↔
        Derives onWideSubnet.interfaces address .fast ∨
          some (.ofOctets 172 17 0 1) = some address := by
  have covers := covers_planOf {} misspelled onWideSubnet
  have namesPorts : NamesPorts misspelled := named_isSome_iff.mp (by decide +kernel)
  have noAddresses : ¬NamesAddresses misspelled :=
    named_eq_none_iff.mp (by decide +kernel)
  have fast := covers.fast rfl (Or.inl namesPorts)
  refine ⟨namesPorts, noAddresses, fast, fun address => ?_⟩
  rw [covers.derived noAddresses, fast]
  simp only [Mode.isScanning, true_and]
  rfl

end Plan

end FieldSurvey
