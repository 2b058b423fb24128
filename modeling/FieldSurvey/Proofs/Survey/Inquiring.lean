import FieldSurvey.Proofs.Survey.Bookkeeping
import FieldSurvey.Proofs.Survey.Gathering

/-!
# Which servers a scan asks

A run that nobody cancels asks, one after the other, the servers of the declared urls that lead to
an address and then those of the open sockets that its scan has found.  Which urls these are is
told by the network, by the declared urls and by what was found; no answer of a server changes it.
-/

namespace FieldSurvey.Survey

open Address (Ip Socket)
open Model (DiscoveredEndpoint Registration)
open Probe (Course Outcome Scan Trial)

/-! ## Networks -/

/-- The names of a network: the addresses of a name, and the name of an address. -/
structure Network where
  resolve : String → Option (List Ip)
  reverse : Ip → Option String

namespace Network

variable (network : Network)

/-- Whether a reply is one to a run in the network that nobody cancels.  Probes, servers and the
receiver of the results may answer in any way. -/
def Replies : (call : RunCall) → call.Reply → Prop
  | .isCancelled, isCancelled => isCancelled = false
  | .ask (.resolve name), addresses => addresses = network.resolve name
  | .askUnlessCancelled (.reverse ip), outcome => outcome = .completed (network.reverse ip)
  | .askUnlessCancelled _, outcome => outcome ≠ .cancelled
  | .probe _ _, outcome => outcome ≠ .cancelled
  | _, _ => True

/-- Whether a call may be answered in the network in some way, and so be noted in a journal. -/
def Answers (journal : Journal) (call : RunCall) (reply : call.Reply) (after : Journal) : Prop :=
  journal.Notes call reply after ∧ network.Replies call reply

/-- The setting of a run in the network that nobody cancels. -/
def undisturbed : Setting RunCalls Journal where
  permits _ _ := True
  answers := network.Answers

/-- The circumstances of such a run. -/
def circumstances : Circumstances where
  cancels isCancelled := isCancelled = false
  answers answers := (∀ name, answers (.resolve name) = network.resolve name) ∧
    ∀ ip, answers (.reverse ip) = network.reverse ip

/-- What such a run is answered is a reply in the network. -/
theorem replies_of_circumstances {call : RunCall} {reply : call.Reply}
    (replies : network.circumstances.Replies call reply) : network.Replies call reply := by
  cases call with
  | report event => trivial
  | isCancelled => exact replies
  | clock => trivial
  | ask wait =>
      obtain ⟨answers, ⟨resolves, -⟩, rfl⟩ := replies
      cases wait with
      | resolve name => exact resolves name
      | reverse ip => trivial
      | find target locales => trivial
      | publish batch => trivial
  | askUnlessCancelled wait =>
      rcases replies with ⟨-, impossible⟩ | ⟨answers, ⟨-, reverses⟩, rfl⟩
      · contradiction
      · cases wait with
        | resolve name => simp [Replies]
        | reverse ip => exact congrArg Outcome.completed (reverses ip)
        | find target locales => simp [Replies]
        | publish batch => simp [Replies]
  | probe phase scan =>
      intro cancelled
      exact absurd (replies cancelled) (by simp [circumstances])

/-- The address of a host: that of the first name under which it is looked up that has one. -/
def address? (isContainer : Bool) (host : Url.Host) : Option Ip :=
  (lookupNames isContainer (lookupName host)).findSome? fun name =>
    (network.resolve name).bind preferred?

/-- The target of a declared url, if it can be read, names a host, and that has an address. -/
def declaredTarget? (isContainer : Bool) (text : String) : Option Target := do
  let (url, host) ← declaredUrl? text
  let ip ← network.address? isContainer host
  some { url, address := { ip, port := portOf url } }

/-- The target of an open socket, if the url that names it can be read. -/
def openTarget? (socket : Socket) : Option Target :=
  (Url.ofText? (socketUrlText socket (network.reverse socket.ip))).map fun url =>
    { url, address := socket }

end Network

/-- The first target of each url. -/
def firstOfEach : List Target → List Target
  | [] => []
  | target :: rest => target :: (firstOfEach rest).filter fun later => later.url ≠ target.url

/-- The targets of a run that has found sockets open: those of its declared urls, then those of
the sockets. -/
def Network.targets (network : Network) (survey : Survey) (sockets : List Socket) : List Target :=
  firstOfEach
    (survey.plan.config.urls.filterMap (network.declaredTarget? survey.isContainer) ++
      sockets.filterMap network.openTarget?)

/-! ## Lists of targets -/

/-- Adds targets one after the other. -/
def addTargets (more targets : List Target) : List Target :=
  more.foldl (fun all target => addTarget target all) targets

@[simp]
theorem addTargets_nil (targets : List Target) : addTargets [] targets = targets :=
  rfl

@[simp]
theorem addTargets_cons (target : Target) (more targets : List Target) :
    addTargets (target :: more) targets = addTargets more (addTarget target targets) :=
  rfl

theorem addTargets_append (front back targets : List Target) :
    addTargets (front ++ back) targets = addTargets back (addTargets front targets) :=
  List.foldl_append

theorem addTarget_eq (target : Target) (targets : List Target) :
    addTarget target targets =
      if target.url ∈ targets.map Target.url then targets else targets ++ [target] := by
  simp [addTarget]

/-- Of the targets that are added those stay whose urls are not listed. -/
theorem addTargets_eq (more targets : List Target) :
    addTargets more targets =
      targets ++ (firstOfEach more).filter fun target => target.url ∉ targets.map Target.url := by
  induction more generalizing targets with
  | nil => simp [firstOfEach]
  | cons target rest inductionHypothesis =>
      rw [addTargets_cons, inductionHypothesis, firstOfEach, addTarget_eq, List.filter_cons,
        List.filter_filter]
      -- the targets with the url of this one are left out below it, or because it is listed
      by_cases listed : target.url ∈ targets.map Target.url
      · rw [if_pos listed, if_neg (by simpa using listed)]
        congr 1
        refine List.filter_congr fun later _ => ?_
        by_cases same : later.url = target.url
        · simp [same, listed]
        · simp [same]
      · rw [if_neg listed, if_pos (by simpa using listed), List.append_assoc, List.singleton_append]
        congr 2
        refine List.filter_congr fun later _ => ?_
        by_cases same : later.url = target.url
        · simp [same]
        · simp [same]

theorem addTargets_empty (more : List Target) : addTargets more [] = firstOfEach more := by
  rw [addTargets_eq]
  simp

/-- Each url is listed once. -/
theorem nodup_firstOfEach (targets : List Target) :
    ((firstOfEach targets).map Target.url).Nodup := by
  induction targets with
  | nil => exact .nil
  | cons target rest inductionHypothesis =>
      rw [firstOfEach, List.map_cons, List.nodup_cons]
      refine ⟨?_, inductionHypothesis.sublist (List.filter_sublist.map _)⟩
      simp

/-! ## Looking for targets -/

section Undisturbed

variable {network : Network} {before : Journal}

theorem undisturbed_report (event : Event) :
    (report event).Ensures network.undisturbed (fun _ after => after = before) before :=
  ⟨trivial, fun _ _ answers => answers.1⟩

theorem undisturbed_isCancelled :
    isCancelled.Ensures network.undisturbed
      (fun cancelled after => cancelled = false ∧ after = before) before :=
  ⟨trivial, fun _ _ answers => ⟨answers.2, answers.1⟩⟩

theorem undisturbed_resolve (name : String) :
    (ask (.resolve name)).Ensures network.undisturbed
      (fun addresses after => addresses = network.resolve name ∧ after = before) before :=
  ⟨trivial, fun _ _ answers => ⟨answers.2, answers.1⟩⟩

theorem undisturbed_firstAddress (names : List String) :
    (firstAddress names).Ensures network.undisturbed
      (fun ip after => ip = (names.findSome? fun name => (network.resolve name).bind preferred?) ∧
        after = before) before := by
  induction names with
  | nil => exact ⟨rfl, rfl⟩
  | cons name rest inductionHypothesis =>
      apply (undisturbed_resolve name).bind
      rintro addresses _ ⟨rfl, rfl⟩
      split
      case h_1 ip found => exact ⟨by rw [List.findSome?_cons, found], rfl⟩
      case h_2 found => simpa only [List.findSome?_cons, found] using inductionHypothesis

theorem undisturbed_addDeclared (isContainer : Bool) (texts : List String)
    (targets : List Target) :
    (addDeclared isContainer texts targets).Ensures network.undisturbed
      (fun all after =>
        all = addTargets (texts.filterMap (network.declaredTarget? isContainer)) targets ∧
          after = before) before := by
  induction texts generalizing targets with
  | nil => exact ⟨rfl, rfl⟩
  | cons text rest inductionHypothesis =>
      unfold addDeclared
      split
      case h_1 unreadable =>
        have left : network.declaredTarget? isContainer text = none := by
          rw [Network.declaredTarget?, unreadable]
          rfl
        rw [List.filterMap_cons_none left]
        exact inductionHypothesis targets
      case h_2 url host read =>
        have declared : network.declaredTarget? isContainer text =
            (network.address? isContainer host).map fun ip =>
              { url, address := { ip, port := portOf url } } := by
          rw [Network.declaredTarget?, read, Option.map_eq_bind]
          rfl
        apply (undisturbed_firstAddress _).bind
        rintro ip _ ⟨found, rfl⟩
        change ip = network.address? isContainer host at found
        rw [← found] at declared
        cases ip with
        | none =>
            rw [List.filterMap_cons_none declared]
            exact inductionHypothesis targets
        | some ip =>
            rw [List.filterMap_cons_some declared]
            exact inductionHypothesis _

theorem undisturbed_addOpen (sockets : List Socket) (targets : List Target) :
    (addOpen sockets targets).Ensures network.undisturbed
      (fun outcome after =>
        outcome = .completed (addTargets (sockets.filterMap network.openTarget?) targets) ∧
          after = before) before := by
  induction sockets generalizing targets with
  | nil => exact ⟨rfl, rfl⟩
  | cons socket rest inductionHypothesis =>
      refine ⟨trivial, ?_⟩
      rintro outcome _ ⟨rfl, rfl⟩
      have added : addTargets ((socket :: rest).filterMap network.openTarget?) targets =
          addTargets (rest.filterMap network.openTarget?)
            (addSocket socket (network.reverse socket.ip) targets) := by
        rw [List.filterMap_cons]
        unfold addSocket Network.openTarget?
        cases Url.ofText? (socketUrlText socket (network.reverse socket.ip)) <;> rfl
      rw [added]
      exact inductionHypothesis _

/-! ## Scanning -/

/-- A course in which a scan with listed targets has come to its end. -/
structure Exhausts {τ : Type} (scan : Scan τ) (sequence : List τ) (course : Course τ) : Prop where
  takes : scan.Takes course
  isDone : course.pool.isDone
  probed : course.probed = sequence
  /-- just those targets are reported that answer in time that they are open -/
  reported : ∀ trial : Trial τ, trial.scan = scan → trial.Reaches course →
    course.reported.Perm ((List.range sequence.length).filterMap trial.opened?)

theorem undisturbed_probe {phase : Phase} {scan : Scan phase.Item} {sequence : List phase.Item}
    (lists : scan.targets = fun position => sequence[position]?) :
    (probe phase scan).Ensures network.undisturbed
      (fun outcome after => ∃ course, Exhausts scan sequence course ∧
        outcome = .completed course.reported ∧ after = before.scanned phase course) before := by
  refine ⟨trivial, ?_⟩
  rintro _ _ ⟨⟨course, takes, isDone, rfl, rfl⟩, goesOn⟩
  have covers := takes.covers lists
  cases cancelled : course.isCancelled with
  | true => exact absurd (covers.cancelled isDone cancelled) goesOn
  | false =>
      obtain ⟨probed, outcome⟩ := covers.completed isDone cancelled
      refine ⟨course, ⟨takes, isDone, probed, ?_⟩, outcome, rfl⟩
      rintro trial rfl reached
      rw [← trial.sequence_eq lists]
      exact reached.reported_perm isDone cancelled

/-- The addresses that a plan has to probe. -/
def hostSequence (survey : Survey) : List Ip :=
  (survey.plan.addressRanges.flatMap Address.Range.toList).map .v4

/-- The sockets to probe once hosts were found. -/
def portSequence (survey : Survey) (found : List Ip) : List Socket :=
  Probe.socketsOf (portScanAddresses survey.plan found)
    (survey.plan.portRanges.flatMap Port.Range.toList)

/-- A course of the scan for hosts, and one of the scan for the ports of those that it found. -/
structure Scanned (survey : Survey) (hosts : Course Ip) (ports : Course Socket) : Prop where
  ofHosts : Exhausts survey.hostScan survey.hostSequence hosts
  ofPorts : Exhausts (survey.portScan (portScanAddresses survey.plan hosts.reported))
    (survey.portSequence hosts.reported) ports

variable (survey : Survey)

theorem Scanned.mem_probed {survey : Survey} {hosts : Course Ip} {ports : Course Socket}
    (scanned : Scanned survey hosts ports) {socket : Socket} :
    socket ∈ ports.probed ↔
      (socket.ip ∈ hosts.reported ∨ socket.ip = .v4 .loopback ∨
        socket.ip ∈ survey.plan.containerHost.map Ip.v4) ∧
      survey.plan.portRanges.any (·.contains socket.port) := by
  rw [scanned.ofPorts.probed, portSequence, Probe.mem_socketsOf, mem_portScanAddresses,
    Port.Range.mem_flatMap_toList]

theorem undisturbed_scanHosts :
    survey.scanHosts.Ensures network.undisturbed
      (fun outcome after => ∃ course, Exhausts survey.hostScan survey.hostSequence course ∧
        outcome = .completed (portScanAddresses survey.plan course.reported) ∧
        after = before.scanned .hosts course) before := by
  apply (undisturbed_report _).bind
  rintro _ before rfl
  apply (undisturbed_probe survey.hostScan_targets).bind
  rintro _ _ ⟨course, exhausts, rfl, rfl⟩
  apply (undisturbed_report _).bind
  rintro _ _ rfl
  exact ⟨course, exhausts, rfl, rfl⟩

theorem undisturbed_scanPorts (addresses : List Ip) :
    (survey.scanPorts addresses).Ensures network.undisturbed
      (fun outcome after => ∃ course,
        Exhausts (survey.portScan addresses)
          (Probe.socketsOf addresses (survey.plan.portRanges.flatMap Port.Range.toList)) course ∧
        outcome = .completed course.reported ∧ after = before.scanned .ports course) before := by
  apply (undisturbed_report _).bind
  rintro _ before rfl
  apply (undisturbed_probe (survey.portScan_targets addresses)).bind
  rintro _ _ ⟨course, exhausts, rfl, rfl⟩
  apply (undisturbed_report _).bind
  rintro _ _ rfl
  exact ⟨course, exhausts, rfl, rfl⟩

theorem undisturbed_addScanned (scans : survey.plan.mode.isScanning) (targets : List Target) :
    (survey.addScanned targets).Ensures network.undisturbed
      (fun outcome after => ∃ hosts ports, Scanned survey hosts ports ∧
        outcome = .completed (addTargets (ports.reported.filterMap network.openTarget?) targets) ∧
        after = (before.scanned .hosts hosts).scanned .ports ports) before := by
  unfold addScanned
  rw [if_pos scans]
  apply (undisturbed_scanHosts survey).bind
  rintro _ _ ⟨hosts, exhausts, rfl, rfl⟩
  apply (undisturbed_scanPorts survey _).bind
  rintro _ _ ⟨ports, exhausts', rfl, rfl⟩
  apply (undisturbed_addOpen _ targets).imp
  rintro _ _ ⟨rfl, rfl⟩
  exact ⟨hosts, ports, ⟨exhausts, exhausts'⟩, rfl, rfl⟩

/-! ## Asking -/

/-- The endpoints that a server has answered with. -/
def Inquiry.answered? (inquiry : Inquiry) : Option (Target × List DiscoveredEndpoint) :=
  match inquiry.answer with
  | .completed (.ok endpoints) => some (inquiry.target, endpoints)
  | _ => none

/-- What was gathered from the servers that answered. -/
def gatheredIn (survey : Survey) (collected : List Registration) (inquiries : List Inquiry) :
    List Registration :=
  survey.gatheredFrom collected (inquiries.filterMap Inquiry.answered?)

/-- What a run asks its targets, and what it has gathered then. -/
def Asks (survey : Survey) (before : Journal) (collected : List Registration)
    (targets : List Target) (outcome : Outcome (List Registration)) (after : Journal) : Prop :=
  ∃ inquiries : List Inquiry,
    (inquiries.map fun inquiry => (inquiry.target, inquiry.locales)) =
      targets.map (fun target => (target, survey.plan.config.wantedLocales)) ∧
    outcome = .completed (survey.gatheredIn collected inquiries) ∧
    after = { before with inquiries := before.inquiries ++ inquiries }

theorem Asks.cons {collected : List Registration} {target : Target} {rest : List Target}
    {answer : Outcome (Except String (List DiscoveredEndpoint))}
    {outcome : Outcome (List Registration)} {after : Journal} (inquiry : Inquiry)
    (made : inquiry = { target, locales := survey.plan.config.wantedLocales, answer })
    (asks : Asks survey { before with inquiries := before.inquiries ++ [inquiry] }
      (survey.gatheredIn collected [inquiry]) rest outcome after) :
    Asks survey before collected (target :: rest) outcome after := by
  obtain ⟨inquiries, targets, rfl, rfl⟩ := asks
  refine ⟨inquiry :: inquiries, ?_, ?_, by simp⟩
  · rw [List.map_cons, List.map_cons, targets, made]
  · unfold gatheredIn
    rw [← gatheredFrom_append, ← List.filterMap_append, List.singleton_append]

theorem undisturbed_askTargets (total index : Nat) (targets : List Target)
    (collected : List Registration) :
    (survey.askTargets total index targets collected).Ensures network.undisturbed
      (Asks survey before collected targets) before := by
  induction targets generalizing index collected before with
  | nil => exact ⟨[], rfl, rfl, by simp⟩
  | cons target rest inductionHypothesis =>
      apply undisturbed_isCancelled.bind
      rintro _ before ⟨rfl, rfl⟩
      apply (undisturbed_report _).bind
      rintro _ before rfl
      refine ⟨trivial, ?_⟩
      rintro answer _ ⟨rfl, goesOn⟩
      match answer with
      | .cancelled => exact absurd rfl goesOn
      | .completed (.error reason) =>
          apply (undisturbed_report _).bind
          rintro _ _ rfl
          exact (inductionHypothesis _ _).imp fun _ _ => Asks.cons survey _ rfl
      | .completed (.ok endpoints) =>
          apply (undisturbed_report _).bind
          rintro _ _ rfl
          exact (inductionHypothesis _ _).imp fun _ _ => Asks.cons survey _ rfl

theorem undisturbed_askServers (targets : List Target) :
    (survey.askServers targets).Ensures network.undisturbed (Asks survey before [] targets)
      before := by
  apply (undisturbed_report _).bind
  rintro _ before rfl
  apply (undisturbed_askTargets survey _ _ targets _).bind
  intro outcome after asks
  obtain ⟨inquiries, made, rfl, rfl⟩ := asks
  apply (undisturbed_report _).bind
  rintro _ _ rfl
  exact ⟨inquiries, made, rfl, rfl⟩

theorem undisturbed_publish (registrations : List Registration) :
    (survey.publish registrations).Ensures network.undisturbed
      (fun ending after => ending ≠ .cancelled ∧ ∃ now,
        after = { before with
          published := before.published ++ [batch survey.plan now registrations] }) before := by
  refine ⟨trivial, ?_⟩
  rintro now _ ⟨rfl, -⟩
  refine ⟨trivial, ?_⟩
  rintro receipt _ ⟨rfl, -⟩
  match receipt with
  | .ok () => exact ⟨by simp, now, rfl⟩
  | .error reason =>
      apply undisturbed_isCancelled.bind
      rintro _ _ ⟨rfl, rfl⟩
      exact ⟨by simp, now, rfl⟩

/-! ## The run -/

/-- What a scan has done when it has come to its end without being cancelled. -/
structure Journal.Exhaustive (network : Network) (survey : Survey) (journal : Journal) : Prop where
  scanned : ∃ hosts ports, Scanned survey hosts ports ∧
    journal.hosts = [hosts] ∧ journal.ports = [ports]
  connected : ∀ socket, socket ∈ journal.connected ↔
    (socket.ip ∈ journal.responsive ∨ socket.ip = .v4 .loopback ∨
      socket.ip ∈ survey.plan.containerHost.map Ip.v4) ∧
    survey.plan.portRanges.any (·.contains socket.port)
  /-- the servers that are asked, in their order -/
  inquired : (journal.inquiries.map fun inquiry => (inquiry.target, inquiry.locales)) =
    (network.targets survey journal.reported).map
      fun target => (target, survey.plan.config.wantedLocales)
  once : (journal.inquiries.map fun inquiry => inquiry.target.url).Nodup
  /-- those that do not answer take nothing away from what the others have answered -/
  published : ∃ now, journal.published =
    [batch survey.plan now (survey.gatheredIn [] journal.inquiries)]

theorem exhaustive_of_asks {hosts : Course Ip} {ports : Course Socket}
    (scanned : Scanned survey hosts ports) {targets : List Target}
    (listed : targets = network.targets survey ports.reported)
    {outcome : Outcome (List Registration)} {after : Journal}
    (asks : Asks survey ((Journal.scanned {} .hosts hosts).scanned .ports ports) [] targets outcome
      after) :
    ∃ registrations, outcome = .completed registrations ∧
      ∀ now, Journal.Exhaustive network survey { after with
        published := after.published ++ [batch survey.plan now registrations] } := by
  obtain ⟨inquiries, made, rfl, rfl⟩ := asks
  have urls : (inquiries.map fun inquiry => inquiry.target.url) = targets.map Target.url := by
    have same := congrArg (List.map fun entry : Target × List String => entry.1.url) made
    rwa [List.map_map, List.map_map] at same
  refine ⟨_, rfl, fun now => ?_⟩
  exact
    { scanned := ⟨hosts, ports, scanned, rfl, rfl⟩
      connected := fun socket => by
        simpa [Journal.scanned, Journal.connected, Journal.responsive] using scanned.mem_probed
      inquired := by simpa [Journal.scanned, Journal.reported, ← listed] using made
      once := by
        simp only [Journal.scanned, List.nil_append]
        rw [urls, listed]
        exact nodup_firstOfEach _
      published := ⟨now, by simp [Journal.scanned]⟩ }

theorem undisturbed_carryOut (scans : survey.plan.mode.isScanning) :
    survey.carryOut.Ensures network.undisturbed
      (fun ending after => ending ≠ .cancelled ∧ after.Exhaustive network survey) {} := by
  apply (undisturbed_addDeclared _ _ _).bind
  rintro targets _ ⟨declared, rfl⟩
  apply undisturbed_isCancelled.bind
  rintro _ _ ⟨rfl, rfl⟩
  apply (undisturbed_addScanned survey scans targets).bind
  rintro _ _ ⟨hosts, ports, scanned, rfl, rfl⟩
  apply (undisturbed_askServers survey _).bind
  intro outcome after asks
  have listed : addTargets (ports.reported.filterMap network.openTarget?) targets =
      network.targets survey ports.reported := by
    rw [declared, ← addTargets_append, addTargets_empty]
    rfl
  obtain ⟨registrations, rfl, exhaustive⟩ := exhaustive_of_asks survey scanned listed asks
  apply (undisturbed_publish survey registrations).imp
  rintro ending _ ⟨goesOn, now, rfl⟩
  exact ⟨goesOn, exhaustive now⟩

theorem undisturbed_run (scans : survey.plan.mode.isScanning) :
    survey.run.Ensures network.undisturbed
      (fun ending after => ending ≠ .cancelled ∧ after.Exhaustive network survey) {} := by
  apply undisturbed_isCancelled.bind
  rintro _ _ ⟨rfl, rfl⟩
  apply (undisturbed_report _).bind
  rintro _ _ rfl
  apply (undisturbed_carryOut survey scans).bind
  intro ending after ends
  apply (undisturbed_report _).bind
  rintro _ _ rfl
  exact ends

/-! ## Coming to the end -/

/-- Every call of a run is answered in some way, if its scans have listed targets. -/
theorem exists_answers (network : Network) (journal : Journal) {call : RunCall}
    (lists : ∀ phase scan, call = .probe phase scan →
      ∃ sequence : List phase.Item, scan.targets = fun position => sequence[position]?) :
    ∃ reply after, network.Answers journal call reply after := by
  cases call with
  | report event => exact ⟨(), journal, rfl, trivial⟩
  | isCancelled => exact ⟨false, journal, rfl, rfl⟩
  | clock => exact ⟨default, journal, rfl, trivial⟩
  | ask wait =>
      cases wait with
      | resolve name => exact ⟨network.resolve name, journal, rfl, rfl⟩
      | reverse ip => exact ⟨none, journal, rfl, trivial⟩
      | find target locales => exact ⟨.ok [], journal, rfl, trivial⟩
      | publish batch => exact ⟨.ok (), _, rfl, trivial⟩
  | askUnlessCancelled wait =>
      cases wait with
      | resolve name => exact ⟨.completed none, journal, rfl, by simp [Network.Replies]⟩
      | reverse ip => exact ⟨.completed (network.reverse ip), journal, rfl, rfl⟩
      | find target locales => exact ⟨.completed (.ok []), _, rfl, by simp [Network.Replies]⟩
      | publish batch => exact ⟨.completed (.ok ()), journal, rfl, by simp [Network.Replies]⟩
  | probe phase scan =>
      obtain ⟨sequence, lists⟩ := lists phase scan rfl
      obtain ⟨course, takes, isDone, goesOn⟩ := Scan.exists_takes lists
      have completed := ((takes.covers lists).completed isDone goesOn).2
      exact ⟨_, _, ⟨course, takes, isDone, rfl, rfl⟩, by simp [Network.Replies, completed]⟩

/-- A run that nobody cancels can come to its end from wherever it is. -/
theorem exists_leads_done (network : Network) {survey : Survey} {program : Program RunCalls Ending}
    {suits : Ending → Journal → Prop} {journal : Journal}
    (ensures : program.Ensures (sweeping survey) suits journal) :
    ∃ ending last, program.Leads network.Answers journal (.done ending) last := by
  induction program generalizing journal with
  | done ending => exact ⟨ending, journal, .here _ _⟩
  | call request next inductionHypothesis =>
      obtain ⟨⟨-, due⟩, rest⟩ := ensures
      have lists : ∀ phase scan, request = .probe phase scan →
          ∃ sequence : List phase.Item, scan.targets = fun position => sequence[position]? := by
        rintro phase scan rfl
        exact due.lists
      obtain ⟨reply, after, answers⟩ := exists_answers network journal lists
      obtain ⟨ending, last, leads⟩ := inductionHypothesis reply (rest reply after answers.1)
      exact ⟨ending, last, .call reply answers leads⟩

end Undisturbed

/-- In every network a scan that nobody cancels comes to its end if its calls are answered, and
then it has asked for the endpoints of exactly the servers of its declared urls and of the sockets
that it has found open, each once and in this order.  So does one that advances from wait to
wait. -/
theorem targets_asked_in_order (survey : Survey) (scans : survey.plan.mode.isScanning)
    (network : Network) :
    (∀ rest journal, survey.run.Leads network.Answers {} rest journal →
      ∃ ending last, rest.Leads network.Answers journal (.done ending) last) ∧
      (∀ ending journal, survey.run.Leads network.Answers {} (.done ending) journal →
        ending ≠ .cancelled ∧ journal.Exhaustive network survey) ∧
      ∀ events ending, Carries network.circumstances survey events (.ended ending) →
        ending ≠ .cancelled ∧ ∃ journal,
          survey.run.Leads network.Answers {} (.done ending) journal ∧
            journal.ToldBy events ∧ journal.Exhaustive network survey := by
  have exhaustive : ∀ ending journal, survey.run.Leads network.Answers {} (.done ending) journal →
      ending ≠ .cancelled ∧ journal.Exhaustive network survey := by
    intro ending journal leads
    exact (undisturbed_run survey scans).of_leads leads
  refine ⟨?_, exhaustive, ?_⟩
  · intro rest journal leads
    have noted := leads.mono fun _ _ _ _ answers => answers.1
    exact exists_leads_done network (survey.ensures_run.of_leads noted)
  · intro events ending carries
    obtain ⟨journal, leads, told⟩ := exists_leads_ended carries
    have answered : survey.run.Leads network.Answers {} (.done ending) journal :=
      leads.mono fun _ _ _ _ answers => ⟨answers.1, network.replies_of_circumstances answers.2⟩
    obtain ⟨goesOn, asks⟩ := exhaustive ending journal answered
    exact ⟨goesOn, journal, answered, told, asks⟩

/-! ## A small network -/

section Small

/-- A network of one controller. -/
def smallNetwork : Network where
  resolve name := if name = "plc" then some [.v4 ⟨0x0A000001, by decide⟩] else none
  reverse ip := if ip = .v4 ⟨0x0A000001, by decide⟩ then some "plc" else none

/-- A scan for the controller with urls that are repeated, have no address or cannot be read. -/
def smallScan : Survey where
  discoverer := {}
  plan := Plan.resolve
    { mode := some .network
      config := some
        { addressRanges := some "10.0.0.1"
          portRanges := some "4840"
          discoveryUrls := some
            ["opc.tcp://plc:4840", "opc.tcp://gone:4840", "plc", "opc.tcp://plc:4840"] } } {}
  isContainer := false
  reportInterval := 3000

theorem small_scan_asks_in_order :
    smallScan.plan.mode.isScanning ∧ ∃ ending journal,
      smallScan.run.Leads smallNetwork.Answers {} (.done ending) journal ∧
        ending ≠ .cancelled ∧ journal.Exhaustive smallNetwork smallScan := by
  obtain ⟨comesToEnd, asks, -⟩ := targets_asked_in_order smallScan rfl smallNetwork
  obtain ⟨ending, journal, leads⟩ := comesToEnd _ _ (.here _ _)
  exact ⟨rfl, ending, journal, leads, asks ending journal leads⟩

example :
    let plc : Socket := { ip := .v4 ⟨0x0A000001, by decide⟩, port := 4840 }
    let here : Socket := { ip := .v4 .loopback, port := 4840 }
    (smallNetwork.targets smallScan [here, plc]).map
      (fun target => (target.url.toText, target.address)) =
        [("opc.tcp://plc:4840", plc), ("opc.tcp://127.0.0.1:4840", here)] := by
  decide +kernel

end Small

end FieldSurvey.Survey
