import TerminalDock.Proofs.Deliveries
import TerminalDock.Proofs.FailureReports

/-! From the keys to the terminals. Whatever else happens to a panel over pseudo terminals, what is typed into a live
session is written to its terminal, once and in order, and what is typed into any other session is not. -/

namespace TerminalDock
open Pty Proofs.Steps

namespace Agenda
variable {β : Type} {agenda next : Agenda β} {mark turns : Nat}

inductive Goes : Nat → Agenda β → Agenda β → Prop
  | grows {agenda next : Agenda β} (grows : agenda.Grows next) : Goes 0 agenda next
  | proceeds {agenda next : Agenda β} (proceeds : agenda.Proceeds next) : Goes 1 agenda next

theorem FirstCome.goes (come : agenda.FirstCome) (bounded : agenda.Bounded) (goes : Goes turns agenda next) :
    next.FirstCome := by
  cases goes with
  | grows grows => exact come.grows bounded grows
  | proceeds proceeds => exact come.proceeds bounded proceeds

theorem Due.mono {more : Nat} (due : agenda.Due mark turns) (fewer : turns ≤ more) : agenda.Due mark more :=
  fun task old calls => (List.take_sublist_take_left fewer).subset (due task old calls)

theorem Due.goes {took : Nat} (due : agenda.Due mark (turns + took)) (given : mark ≤ agenda.scheduler.fresh)
    (goes : Goes took agenda next) : next.Due mark turns := by
  cases goes with
  | grows grows => exact due.grows given grows
  | proceeds proceeds => exact due.proceeds given proceeds

end Agenda

/-- What is typed or pasted: bytes, or a text. -/
inductive Keys
  | bytes (given : List UInt8)
  | text (given : String)
  deriving DecidableEq, Repr

def Keys.encoded : Keys → List UInt8
  | .bytes given => given
  | .text given => Text.Utf8.ofString given

/-- What may happen next to a panel that is asked about its sessions only. -/
inductive Incident (δ : Type)
  | input (id : String) (keys : Keys)
  /-- An operation is asked for, and goes as far as it goes at once. -/
  | ask (request : Request (Racing (Penned δ)))
  | turn
  /-- The event loop announces the oldest event that a reader posted. -/
  | deliver
  | read (place : Nat)
  /-- Something happens to a terminal. -/
  | befall (place : Nat) (change : δ → δ)
  /-- The next session gets this terminal, its wiring fails so, and while it is made these readers go on. -/
  | equip (device : δ) (faults : String → WiringFaults) (meanwhile : List Nat)

namespace Incident
variable {δ : Type}

def clerical : Incident δ → Bool
  | .ask request => request.only Request.clerical
  | _ => true

def turns : Incident δ → Nat
  | .turn => 1
  | _ => 0

def turnsIn : List (Incident δ) → Nat
  | [] => 0
  | first :: rest => turnsIn rest + first.turns

end Incident

namespace Dock
variable {δ : Type} [PtyDevice δ]

def incur (dock : Dock (Racing (Penned δ))) : Incident δ → Dock (Racing (Penned δ))
  | .input id keys => dock.move (.ask (.type id keys.encoded))
  | .ask request => dock.move (.ask request)
  | .turn => dock.turn
  | .deliver =>
    match dock.backend.spawner.posted with
    | [] => dock
    | (event, payload) :: rest =>
      (dock.onSpawner { dock.backend.spawner with posted := rest }).move (.announce event payload)
  | .read place => dock.onSpawner ((dock.backend.spawner.readerStep? place).getD dock.backend.spawner)
  | .befall place change =>
    dock.onSpawner (dock.backend.spawner.changeSlot place fun slot =>
      { slot with device := { slot.device with device := change slot.device.device } })
  | .equip device faults meanwhile =>
    { dock with
      backend := { host := { dock.backend.host with fresh := ⟨device, []⟩, faults := faults }, meanwhile := meanwhile } }

def endure (dock : Dock (Racing (Penned δ))) (incidents : List (Incident δ)) : Dock (Racing (Penned δ)) :=
  incidents.foldl incur dock

def typedIn (dock : Dock (Racing (Penned δ))) : Incident δ → List (String × List UInt8)
  | .input id keys => if dock.panel.registry.has id then [(id, keys.encoded)] else []
  | .ask request => request.typing dock.panel.registry
  | .turn => dock.typedNext
  | _ => []

def endedIn (dock : Dock (Racing (Penned δ))) : Incident δ → List (BackendCall × Option Failure)
  | .turn => dock.endedNext
  | _ => []

def typedOver (dock : Dock (Racing (Penned δ))) : List (Incident δ) → List (String × List UInt8)
  | [] => []
  | incident :: rest => dock.typedIn incident ++ (dock.incur incident).typedOver rest

def endedOver (dock : Dock (Racing (Penned δ))) : List (Incident δ) → List (BackendCall × Option Failure)
  | [] => []
  | incident :: rest => dock.endedIn incident ++ (dock.incur incident).endedOver rest

private theorem endure_append (dock : Dock (Racing (Penned δ))) (before after : List (Incident δ)) :
    dock.endure (before ++ after) = (dock.endure before).endure after :=
  List.foldl_append

variable {typed : List (String × List UInt8)} {ended : List (BackendCall × Option Failure)}
variable {first middle last dock : Dock (Racing (Penned δ))}

omit [PtyDevice δ] in
protected theorem Passes.trans {typing more : List (String × List UInt8)} (before : Passes typing first middle)
    (later : Passes more middle last) : Passes (typing ++ more) first last := by
  refine ⟨Nat.le_trans before.fresh later.fresh, fun mark old => ?_⟩
  obtain ⟨gone, calls, line, inputs⟩ := before.waiting mark old
  obtain ⟨left, others, rest, typed⟩ := later.waiting mark (Nat.le_trans old before.fresh)
  refine ⟨gone ++ left, calls ++ others, ?_, fun id => ?_⟩
  · rw [← List.append_assoc, line, List.append_assoc, rest, List.append_assoc]
  · rw [List.filterMap_append, inputs, typed, typedInto_append]

namespace Accounted

omit [PtyDevice δ] in
private theorem rehost (accounted : dock.Accounted typed ended) {backend : Racing (Penned δ)}
    (books : backend.spawner.books = dock.backend.spawner.books) (blank : backend.host.fresh.script = []) :
    ({ dock with backend := backend } : Dock (Racing (Penned δ))).Accounted typed ended := by
  have attends : dock.Attends none := ⟨nofun, nofun⟩
  have posts : Posts none [] [] dock { dock with backend := backend } :=
    .of_running id rfl (Nat.le_refl _) (List.append_nil _).symm rfl
  have serves : Serves dock dock.panel backend [] { dock with backend := backend } :=
    .of_running rfl rfl rfl rfl (List.append_nil _).symm rfl
  have ledger := accounted.ledger
  rw [← books, ← List.append_nil (dock.callsFrom 0)] at ledger
  exact accounted.advance attends posts serves accounted.valid accounted.attentive blank (List.append_nil _).symm ledger

theorem announce (accounted : dock.Accounted typed ended) (event : String) (payload : Event.Payload) :
    (dock.move (.announce event payload)).Accounted typed ended ∧ Passes [] dock (dock.move (.announce event payload)) := by
  obtain ⟨valid, ears, outbox⟩ :=
    Panel.tellAll_aloof event payload (dock.panel.registry.bus.handlers event) dock.panel accounted.valid
  have attends : dock.Attends none := ⟨nofun, nofun⟩
  have posts : Posts none _ [] dock (dock.move (.announce event payload)) :=
    (change_posts dock fun panel => (panel.emit event payload).2).unnoted
  rw [show (dock.panel.emit event payload).2.registry.outbox = [] from outbox.trans accounted.orderly.silent.1] at posts
  have serves := change_serves dock fun panel => (panel.emit event payload).2
  have attentive := accounted.attentive.of_seen ears
  have still (id : String) (lives : (dock.panel.emit event payload).2.registry.has id = true) :
      dock.panel.registry.has id = true := (Registry.has_of_seen ears id).symm.trans lives
  have ledger := accounted.ledger.fewer still
  rw [← List.append_nil (dock.callsFrom 0)] at ledger
  refine ⟨accounted.advance attends posts serves (valid.of_stance rfl) ⟨attentive.live, attentive.gone⟩ accounted.blank
    (List.append_nil _).symm ledger, ?_⟩
  have posted := posts accounted.orderly attends
  refine ⟨posted.fresh, fun mark old => ⟨[], [], ?_, fun _ => rfl⟩⟩
  rw [posted.waiting mark old, List.nil_append]

theorem ask (accounted : dock.Accounted typed ended) {request : Request (Racing (Penned δ))}
    (clerical : request.only Request.clerical = true) :
    (dock.move (.ask request)).Accounted (typed ++ request.typing dock.panel.registry) ended ∧
      Passes (request.typing dock.panel.registry) dock (dock.move (.ask request)) := by
  have readied := readied_ask dock request accounted.orderly
  have created := accounted.readied readied rfl fun job member =>
    (Assoc.mem_values_put member).elim (fun new => .inr (new ▸ clerical)) .inl
  have done := (begin_carries _ clerical).passes created readied
  rw [← move_ask, List.append_nil] at done
  exact done

end Accounted

/-- All is accounted for, nobody sweeps, and calls get their turns in the order in which they were submitted. -/
structure Delivers (typed : List (String × List UInt8)) (ended : List (BackendCall × Option Failure))
    (dock : Dock (Racing (Penned δ))) : Prop where
  accounted : dock.Accounted typed ended
  underway : dock.agenda.Underway
  come : dock.agenda.FirstCome

/-- A step after which this was typed and these calls had ended, in all; what was typed in it was submitted. -/
structure Onward (typed : List (String × List UInt8)) (ended : List (BackendCall × Option Failure))
    (typing : List (String × List UInt8)) (turns : Nat) (first last : Dock (Racing (Penned δ))) : Prop where
  delivers : last.Delivers typed ended
  passes : Passes typing first last
  goes : Agenda.Goes turns first.agenda last.agenda

namespace Delivers

omit [PtyDevice δ] in
theorem fresh {panel : Panel} (blank : panel.Blank) (drained : panel.drained = panel) {host : Host (Penned δ)}
    (unused : host.spawner.Unused) (nobody : host.spawner.sessions = []) (empty : host.fresh.script = [])
    (hook : Transport.FailureHook) : (Dock.fresh panel (⟨host, []⟩ : Racing (Penned δ)) hook).Delivers [] [] := by
  have books : host.spawner.books = ⟨[], 0, []⟩ := by rw [Spawner.books, nobody, unused.counter, unused.slots, List.map_nil]
  have dead (id : String) : ¬ panel.registry.has id = true := by
    rw [Registry.has, blank.sessions]
    exact Bool.false_ne_true
  have attentive : panel.registry.Attentive := by
    refine ⟨?_, ?_⟩
    · rw [blank.sessions]
      exact List.forall_mem_nil _
    · rw [blank.retired]
      exact List.forall_mem_nil _
  have ledger : Ledger (panel.registry.has · = true) [] [] [] host.spawner.books := books ▸ .blank dead
  have orderly : (Dock.fresh panel (⟨host, []⟩ : Racing (Penned δ)) hook).Orderly :=
    ⟨List.nodup_nil, List.forall_mem_nil _, drained⟩
  refine ⟨⟨blank.wellFormed, attentive, orderly, List.forall_mem_nil _, empty, rfl, ledger⟩, .idle, ⟨rfl, ?_⟩⟩
  rintro task (queued | held | ⟨entry, member, -⟩)
  · cases queued
  · cases held
  · cases member

omit [PtyDevice δ] in
theorem onward {typed' typing : List (String × List UInt8)} {ended' : List (BackendCall × Option Failure)} {turns : Nat}
    (delivers : first.Delivers typed ended) (accounted : last.Accounted typed' ended' ∧ Passes typing first last)
    (underway : last.agenda.Underway) (goes : Agenda.Goes turns first.agenda last.agenda) :
    Onward typed' ended' typing turns first last :=
  ⟨⟨accounted.1, underway, delivers.come.goes delivers.underway.bounded goes⟩, accounted.2, goes⟩

omit [PtyDevice δ] in
private theorem rehost (delivers : dock.Delivers typed ended) {backend : Racing (Penned δ)}
    (books : backend.spawner.books = dock.backend.spawner.books) (blank : backend.host.fresh.script = []) :
    Onward typed ended [] 0 dock { dock with backend := backend } :=
  delivers.onward ⟨delivers.accounted.rehost books blank, .of_alike (Nat.le_refl _) rfl⟩ delivers.underway (.grows (.refl _))

theorem announce (delivers : dock.Delivers typed ended) (event : String) (payload : Event.Payload) :
    Onward typed ended [] 0 dock (dock.move (.announce event payload)) := by
  have stays : Stays Stage.Windowed none dock (dock.move (.announce event payload)) := change_stays dock _
  have grows := stays.steps.grows delivers.underway delivers.come.patient nofun
  exact delivers.onward (delivers.accounted.announce event payload)
    (Agenda.Underway.lasting.steps stays.steps delivers.underway) (.grows grows)

theorem ask (delivers : dock.Delivers typed ended) {request : Request (Racing (Penned δ))}
    (clerical : request.only Request.clerical = true) :
    Onward (typed ++ request.typing dock.panel.registry) ended (request.typing dock.panel.registry) 0 dock
      (dock.move (.ask request)) := by
  obtain ⟨underway, grows⟩ := ask_grows delivers.underway delivers.come.patient
    (Request.only_mono Request.windowed_of_clerical request clerical)
  exact delivers.onward (delivers.accounted.ask clerical) underway (.grows grows)

theorem turn (delivers : dock.Delivers typed ended) :
    Onward (typed ++ dock.typedNext) (ended ++ dock.endedNext) dock.typedNext 1 dock dock.turn :=
  delivers.onward (delivers.accounted.turn delivers.underway delivers.come)
    (delivers.underway.turned (turn_turned dock delivers.underway.grants))
    (.proceeds (turn_proceeds delivers.underway delivers.come.patient))

private theorem incur (delivers : dock.Delivers typed ended) {incident : Incident δ} (clerical : incident.clerical = true) :
    Onward (typed ++ dock.typedIn incident) (ended ++ dock.endedIn incident) (dock.typedIn incident) incident.turns dock
      (dock.incur incident) := by
  have typing {last : Dock (Racing (Penned δ))} {more : List (String × List UInt8)}
      (onward : Onward (typed ++ more) ended more 0 dock last) : Onward (typed ++ more) (ended ++ []) more 0 dock last := by
    rwa [List.append_nil]
  have resting {last : Dock (Racing (Penned δ))} (onward : Onward typed ended [] 0 dock last) :
      Onward (typed ++ []) (ended ++ []) [] 0 dock last := by
    rwa [List.append_nil, List.append_nil]
  cases incident with
  | input id keys =>
    have plain : (Request.type id keys.encoded : Request (Racing (Penned δ))).only Request.clerical = true := rfl
    exact typing (delivers.ask plain)
  | ask request => exact typing (delivers.ask clerical)
  | turn => exact delivers.turn
  | deliver =>
    refine resting ?_
    unfold Dock.incur
    dsimp only
    split
    · exact delivers.rehost rfl delivers.accounted.blank
    next event payload rest posted =>
      let backend := dock.backend.onSpawner { dock.backend.spawner with posted := rest }
      have books : backend.spawner.books = dock.backend.spawner.books := rfl
      have taken := delivers.rehost books delivers.accounted.blank
      have told := taken.delivers.announce event payload
      exact ⟨told.delivers, taken.passes.trans told.passes, told.goes⟩
  | read place =>
    refine resting (delivers.rehost ?_ delivers.accounted.blank)
    cases step : dock.backend.spawner.readerStep? place with
    | none => rfl
    | some next => exact Spawner.readerStep_books step
  | befall place change =>
    exact resting (delivers.rehost (Spawner.changeSlot_unwritten fun _ _ => rfl) delivers.accounted.blank)
  | equip device faults meanwhile => exact resting (delivers.rehost rfl rfl)

private theorem endure (delivers : dock.Delivers typed ended) {incidents : List (Incident δ)}
    (clerical : ∀ incident ∈ incidents, incident.clerical = true) :
    (dock.endure incidents).Delivers (typed ++ dock.typedOver incidents) (ended ++ dock.endedOver incidents) ∧
      Passes (dock.typedOver incidents) dock (dock.endure incidents) := by
  induction incidents generalizing dock typed ended with
  | nil =>
    rw [typedOver, endedOver, List.append_nil, List.append_nil]
    exact ⟨delivers, .of_alike (Nat.le_refl _) rfl⟩
  | cons first rest ih =>
    obtain ⟨now, passes, -⟩ := delivers.incur (clerical first (List.mem_cons_self ..))
    obtain ⟨last, later⟩ := ih now fun incident member => clerical incident (List.mem_cons_of_mem _ member)
    rw [typedOver, endedOver, ← List.append_assoc, ← List.append_assoc]
    exact ⟨last, passes.trans later⟩

/-- Every turn that is served brings the calls that are due nearer. -/
theorem endure_due (delivers : dock.Delivers typed ended) {incidents : List (Incident δ)}
    (clerical : ∀ incident ∈ incidents, incident.clerical = true) {mark turns : Nat} (given : mark ≤ dock.scheduler.fresh)
    (due : dock.agenda.Due mark (turns + Incident.turnsIn incidents)) :
    (dock.endure incidents).agenda.Due mark turns := by
  induction incidents generalizing dock typed ended with
  | nil => exact due
  | cons first rest ih =>
    obtain ⟨now, passes, goes⟩ := delivers.incur (clerical first (List.mem_cons_self ..))
    rw [Incident.turnsIn, ← Nat.add_assoc] at due
    exact ih now (fun incident member => clerical incident (List.mem_cons_of_mem _ member))
      (Nat.le_trans given passes.fresh) (due.goes given goes)

end Delivers

omit [PtyDevice δ] in
private theorem callsFrom_of_due {mark : Loop.TaskId} (unique : dock.scheduler.running.keys.Nodup)
    (due : dock.agenda.Due mark 0) :
    dock.callsFrom 0 = dock.callsFrom mark := by
  rw [callsFrom_submitted, callsFrom_submitted]
  refine List.filterMap_congr fun (task, call) member => ?_
  have called := (Agenda.mem_submitted unique).mp member
  have since : mark ≤ task := by
    by_contra before
    have asked := due task (Nat.lt_of_not_le before) (by rw [called]; exact Option.some_ne_none _)
    rw [List.take_zero] at asked
    cases asked
  dsimp only
  rw [if_pos since, if_pos (Nat.zero_le _)]

/-- What was typed is written in the turns that were asked for, whatever is done besides. -/
theorem Delivers.reaches (delivers : dock.Delivers typed ended) {incidents : List (Incident δ)}
    (clerical : ∀ incident ∈ incidents, incident.clerical = true)
    (enough : dock.scheduler.ready.length ≤ Incident.turnsIn incidents) {slot : Slot (Penned δ)}
    (member : slot ∈ (dock.endure incidents).backend.spawner.slots) :
    typedInto slot.session typed <+: slot.device.script.map Prod.fst := by
  obtain ⟨last, -, passes⟩ := delivers.endure clerical
  have given := Nat.le_refl dock.scheduler.fresh
  have due := (delivers.come.due delivers.underway.bounded.tasks.unique dock.scheduler.fresh).mono enough
  rw [← Nat.zero_add (Incident.turnsIn _)] at due
  have waiting := callsFrom_of_due last.accounted.orderly.unique (delivers.endure_due clerical given due)
  obtain ⟨gone, calls, line, inputs⟩ := passes _ given
  have none : dock.callsFrom dock.scheduler.fresh = [] := by
    refine List.filterMap_eq_nil_iff.mpr fun entry inside => if_neg ?_
    exact Nat.not_le_of_lt (delivers.accounted.orderly.fresh entry.1 (List.mem_map_of_mem inside))
  rw [none, List.nil_append] at line
  have written := last.accounted.ledger.written slot.page (List.mem_map_of_mem member)
  rw [waiting, typedInto_append, ← inputs slot.page.1, line, List.filterMap_append, ← List.append_assoc] at written
  exact ⟨_, (List.append_cancel_right written).symm⟩

/-- The terminals got what was typed into their sessions, but for what still waits for its turn; and of the calls that
have ended, those that passed something on met the failures that the terminals met. The hook was told of the calls that
have failed, of each once, and of nothing else. -/
structure Delivered (typed : List (String × List UInt8)) (ended : List (BackendCall × Option Failure))
    (dock : Dock (Racing (Penned δ))) : Prop where
  sole : (dock.backend.spawner.slots.map Slot.session).Nodup
  housed : ∀ input ∈ typed, ∃ slot ∈ dock.backend.spawner.slots, slot.session = input.1
  written : ∀ slot ∈ dock.backend.spawner.slots,
    slot.device.script.map Prod.fst ++ (dock.callsFrom 0).filterMap (·.input? slot.session) = typedInto slot.session typed
  reported : ∀ slot ∈ dock.backend.spawner.slots,
    Writings.told slot.session slot.device.script = ended.filterMap (sent slot.session)
  noticed : ∃ notices : List (List Transport.Notice), dock.notices = notices.flatten ∧
    List.Forall₂ (fun call => dock.hook.Told call.1.name call.1.session call.2) ended notices

omit [PtyDevice δ] in
theorem Accounted.delivered (accounted : dock.Accounted typed ended) : dock.Delivered typed ended := by
  have ledger := accounted.ledger
  have names : dock.backend.spawner.slots.map Slot.session = dock.backend.spawner.books.names := by
    rw [Books.names, Spawner.books, List.map_map]
    rfl
  refine ⟨?_, fun input member => ?_, fun slot member => ledger.written slot.page (List.mem_map_of_mem member),
    fun slot member => ledger.reported slot.page (List.mem_map_of_mem member), ?_⟩
  · rw [names, List.nodup_iff_injective_getElem]
    intro place other same
    refine Fin.ext (ledger.place_unique (List.getElem?_eq_getElem place.isLt) ?_)
    rw [List.getElem?_eq_getElem other.isLt]
    exact congrArg some same.symm
  · by_contra homeless
    have absent : input.1 ∉ dock.backend.spawner.books.names := by
      intro there
      rw [← names] at there
      exact homeless (List.mem_map.mp there)
    have inside : input.2 ∈ typedInto input.1 typed := List.mem_filterMap.mpr ⟨input, member, if_pos rfl⟩
    rw [(ledger.unborn input.1 absent).1] at inside
    cases inside
  · refine ⟨ended.map dock.hook.conclusion, accounted.told, List.forall₂_map_right_iff.mpr ?_⟩
    exact List.forall₂_same.mpr fun call _ => dock.hook.conclude_told call.1.name call.1.session call.2

/-- However inputs, creations, removals and exits interleave: each terminal is passed the inputs that were typed into its
session while it was registered and nothing else, in order, and each failure of a write is told to the hook once. What
was typed by some moment is written by the turns that were asked for at that moment, whatever happens in between. -/
theorem inputs_delivered {panel : Panel} (blank : panel.Blank) (drained : panel.drained = panel) {host : Host (Penned δ)}
    (unused : host.spawner.Unused) (nobody : host.spawner.sessions = []) (empty : host.fresh.script = [])
    (hook : Transport.FailureHook) {before after : List (Incident δ)}
    (clerical : ∀ incident ∈ before ++ after, incident.clerical = true)
    (starts : Dock.fresh panel (⟨host, []⟩ : Racing (Penned δ)) hook = first) (goes : first.endure before = middle)
    (ends : middle.endure after = last) :
    last.Delivered (first.typedOver (before ++ after)) (first.endedOver (before ++ after)) ∧
      (middle.scheduler.ready.length ≤ Incident.turnsIn after → ∀ slot ∈ last.backend.spawner.slots,
        typedInto slot.session (first.typedOver before) <+: slot.device.script.map Prod.fst) := by
  have fresh : first.Delivers [] [] := starts ▸ .fresh blank drained unused nobody empty hook
  have whole : first.endure (before ++ after) = last := by rw [endure_append, goes, ends]
  have all := (fresh.endure clerical).1
  have begun := (fresh.endure fun incident member => clerical incident (List.mem_append_left after member)).1
  rw [List.nil_append, List.nil_append, whole] at all
  rw [List.nil_append, goes] at begun
  refine ⟨all.accounted.delivered, fun enough slot member => ?_⟩
  exact begun.reaches (fun incident inside => clerical incident (List.mem_append_right before inside)) enough (ends ▸ member)

def pennedHost : Host (Penned PuppetPty) where
  spawner := { command := ["/bin/sh"], environment := [], home := .ok (Path.ofText "/work") }
  fresh := ⟨{}, []⟩

def pennedDock : Dock (Racing (Penned PuppetPty)) :=
  .fresh Panel.standard ⟨pennedHost, []⟩ (.observer false)

/-- A session is removed right after something was typed into it, and something is typed into it after that. -/
def hastyRemoval : List (Incident PuppetPty) :=
  [.ask (.create "/tmp"), .ask (.create "/tmp"), .input "term-1" (.text "é"), .input "term-2" (.bytes [97]),
    .input "term-1" (.text "b"), .input "term-1" (.text "c"), .ask (.remove "term-1"), .input "term-1" (.text "d")]

/-- The terminal of that session does not take the second of the three inputs. -/
def brokenWrite : List (Incident PuppetPty) :=
  [.turn, .turn, .befall 0 fun pty => { pty with writeFailure := some (.fault .os "gone") }, .turn,
    .befall 0 fun pty => { pty with writeFailure := none }, .input "term-2" (.bytes [98]), .turn, .turn]

theorem inputs_delivered_removal :
    ∃ slot ∈ ((pennedDock.endure hastyRemoval).endure brokenWrite).backend.spawner.slots,
      slot.session = "term-1" ∧ slot.device.script.map Prod.fst = [[195, 169], [98], [99]] ∧
      ((pennedDock.endure hastyRemoval).endure brokenWrite).notices = [.observed ⟨"send_input", "term-1", "gone"⟩] := by
  have clerical : ∀ incident ∈ hastyRemoval ++ brokenWrite, incident.clerical = true := by decide +kernel
  have starts : Dock.fresh Panel.standard ⟨pennedHost, []⟩ (.observer false) = pennedDock := rfl
  have unused : pennedHost.spawner.Unused := ⟨rfl, rfl, rfl, rfl⟩
  obtain ⟨delivered, soon⟩ := inputs_delivered Panel.standard_blank rfl unused rfl rfl
    (.observer false) clerical starts rfl rfl
  have typed : pennedDock.typedOver (hastyRemoval ++ brokenWrite) =
      [("term-1", [195, 169]), ("term-2", [97]), ("term-1", [98]), ("term-1", [99]), ("term-2", [98])] := by decide +kernel
  have before : pennedDock.typedOver hastyRemoval =
      [("term-1", [195, 169]), ("term-2", [97]), ("term-1", [98]), ("term-1", [99])] := by decide +kernel
  have enough : (pennedDock.endure hastyRemoval).scheduler.ready.length ≤ Incident.turnsIn brokenWrite := by
    decide +kernel
  rw [typed] at delivered
  rw [before] at soon
  obtain ⟨slot, member, name⟩ := delivered.housed ("term-1", [195, 169]) (List.mem_cons_self ..)
  refine ⟨slot, member, name, ?_, by decide +kernel⟩
  have whole := delivered.written slot member
  have start := soon enough slot member
  rw [name] at whole start
  obtain ⟨rest, same⟩ := start
  rw [← same, List.append_assoc] at whole
  have nothing : rest = [] := (List.append_eq_nil_iff.mp (List.append_right_eq_self.mp whole)).1
  rw [← same, nothing]
  rfl

end Dock

end TerminalDock
