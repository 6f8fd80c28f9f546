import TerminalDock.Proofs.Readers

/-! What the terminal of a session brings is written to it from its beginning on, though its reader starts before
anyone has subscribed to its events. Readers go on whenever they like; the event loop takes what they posted in the
order in which they posted it. -/

namespace TerminalDock
open Proofs.Steps Pty

namespace Panel

/-- A step that makes no session live but perhaps a newcomer, and tells no session anything. -/
structure Admits (newcomer : Option String) (first last : Panel) : Prop where
  silent : Silent first last
  sound : Sound first last
  live : first.registry.WellFormed → ∀ id session, last.registry.session? id = some session →
    (∃ old, first.registry.session? id = some old ∧ old.tag = session.tag) ∨
      newcomer = some id ∧ first.registry.serial ≤ session.serial

variable {newcomer : Option String}

private theorem admits_lenient : Lenient (Admits newcomer) where
  trans {first middle last} before later := by
    refine ⟨silent_lenient.trans before.silent later.silent, before.sound.trans later.sound, ?_⟩
    intro valid id session live
    obtain ⟨between, grown⟩ := before.sound valid
    rcases later.live between id session live with ⟨old, was, same⟩ | ⟨new, number⟩
    · rcases before.live valid id old was with ⟨older, present, alike⟩ | ⟨new, number⟩
      · exact .inl ⟨older, present, alike.trans same⟩
      · have serial : old.serial = session.serial := congrArg Prod.fst same
        exact .inr ⟨new, serial ▸ number⟩
    · exact .inr ⟨new, Nat.le_trans grown.serial number⟩
  quiet {first last} quiet := by
    refine ⟨silent_lenient.quiet quiet, quiet.sound, ?_⟩
    intro valid id session live
    have accounts : last.registry.seen Session.account = first.registry.seen Session.account :=
      congrArg Registry.Hearing.sessions (quiet valid).2
    obtain ⟨old, was, same⟩ := Registry.live_of_seen (Registry.seen_comp Prod.fst accounts) live
    exact .inl ⟨old, was, same⟩

private theorem remove_admits (id : String) : Moves (Admits newcomer) (onRegistry (Registry.remove id {})) := by
  intro panel
  refine ⟨remove_silent id panel, onRegistry_sound (Registry.remove_sound id) panel, ?_⟩
  intro valid name session live
  rw [after_onRegistry] at live
  refine .inl ⟨session, ?_, rfl⟩
  rcases Registry.after_remove id panel.registry with ⟨-, same⟩ | ⟨other, record, found, removed⟩
  · rw [same] at live
    exact live
  · rw [removed] at live
    have kept : (Registry.apart id other panel.registry).session? name = some session := live
    rw [Registry.session?_apart valid found] at kept
    split at kept
    · cases kept
    · exact kept

private theorem create_admits (cwd : String) (spawned : Except Failure String) (faults : String → WiringFaults)
    (panel : Panel) :
    Admits spawned.toOption panel { panel with registry := after (Registry.create cwd spawned faults) panel.registry } := by
  refine ⟨create_silent cwd spawned faults panel, Registry.create_sound cwd spawned faults panel.registry, ?_⟩
  intro valid name session live
  have ends := Registry.create_ends cwd spawned faults panel.registry
  change (after (Registry.create cwd spawned faults) panel.registry).session? name = some session at live
  unfold after at live
  generalize Registry.create cwd spawned faults panel.registry = result at ends live
  cases ends with
  | refused answered record => exact .inl ⟨session, live, rfl⟩
  | taken answered present reason => exact .inl ⟨session, live, rfl⟩
  | spoiled answered free failed wired =>
    refine .inl ⟨session, ?_, rfl⟩
    rw [Registry.session?, ← Registry.sessions_abandoned wired]
    exact live
  | made answered free built wired =>
    obtain ⟨named, account, -, -, sessions⟩ := Registry.account_register wired
    rw [sessions] at live
    split at live
    next here =>
      cases live
      have serial : session.serial = panel.registry.serial := congrArg (·.1.1) account
      exact .inr ⟨by rw [answered, here]; rfl, Nat.le_of_eq serial.symm⟩
    next => exact .inl ⟨session, live, rfl⟩

end Panel

/-- Pseudo terminals whose readers do not wait for the event loop. Right after a process was started, before anyone
can have subscribed to its events, the readers at the places `meanwhile` go on. -/
structure Racing (δ : Type) where
  host : Host δ
  meanwhile : List Nat := []

namespace Racing
variable {δ : Type}

abbrev spawner (racing : Racing δ) : Spawner δ := racing.host.spawner

def onHost (racing : Racing δ) (host : Host δ) : Racing δ := { racing with host := host }

def onSpawner (racing : Racing δ) (spawner : Spawner δ) : Racing δ :=
  racing.onHost { racing.host with spawner := spawner }

def race [PtyDevice δ] (places : List Nat) (racing : Racing δ) : Racing δ :=
  racing.onSpawner (places.foldl (fun spawner place => (spawner.readerStep? place).getD spawner) racing.spawner)

instance [PtyDevice δ] : SessionBackend (Racing δ) where
  ask _ racing := (false, [], racing)
  spawn cwd racing :=
    let (answer, records, host) := racing.host.spawn cwd
    (answer, records, (racing.onHost host).race racing.meanwhile)
  begin call racing :=
    let (progress, records, host) := racing.host.begin call
    (progress, records, racing.onHost host)
  wiring racing := SessionBackend.wiring racing.host

end Racing

/-- The operations of a panel that leave the terminals to themselves. -/
def Request.genuine {β : Type} : Request β → Bool
  | .adjust _ => false
  | request => request.ordinary

/-- What may happen next to a panel over pseudo terminals. -/
inductive Happening (δ : Type)
  /-- An operation is asked for, and goes as far as it goes at once. -/
  | ask (request : Request (Racing (Taped δ)))
  /-- The event loop serves the next turn of a task. -/
  | turn
  /-- The event loop announces the oldest event that a reader posted. -/
  | deliver
  /-- A reader makes its next step. -/
  | read (place : Nat)
  /-- Something happens to a terminal. -/
  | befall (place : Nat) (change : δ → δ)
  /-- The next session gets this terminal, and while it is made these readers go on. -/
  | equip (device : δ) (meanwhile : List Nat)

def Happening.genuine {δ : Type} : Happening δ → Bool
  | .ask request => request.only Request.genuine
  | _ => true

namespace Dock
variable {δ : Type} [PtyDevice δ]

def onSpawner (dock : Dock (Racing δ)) (spawner : Spawner δ) : Dock (Racing δ) :=
  { dock with backend := dock.backend.onSpawner spawner }

def happen (dock : Dock (Racing (Taped δ))) : Happening δ → Dock (Racing (Taped δ))
  | .ask request => dock.move (.ask request)
  | .turn => dock.turn
  | .deliver =>
    match dock.backend.spawner.posted with
    | [] => dock
    | (event, payload) :: rest =>
      (dock.onSpawner { dock.backend.spawner with posted := rest }).move (.announce event payload)
  | .read place => dock.onSpawner ((dock.backend.spawner.readerStep? place).getD dock.backend.spawner)
  | .befall place change =>
    dock.onSpawner (dock.backend.spawner.changeSlot place fun slot =>
      { slot with device := { slot.device with device := change slot.device.device } })
  | .equip device meanwhile =>
    { dock with backend := { host := { dock.backend.host with fresh := ⟨device, []⟩ }, meanwhile := meanwhile } }

def course (dock : Dock (Racing (Taped δ))) (happenings : List (Happening δ)) : Dock (Racing (Taped δ)) :=
  happenings.foldl happen dock

end Dock

namespace Racing
variable {δ : Type} [PtyDevice δ]

/-- What becomes of the terminals while nothing is delivered, and the next one stays as it is. -/
structure Follows (first last : Racing (Taped δ)) : Prop where
  spawner : Spawner.Follows first.spawner last.spawner
  fresh : last.host.fresh = first.host.fresh

omit [PtyDevice δ] in
protected theorem Follows.trans {first middle last : Racing (Taped δ)} (before : Follows first middle)
    (later : Follows middle last) : Follows first last :=
  ⟨before.spawner.trans later.spawner, later.fresh.trans before.fresh⟩

private theorem race_follows (places : List Nat) (racing : Racing (Taped δ)) : Follows racing (racing.race places) := by
  refine ⟨?_, rfl⟩
  have each (spawner : Spawner (Taped δ)) : Spawner.Follows spawner
      (places.foldl (fun spawner place => (spawner.readerStep? place).getD spawner) spawner) := by
    induction places generalizing spawner with
    | nil => exact .refl spawner
    | cons place rest ih =>
      rw [List.foldl_cons]
      refine Spawner.Follows.trans ?_ (ih _)
      cases step : spawner.readerStep? place with
      | none => exact .refl spawner
      | some next => exact Spawner.readerStep_follows step
  exact each racing.spawner

/-- Every reader of a process that was started was started before anything of it was delivered. -/
theorem spawn_follows {racing : Racing (Taped δ)} (blank : racing.host.fresh.tape = []) (cwd : String) :
    Follows racing (SessionBackend.spawn cwd racing).2.2 ∧
      ∀ id delivered, (SessionBackend.spawn cwd racing).1 = .ok id → racing.spawner.Orderly delivered →
        (SessionBackend.spawn cwd racing).2.2.spawner.Runs id ∧ delivered id = [] := by
  obtain ⟨started, named⟩ := Spawner.spawn_follows racing.spawner blank cwd
  have made : Follows racing (racing.onHost (racing.host.spawn cwd).2.2) :=
    ⟨started.trans (.of_same rfl rfl rfl rfl), rfl⟩
  have raced := race_follows racing.meanwhile (racing.onHost (racing.host.spawn cwd).2.2)
  refine ⟨made.trans raced, ?_⟩
  intro id delivered answer orderly
  obtain ⟨runs, unheard⟩ := named id answer
  exact ⟨(raced.spawner delivered (made.spawner delivered orderly).1).2 id runs, unheard delivered orderly⟩

omit [PtyDevice δ] in
private theorem follows_onHost {racing : Racing (Taped δ)} {host : Host (Taped δ)}
    (follows : Spawner.Follows racing.spawner host.spawner) (fresh : host.fresh = racing.host.fresh) :
    Follows racing (racing.onHost host) :=
  ⟨follows, fresh⟩

private theorem begin_follows (call : BackendCall) (racing : Racing (Taped δ)) :
    Follows racing (SessionBackend.begin call racing).2.2 := by
  cases call with
  | close session =>
    have closed : (racing.host.beginClose session).2.2 =
        { racing.host with spawner := (racing.spawner.terminate session).2 } := by
      unfold Host.beginClose
      dsimp only
      split <;> rfl
    refine follows_onHost ?_ ?_
    · change Spawner.Follows racing.spawner (racing.host.beginClose session).2.2.spawner
      rw [closed]
      exact Spawner.terminate_follows racing.spawner session
    · change (racing.host.beginClose session).2.2.fresh = racing.host.fresh
      rw [closed]
  | resize session size =>
    exact follows_onHost ((Spawner.resize_follows racing.spawner session size).trans (.of_same rfl rfl rfl rfl)) rfl
  | sendInput session bytes =>
    exact follows_onHost ((Spawner.sendInput_follows racing.spawner session bytes).trans (.of_same rfl rfl rfl rfl)) rfl

private theorem served_follows {backend other : Racing (Taped δ)} (served : Served Request.genuine backend other) :
    Follows backend other := by
  cases served with
  | rest => exact ⟨.refl _, rfl⟩
  | ask cwd => exact ⟨.refl _, rfl⟩
  | call call => exact begin_follows call backend
  | adjust allowed => cases allowed

end Racing

namespace Dock
variable {δ : Type}

/-- Panel and terminals are in step: `delivered` is what the event loop took of each session's events, and each live
session was told all of it. The sessions that `registered` were told the beginning of it. -/
structure InStep (dock : Dock (Racing (Taped δ))) (registered : Nat × String → Prop) (told : Nat → List Tiding)
    (delivered : String → List Tiding) : Prop where
  faithful : dock.panel.registry.Faithful registered told
  orderly : dock.backend.spawner.Orderly delivered
  blank : dock.backend.host.fresh.tape = []
  live : ∀ id session, dock.panel.registry.session? id = some session →
    told session.serial = delivered id ∧ dock.backend.spawner.Runs id
  kept : ∀ tag, registered tag → told tag.1 <+: delivered tag.2 ∧ dock.backend.spawner.Runs tag.2

namespace InStep
variable {dock last : Dock (Racing (Taped δ))} {registered : Nat × String → Prop} {told : Nat → List Tiding}
variable {delivered : String → List Tiding}

theorem advance (inStep : dock.InStep registered told delivered) {newcomer : Option String}
    (admits : Panel.Admits newcomer dock.panel last.panel) (follows : Racing.Follows dock.backend last.backend)
    (arrived : ∀ id, newcomer = some id → last.backend.spawner.Runs id ∧ delivered id = []) :
    last.InStep registered told delivered := by
  have valid := inStep.faithful.wired.valid
  obtain ⟨orderly, runs⟩ := follows.spawner delivered inStep.orderly
  refine ⟨admits.silent registered told inStep.faithful, orderly, follows.fresh ▸ inStep.blank, ?_, ?_⟩
  · intro id session live
    rcases admits.live valid id session live with ⟨old, was, same⟩ | ⟨new, number⟩
    · obtain ⟨heard, running⟩ := inStep.live id old was
      have serial : old.serial = session.serial := congrArg Prod.fst same
      exact ⟨serial ▸ heard, runs id running⟩
    · obtain ⟨running, none⟩ := arrived id new
      exact ⟨(inStep.faithful.unborn _ number).trans none.symm, running⟩
  · intro tag known
    obtain ⟨beginning, running⟩ := inStep.kept tag known
    exact ⟨beginning, runs tag.2 running⟩

theorem holding (inStep : dock.InStep registered told delivered) {id : String} {session : Session}
    (live : dock.panel.registry.session? id = some session) : dock.InStep (· = session.tag) told delivered := by
  refine ⟨inStep.faithful.holding live, inStep.orderly, inStep.blank, inStep.live, ?_⟩
  intro tag same
  obtain ⟨heard, running⟩ := inStep.live id session live
  have named : session.id = id := inStep.faithful.wired.valid.named id session live
  subst same named
  exact ⟨heard ▸ List.prefix_rfl, running⟩

variable [PtyDevice δ] {landing : Option (String × Purpose)}

theorem of_strikes (inStep : dock.InStep registered told delivered)
    (strikes : Strikes Request.genuine landing dock last) : last.InStep registered told delivered := by
  have ordinary {request : Request (Racing (Taped δ))} (genuine : request.genuine = true) : request.ordinary = true := by
    cases request with
    | adjust change => cases genuine
    | _ => exact genuine
  obtain ⟨panel, backend, stroke, yields⟩ := strikes
  have performs {newcomer : Option String} {request : Request (Racing (Taped δ))} {act : PanelStep Answer}
      (genuine : request.genuine = true) (found : Panel.perform? request = some act)
      (loud : Panel.quietly? request = false) : Moves (Panel.Admits newcomer) act :=
    Request.ordinary_moves Panel.admits_lenient Panel.remove_admits (ordinary genuine) found loud
  rcases stroke.moves_or_lands Panel.admits_lenient performs with
    ⟨admits, served⟩ | ⟨cwd, purpose, asked, served, landed, spawned⟩
  · have admits : Panel.Admits none dock.panel last.panel := yields.panel ▸ admits
    have follows : Racing.Follows dock.backend last.backend := yields.backend ▸ Racing.served_follows served
    exact inStep.advance admits follows nofun
  · have asking := Racing.served_follows served
    have blank : asked.host.fresh.tape = [] := asking.fresh ▸ inStep.blank
    obtain ⟨spawning, arrived⟩ := Racing.spawn_follows blank cwd
    have admits : Panel.Admits (SessionBackend.spawn cwd asked).1.toOption dock.panel last.panel := by
      rw [yields.panel, landed]
      exact Panel.admits_lenient.landed purpose (Panel.create_admits cwd _ _ dock.panel)
    have follows : Racing.Follows dock.backend last.backend := by
      rw [yields.backend, spawned]
      exact asking.trans spawning
    refine inStep.advance admits follows fun id new => ?_
    rw [yields.backend, spawned]
    refine arrived id delivered ?_ (asking.spawner delivered inStep.orderly).1
    cases answer : (SessionBackend.spawn cwd asked).1 with
    | ok made => rw [answer] at new; cases new; rfl
    | error failure => rw [answer] at new; cases new

theorem announce (inStep : dock.InStep registered told delivered) {event : String} {payload : Event.Payload}
    {rest : List (String × Event.Payload)} (posted : dock.backend.spawner.posted = (event, payload) :: rest) :
    ((dock.onSpawner { dock.backend.spawner with posted := rest }).move (.announce event payload)).InStep registered
      (fun serial => told serial ++ dock.panel.registry.tidings serial event payload)
      (fun id => delivered id ++ Tiding.of id event payload) := by
  have valid := inStep.faithful.wired.valid
  have yields : Yields (fun _ => False) (dock.onSpawner { dock.backend.spawner with posted := rest }) _ _ _ :=
    announce_yields _ event payload
  have heard := Panel.emit_faithful event payload inStep.faithful
  have tags := Panel.emit_tags event payload inStep.faithful.wired
  have runs {id : String} (running : dock.backend.spawner.Runs id) :
      ({ dock.backend.spawner with posted := rest } : Spawner (Taped δ)).Runs id := running
  refine ⟨?_, ?_, ?_, ?_, ?_⟩
  · rw [yields.panel]
    exact heard.of_hearing (heard.wired.valid.of_stance rfl) rfl
  · rw [yields.backend]
    exact inStep.orderly.deliver posted
  · rw [yields.backend]
    exact inStep.blank
  · intro id session live
    rw [yields.panel] at live
    obtain ⟨old, was, same⟩ := Registry.live_of_seen tags live
    obtain ⟨before, running⟩ := inStep.live id old was
    have serial : old.serial = session.serial := congrArg Prod.fst same
    rw [yields.backend]
    refine ⟨?_, runs running⟩
    rw [← serial, before, Registry.tidings_live valid was]
  · intro tag known
    obtain ⟨beginning, running⟩ := inStep.kept tag known
    rw [yields.backend]
    refine ⟨?_, runs running⟩
    rcases inStep.faithful.kept tag known with ⟨session, live, rfl⟩ | ⟨⟨session, member, rfl⟩, -⟩
    · obtain ⟨before, -⟩ := inStep.live _ session live
      have all : told session.tag.1 = delivered session.tag.2 := before
      rw [all, show session.tag.1 = session.serial from rfl]
      exact Registry.tidings_live valid live ▸ List.prefix_rfl
    · have nothing : dock.panel.registry.tidings session.tag.1 event payload = [] :=
        Registry.tidings_gone valid member
      rw [nothing, List.append_nil]
      exact beginning.trans (List.prefix_append _ _)

omit [PtyDevice δ] in
theorem onSpawner (inStep : dock.InStep registered told delivered) {spawner : Spawner (Taped δ)}
    (follows : Spawner.Follows dock.backend.spawner spawner) :
    (dock.onSpawner spawner).InStep registered told delivered :=
  inStep.advance (Panel.admits_lenient.quiet (.refl dock.panel) : Panel.Admits none _ _) ⟨follows, rfl⟩ nofun

theorem happen (inStep : dock.InStep registered told delivered) (valid : dock.Valid Request.genuine)
    {happening : Happening δ} (genuine : happening.genuine = true) :
    (dock.happen happening).Valid Request.genuine ∧
      ∃ told delivered, (dock.happen happening).InStep registered told delivered := by
  have same (spawner : Spawner (Taped δ)) : (dock.onSpawner spawner).Valid Request.genuine :=
    ⟨valid.registry, valid.licensed⟩
  cases happening with
  | ask request =>
    have strikes : Strikes Request.genuine none dock (dock.move (.ask request)) := ask_strikes dock genuine
    exact ⟨valid.of_strikes strikes, told, delivered, inStep.of_strikes strikes⟩
  | turn =>
    have strikes := turn_strikes dock valid.licensed
    exact ⟨valid.of_strikes strikes, told, delivered, inStep.of_strikes strikes⟩
  | deliver =>
    unfold Dock.happen
    dsimp only
    split
    · exact ⟨valid, told, delivered, inStep⟩
    next event payload rest posted =>
      have announced : (Move.announce event payload : Move (Racing (Taped δ))).only Request.genuine = true := rfl
      exact ⟨(same _).move announced, _, _, inStep.announce posted⟩
  | read place =>
    refine ⟨same _, told, delivered, inStep.onSpawner ?_⟩
    cases step : dock.backend.spawner.readerStep? place with
    | none => exact .refl _
    | some next => exact Spawner.readerStep_follows step
  | befall place change =>
    exact ⟨same _, told, delivered, inStep.onSpawner (.of_change fun _ _ => ⟨rfl, rfl, rfl⟩)⟩
  | equip device meanwhile =>
    exact ⟨⟨valid.registry, valid.licensed⟩, told, delivered,
      inStep.faithful, inStep.orderly, rfl, inStep.live, inStep.kept⟩

theorem course (inStep : dock.InStep registered told delivered) (valid : dock.Valid Request.genuine)
    {happenings : List (Happening δ)} (genuine : ∀ happening ∈ happenings, happening.genuine = true) :
    (dock.course happenings).Valid Request.genuine ∧
      ∃ told delivered, (dock.course happenings).InStep registered told delivered := by
  induction happenings generalizing dock told delivered with
  | nil => exact ⟨valid, told, delivered, inStep⟩
  | cons first rest ih =>
    obtain ⟨valid, told, delivered, inStep⟩ := inStep.happen valid (genuine first (List.mem_cons_self ..))
    exact ih inStep valid fun other member => genuine other (List.mem_cons_of_mem _ member)

end InStep

private theorem inStep_fresh {panel : Panel} (blank : panel.Blank) {host : Host (Taped δ)} (unused : host.spawner.Unused)
    (empty : host.fresh.tape = []) (hook : Transport.FailureHook) :
    (Dock.fresh panel (⟨host, []⟩ : Racing (Taped δ)) hook).InStep (fun _ => False) (fun _ => []) fun _ => [] := by
  have nobody (id : String) : panel.registry.session? id = none := by rw [Registry.session?, blank.sessions]; rfl
  refine ⟨fresh_faithful blank _ hook, unused.orderly, empty, ?_, fun _ => False.elim⟩
  intro id session live
  exact absurd ((nobody id).symm.trans live) (by simp)

variable [PtyDevice δ]

private theorem course_append (dock : Dock (Racing (Taped δ))) (before after : List (Happening δ)) :
    dock.course (before ++ after) = (dock.course before).course after :=
  List.foldl_append ..

/-- What the terminal of a session brings is written to the session. It may be live after `before`; whatever happens
then, and whether it is still live at the end or not, what was written to it is the beginning of what its terminal
brought, with one mark for the end behind all of it. While it is live, only what waits for the event loop is missing. -/
theorem written_from_start {panel : Panel} (blank : panel.Blank) {host : Host (Taped δ)} (unused : host.spawner.Unused)
    (empty : host.fresh.tape = []) (hook : Transport.FailureHook) (before after : List (Happening δ))
    (genuine : ∀ happening ∈ before ++ after, happening.genuine = true) {id : String} {session : Session}
    (live : ((Dock.fresh panel (⟨host, []⟩ : Racing (Taped δ)) hook).course before).panel.registry.session? id =
      some session)
    {last : Dock (Racing (Taped δ))}
    (ends : (Dock.fresh panel (⟨host, []⟩ : Racing (Taped δ)) hook).course (before ++ after) = last) :
    ∃ current, last.panel.registry.bySerial? session.serial = some current ∧ current.id = id ∧
      last.backend.spawner.Runs id ∧
      ∀ slot ∈ last.backend.spawner.slots, slot.session = id →
        current.surface.written <+: slot.transcript ∧
          ((last.panel.registry.session? id).map Session.serial = some session.serial →
            last.backend.spawner.posted = [] → current.surface.written = slot.transcript) := by
  obtain ⟨valid, told, delivered, inStep⟩ := (inStep_fresh blank unused empty hook).course (valid_fresh blank _ hook)
    fun happening member => genuine happening (List.mem_append_left after member)
  obtain ⟨-, told, delivered, ended⟩ := (inStep.holding live).course valid
    fun happening member => genuine happening (List.mem_append_right before member)
  have named : session.id = id := inStep.faithful.wired.valid.named id session live
  rw [← course_append, ends] at ended
  have wired := ended.faithful.wired
  obtain ⟨beginning, running⟩ := ended.kept session.tag rfl
  have beginning : told session.serial <+: delivered id := named ▸ beginning
  have spoken {current : Session} {slot : Slot (Taped δ)} (member : slot ∈ last.backend.spawner.slots)
      (same : slot.session = id) (written : current.surface.written = Tiding.transcript false (told session.serial)) :
      current.surface.written <+: slot.transcript := by
    obtain ⟨place, found⟩ := List.mem_iff_getElem?.mp member
    have whole := ended.orderly.abreast place slot found
    rw [same] at whole
    rw [written, ← slot.transcript_tidings, ← whole]
    exact Tiding.transcript_prefix false (beginning.trans (List.prefix_append _ _))
  -- If the session is still live it was told all that was delivered; if it is gone it was told the beginning of that.
  rcases ended.faithful.kept session.tag rfl with ⟨current, now, tag⟩ | ⟨⟨current, member, tag⟩, deaf⟩
  · have serial : current.serial = session.serial := congrArg Prod.fst tag
    have written : current.surface.written = Tiding.transcript false (told session.serial) :=
      serial ▸ congrArg (·.2.2) (ended.faithful.live _ current now)
    refine ⟨current, serial ▸ wired.valid.bySerial_of_live now, (congrArg Prod.snd tag).trans named, named ▸ running, ?_⟩
    intro slot member same
    refine ⟨spoken member same written, fun _ idle => ?_⟩
    obtain ⟨place, found⟩ := List.mem_iff_getElem?.mp member
    have whole := ended.orderly.abreast place slot found
    have heard := (ended.live _ current now).1
    rw [serial, show session.tag.2 = id from named] at heard
    rw [same, Spawner.pending, idle, List.flatMap_nil, List.append_nil] at whole
    rw [written, heard, whole, slot.transcript_tidings]
  · have serial : current.serial = session.serial := congrArg Prod.fst tag
    have written : current.surface.written = Tiding.transcript false (told session.serial) :=
      serial ▸ ended.faithful.gone current member (serial.symm ▸ deaf)
    have known : current ∈ last.panel.registry.everyone := List.mem_append_right _ member
    refine ⟨current, serial ▸ wired.valid.bySerial_of_mem known, (congrArg Prod.snd tag).trans named, named ▸ running, ?_⟩
    intro slot inside same
    refine ⟨spoken inside same written, fun still => ?_⟩
    obtain ⟨other, live, alike⟩ := Option.map_eq_some_iff.mp still
    exact absurd (serial.trans alike.symm) (wired.valid.gone_of_retired live member)

/-- Terminals that answer as they are told, before the first. -/
def quietHost : Host (Taped PuppetPty) where
  spawner := { command := ["/bin/sh"], environment := [], home := .ok (Path.ofText "/work") }
  fresh := ⟨{}, []⟩

/-- A process says something before anyone has subscribed to its output. -/
def hastyStart : List (Happening PuppetPty) :=
  [.equip { arrivals := [.data [65], .data [], .data [66], .ended] } [0, 0], .ask (.add none)]

/-- It goes on, and ends. -/
def hastyEnd : List (Happening PuppetPty) :=
  [.read 0, .read 0, .deliver, .read 0, .deliver, .deliver]

theorem written_from_start_hasty :
    ∃ session current, ((Dock.fresh Panel.standard (⟨quietHost, []⟩ : Racing (Taped PuppetPty)) .log).course
        hastyStart).panel.registry.session? "term-1" = some session ∧
      ((Dock.fresh Panel.standard (⟨quietHost, []⟩ : Racing (Taped PuppetPty)) .log).course
        (hastyStart ++ hastyEnd)).panel.registry.bySerial? session.serial = some current ∧
      current.surface.written = [[65], [66], Registry.exitMarker] := by
  have present : (((Dock.fresh Panel.standard (⟨quietHost, []⟩ : Racing (Taped PuppetPty)) .log).course
      hastyStart).panel.registry.session? "term-1").map Session.serial = some 0 := by decide +kernel
  obtain ⟨session, live, serial⟩ := Option.map_eq_some_iff.mp present
  have genuine : ∀ happening ∈ hastyStart ++ hastyEnd, happening.genuine = true := by decide +kernel
  obtain ⟨current, found, -, -, written⟩ :=
    written_from_start Panel.standard_blank ⟨rfl, rfl, rfl, rfl⟩ rfl .log hastyStart hastyEnd genuine live rfl
  have terminals : (((Dock.fresh Panel.standard (⟨quietHost, []⟩ : Racing (Taped PuppetPty)) .log).course
      (hastyStart ++ hastyEnd)).backend.spawner.slots.map fun slot => (slot.session, slot.transcript)) =
      [("term-1", [[65], [66], Registry.exitMarker])] := by decide +kernel
  obtain ⟨slot, only, same⟩ := List.map_eq_singleton_iff.mp terminals
  have member : slot ∈ ((Dock.fresh Panel.standard (⟨quietHost, []⟩ : Racing (Taped PuppetPty)) .log).course
      (hastyStart ++ hastyEnd)).backend.spawner.slots := only ▸ List.mem_singleton_self slot
  refine ⟨session, current, live, found, ?_⟩
  refine ((written slot member (congrArg Prod.fst same)).2 ?_ ?_).trans (congrArg Prod.snd same)
  · rw [serial]
    decide +kernel
  · decide +kernel

end Dock

end TerminalDock
