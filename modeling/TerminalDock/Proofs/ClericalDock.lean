import TerminalDock.Proofs.CallOrder
import TerminalDock.Proofs.DockBeats
import TerminalDock.Proofs.Listeners
import TerminalDock.Proofs.OutputDelivery
import TerminalDock.Proofs.Scripts

/-! A panel that is asked about its sessions only, over terminals with scripts. Whatever a task does in its turn, all
that was typed and all calls that have ended are accounted for. -/

namespace TerminalDock
open Pty Proofs.Steps

def Sight.notice? {α : Type} : Sight α → Option Transport.Notice
  | .noticed notice => some notice
  | _ => none

/-- What the hook leaves behind of a call that has ended. -/
def Transport.FailureHook.conclusion (hook : FailureHook) (ended : BackendCall × Option Failure) : List Notice :=
  hook.conclude ended.1.name ended.1.session ended.2

/-- A stage of a task that is about the sessions only. A call that passes something on ends at once. -/
def Stage.Clerical {β : Type} : Stage β → Prop
  | .begin request => request.only Request.clerical = true
  | .callEnding submitted _ _ => ∀ id, submitted.input? id = none
  | .call _ | .draining _ | .gathering _ => True
  | _ => False

theorem Request.windowed_of_clerical {β : Type} (request : Request β) (clerical : request.clerical = true) :
    request.windowed = true := by
  cases request with
  | closeAll | shutdown | adjust _ => cases clerical
  | _ => rfl

namespace Dock
variable {β : Type}

def notices (dock : Dock β) : List Transport.Notice :=
  dock.sights.filterMap Sight.notice?

/-- How a part of a turn ends: in this panel and with this backend; the hook left this behind, and no work was added
that is not about the sessions. -/
structure Serves (first : Dock β) (panel : Panel) (backend : β) (told : List Transport.Notice) (last : Dock β) : Prop where
  panel : last.panel = panel
  backend : last.backend = backend
  hook : last.hook = first.hook
  notices : last.notices = first.notices ++ told
  jobs : ∀ job ∈ last.jobs, job ∈ first.jobs ∨ job.stage.Clerical

abbrev Idly (first last : Dock β) : Prop :=
  Serves first first.panel first.backend [] last

variable {first middle last dock : Dock β} {task : Loop.TaskId}

namespace Serves
variable {panel next : Panel} {backend other : β} {told more : List Transport.Notice}

protected theorem refl (dock : Dock β) : Idly dock dock :=
  ⟨rfl, rfl, rfl, (List.append_nil _).symm, fun _ => .inl⟩

protected theorem trans (before : Serves first panel backend told middle) (later : Serves middle next other more last) :
    Serves first next other (told ++ more) last := by
  refine ⟨later.panel, later.backend, later.hook.trans before.hook, ?_, fun job member => ?_⟩
  · rw [later.notices, before.notices, List.append_assoc]
  · exact (later.jobs job member).elim (before.jobs job) .inr

theorem idly (before : Serves first panel backend told middle) (later : Idly middle last) :
    Serves first panel backend told last := by
  have both := before.trans later
  rwa [before.panel, before.backend, List.append_nil] at both

theorem of_running (shown : last.panel = panel) (served : last.backend = backend) (hook : last.hook = first.hook)
    (running : last.scheduler.running = first.scheduler.running) {sights : List (Sight Answer)}
    (seen : last.sights = first.sights ++ sights) (heard : sights.filterMap Sight.notice? = told) :
    Serves first panel backend told last := by
  refine ⟨shown, served, hook, ?_, fun job member => .inl ?_⟩
  · rw [Dock.notices, seen, List.filterMap_append, heard, Dock.notices]
  · rwa [Dock.jobs, running] at member

theorem of_put (shown : last.panel = panel) (served : last.backend = backend) (hook : last.hook = first.hook)
    (sights : last.sights = first.sights) {job : Job β}
    (running : last.scheduler.running = first.scheduler.running.put task job)
    (clerical : job.stage.Clerical) : Serves first panel backend [] last := by
  refine ⟨shown, served, hook, ?_, fun other member => ?_⟩
  · rw [Dock.notices, sights, List.append_nil, Dock.notices]
  · rw [Dock.jobs, running] at member
    rcases Assoc.mem_values_put member with rfl | old
    · exact .inr clerical
    · exact .inl old

end Serves

theorem see_serves (dock : Dock β) (sights : List (Sight Answer)) :
    Serves dock dock.panel dock.backend (sights.filterMap Sight.notice?) (dock.see sights) :=
  .of_running rfl rfl rfl rfl rfl rfl

private theorem see_idly {α : Type} (dock : Dock β) (items : List α) {sight : α → Sight Answer}
    (quiet : ∀ item, (sight item).notice? = none) : Idly dock (dock.see (items.map sight)) := by
  refine .of_running rfl rfl rfl rfl rfl ?_
  rw [List.filterMap_map]
  exact List.filterMap_eq_nil_iff.mpr fun item _ => quiet item

theorem log_idly (dock : Dock β) (records : List LogRecord) : Idly dock (dock.log records) :=
  see_idly dock records fun _ => rfl

theorem conclude_idly (dock : Dock β) (task : Loop.TaskId) (result : Except Failure Answer) :
    Idly dock (dock.conclude task result) := by
  have removed : Idly dock { dock with scheduler := dock.scheduler.finish task result } :=
    ⟨rfl, rfl, rfl, (List.append_nil _).symm,
      fun job member => .inl (((Assoc.remove_sublist task dock.scheduler.running).map Prod.snd).subset member)⟩
  unfold conclude
  dsimp only
  split
  · exact removed
  · exact removed.idly (.of_running rfl rfl rfl rfl rfl rfl)

private theorem suspend_idly (dock : Dock β) (task : Loop.TaskId) {stage : Stage β} (clerical : stage.Clerical) :
    Idly dock (dock.suspend task stage) :=
  .of_put rfl rfl rfl rfl rfl clerical

theorem waitFor_idly (dock : Dock β) (task : Loop.TaskId) (tasks : List Loop.TaskId) {stage : Stage β}
    {goOn : Dock β → Dock β} (clerical : stage.Clerical) (idly : Idly dock (goOn dock)) :
    Idly dock (dock.waitFor task tasks stage goOn) := by
  unfold waitFor
  split
  · exact idly
  · refine (suspend_idly dock task clerical).idly ?_
    exact .of_running rfl rfl rfl (Loop.Scheduler.running_waitFor _ _ _) (List.append_nil _).symm rfl

theorem drain_idly (dock : Dock β) (task : Loop.TaskId) (answer : Answer) : Idly dock (dock.drain task answer) :=
  have clerical : (Stage.draining answer : Stage β).Clerical := trivial
  waitFor_idly dock task _ clerical (conclude_idly dock task _)

theorem startAll_idly (dock : Dock β) (stages : List (Stage β)) (clerical : ∀ stage ∈ stages, stage.Clerical) :
    Idly dock (dock.startAll stages).2 := by
  induction stages generalizing dock with
  | nil => exact .refl dock
  | cons stage rest ih =>
    have started : Idly dock { dock with scheduler := (dock.scheduler.start ⟨stage, none⟩).2 } :=
      .of_put rfl rfl rfl rfl rfl (clerical stage (List.mem_cons_self ..))
    exact started.idly (ih _ fun other member => clerical other (List.mem_cons_of_mem _ member))

/-- The calls that the panel submitted are work of their own. -/
theorem change_serves (dock : Dock β) (f : Panel → Panel) :
    Serves dock (f dock.panel).drained dock.backend [] (dock.change f) := by
  have clerical : ∀ job ∈ (dock.change f).jobs, job ∈ dock.jobs ∨ job.stage.Clerical := by
    intro job member
    rcases values_submitted _ _ job member with old | ⟨call, rfl⟩
    · exact .inl old
    · exact .inr trivial
  refine ⟨rfl, rfl, rfl, ?_, clerical⟩
  exact (see_idly dock (f dock.panel).registry.journal fun _ => rfl).notices

theorem onPanel_serves {α : Type} (dock : Dock β) (act : PanelStep α) :
    Serves dock (after act dock.panel).drained dock.backend [] (dock.onPanel act).2 := by
  rw [onPanel_change]
  exact change_serves dock (after act)

theorem concludeCall_serves (dock : Dock β) (task : Loop.TaskId) (call : BackendCall) (failure : Option Failure)
    (records : List LogRecord) :
    Serves dock dock.panel dock.backend (dock.hook.conclusion (call, failure))
      (dock.concludeCall task call failure records) := by
  have noticed : ((dock.hook.conclusion (call, failure)).map (Sight.noticed : _ → Sight Answer)).filterMap Sight.notice? =
      dock.hook.conclusion (call, failure) := by
    rw [List.filterMap_map]
    exact List.filterMap_some
  have shown := see_serves (dock.log records) ((dock.hook.conclusion (call, failure)).map .noticed)
  rw [noticed] at shown
  exact ((log_idly dock records).trans shown).idly (conclude_idly _ task _)

variable [SessionBackend β]

theorem beginCall_serves (dock : Dock β) (task : Loop.TaskId) {call : BackendCall}
    (lingers : ∀ failure records, (SessionBackend.begin call dock.backend).1 = .later failure records →
      ∀ id, call.input? id = none) :
    (∃ failure, (SessionBackend.begin call dock.backend).1 = .ended failure ∧
      Serves dock dock.panel (SessionBackend.begin call dock.backend).2.2 (dock.hook.conclusion (call, failure))
        (dock.beginCall task call)) ∨
    ∃ failure records, (SessionBackend.begin call dock.backend).1 = .later failure records ∧
      Serves dock dock.panel (SessionBackend.begin call dock.backend).2.2 [] (dock.beginCall task call) := by
  rcases answer : SessionBackend.begin call dock.backend with ⟨progress, records, backend⟩
  let begun : Dock β := { dock.see [.calling call] with backend := backend }.log records
  have started : Serves dock dock.panel backend [] begun := by
    have seen : Serves dock dock.panel backend [] { dock.see [.calling call] with backend := backend } :=
      .of_running rfl rfl rfl rfl rfl rfl
    exact seen.idly (log_idly _ records)
  simp only [beginCall, show (dock.see [.calling call]).backend = dock.backend from rfl, answer]
  cases progress with
  | ended failure => exact .inl ⟨failure, rfl, started.trans (concludeCall_serves begun task call failure [])⟩
  | later failure more =>
    have mute : (Stage.callEnding call failure more : Stage β).Clerical := lingers failure more (by rw [answer])
    refine .inr ⟨failure, more, rfl, (started.idly (suspend_idly begun task mute)).idly ?_⟩
    exact .of_running rfl rfl rfl rfl (List.append_nil _).symm rfl

end Dock

def Stage.typing {β : Type} (registry : Registry) : Stage β → List (String × List UInt8)
  | .begin request => request.typing registry
  | _ => []

def Stage.ending {β : Type} [SessionBackend β] (backend : β) : Stage β → List (BackendCall × Option Failure)
  | .call submitted =>
    match (SessionBackend.begin submitted backend).1 with
    | .ended failure => [(submitted, failure)]
    | .later .. => []
  | .callEnding submitted failure _ => [(submitted, failure)]
  | _ => []

namespace Dock
variable {β : Type}

def nextStage? (dock : Dock β) : Option (Stage β) :=
  match dock.scheduler.ready with
  | .resume task :: _ => (dock.scheduler.running.find? task).map Job.stage
  | _ => none

def typedNext (dock : Dock β) : List (String × List UInt8) :=
  dock.nextStage?.elim [] (Stage.typing dock.panel.registry)

def endedNext [SessionBackend β] (dock : Dock β) : List (BackendCall × Option Failure) :=
  dock.nextStage?.elim [] (Stage.ending dock.backend)

end Dock

namespace Pty.Ledger
variable {line : List BackendCall} {typed : List (String × List UInt8)} {ended : List (BackendCall × Option Failure)}
variable {books : Books}

theorem ask {β : Type} {registry last : Registry} (request : Request β)
    (ledger : Ledger (registry.has · = true) line typed ended books)
    (heeds : Registry.Heeds (request.calls registry) registry last) :
    Ledger (last.has · = true) (line ++ request.calls registry) (typed ++ request.typing registry) ended books := by
  have still : ∀ other, last.has other = true → registry.has other = true := fun other lives => (heeds.live other lives).1
  have quiet : Ledger (last.has · = true) (line ++ []) (typed ++ []) ended books := by
    rw [List.append_nil, List.append_nil]
    exact ledger.fewer still
  cases request with
  | type id bytes =>
    by_cases here : registry.has id = true
    · have calls : (Request.type id bytes : Request β).calls registry = [.sendInput id bytes] := if_pos here
      have typing : (Request.type id bytes : Request β).typing registry = [(id, bytes)] := if_pos here
      rw [calls, typing]
      exact (ledger.type here bytes).fewer still
    · have calls : (Request.type id bytes : Request β).calls registry = [] := if_neg here
      have typing : (Request.type id bytes : Request β).typing registry = [] := if_neg here
      rw [calls, typing]
      exact quiet
  | remove id =>
    have typing : (Request.remove id : Request β).typing registry = [] := rfl
    by_cases here : registry.has id = true
    · have calls : (Request.remove id : Request β).calls registry = [.close id] := if_pos here
      rw [calls] at heeds ⊢
      rw [typing, List.append_nil]
      refine ledger.leave (ledger.known (ledger.kept id here).1) fun other lives => ⟨still other lives, ?_⟩
      rintro rfl
      exact (heeds.live other lives).2 (List.mem_singleton_self _)
    · have calls : (Request.remove id : Request β).calls registry = [] := if_neg here
      rw [calls, typing]
      exact quiet
  | _ => exact quiet

theorem greet {registry last : Registry} {next : Books} {spawned : Except Failure String}
    (ledger : Ledger (registry.has · = true) line typed ended books)
    (spawns : (∃ failure, spawned = .error failure ∧ (next = books ∨ next = books.addIdle)) ∨
      spawned = .ok books.nextName ∧ next = books.add)
    (greets : Registry.Greets spawned registry last) : ∃ calls, last.outbox = registry.outbox ++ calls ∧
      (∀ id, calls.filterMap (·.input? id) = []) ∧ last.Attentive ∧
      Ledger (last.has · = true) (line ++ calls) typed ended next := by
  rcases spawns with ⟨failure, failed, alike⟩ | ⟨answered, rfl⟩
  · have same : Ledger (registry.has · = true) line typed ended next := by
      rcases alike with rfl | rfl
      · exact ledger
      · exact ledger.addIdle
    cases greets with
    | nobody heeds =>
      refine ⟨[], heeds.outbox, fun _ => rfl, heeds.attentive, ?_⟩
      rw [List.append_nil]
      exact same.fewer fun other lives => (heeds.live other lives).1
    | spoiled answered | welcome answered => cases failed.symm.trans answered
  · cases greets with
    | nobody heeds =>
      refine ⟨[], heeds.outbox, fun _ => rfl, heeds.attentive, ?_⟩
      rw [List.append_nil]
      exact ledger.add fun other lives => .inl (heeds.live other lives).1
    | spoiled given heeds =>
      cases answered.symm.trans given
      have added : Ledger (registry.has · = true) line typed ended books.add := ledger.add fun _ => .inl
      have new : books.nextName ∈ books.add.names :=
        books.names_addIdle ▸ List.mem_append_right _ (List.mem_singleton_self _)
      refine ⟨_, heeds.outbox, fun _ => rfl, heeds.attentive, added.leave new fun other lives => ?_⟩
      obtain ⟨before, unclosed⟩ := heeds.live other lives
      refine ⟨before, ?_⟩
      rintro rfl
      exact unclosed (List.mem_singleton_self _)
    | welcome given attentive live outbox =>
      cases answered.symm.trans given
      refine ⟨[], outbox.trans (List.append_nil _).symm, fun _ => rfl, attentive, ?_⟩
      rw [List.append_nil]
      exact ledger.add live

end Pty.Ledger

namespace Racing
variable {δ : Type} [PtyDevice δ] {racing : Racing (Penned δ)}

private theorem race_books (places : List Nat) (racing : Racing (Penned δ)) :
    (racing.race places).spawner.books = racing.spawner.books := by
  have each (spawner : Spawner (Penned δ)) :
      (places.foldl (fun spawner place => (spawner.readerStep? place).getD spawner) spawner).books = spawner.books := by
    induction places generalizing spawner with
    | nil => rfl
    | cons place rest ih =>
      rw [List.foldl_cons, ih]
      cases step : spawner.readerStep? place with
      | none => rfl
      | some next => exact Spawner.readerStep_books step
  exact each racing.spawner

theorem spawn_books (blank : racing.host.fresh.script = []) (cwd : String) :
    (SessionBackend.spawn cwd racing).2.2.host.fresh = racing.host.fresh ∧
    ((∃ failure, (SessionBackend.spawn cwd racing).1 = .error failure ∧
      ((SessionBackend.spawn cwd racing).2.2.spawner.books = racing.spawner.books ∨
        (SessionBackend.spawn cwd racing).2.2.spawner.books = racing.spawner.books.addIdle)) ∨
    (SessionBackend.spawn cwd racing).1 = .ok racing.spawner.books.nextName ∧
      (SessionBackend.spawn cwd racing).2.2.spawner.books = racing.spawner.books.add) := by
  have raced : (SessionBackend.spawn cwd racing).2.2.spawner.books =
      (racing.spawner.spawn racing.host.fresh cwd).2.books :=
    race_books racing.meanwhile (racing.onHost (racing.host.spawn cwd).2.2)
  rw [raced]
  exact ⟨rfl, racing.spawner.spawn_books blank cwd⟩

theorem begin_fresh (call : BackendCall) (racing : Racing (Penned δ)) :
    (SessionBackend.begin call racing).2.2.host.fresh = racing.host.fresh := by
  cases call with
  | close session =>
    change (racing.host.beginClose session).2.2.fresh = _
    unfold Host.beginClose
    dsimp only
    split <;> rfl
  | resize | sendInput => rfl

/-- Only the call that closes a session ends later. -/
theorem begin_lingers {call : BackendCall} {failure : Option Failure} {records : List LogRecord}
    (later : (SessionBackend.begin call racing).1 = .later failure records) (id : String) : call.input? id = none := by
  cases call with
  | close | resize => rfl
  | sendInput => cases later

/-- A call begins that was the first of those that wait, and is accounted for if it ends at once. -/
theorem begin_ledger {live : String → Prop} {line : List BackendCall} {typed : List (String × List UInt8)}
    {ended : List (BackendCall × Option Failure)} {call : BackendCall}
    (ledger : Ledger live (call :: line) typed ended racing.spawner.books) :
    (∀ failure, (SessionBackend.begin call racing).1 = .ended failure →
      Ledger live line typed (ended ++ [(call, failure)]) (SessionBackend.begin call racing).2.2.spawner.books) ∧
    ∀ failure records, (SessionBackend.begin call racing).1 = .later failure records →
      Ledger live line typed ended (SessionBackend.begin call racing).2.2.spawner.books := by
  cases call with
  | close session =>
    have closed : (SessionBackend.begin (.close session) racing).2.2.spawner.books =
      racing.spawner.books.strike session := by
      rw [← Spawner.terminate_books]
      change (racing.host.beginClose session).2.2.spawner.books = _
      unfold Host.beginClose
      dsimp only
      split <;> rfl
    rw [closed]
    exact ⟨fun failure _ => ledger.close.conclude failure fun _ => rfl, fun _ _ _ => ledger.close⟩
  | resize session size =>
    have same : (SessionBackend.begin (.resize session size) racing).2.2.spawner.books = racing.spawner.books :=
      Spawner.resize_books size
    rw [same]
    exact ⟨fun failure _ => (ledger.skip fun _ => rfl).conclude failure fun _ => rfl, fun _ _ later => by cases later⟩
  | sendInput session bytes =>
    have input : (BackendCall.sendInput session bytes).input? session ≠ none := by simp [BackendCall.input?]
    obtain ⟨place, registered⟩ := Assoc.mem_keys_iff.mp (ledger.awaited session _ (List.mem_cons_self ..) input)
    obtain ⟨script, there⟩ := ledger.housed session place registered
    obtain ⟨slot, found, -⟩ := Spawner.slot_of_page there
    obtain ⟨failure, told, written⟩ := Spawner.sendInput_books bytes registered found
    refine ⟨fun other ends => ?_, fun _ _ later => by cases later⟩
    have outcome : failure? (racing.spawner.sendInput session bytes).1 = other := by
      have same : (SessionBackend.begin (.sendInput session bytes) racing).1 =
          .ended (failure? (racing.spawner.sendInput session bytes).1) := by
        change (racing.host.finish _).1 = _
        unfold Host.finish
        dsimp only
        cases (racing.spawner.sendInput session bytes).1 <;> rfl
      exact Progress.ended.inj (same.symm.trans ends)
    have books : (SessionBackend.begin (.sendInput session bytes) racing).2.2.spawner.books =
        racing.spawner.books.write place (bytes, failure) := written
    rw [books, ← outcome, told]
    exact ledger.write registered failure

end Racing

end TerminalDock
