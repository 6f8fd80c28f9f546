import TerminalDock.Panel.Dock
import TerminalDock.Proofs.PanelSteps

/-! What a turn is made of. A relation between docks that grants the parts of a turn spans whatever the task comes to in
it; so each operation is taken apart once, for every such relation. -/

namespace TerminalDock
open Proofs.Steps

/-- What is seen besides the panel and the calls that begin. -/
def Sight.aside {α : Type} : Sight α → Bool
  | .effect (.logged _) | .spawning _ | .noticed _ | .done .. => true
  | _ => false

def Stage.gathers {β : Type} : Stage β → Bool
  | .sweeping .. | .draining _ | .gathering _ => true
  | _ => false

/-- The tasks that an operation starts are allowed. -/
def Request.Grants {β : Type} (licence : Stage β → Prop) : Request β → Prop
  | .background _ request => licence (.begin request)
  | .gather requests => ∀ request ∈ requests, licence (.begin request)
  | .closeAll | .shutdown => ∀ id, licence (.call (.close id))
  | _ => True

theorem Request.grants_all {β : Type} (request : Request β) : request.Grants fun _ => True := by
  cases request <;> first | trivial | exact fun _ => trivial | exact fun _ _ => trivial

/-- A question for a process that is asked now: whoever wants a tab remembers the session that is active. -/
def Purpose.Fresh {β : Type} (simple : Request β → Bool) (registry : Registry) : Purpose → Prop
  | .create => ∃ cwd, simple (.create cwd) = true
  | .addTab previous | .addSession previous | .openPanel previous => previous = registry.activeSession?

namespace Panel

def swept (panel : Panel) : Panel :=
  panel.changeRegistry fun registry => { registry with swept := true }

/-- What turns do to the panel besides what is asked of it. -/
inductive Chore : (Panel → Panel) → Prop
  | sweep : Chore Panel.swept
  | create (cwd : String) (spawned : Except Failure String) (faults : String → WiringFaults) :
    Chore (after (onRegistry (Registry.create cwd spawned faults)))
  | settle (previous : Option Session) (session : Session) : Chore fun panel => panel.settleTab previous session
  | revealFirst : Chore Panel.revealFirst
  | reveal : Chore (after Panel.reveal)
  | hide : Chore Panel.hide

end Panel

namespace Dock
variable {β : Type}

theorem onPanel_change {α : Type} (dock : Dock β) (act : PanelStep α) : (dock.onPanel act).2 = dock.change (after act) := by
  simp only [onPanel, change, after]
  cases act dock.panel <;> rfl

variable {licence : Stage β → Prop} {task : Loop.TaskId} {goes ends : Dock β → Dock β → Prop}

/-- What has to hold of the parts of a turn that leave the panel and the backend alone, and after which the task is still
at work. Tasks may be started at the stages of the licence. -/
structure CalmRules (licence : Stage β → Prop) (goes : Dock β → Dock β → Prop) : Prop where
  refl (dock : Dock β) : goes dock dock
  trans {first middle last : Dock β} (before : goes first middle) (later : goes middle last) : goes first last
  see (dock : Dock β) {sights : List (Sight Answer)} (aside : ∀ sight ∈ sights, sight.aside = true) :
    goes dock (dock.see sights)
  start (dock : Dock β) {stage : Stage β} (label : Option String) (fair : licence stage) :
    goes dock { dock with scheduler := (dock.scheduler.start ⟨stage, label⟩).2 }

/-- What has to hold besides of the other parts after which the task is still at work. -/
structure PartRules (licence : Stage β → Prop) (goes : Dock β → Dock β → Prop) : Prop extends CalmRules licence goes where
  serve (dock : Dock β) (backend : β) : goes dock { dock with backend := backend }
  change (dock : Dock β) {f : Panel → Panel} (chore : Panel.Chore f) : goes dock (dock.change f)
  unlock (dock : Dock β) : goes dock dock.unlock
  take (dock : Dock β) {waiting : List Loop.TaskId} (fewer : waiting.Sublist dock.lock.waiting) :
    goes dock { dock with lock := ⟨true, waiting⟩ }
  free (dock : Dock β) {first : Loop.TaskId} {rest : List Loop.TaskId} (held : dock.held = first :: rest) :
    goes dock { dock with held := rest, scheduler := dock.scheduler.enqueue (.resume first) }

/-- What has to hold of the ends of a turn at which the task has ended or waits for others. -/
structure EndRules (licence : Stage β → Prop) (task : Loop.TaskId) (goes ends : Dock β → Dock β → Prop) : Prop extends
    CalmRules licence goes where
  follow {first middle last : Dock β} (before : goes first middle) (later : ends middle last) : ends first last
  conclude (dock : Dock β) (result : Except Failure Answer) : ends dock (dock.conclude task result)
  await (dock : Dock β) (tasks : List Loop.TaskId) {stage : Stage β} (gathers : stage.gathers = true) :
    ends dock { dock.suspend task stage with scheduler := (dock.suspend task stage).scheduler.waitFor task tasks }

/-- What has to hold of a turn, whatever the task comes to in it, unless a call begins or the panel does what was asked
for. -/
structure TurnRules (licence : Stage β → Prop) (task : Loop.TaskId) (goes ends : Dock β → Dock β → Prop) : Prop extends
    EndRules licence task goes ends, PartRules licence goes where
  hold (dock : Dock β) (cwd : String) {purpose : Purpose}
      (fresh : purpose.Fresh (fun _ : Request β => true) dock.panel.registry) :
    ends dock { dock.suspend task (.spawning cwd purpose) with held := dock.held ++ [task] }
  queue (dock : Dock β) :
    ends dock { dock.suspend task .queued with lock := { dock.lock with waiting := dock.lock.waiting ++ [task] } }

namespace CalmRules
variable (rules : CalmRules licence goes)
include rules

theorem log (dock : Dock β) (records : List LogRecord) : goes dock (dock.log records) := by
  refine rules.see dock fun sight member => ?_
  obtain ⟨record, -, rfl⟩ := List.mem_map.mp member
  rfl

theorem startAll (dock : Dock β) {stages : List (Stage β)} (fair : ∀ stage ∈ stages, licence stage) :
    goes dock (dock.startAll stages).2 := by
  induction stages generalizing dock with
  | nil => exact rules.refl dock
  | cons stage rest ih =>
    have started : goes dock { dock with scheduler := (dock.scheduler.start ⟨stage, none⟩).2 } :=
      rules.start dock none (fair stage (List.mem_cons_self ..))
    exact rules.trans started (ih _ fun other member => fair other (List.mem_cons_of_mem _ member))

end CalmRules

namespace EndRules
variable (rules : EndRules licence task goes ends)
include rules

theorem waitFor {dock : Dock β} (tasks : List Loop.TaskId) {stage : Stage β} {goOn : Dock β → Dock β}
    (gathers : stage.gathers = true) (rest : ends dock (goOn dock)) : ends dock (dock.waitFor task tasks stage goOn) := by
  unfold Dock.waitFor
  split
  · exact rest
  · exact rules.await dock tasks gathers

theorem drain (dock : Dock β) (answer : Answer) : ends dock (dock.drain task answer) :=
  rules.waitFor _ rfl (rules.conclude dock _)

theorem endSweep (dock : Dock β) (calls : List Loop.TaskId) (drainAfter : Bool) :
    ends dock (dock.endSweep task calls drainAfter) := by
  unfold Dock.endSweep
  dsimp only
  split
  · exact rules.follow (rules.log dock _) (rules.drain _ _)
  · exact rules.follow (rules.log dock _) (rules.conclude _ _)

theorem concludeCall (dock : Dock β) (call : BackendCall) (failure : Option Failure) (records : List LogRecord) :
    ends dock (dock.concludeCall task call failure records) := by
  have noticed (dock : Dock β) (notices : List Transport.Notice) : goes dock (dock.see (notices.map .noticed)) := by
    refine rules.see dock fun sight member => ?_
    obtain ⟨notice, -, rfl⟩ := List.mem_map.mp member
    rfl
  exact rules.follow (rules.trans (rules.log dock records) (noticed _ _)) (rules.conclude _ _)

end EndRules

namespace TurnRules
variable (rules : TurnRules licence task goes ends)
include rules

theorem concludeOpen (dock : Dock β) (result : Except Failure Answer) : ends dock (dock.concludeOpen task result) :=
  rules.follow (rules.unlock dock) (rules.conclude _ _)

theorem settle (dock : Dock β) (made : Except Failure Session) (previous : Option Session) :
    goes dock (dock.settle made previous) := by
  cases made with
  | error failure => exact rules.refl dock
  | ok session => exact rules.change dock (.settle previous session)

theorem followUp (dock : Dock β) (purpose : Purpose) (made : Except Failure Session) :
    ends dock (dock.followUp task purpose made) := by
  have settled (previous : Option Session) := rules.settle dock made previous
  unfold Dock.followUp
  cases purpose with
  | create => exact rules.conclude dock _
  | addTab previous => exact rules.follow (settled previous) (rules.conclude _ _)
  | addSession previous =>
    dsimp only
    split
    · exact rules.follow (rules.trans (settled previous) (rules.log _ _)) (rules.conclude _ _)
    · exact rules.follow (settled previous) (rules.conclude _ _)
  | openPanel previous =>
    dsimp only
    split
    · exact rules.follow (rules.trans (settled previous) (rules.log _ _)) (rules.concludeOpen _ _)
    · exact rules.follow (settled previous) (rules.concludeOpen _ _)
    · exact rules.follow (rules.trans (settled previous) (rules.change _ .revealFirst)) (rules.concludeOpen _ _)

theorem release (dock : Dock β) : ends dock (dock.release task) := by
  unfold Dock.release
  split
  · exact rules.conclude dock _
  next held => exact rules.follow (rules.free dock held) (rules.conclude _ _)

theorem sweep (dock : Dock β) (drainAfter : Bool) (fair : ∀ id, licence (.call (.close id))) :
    ends dock (dock.sweep task drainAfter) := by
  unfold Dock.sweep
  dsimp only
  split
  · split
    · exact rules.drain dock _
    · exact rules.conclude dock _
  · have closing : ∀ stage ∈ dock.panel.registry.sessions.keys.map (fun id => (Stage.call (.close id) : Stage β)),
        licence stage :=
      List.forall_mem_map.mpr fun id _ => fair id
    exact rules.follow (rules.trans (rules.change dock .sweep) (rules.startAll _ closing))
      (rules.waitFor _ rfl (rules.endSweep _ _ drainAfter))

variable [SessionBackend β]

theorem endSpawn (dock : Dock β) (cwd : String) (purpose : Purpose) : ends dock (dock.endSpawn task cwd purpose) := by
  have asked (backend : β) (records : List LogRecord) : goes dock ({ dock with backend := backend }.log records) :=
    rules.trans (rules.serve dock backend) (rules.log _ records)
  have made (dock : Dock β) (spawned : Except Failure String) (faults : String → WiringFaults) :
      goes dock (dock.onPanel (Panel.onRegistry (Registry.create cwd spawned faults))).2 := by
    rw [onPanel_change]
    exact rules.change dock (.create cwd spawned faults)
  exact rules.follow (rules.trans (asked _ _) (made _ _ _)) (rules.followUp _ purpose _)

theorem beginSpawn (dock : Dock β) (cwd : String) {purpose : Purpose}
    (fresh : purpose.Fresh (fun _ : Request β => true) dock.panel.registry) :
    ends dock (dock.beginSpawn task cwd purpose) := by
  have asked (backend : β) (records : List LogRecord) :
      goes dock ({ dock.see [.spawning cwd] with backend := backend }.log records) := by
    have seen : goes dock (dock.see [.spawning cwd]) := by
      refine rules.see dock fun sight member => ?_
      obtain rfl := List.mem_singleton.mp member
      rfl
    exact rules.trans (rules.trans seen (rules.serve _ backend)) (rules.log _ records)
  unfold Dock.beginSpawn
  dsimp only
  split
  · exact rules.follow (asked _ _) (rules.hold _ cwd fresh)
  · exact rules.follow (asked _ _) (rules.endSpawn _ cwd purpose)

theorem openLocked (dock : Dock β) : ends dock (dock.openLocked task) := by
  unfold Dock.openLocked
  split
  · exact rules.concludeOpen dock _
  · split
    · exact rules.beginSpawn dock _ rfl
    · have shown : goes dock (dock.onPanel Panel.reveal).2 := by
        rw [onPanel_change]
        exact rules.change dock .reveal
      exact rules.follow shown (rules.concludeOpen _ _)

theorem beginOpen (dock : Dock β) : ends dock (dock.beginOpen task) := by
  unfold Dock.beginOpen
  split
  · exact rules.queue dock
  · exact rules.follow (rules.take dock (.refl _)) (rules.openLocked _)

theorem enter (dock : Dock β) : ends dock (dock.enter task) :=
  rules.follow (rules.take dock List.erase_sublist) (rules.openLocked _)

theorem begin (dock : Dock β) {request : Request β} (grants : request.Grants licence)
    (unasked : Panel.perform? request = none) : ends dock (dock.begin task request) := by
  cases request with
  | openPanel => exact rules.beginOpen dock
  | toggle =>
    simp only [Dock.begin]
    split
    · exact rules.follow (rules.change dock .hide) (rules.conclude _ _)
    · exact rules.beginOpen dock
  | add cwd => exact rules.beginSpawn dock _ rfl
  | addTab cwd => exact rules.beginSpawn dock _ rfl
  | create cwd => exact rules.beginSpawn dock _ ⟨cwd, rfl⟩
  | closeAll => exact rules.sweep dock false grants
  | shutdown => exact rules.sweep dock true grants
  | drain => exact rules.drain dock _
  | release => exact rules.release dock
  | adjust change => exact rules.follow (rules.serve dock _) (rules.conclude _ _)
  | background name request => exact rules.follow (rules.start dock (some name) grants) (rules.conclude _ _)
  | gather requests =>
    have fair : ∀ stage ∈ requests.map Stage.begin, licence stage :=
      List.forall_mem_map.mpr fun inner inside => grants inner inside
    simp only [Dock.begin]
    exact rules.follow (rules.startAll dock fair) (rules.waitFor _ rfl (rules.conclude _ _))
  | _ => cases unasked

theorem resume (dock : Dock β) {job : Job β} (found : dock.scheduler.running.find? task = some job)
    (begins : ∀ request, job.stage = .begin request → ends dock (dock.begin task request))
    (calls : ∀ call, job.stage = .call call → ends dock (dock.beginCall task call)) :
    ends dock (dock.resume task) := by
  obtain ⟨stage, label⟩ := job
  simp only [Dock.resume, found]
  cases stage with
  | begin request => exact begins request rfl
  | call call => exact calls call rfl
  | callEnding call failure records => exact rules.concludeCall dock call failure records
  | spawning cwd purpose => exact rules.endSpawn dock cwd purpose
  | queued => exact rules.enter dock
  | sweeping tasks drainAfter => exact rules.endSweep dock tasks drainAfter
  | draining answer => exact rules.drain dock answer
  | gathering tasks => exact rules.conclude dock _

end TurnRules

/-- What the panel alone is asked for is done and ended at once. -/
theorem begin_performs [SessionBackend β] {request : Request β} {act : PanelStep Answer}
    (found : Panel.perform? request = some act) (task : Loop.TaskId) (dock : Dock β) :
    dock.begin task request = (dock.onPanel act).2.conclude task (dock.onPanel act).1 := by
  cases request <;> cases found <;> rfl

end Dock

end TerminalDock
