import TerminalDock.Proofs.Processes
import TerminalDock.Proofs.ScaleRuns
import TerminalDock.Proofs.Teardown

/-! A panel over terminals. Whatever it does until the end, its processes are tended; and once the end was asked for,
they are tended until no call is made any more. -/

namespace TerminalDock
open Pty Proofs.Steps

def Request.apart {β : Type} : Request β → Bool
  | .adjust _ => false
  | _ => true

theorem Request.apart_of_windowed {β : Type} (request : Request β) (windowed : request.windowed = true) :
    request.apart = true := by
  cases request with
  | adjust change => cases windowed
  | _ => rfl

namespace Agenda
variable {β : Type} {licence : Stage β → Prop} {agenda next : Agenda β} {sweeper : Loop.TaskId}

/-- Nobody sweeps, and calls are made only while they are pending. -/
structure Underway (agenda : Agenda β) : Prop where
  bounded : agenda.Bounded
  kept : agenda.Kept none []

/-- What nobody's steps change. -/
def Lasting (known : Agenda β → Prop) : Prop :=
  ∀ ⦃agenda next : Agenda β⦄, Step Stage.Windowed none agenda next → known agenda → known next

theorem Lasting.steps {known : Agenda β → Prop} (lasting : Lasting known) (steps : Steps Stage.Windowed none agenda next)
    (holds : known agenda) : known next := by
  induction steps with
  | refl => exact holds
  | tail _ step ih => exact lasting step ih

namespace Underway

theorem idle : (⟨{}, [], []⟩ : Agenda β).Underway := by
  refine ⟨⟨.empty, List.forall_mem_nil _, List.forall_mem_nil _⟩, ⟨.empty, ?_, ?_⟩⟩
  · intro task job found
    cases (show none = some job from found)
  · intro task label request found
    cases (show none = some (⟨.begin request, label⟩ : Job β) from found)

theorem lasting : Lasting (Underway : Agenda β → Prop) :=
  fun _ _ step underway => ⟨underway.bounded.step step nofun, underway.kept.step underway.bounded step⟩

theorem grants (underway : agenda.Underway) : ∀ task label request,
    agenda.scheduler.running.find? task = some ⟨.begin request, label⟩ → request.Grants Stage.Windowed :=
  fun task label request found =>
    Request.windowed_grants ((underway.kept.begins task label request found).resolve_right nofun)

theorem turned (underway : agenda.Underway) (turned : Turned Stage.Windowed agenda next) : next.Underway :=
  ⟨underway.bounded.turned turned, underway.kept.turned underway.bounded turned⟩

theorem asked (underway : agenda.Underway) {request : Request β} (windowed : request.only Request.windowed = true)
    (steps : Steps Stage.Windowed (some agenda.scheduler.fresh)
      (agenda.onTasks fun scheduler => (scheduler.create ⟨.begin request, none⟩).2) next) : next.Underway := by
  have both := steps.keep (·.Kept none []) (underway.bounded.create _) (fun task mine => ?_)
    (fun step before kept => kept.step before step) (underway.kept.create underway.bounded none (.inl windowed))
  · exact ⟨both.1, both.2⟩
  · cases mine
    exact Nat.lt_succ_self _

end Underway

/-- The end was asked for, and whoever sweeps has finished or has not. -/
def Ending (sweeper : Loop.TaskId) (agenda : Agenda β) : Prop :=
  agenda.Sweeping sweeper ∨ agenda.Swept sweeper

theorem Ending.sweeping (ending : agenda.Ending sweeper) (unfinished : agenda.scheduler.results.has sweeper = false) :
    agenda.Sweeping sweeper :=
  ending.resolve_right fun swept => by cases unfinished.symm.trans swept.1

theorem Ending.silent (ending : agenda.Ending sweeper) (finished : agenda.scheduler.results.has sweeper = true) :
    agenda.Silent := by
  rcases ending with sweeping | swept
  · obtain ⟨-, ⟨job, -, working⟩, -⟩ := sweeping
    obtain ⟨result, found⟩ := Assoc.has_iff.mp finished
    cases working.unfinished.symm.trans found
  · exact swept.2

end Agenda

namespace Stroke
variable {landing : Option (String × Purpose)} {panel next : Panel} {backend other : Host PuppetPty}

/-- Whatever strikes the panel, the processes are tended. -/
theorem tended (stroke : Stroke Request.apart landing panel backend next other) (tended : backend.Tended) :
    other.Tended := by
  cases stroke with
  | call call => exact tended.begin call
  | adjust allowed => cases allowed
  | land waited known => exact tended.spawn _
  | landAtOnce free fresh => exact free ▸ tended.spawn _
  | _ => exact tended

end Stroke

namespace Dock

/-- A panel over terminals. Its processes are tended, and this is known of the work under way. -/
structure Tended (known : Agenda (Host PuppetPty) → Prop) (dock : Dock (Host PuppetPty)) : Prop where
  valid : dock.Valid Request.apart
  host : dock.backend.Tended
  known : known dock.agenda

namespace Tended
variable {known : Agenda (Host PuppetPty) → Prop} {first last dock : Dock (Host PuppetPty)} {sweeper : Loop.TaskId}

theorem of_strikes {later : Agenda (Host PuppetPty) → Prop} {landing : Option (String × Purpose)}
    (tended : first.Tended known)
    (strikes : Strikes Request.apart landing first last) (holds : later last.agenda) : last.Tended later := by
  refine ⟨tended.valid.of_strikes strikes, ?_, holds⟩
  obtain ⟨panel, backend, stroke, yields⟩ := strikes
  rw [yields.backend]
  exact stroke.tended tended.host

theorem of_alike (tended : first.Tended known) (same : last.agenda = first.agenda)
    (sound : Panel.Sound first.panel last.panel)
    (host : last.backend.Tended) : last.Tended known := by
  obtain ⟨registry, grown⟩ := sound tended.valid.registry
  refine ⟨⟨registry, fun job member => ?_⟩, host, same ▸ tended.known⟩
  have running : last.scheduler.running = first.scheduler.running :=
    congrArg (fun agenda : Agenda (Host PuppetPty) => agenda.scheduler.running) same
  rw [jobs, running] at member
  exact (tended.valid.licensed job member).grow grown

theorem change (tended : dock.Tended known) (lasting : Agenda.Lasting known) {f : Panel → Panel}
    (sound : Panel.Sound dock.panel (f dock.panel)) : (dock.change f).Tended known := by
  have yields : Yields (Novel Request.apart dock.panel.registry) dock (f dock.panel).drained dock.backend (dock.change f) :=
    change_yields dock f
  have stays : Stays Stage.Windowed none dock (dock.change f) := change_stays dock f
  refine ⟨tended.valid.of_yields yields (sound.trans (Panel.drained_quiet _).sound), ?_,
    lasting.steps stays.steps tended.known⟩
  rw [yields.backend]
  exact tended.host

theorem turn (tended : dock.Tended Agenda.Underway) : dock.turn.Tended Agenda.Underway :=
  tended.of_strikes (turn_strikes dock tended.valid.licensed)
    (tended.known.turned (turn_turned dock tended.known.grants))

theorem ask (tended : dock.Tended Agenda.Underway) {request : Request (Host PuppetPty)}
    (windowed : request.only Request.windowed = true) : (dock.move (.ask request)).Tended Agenda.Underway := by
  have apart := Request.only_mono Request.apart_of_windowed request windowed
  have strikes : Strikes Request.apart none dock (dock.move (.ask request)) := ask_strikes dock apart
  refine tended.of_strikes strikes (tended.known.asked windowed ?_)
  rw [move_ask]
  let created : Dock (Host PuppetPty) := { dock with scheduler := (dock.scheduler.create ⟨.begin request, none⟩).2 }
  have present : dock.scheduler.fresh ∈ created.scheduler.running.keys :=
    Assoc.mem_keys_iff.mpr ⟨_, Assoc.find?_put_self _ _ _⟩
  exact begin_works created (Request.windowed_grants windowed) present

theorem serve (tended : dock.Tended Agenda.Underway) (task : Loop.TaskId) (fuel : Nat) :
    (dock.serve task fuel).Tended Agenda.Underway := by
  induction fuel generalizing dock with
  | zero => exact tended
  | succ fuel ih =>
    unfold Dock.serve
    split
    · exact tended
    · exact ih tended.turn

theorem await (tended : dock.Tended Agenda.Underway) {request : Request (Host PuppetPty)}
    (windowed : request.only Request.windowed = true) : (dock.await request).2.Tended Agenda.Underway :=
  (tended.ask windowed).serve _ _

theorem shutdown (tended : dock.Tended Agenda.Underway) :
    (dock.move (.ask .shutdown)).Tended (Agenda.Ending dock.scheduler.fresh) := by
  have strikes : Strikes Request.apart none dock (dock.move (.ask .shutdown)) := ask_strikes dock rfl
  exact tended.of_strikes strikes (shutdown_sweeps tended.known.bounded tended.known.kept)

theorem turn_sweeping (tended : dock.Tended (Agenda.Sweeping sweeper)) :
    dock.turn.Tended (Agenda.Ending sweeper) :=
  tended.of_strikes (turn_strikes dock tended.valid.licensed) (Dock.turn_sweeping tended.known)

end Tended

end Dock

end TerminalDock
