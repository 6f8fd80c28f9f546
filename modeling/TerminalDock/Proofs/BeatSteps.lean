import TerminalDock.Proofs.DockBeats
import TerminalDock.Proofs.GroupTurns

/-! What a beat does to the work under way: it takes the next turn, or it stirs the work without one. Whoever's turn it is
not stays where it is, and all who asked for a turn get it in the order in which they asked. -/

namespace TerminalDock

namespace Agenda
variable {β : Type} {who : Option Loop.TaskId} {agenda next : Agenda β} {task : Loop.TaskId}

/-- What is done to the work under way between turns: steps that are nobody's, or those of a task that comes into being. -/
inductive Stirred (agenda : Agenda β) : Option Loop.TaskId → Agenda β → Prop
  | calm {next : Agenda β} (steps : Steps (fun _ => True) none agenda next) : Stirred agenda none next
  | begun {next : Agenda β} (job : Job β) (steps : Steps (fun _ => True) (some agenda.scheduler.fresh)
      (agenda.onTasks fun scheduler => (scheduler.create job).2) next) : Stirred agenda (some agenda.scheduler.fresh) next

theorem fresh_given (agenda : Agenda β) (job : Job β) (task : Loop.TaskId) (mine : some agenda.scheduler.fresh = some task) :
    task < (agenda.onTasks fun scheduler => (scheduler.create job).2).scheduler.fresh :=
  Option.some.inj mine ▸ Nat.lt_succ_self agenda.scheduler.fresh

theorem Stirred.found (stirred : agenda.Stirred who next) (bounded : agenda.Bounded) {job : Job β}
    (found : agenda.scheduler.running.find? task = some job) (other : who ≠ some task) :
    next.scheduler.running.find? task = some job := by
  cases stirred with
  | calm steps => exact steps.found bounded (fun _ never => absurd never.symm (Option.some_ne_none _)) found other
  | begun started steps =>
    have older : task ≠ agenda.scheduler.fresh := fun same => other (congrArg some same.symm)
    exact steps.found (bounded.create started) (agenda.fresh_given started)
      ((Assoc.find?_put_of_ne older _ _).trans found) other

theorem Stirred.spares (stirred : agenda.Stirred who next) (bounded : agenda.Bounded) {group : Nat}
    (old : group < agenda.scheduler.fresh) : Loop.Scheduler.Spares group agenda.scheduler next.scheduler := by
  cases stirred with
  | calm steps => exact steps.spares bounded (fun _ never => absurd never.symm (Option.some_ne_none _)) old
  | begun started steps =>
    have created : Loop.Scheduler.Spares group agenda.scheduler (agenda.scheduler.create started).2 := .create _ started
    exact created.trans (steps.spares (bounded.create started) (agenda.fresh_given started) (Nat.lt_succ_of_lt old))

theorem Stirred.results (stirred : agenda.Stirred who next) (other : who ≠ some task) :
    next.scheduler.results.find? task = agenda.scheduler.results.find? task := by
  cases stirred with
  | calm steps | begun _ steps => exact steps.results other

end Agenda

namespace Dock
variable {β : Type} [SessionBackend β] {task : Loop.TaskId}

/-- What a beat that is no turn does to the work under way. -/
theorem stirred_or_turned (dock : Dock β) (beat : Beat β) :
    dock.agenda.Stirred (dock.actor? beat) (dock.beat beat).agenda ∨ beat = .move .turn := by
  cases beat with
  | fire place =>
    have stays : Stays (fun _ => True) none dock (dock.onPanel (Panel.fire place)).2 := onPanel_stays dock _
    exact .inl (.calm stays.steps)
  | move move =>
    cases move with
    | turn => exact .inr rfl
    | ask request =>
      let start : Dock β := { dock with scheduler := (dock.scheduler.create ⟨.begin request, none⟩).2 }
      have present : dock.scheduler.fresh ∈ start.scheduler.running.keys :=
        Assoc.mem_keys_iff.mpr ⟨_, Assoc.find?_put_self _ _ _⟩
      rw [Dock.beat, move_ask]
      exact .inl (.begun _ (begin_works start (Request.grants_all request) present))
    | answer answered =>
      refine .inl (.calm ?_)
      unfold Dock.beat Dock.move
      dsimp only
      split
      next member =>
        have woken : Agenda.Step (fun _ => True) none dock.agenda
            (dock.agenda.onTasks (·.enqueue (.resume answered))) := .wake (.inr member)
        exact .tail (.single woken) (.shift (fun _ => .inl) fun _ inside => .inl (List.mem_of_mem_erase inside))
      next => exact .refl
    | announce event payload =>
      have stays : Stays (fun _ => True) none dock (dock.change fun panel => (panel.emit event payload).2) :=
        change_stays dock _
      exact .inl (.calm stays.steps)

theorem turn_steps (dock : Dock β) : dock.agenda.Turned (fun _ => True) dock.turn.agenda :=
  turn_turned dock fun _ _ request _ => Request.grants_all request

/-- Only a task itself comes to a result. -/
theorem results_kept (dock : Dock β) {beat : Beat β} (other : dock.actor? beat ≠ some task) :
    (dock.beat beat).scheduler.results.find? task = dock.scheduler.results.find? task := by
  rcases dock.stirred_or_turned beat with stirred | rfl
  · exact stirred.results other
  · refine dock.turn_steps.results fun rest ready => other ?_
    simp only [actor?, show dock.scheduler.ready = _ from ready]

def turns (dock : Dock β) (count : Nat) : Dock β :=
  dock.play (List.replicate count (.move .turn))

theorem play_append (dock : Dock β) (made more : List (Beat β)) : dock.play (made ++ more) = (dock.play made).play more :=
  List.foldl_append

theorem turns_add (dock : Dock β) (made more : Nat) : dock.turns (made + more) = (dock.turns made).turns more := by
  rw [turns, List.replicate_add, play_append, turns, turns]

private theorem turns_succ (dock : Dock β) (count : Nat) : dock.turns (count + 1) = dock.turn.turns count := by
  rw [Nat.add_comm, turns_add]
  rfl

/-- Whoever has asked for a turn keeps its place. -/
theorem turn_ready {dock : Dock β} (bounded : dock.agenda.Bounded) {turn : Loop.Turn} {rest : List Loop.Turn}
    (ready : dock.scheduler.ready = turn :: rest) : ∃ more, dock.turn.scheduler.ready = rest ++ more :=
  (dock.turn_steps.ages bounded ready).ready

/-- A turn that was asked for comes. -/
theorem turn_comes {dock : Dock β} (bounded : dock.agenda.Bounded) {turn : Loop.Turn}
    (asked : turn ∈ dock.scheduler.ready) : ∃ count rest, (dock.turns count).scheduler.ready = turn :: rest := by
  obtain ⟨before, after, place⟩ := List.append_of_mem asked
  clear asked
  induction before generalizing dock after with
  | nil => exact ⟨0, after, place⟩
  | cons first before ih =>
    obtain ⟨more, ready⟩ := turn_ready bounded place
    have later : dock.turn.scheduler.ready = before ++ turn :: (after ++ more) := ready.trans (List.append_assoc ..)
    obtain ⟨count, rest, next⟩ := ih (bounded.turned dock.turn_steps) (after ++ more) later
    exact ⟨count + 1, rest, by rw [turns_succ, next]⟩

end Dock

end TerminalDock
