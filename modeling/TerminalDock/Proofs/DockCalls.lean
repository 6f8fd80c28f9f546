import TerminalDock.Proofs.DockRuns
import TerminalDock.Proofs.ScaleSteps

/-! The calls that a turn submits. They wait under new tasks in the order in which the panel submitted them, each is
begun once, and a call that tells a size is submitted only by a task that has ended with the turn. -/

namespace TerminalDock
open Proofs.Steps

def Stage.call? {β : Type} : Stage β → Option BackendCall
  | .call submitted => some submitted
  | _ => none

def Sight.call? {α : Type} : Sight α → Option BackendCall
  | .calling call => some call
  | _ => none

def BackendCall.isResize : BackendCall → Bool
  | .resize .. => true
  | _ => false

namespace Dock
variable {β : Type}

/-- The calls under the tasks from a number on that have not begun. -/
def callsFrom (mark : Loop.TaskId) (dock : Dock β) : List BackendCall :=
  dock.scheduler.running.filterMap fun (task, job) => if mark ≤ task then job.stage.call? else none

def submitted (first last : Dock β) : List BackendCall :=
  last.callsFrom first.scheduler.fresh

def begun (dock : Dock β) : List BackendCall :=
  dock.sights.filterMap Sight.call?

/-- What was seen from one moment to another, these effects among it. -/
def Shows (notes : List Effect) (first last : Dock β) : Prop :=
  ∃ seen, last.sights = first.sights ++ seen ∧ ∀ effect ∈ notes, .effect effect ∈ seen

theorem Shows.of_same {first last : Dock β} (sights : last.sights = first.sights) : Shows [] first last :=
  ⟨[], by rw [sights, List.append_nil], List.forall_mem_nil _⟩

protected theorem Shows.trans {notes more : List Effect} {first middle last : Dock β} (before : Shows notes first middle)
    (later : Shows more middle last) : Shows (notes ++ more) first last := by
  obtain ⟨front, sights, among⟩ := before
  obtain ⟨back, sights', among'⟩ := later
  refine ⟨front ++ back, by rw [sights', sights, List.append_assoc], fun effect member => ?_⟩
  rcases List.mem_append.mp member with old | new
  · exact List.mem_append_left _ (among effect old)
  · exact List.mem_append_right _ (among' effect new)

theorem Shows.unnoted {notes : List Effect} {first last : Dock β} (shows : Shows notes first last) :
    Shows [] first last := by
  obtain ⟨seen, sights, -⟩ := shows
  exact ⟨seen, sights, List.forall_mem_nil _⟩

/-- Tasks are told apart by their numbers, and the panel holds nothing back. -/
structure Orderly (dock : Dock β) : Prop where
  unique : dock.scheduler.running.keys.Nodup
  fresh : ∀ task ∈ dock.scheduler.running.keys, task < dock.scheduler.fresh
  drained : dock.panel.drained = dock.panel

theorem Orderly.silent {dock : Dock β} (orderly : dock.Orderly) :
    dock.panel.registry.outbox = [] ∧ dock.panel.registry.journal = [] := by
  rw [← orderly.drained]
  exact ⟨rfl, rfl⟩

/-- Whose turn it is, if it is the turn of a task, is about an operation or has ended. -/
structure Attends (who : Option Loop.TaskId) (dock : Dock β) : Prop where
  given : ∀ task, who = some task → task < dock.scheduler.fresh
  operation : ∀ task, who = some task → ∀ job, dock.scheduler.running.find? task = some job → job.stage.call? = none

/-- In a part of a turn these calls were submitted, and these effects were seen. -/
structure Posted (who : Option Loop.TaskId) (calls : List BackendCall) (notes : List Effect) (first last : Dock β) :
    Prop where
  orderly : last.Orderly
  attends : last.Attends who
  fresh : first.scheduler.fresh ≤ last.scheduler.fresh
  tasks : ∀ other ∈ last.scheduler.running.keys,
    other ∈ first.scheduler.running.keys ∨ who = some other ∨ first.scheduler.fresh ≤ other
  waiting : ∀ mark ≤ first.scheduler.fresh, last.callsFrom mark = first.callsFrom mark ++ calls
  begun : last.begun = first.begun
  shown : Shows notes first last

def Posts (who : Option Loop.TaskId) (calls : List BackendCall) (notes : List Effect) (first last : Dock β) : Prop :=
  first.Orderly → first.Attends who → Posted who calls notes first last

variable {who : Option Loop.TaskId} {task : Loop.TaskId} {first middle last : Dock β}

namespace Posts
variable {calls more : List BackendCall} {notes : List Effect}

protected theorem refl (dock : Dock β) : Posts who [] [] dock dock :=
  fun orderly attends => ⟨orderly, attends, Nat.le_refl _, fun _ => .inl, fun _ _ => (List.append_nil _).symm, rfl,
    .of_same rfl⟩

protected theorem trans {seen : List Effect} (before : Posts who calls notes first middle)
    (later : Posts who more seen middle last) : Posts who (calls ++ more) (notes ++ seen) first last := by
  intro orderly attends
  have before := before orderly attends
  have later := later before.orderly before.attends
  refine ⟨later.orderly, later.attends, Nat.le_trans before.fresh later.fresh, fun other member => ?_, fun mark old => ?_,
    later.begun.trans before.begun, before.shown.trans later.shown⟩
  · rcases later.tasks other member with old | same | new
    · exact before.tasks other old
    · exact .inr (.inl same)
    · exact .inr (.inr (Nat.le_trans before.fresh new))
  · rw [later.waiting mark (Nat.le_trans old before.fresh), before.waiting mark old, List.append_assoc]

theorem quietly (before : Posts who calls notes first middle) (later : Posts who [] [] middle last) :
    Posts who calls notes first last := by
  have both := before.trans later
  rwa [List.append_nil, List.append_nil] at both

theorem of_running (drained : first.panel.drained = first.panel → last.panel.drained = last.panel)
    (running : last.scheduler.running = first.scheduler.running)
    (fresh : first.scheduler.fresh ≤ last.scheduler.fresh) {more : List (Sight Answer)}
    (sights : last.sights = first.sights ++ more) (quiet : more.filterMap Sight.call? = []) :
    Posts who [] [] first last := by
  intro orderly attends
  refine ⟨⟨?_, ?_, ?_⟩, ⟨?_, ?_⟩, fresh, fun _ member => .inl (running ▸ member), fun mark _ => ?_, ?_,
    more, sights, List.forall_mem_nil _⟩
  · rw [running]
    exact orderly.unique
  · rw [running]
    exact fun task member => Nat.lt_of_lt_of_le (orderly.fresh task member) fresh
  · exact drained orderly.drained
  · exact fun task mine => Nat.lt_of_lt_of_le (attends.given task mine) fresh
  · rw [running]
    exact attends.operation
  · rw [callsFrom, running, List.append_nil, callsFrom]
  · rw [begun, sights, List.filterMap_append, quiet, List.append_nil, begun]

theorem unnoted (posts : Posts who calls notes first last) : Posts who calls [] first last :=
  fun orderly attends => { posts orderly attends with shown := (posts orderly attends).shown.unnoted }

end Posts

theorem see_posts (dock : Dock β) {sights : List (Sight Answer)} (quiet : sights.filterMap Sight.call? = []) :
    Posts who [] [] dock (dock.see sights) :=
  .of_running id rfl (Nat.le_refl _) rfl quiet

theorem log_posts (dock : Dock β) (records : List LogRecord) : Posts who [] [] dock (dock.log records) := by
  refine see_posts dock ?_
  induction records with
  | nil => rfl
  | cons record rest ih => exact ih

theorem conclude_posts (dock : Dock β) (result : Except Failure Answer) :
    Posts task [] [] dock (dock.conclude task result) := by
  have finished : Posts task [] [] dock { dock with scheduler := dock.scheduler.finish task result } := by
    intro orderly attends
    refine ⟨⟨Assoc.keys_remove_nodup orderly.unique task, fun other member => ?_, orderly.drained⟩,
      ⟨attends.given, fun other mine job found => ?_⟩, Nat.le_refl _, fun other member => .inl ?_, fun mark _ => ?_,
        rfl, .of_same rfl⟩
    · exact orderly.fresh other (((Assoc.remove_sublist task dock.scheduler.running).map Prod.fst).subset member)
    · cases mine
      rw [show (dock.scheduler.finish task result).running.find? task = none from Assoc.find?_remove_self orderly.unique]
        at found
      cases found
    · exact ((Assoc.remove_sublist task dock.scheduler.running).map Prod.fst).subset member
    · rw [List.append_nil]
      refine Assoc.filterMap_remove_blank fun job found => ?_
      dsimp only
      split
      · exact attends.operation task rfl job found
      · rfl
  unfold conclude
  dsimp only
  split
  · exact finished
  · exact finished.quietly (see_posts _ rfl)

theorem conclude_result (dock : Dock β) (result : Except Failure Answer) :
    (dock.conclude task result).scheduler.results.find? task = some result := by
  have put : (dock.scheduler.results.put task result).find? task = some result := Assoc.find?_put_self _ _ _
  unfold conclude
  dsimp only
  split <;> exact put

private theorem conclude_ended {dock : Dock β} (unique : dock.scheduler.running.keys.Nodup)
    (result : Except Failure Answer) :
    task ∉ (dock.conclude task result).scheduler.running.keys := by
  have gone : task ∉ (dock.scheduler.running.remove task).keys :=
    Assoc.find?_eq_none.mp (Assoc.find?_remove_self unique)
  unfold conclude
  dsimp only
  split <;> exact gone

theorem suspend_posts (dock : Dock β) {stage : Stage β} (operation : stage.call? = none) :
    Posts task [] [] dock (dock.suspend task stage) := by
  intro orderly attends
  refine ⟨⟨Assoc.keys_put_nodup orderly.unique _, fun other member => ?_, orderly.drained⟩,
    ⟨attends.given, fun other mine job found => ?_⟩, Nat.le_refl _, fun other member => ?_, fun mark _ => ?_, rfl,
      .of_same rfl⟩
  · rcases Assoc.mem_keys_put member with rfl | old
    · exact attends.given other rfl
    · exact orderly.fresh other old
  · cases mine
    rw [show (dock.suspend task stage).scheduler.running.find? task = some _ from Assoc.find?_put_self _ _ _] at found
    cases found
    exact operation
  · rcases Assoc.mem_keys_put member with same | old
    · exact .inr (.inl (congrArg some same.symm))
    · exact .inl old
  · rw [List.append_nil]
    refine (Assoc.filterMap_put_blank ?_).trans (Assoc.filterMap_remove_blank fun job found => ?_)
    · simp [operation]
    · dsimp only
      split
      · exact attends.operation task rfl job found
      · rfl

theorem Posts.of_start {stage : Stage β} {label : Option String} (panel : last.panel = first.panel)
    (running : last.scheduler.running = first.scheduler.running.put first.scheduler.fresh ⟨stage, label⟩)
    (fresh : last.scheduler.fresh = first.scheduler.fresh + 1) (sights : last.sights = first.sights) :
    Posts who stage.call?.toList [] first last := by
  intro orderly attends
  have absent : first.scheduler.fresh ∉ first.scheduler.running.keys :=
    fun member => absurd (orderly.fresh _ member) (Nat.lt_irrefl _)
  have other {task : Loop.TaskId} (mine : who = some task) : task ≠ first.scheduler.fresh :=
    Nat.ne_of_lt (attends.given task mine)
  refine ⟨⟨?_, fun task member => ?_, ?_⟩, ⟨fun task mine => ?_, fun task mine job found => ?_⟩, by omega,
    fun other member => ?_,
    fun mark old => ?_, ?_, .of_same sights⟩
  · rw [running]
    exact Assoc.keys_put_nodup orderly.unique _
  · rw [running] at member
    rcases Assoc.mem_keys_put member with rfl | old
    · rw [fresh]
      exact Nat.lt_succ_self _
    · rw [fresh]
      exact Nat.lt_succ_of_lt (orderly.fresh task old)
  · rw [panel]
    exact orderly.drained
  · rw [fresh]
    exact Nat.lt_succ_of_lt (attends.given task mine)
  · rw [running, Assoc.find?_put_of_ne (other mine)] at found
    exact attends.operation task mine job found
  · rw [running] at member
    rcases Assoc.mem_keys_put member with same | old
    · exact .inr (.inr (Nat.le_of_eq same.symm))
    · exact .inl old
  · rw [callsFrom, running, Assoc.filterMap_put_new absent]
    dsimp only
    rw [if_pos old, callsFrom]
  · rw [begun, sights, begun]

private theorem unlock_posts (dock : Dock β) : Posts who [] [] dock dock.unlock := by
  unfold unlock
  dsimp only
  split
  · exact .of_running id rfl (Nat.le_refl _) (List.append_nil _).symm rfl
  · exact .of_running id rfl (Nat.le_refl _) (List.append_nil _).symm rfl

theorem fresh_waitFor {α ρ : Type} (scheduler : Loop.Scheduler α ρ) (waiter : Loop.TaskId) (tasks : List Loop.TaskId) :
    (scheduler.waitFor waiter tasks).fresh = scheduler.fresh + 1 := by
  obtain ⟨_, _, same⟩ := Loop.Scheduler.waitFor_eq scheduler waiter tasks
  rw [same]

theorem posts_rules (task : Loop.TaskId) :
    EndRules (fun stage : Stage β => stage.call? = none) task (Posts task [] []) (Posts task [] []) where
  refl := .refl
  trans := .quietly
  follow := .quietly
  see dock sights aside := by
    refine see_posts dock (List.filterMap_eq_nil_iff.mpr fun sight member => ?_)
    have aside := aside sight member
    cases sight with
    | calling => cases aside
    | _ => rfl
  start dock stage label operation := by
    have started : Posts task stage.call?.toList [] dock
        { dock with scheduler := (dock.scheduler.start ⟨stage, label⟩).2 } := .of_start rfl rfl rfl rfl
    rwa [operation] at started
  conclude := conclude_posts
  await dock tasks stage gathers := by
    have operation : stage.call? = none := by
      cases stage <;> first | rfl | cases gathers
    refine (suspend_posts dock operation).quietly ?_
    refine .of_running id (Loop.Scheduler.running_waitFor _ _ _) ?_ (List.append_nil _).symm rfl
    rw [fresh_waitFor]
    exact Nat.le_succ _

theorem startAll_posts (dock : Dock β) (stages : List (Stage β)) :
    Posts who (stages.filterMap Stage.call?) [] dock (dock.startAll stages).2 := by
  induction stages generalizing dock with
  | nil => exact .refl dock
  | cons stage rest ih =>
    have started : Posts who stage.call?.toList [] dock
        { dock with scheduler := (dock.scheduler.start ⟨stage, none⟩).2 } := .of_start rfl rfl rfl rfl
    have both := started.trans (ih { dock with scheduler := (dock.scheduler.start ⟨stage, none⟩).2 })
    rw [List.filterMap_cons]
    cases asked : stage.call? with
    | none => rw [asked] at both; exact both
    | some call => rw [asked] at both; exact both

theorem fresh_submit {α ρ : Type} (scheduler : Loop.Scheduler α ρ) (job : α) :
    (scheduler.submit job).fresh = scheduler.fresh + 1 := by
  unfold Loop.Scheduler.submit Loop.Scheduler.onFinish
  dsimp only
  split <;> rfl

private theorem submit_posts (dock : Dock β) (call : BackendCall) :
    Posts who [call] [] dock { dock with scheduler := dock.scheduler.submit ⟨.call call, none⟩ } := by
  have running := Loop.Scheduler.running_submit dock.scheduler (⟨.call call, none⟩ : Job β)
  have fresh := fresh_submit dock.scheduler (⟨.call call, none⟩ : Job β)
  generalize dock.scheduler.submit ⟨.call call, none⟩ = scheduler at running fresh
  have started : Posts who (Stage.call call : Stage β).call?.toList [] dock { dock with scheduler := scheduler } :=
    .of_start rfl running fresh rfl
  exact started

theorem change_posts (dock : Dock β) (f : Panel → Panel) :
    Posts who (f dock.panel).registry.outbox (f dock.panel).registry.journal dock (dock.change f) := by
  have submitted (calls : List BackendCall) (dock : Dock β) : Posts who calls [] dock
      { dock with scheduler := calls.foldl (fun scheduler call => scheduler.submit ⟨.call call, none⟩) dock.scheduler } := by
    induction calls generalizing dock with
    | nil => exact .refl dock
    | cons call rest ih =>
      rw [List.foldl_cons]
      exact (submit_posts dock call).trans (ih { dock with scheduler := dock.scheduler.submit ⟨.call call, none⟩ })
  let middle : Dock β := { dock with
    panel := (f dock.panel).drained
    sights := dock.sights ++ (f dock.panel).registry.journal.map .effect }
  have shown : Posts who [] [] dock middle := by
    refine .of_running (fun _ => rfl) rfl (Nat.le_refl _) rfl ?_
    induction (f dock.panel).registry.journal with
    | nil => rfl
    | cons effect rest ih => exact ih
  intro orderly attends
  have posted := (shown.trans (submitted (f dock.panel).registry.outbox middle)) orderly attends
  exact { posted with shown := ⟨_, rfl, fun effect member => List.mem_map_of_mem member⟩ }

theorem onPanel_posts {α : Type} (dock : Dock β) (act : PanelStep α) :
    Posts who (after act dock.panel).registry.outbox (after act dock.panel).registry.journal dock (dock.onPanel act).2 := by
  rw [onPanel_change]
  exact change_posts dock (after act)

def Closes (task : Loop.TaskId) (calls : List BackendCall) (notes : List Effect) (first last : Dock β) : Prop :=
  Posts task calls notes first last ∧
    (first.Orderly → first.Attends task → task ∉ last.scheduler.running.keys)

section Closes
variable {calls : List BackendCall} {notes : List Effect}

theorem Posts.conclude (before : Posts task calls notes first middle) (result : Except Failure Answer) :
    Closes task calls notes first (middle.conclude task result) :=
  ⟨before.quietly (conclude_posts middle result),
    fun orderly attends => conclude_ended (before orderly attends).orderly.unique result⟩

theorem Posts.concludeOpen (before : Posts task calls notes first middle) (result : Except Failure Answer) :
    Closes task calls notes first (middle.concludeOpen task result) :=
  (before.quietly (unlock_posts middle)).conclude result

theorem Posts.trans_closes (before : Posts task [] [] first middle) (closes : Closes task calls notes middle last) :
    Closes task calls notes first last :=
  ⟨before.trans closes.1, fun orderly attends =>
    closes.2 (before orderly attends).orderly (before orderly attends).attends⟩

theorem Closes.after (closes : Closes task [] [] middle last) (before : Posts task calls notes first middle) :
    Closes task calls notes first last :=
  ⟨before.quietly closes.1, fun orderly attends =>
    closes.2 (before orderly attends).orderly (before orderly attends).attends⟩

end Closes

theorem followUp_closes_failed (dock : Dock β) (purpose : Purpose) (failure : Failure) :
    Closes task [] [] dock (dock.followUp task purpose (.error failure)) := by
  cases purpose with
  | create => exact Posts.conclude (.refl dock) _
  | addTab previous => exact Posts.conclude (.refl dock) _
  | addSession previous =>
    cases failure with
    | spawn place reason => exact Posts.conclude (log_posts dock _) _
    | _ => exact Posts.conclude (.refl dock) _
  | openPanel previous =>
    cases failure with
    | spawn place reason => exact Posts.concludeOpen (log_posts dock _) _
    | _ => exact Posts.concludeOpen (.refl dock) _

/-- Whoever puts a new session in its place submits nothing. -/
theorem followUp_closes_made (dock : Dock β) (purpose : Purpose) (session : Session) :
    Closes task [] [] dock (dock.followUp task purpose (.ok session)) := by
  have kept {f : Panel → Panel} (dock : Dock β)
      (same : (f dock.panel).registry.outbox = dock.panel.registry.outbox) : Posts task [] [] dock (dock.change f) := by
    intro orderly attends
    have nothing : (f dock.panel).registry.outbox = [] := same.trans orderly.silent.1
    have posts : Posts task _ [] dock (dock.change f) := (change_posts dock f).unnoted
    rw [nothing] at posts
    exact posts orderly attends
  have settled (previous : Option Session) : Posts task [] [] dock (dock.settle (.ok session) previous) :=
    kept dock (congrArg (·.registry.outbox) (Panel.settleTab_scale previous session dock.panel))
  cases purpose with
  | create => exact Posts.conclude (.refl dock) _
  | addTab previous => exact (settled previous).conclude _
  | addSession previous => exact (settled previous).conclude _
  | openPanel previous =>
    have shown (panel : Panel) : panel.revealFirst.registry.outbox = panel.registry.outbox :=
      congrArg (fun scale : Panel.Scale => scale.registry.outbox) (Panel.revealFirst_scale panel)
    exact ((settled previous).quietly (kept _ (shown _))).concludeOpen _

end Dock

end TerminalDock
