import TerminalDock.Proofs.LockTurns
import TerminalDock.Proofs.OpenPanel

/-! Opens and hides of a panel, with an account of the processes that are asked for: what an operation comes to that
opens the panel, and what it answers. -/

namespace TerminalDock
open Proofs.Steps

/-- A backend with an account of the processes that were asked for: those of which no session could be made, and those of
which one was. -/
structure Ledger (β : Type) where
  inner : β
  asked : Nat := 0
  failed : Nat := 0
  made : Nat := 0

instance {β : Type} [SessionBackend β] : SessionBackend (Ledger β) where
  ask cwd ledger :=
    let answer := SessionBackend.ask cwd ledger.inner
    (answer.1, answer.2.1, { ledger with inner := answer.2.2, asked := ledger.asked + 1 })
  spawn cwd ledger :=
    let answer := SessionBackend.spawn cwd ledger.inner
    let usable := Registry.usable answer.1 (SessionBackend.wiring answer.2.2)
    (answer.1, answer.2.1, { ledger with
      inner := answer.2.2
      failed := ledger.failed + (!usable).toNat
      made := ledger.made + usable.toNat })
  begin call ledger :=
    let answer := SessionBackend.begin call ledger.inner
    (answer.1, answer.2.1, { ledger with inner := answer.2.2 })
  wiring ledger := SessionBackend.wiring ledger.inner

def Request.opens {β : Type} : Request β → Bool
  | .openPanel | .hide => true
  | _ => false

namespace Stage
variable {β : Type}

def opening : Stage β → Bool
  | .begin .openPanel | .queued | .spawning _ (.openPanel _) => true
  | _ => false

/-- Work that opens and hides leave to be done, in a panel without sessions. -/
def Opens : Stage β → Prop
  | .begin request => request.only Request.opens = true
  | .spawning _ (.openPanel none) => True
  | _ => False

end Stage

/-- How things stand with a panel: how many sessions there are, whether it is shown, whether the lock of opening is taken,
and what became of the processes that were asked for. -/
structure Standing where
  size : Nat
  shown : Bool
  taken : Bool
  asked : Nat
  failed : Nat
  made : Nat

namespace Standing
variable {first last : Standing} {fault : Option Failure} {answer : Option (Except Failure Bool)} {usable : Bool}

/-- A process was answered for, and whoever has the lock of opening gives it back. -/
inductive Settles : Bool → Standing → Standing → Prop
  | refused (standing : Standing) : Settles false standing { standing with taken := false, failed := standing.failed + 1 }
  | granted (standing : Standing) :
    Settles true standing { standing with size := 1, shown := true, taken := false, made := standing.made + 1 }

/-- What whoever has taken the lock of opening does at once, and what it answers if that is all. A hidden panel that has a
session is shown, even if the session cannot be fitted. -/
inductive Enters (fault : Option Failure) : Option (Except Failure Bool) → Standing → Standing → Prop
  | shown {standing : Standing} (shown : standing.shown = true) :
    Enters fault (some (.ok true)) standing { standing with taken := false }
  | revealed {standing : Standing} (hidden : standing.shown = false) (peopled : standing.size ≠ 0) :
    Enters fault (some (fault.elim (.ok true) .error)) standing { standing with shown := true, taken := false }
  | asked {standing : Standing} (hidden : standing.shown = false) (empty : standing.size = 0) :
    Enters fault none standing { standing with asked := standing.asked + 1 }
  | settled {standing last : Standing} {usable : Bool} (hidden : standing.shown = false) (empty : standing.size = 0)
      (settles : Settles usable { standing with asked := standing.asked + 1 } last) :
    Enters fault (some (.ok usable)) standing last

/-- What an operation does that opens the panel or hides it. -/
inductive Deed (fault : Option Failure) : Option (Except Failure Bool) → Standing → Standing → Prop
  | rest (standing : Standing) : Deed fault none standing standing
  | hidden (standing : Standing) : Deed fault none standing { standing with shown := false }
  | entered {standing last : Standing} {answer : Option (Except Failure Bool)} (free : standing.taken = false)
      (enters : Enters fault answer { standing with taken := true } last) : Deed fault answer standing last
  | settled {standing last : Standing} {usable : Bool} (taken : standing.taken = true)
      (settles : Settles usable standing last) : Deed fault (some (.ok usable)) standing last

/-- There is one session at most; a process is asked for while the lock of opening is taken, and never again once one was
of use. -/
structure Sound (standing : Standing) : Prop where
  size : standing.size = standing.made
  single : standing.made ≤ 1
  spawned : standing.asked = standing.failed + standing.made + standing.taken.toNat
  shown : standing.shown = true → standing.made = 1
  taken : standing.taken = true → standing.made = 0

/-- Whoever finds a session in a hidden panel fails as its fit does; everybody else tells whether there is a session. -/
def verdict (fault : Option Failure) (first last : Standing) : Except Failure Bool :=
  if first.shown = false ∧ 0 < first.made then fault.elim (.ok true) .error else .ok (decide (0 < last.made))

/-- What is answered, while the panel is shown if there is a session. -/
structure Answers (fault : Option Failure) (first last : Standing) (answer : Except Failure Bool) : Prop where
  told : answer = verdict fault first last
  shown : last.shown = decide (0 < last.made)

theorem Sound.hidden (sound : first.Sound) (none : first.made = 0) : first.shown = false := by
  refine Bool.eq_false_iff.mpr fun shown => ?_
  rw [sound.shown shown] at none
  cases none

theorem Settles.sound (settles : Settles usable first last) (sound : first.Sound) (taken : first.taken = true) :
    last.Sound ∧ (decide (0 < last.made) = usable ∧ last.shown = usable) ∧ last.asked = first.asked := by
  have none := sound.taken taken
  have spawned := sound.spawned
  rw [taken, none] at spawned
  cases settles with
  | refused =>
    have hidden := sound.hidden none
    refine ⟨⟨sound.size, sound.single, ?_, sound.shown, fun _ => none⟩, ⟨by simp [none], hidden⟩, rfl⟩
    change first.asked = first.failed + 1 + first.made + 0
    rw [none]
    exact spawned
  | granted =>
    refine ⟨⟨?_, ?_, ?_, fun _ => ?_, Bool.noConfusion⟩, ⟨by simp, rfl⟩, rfl⟩
    · simp [none]
    · simp [none]
    · simpa [none] using spawned
    · simp [none]

/-- Whoever settles for a process, or for none, tells whether there is a session now. -/
theorem Answers.of_settled (none : first.made = 0) (settled : decide (0 < last.made) = usable ∧ last.shown = usable) :
    Answers fault first last (.ok usable) := by
  refine ⟨?_, settled.2.trans settled.1.symm⟩
  rw [verdict, none, if_neg (fun both => absurd both.2 (Nat.lt_irrefl 0)), settled.1]

/-- One deed keeps things sound; once there is a session it asks for no process. -/
theorem Deed.sound (deed : Deed fault answer first last) (sound : first.Sound) : last.Sound ∧
    (∀ told, answer = some told → Answers fault first last told) ∧ (0 < first.made → last.asked = first.asked) := by
  cases deed with
  | rest => exact ⟨sound, fun _ never => absurd never.symm (Option.some_ne_none _), fun _ => rfl⟩
  | hidden =>
    exact ⟨⟨sound.size, sound.single, sound.spawned, Bool.noConfusion, sound.taken⟩,
      fun _ never => absurd never.symm (Option.some_ne_none _), fun _ => rfl⟩
  | settled taken settles =>
    obtain ⟨after, told, same⟩ := settles.sound sound taken
    exact ⟨after, fun _ same => Option.some.inj same ▸ .of_settled (sound.taken taken) told, fun _ => same⟩
  | entered free enters =>
    have unspawned := sound.spawned
    rw [free] at unspawned
    cases enters with
    | shown shown =>
      have open_before : first.shown = true := shown
      have made := sound.shown open_before
      refine ⟨⟨sound.size, sound.single, unspawned, sound.shown, Bool.noConfusion⟩, fun told same => ?_, fun _ => rfl⟩
      cases same
      refine ⟨?_, open_before.trans (by simp [made])⟩
      rw [verdict, open_before, if_neg (fun both => Bool.noConfusion both.1)]
      simp [made]
    | revealed hidden peopled =>
      have made : first.made = 1 := by
        have size := sound.size
        have single := sound.single
        change first.size ≠ 0 at peopled
        omega
      have closed : first.shown = false := hidden
      refine ⟨⟨sound.size, sound.single, unspawned, fun _ => made, Bool.noConfusion⟩, fun told same => ?_, fun _ => rfl⟩
      cases same
      refine ⟨?_, by simp [made]⟩
      rw [verdict, if_pos ⟨closed, made ▸ Nat.one_pos⟩]
    | asked hidden empty =>
      have none : first.made = 0 := sound.size.symm.trans empty
      refine ⟨⟨sound.size, sound.single, ?_, sound.shown, fun _ => none⟩,
        fun _ never => absurd never.symm (Option.some_ne_none _), fun some => ?_⟩
      · exact congrArg (· + 1) unspawned
      · rw [none] at some
        cases some
    | settled hidden empty settles =>
      have none : first.made = 0 := sound.size.symm.trans empty
      have asking : ({ first with taken := true, asked := first.asked + 1 } : Standing).Sound :=
        ⟨sound.size, sound.single, congrArg (· + 1) unspawned, sound.shown, fun _ => none⟩
      obtain ⟨after, told, -⟩ := settles.sound asking rfl
      refine ⟨after, fun _ same => Option.some.inj same ▸ .of_settled none told, fun some => ?_⟩
      rw [none] at some
      cases some

end Standing

namespace Dock
variable {β : Type} {task : Loop.TaskId}

def standing (dock : Dock (Ledger β)) : Standing where
  size := dock.panel.registry.size
  shown := dock.panel.isOpen
  taken := dock.lock.taken
  asked := dock.backend.asked
  failed := dock.backend.failed
  made := dock.backend.made

/-- A task that opens the panel has this answer, or is still at it. -/
def Ends (dock : Dock β) (task : Loop.TaskId) : Option (Except Failure Bool) → Prop
  | some answer => dock.scheduler.results.find? task = some (answer.map .flag)
  | none => dock.During Stage.opening task

/-- What a part of a turn does, in which a task may open the panel. -/
structure Does (deed : Option Failure → Option (Except Failure Bool) → Standing → Standing → Prop) (opens : Prop)
    (task : Loop.TaskId) (first last : Dock (Ledger β)) : Prop where
  deed : ∃ answer, deed first.panel.registry.obstacle? answer first.standing last.standing ∧
    (opens → last.Ends task answer)
  jobs : ∀ job ∈ last.jobs, job ∈ first.jobs ∨ job.stage.plain = true ∨ job.stage.Opens

private theorem unlock_taken (dock : Dock β) : dock.unlock.lock.taken = false := by
  unfold unlock
  dsimp only
  split <;> rfl

theorem standing_of_front {first last : Dock (Ledger β)} {size : Nat} {shown : Bool} (backend : last.backend = first.backend)
    (lock : last.lock = first.lock) (front : last.panel.front = (size, shown)) :
    last.standing = { first.standing with size := size, shown := shown } := by
  unfold standing
  rw [backend, lock, show last.panel.registry.size = size from congrArg Prod.fst front,
    show last.panel.isOpen = shown from congrArg Prod.snd front]

theorem onPanel_lock {α : Type} (dock : Dock β) (act : PanelStep α) : (dock.onPanel act).2.lock = dock.lock := by
  rw [onPanel_change]
  rfl

private theorem standing_concludeOpen (dock : Dock (Ledger β)) (result : Except Failure Answer) :
    (dock.concludeOpen task result).standing = { dock.standing with taken := false } := by
  have calm : Calm (fun _ => True) dock (dock.concludeOpen task result) := concludeOpen_calm dock task result
  have free : (dock.concludeOpen task result).lock.taken = false := by
    unfold concludeOpen
    rw [(conclude_same _ _ _).2.1, unlock_taken]
  unfold standing
  rw [calm.panel, calm.backend, free]

private theorem followUp_ends (dock : Dock (Ledger β)) (task : Loop.TaskId) (previous : Option Session)
    {made : Except Failure Session} {answer : Bool}
    (told : (∃ session, made = .ok session) ∧ answer = true ∨ (∃ place reason, made = .error (.spawn place reason)) ∧
      answer = false) :
    (dock.followUp task (.openPanel previous) made).lock.taken = false ∧
      (dock.followUp task (.openPanel previous) made).Ends task (some (.ok answer)) := by
  have ends (dock : Dock (Ledger β)) (result : Except Failure Answer) :
      (dock.concludeOpen task result).lock.taken = false ∧
        (dock.concludeOpen task result).scheduler.results.find? task = some result :=
    ⟨congrArg Standing.taken (standing_concludeOpen dock result), conclude_result _ result⟩
  rcases told with ⟨⟨session, rfl⟩, rfl⟩ | ⟨⟨place, reason, rfl⟩, rfl⟩
  · exact ends _ _
  · exact ends _ _

variable [SessionBackend β]

omit [SessionBackend β] in
theorem isEmpty_iff {dock : Dock (Ledger β)} : dock.panel.registry.isEmpty = true ↔ dock.standing.size = 0 := by
  rw [Registry.isEmpty, List.isEmpty_iff]
  exact List.length_eq_zero_iff.symm

private theorem endSpawn_does (dock : Dock (Ledger β)) (task : Loop.TaskId) (empty : dock.standing.size = 0) (cwd : String) :
    Does (fun _ answer first last => ∃ usable, answer = some (.ok usable) ∧ Standing.Settles usable first last) True
      task dock (dock.endSpawn task cwd (.openPanel none)) := by
  have nobody : dock.panel.registry.sessions = [] := List.length_eq_zero_iff.mp empty
  let asked : Dock (Ledger β) :=
    { dock with backend := (SessionBackend.spawn cwd dock.backend).2.2 }.log (SessionBackend.spawn cwd dock.backend).2.1
  let spawned := (SessionBackend.spawn cwd dock.backend.inner).1
  let faults := SessionBackend.wiring (SessionBackend.spawn cwd dock.backend.inner).2.2
  have goes : dock.endSpawn task cwd (.openPanel none) =
      (asked.onPanel (Panel.onRegistry (Registry.create cwd spawned faults))).2.followUp task (.openPanel none)
        (asked.onPanel (Panel.onRegistry (Registry.create cwd spawned faults))).1 := rfl
  have yields : Yields Stage.Opens dock (dock.panel.landed cwd spawned faults (.openPanel none)) _
      (dock.endSpawn task cwd (.openPanel none)) := endSpawn_yields dock task cwd (.openPanel none)
  have front := Panel.landed_front nobody cwd spawned faults none
  rw [← yields.panel] at front
  have size := congrArg Prod.fst front
  have shown := congrArg Prod.snd front
  have told : (∃ session, (asked.onPanel (Panel.onRegistry (Registry.create cwd spawned faults))).1 = .ok session) ∧
        Registry.usable spawned faults = true ∨
      (∃ place reason, (asked.onPanel (Panel.onRegistry (Registry.create cwd spawned faults))).1 =
        .error (.spawn place reason)) ∧ Registry.usable spawned faults = false := by
    have panel : asked.panel = dock.panel := rfl
    simp only [onPanel, Panel.onRegistry, panel]
    rcases Registry.create_first nobody cwd spawned faults with ⟨usable, session, last, made, -⟩ |
      ⟨unusable, place, reason, last, failed, -⟩
    · rw [made]
      exact .inl ⟨⟨session, rfl⟩, usable⟩
    · rw [failed]
      exact .inr ⟨⟨place, reason, rfl⟩, unusable⟩
  obtain ⟨free, ends⟩ := followUp_ends _ task none told
  rw [← goes] at free ends
  refine ⟨⟨_, ⟨Registry.usable spawned faults, rfl, ?_⟩, fun _ => ends⟩, yields.jobs⟩
  · have standing : (dock.endSpawn task cwd (.openPanel none)).standing = Standing.mk
        (dock.endSpawn task cwd (.openPanel none)).panel.front.1 (dock.endSpawn task cwd (.openPanel none)).panel.front.2
        false dock.backend.asked (dock.backend.failed + (!Registry.usable spawned faults).toNat)
        (dock.backend.made + (Registry.usable spawned faults).toNat) := by
      unfold Dock.standing
      rw [free, yields.backend]
      rfl
    rw [standing, size, shown]
    cases usable : Registry.usable spawned faults with
    | true => exact .granted dock.standing
    | false =>
      have refused := Standing.Settles.refused dock.standing
      rw [empty] at refused
      exact refused

private theorem beginSpawn_does (dock : Dock (Ledger β)) (task : Loop.TaskId) (hidden : dock.standing.shown = false)
    (empty : dock.standing.size = 0) (cwd : String) :
    Does Standing.Enters True task dock (dock.beginSpawn task cwd (.openPanel none)) := by
  let asked : Dock (Ledger β) :=
    { dock.see [.spawning cwd] with backend := (SessionBackend.ask cwd dock.backend).2.2 }.log
      (SessionBackend.ask cwd dock.backend).2.1
  have goes : dock.beginSpawn task cwd (.openPanel none) =
      if (SessionBackend.ask cwd dock.backend).1 then
        { asked.suspend task (.spawning cwd (.openPanel none)) with held := asked.held ++ [task] }
      else asked.endSpawn task cwd (.openPanel none) := rfl
  rw [goes]
  split
  · have put : (asked.suspend task (.spawning cwd (.openPanel none))).scheduler.running.find? task = some _ :=
      Assoc.find?_put_self _ _ _
    have suspended : Calm Stage.Opens asked (asked.suspend task (.spawning cwd (.openPanel none))) :=
      suspend_calm asked task _ (.inr trivial)
    refine ⟨⟨none, .asked hidden empty, fun _ => ?_⟩, suspended.jobs⟩
    exact (during_of_found put).mpr rfl
  · obtain ⟨⟨_, ⟨usable, rfl, settles⟩, ends⟩, jobs⟩ := endSpawn_does asked task empty cwd
    exact ⟨⟨some (.ok usable), .settled hidden empty settles, ends⟩, jobs⟩

private theorem openLocked_does (dock : Dock (Ledger β)) (task : Loop.TaskId) (ready : dock.panel.Ready) :
    Does Standing.Enters True task dock (dock.openLocked task) := by
  have concluded (dock : Dock (Ledger β)) (result : Except Failure Answer) :
      Calm Stage.Opens dock (dock.concludeOpen task result) := concludeOpen_calm dock task result
  unfold openLocked
  split
  next shown =>
    refine ⟨⟨some (.ok true), ?_, fun _ => conclude_result _ _⟩, (concluded dock _).jobs⟩
    rw [standing_concludeOpen]
    exact .shown shown
  next hidden =>
    have hidden : dock.standing.shown = false := Bool.eq_false_iff.mpr hidden
    split
    next empty =>
      have size := isEmpty_iff.mp empty
      have nobody : dock.panel.registry.activeSession? = none := by
        have nobody : dock.panel.registry.sessions = [] := List.length_eq_zero_iff.mp size
        unfold Registry.activeSession? Registry.session?
        rw [nobody]
        cases dock.panel.registry.active <;> rfl
      rw [nobody]
      exact beginSpawn_does dock task hidden size _
    next peopled =>
      have size : dock.standing.size ≠ 0 := fun none => peopled (isEmpty_iff.mpr none)
      let answer : Except Failure Bool := dock.panel.registry.obstacle?.elim (.ok true) .error
      have answered : (dock.onPanel Panel.reveal).1.map (fun _ => Answer.flag true) = answer.map Answer.flag := by
        change _ = (dock.panel.registry.obstacle?.elim (.ok true) .error : Except Failure Bool).map Answer.flag
        rw [← Panel.reveal_failure ready]
        unfold onPanel ending
        cases Panel.reveal dock.panel <;> rfl
      have yields : Yields Stage.Opens dock (after Panel.reveal dock.panel).drained dock.backend
        (dock.onPanel Panel.reveal).2 :=
        onPanel_yields dock Panel.reveal
      have front : (dock.onPanel Panel.reveal).2.panel.front = (dock.panel.registry.size, true) := by
        rw [yields.panel]
        exact Panel.reveal_front ready.valid ready.pliable
      dsimp only
      refine ⟨⟨some answer, ?_, fun _ => ?_⟩, (yields.calmly (concluded _ _)).jobs⟩
      · rw [standing_concludeOpen, standing_of_front yields.backend (onPanel_lock dock _) front]
        exact .revealed hidden size
      · rw [answered]
        exact conclude_result _ _

private theorem beginOpen_does (dock : Dock (Ledger β)) (task : Loop.TaskId) (ready : dock.panel.Ready) :
    Does Standing.Deed True task dock (dock.beginOpen task) := by
  unfold beginOpen
  split
  · have suspended : Calm Stage.Opens dock (dock.suspend task .queued) := suspend_calm dock task .queued (.inl rfl)
    have put : (dock.suspend task .queued).scheduler.running.find? task = some _ := Assoc.find?_put_self _ _ _
    refine ⟨⟨none, .rest _, fun _ => ?_⟩, suspended.jobs⟩
    exact (during_of_found put).mpr rfl
  next idle =>
    rw [Bool.or_eq_true, not_or, Bool.not_eq_true] at idle
    let entered : Dock (Ledger β) := { dock with lock := { dock.lock with taken := true } }
    obtain ⟨⟨answer, enters, ends⟩, jobs⟩ := openLocked_does entered task ready
    exact ⟨⟨answer, .entered idle.1 enters, ends⟩, jobs⟩

private theorem enter_does (dock : Dock (Ledger β)) (task : Loop.TaskId) (ready : dock.panel.Ready)
    (free : dock.lock.taken = false) :
    Does Standing.Deed True task dock (dock.enter task) := by
  let entered : Dock (Ledger β) := { dock with lock := { taken := true, waiting := dock.lock.waiting.erase task } }
  obtain ⟨⟨answer, enters, ends⟩, jobs⟩ := openLocked_does entered task ready
  exact ⟨⟨answer, .entered free enters, ends⟩, jobs⟩

section Locks
omit [SessionBackend β]

private theorem conclude_lock (dock : Dock β) (result : Except Failure Answer) :
    (dock.conclude task result).lock = dock.lock :=
  (conclude_same dock task result).2.1

private theorem lock_rules (task : Loop.TaskId) :
    EndRules (fun _ : Stage β => True) task (fun first last => last.lock = first.lock) fun first last => last.lock =
      first.lock where
  refl _ := rfl
  trans before later := later.trans before
  follow before later := later.trans before
  see _ _ _ := rfl
  start _ _ _ _ := rfl
  conclude := conclude_lock
  await _ _ _ _ := rfl

end Locks

private theorem beginCall_lock (dock : Dock β) (call : BackendCall) : (dock.beginCall task call).lock = dock.lock := by
  unfold beginCall
  dsimp only
  split
  · exact conclude_lock _ _
  · rfl

variable {first last : Dock (Ledger β)} {opens : Prop}

omit [SessionBackend β] in
theorem Does.of_yields {backend : Ledger β} (yields : Yields Stage.Opens first first.panel backend last)
    (lock : last.lock = first.lock) (asked : backend.asked = first.backend.asked)
    (failed : backend.failed = first.backend.failed) (made : backend.made = first.backend.made) (other : ¬opens) :
    Does Standing.Deed opens task first last := by
  refine ⟨⟨none, ?_, fun opens => absurd opens other⟩, yields.jobs⟩
  have same : last.standing = first.standing := by
    unfold standing
    rw [yields.panel, yields.backend, lock, asked, failed, made]
  rw [same]
  exact .rest _

omit [SessionBackend β] in
theorem Does.of_calm (calm : Calm Stage.Opens first last) (lock : last.lock = first.lock) (other : ¬opens) :
    Does Standing.Deed opens task first last :=
  .of_yields calm lock rfl rfl rfl other

omit [SessionBackend β] in
theorem Does.weaken {deed : Option Failure → Option (Except Failure Bool) → Standing → Standing → Prop}
    (does : Does deed True task first last) : Does deed opens task first last := by
  obtain ⟨⟨answer, deed, ends⟩, jobs⟩ := does
  exact ⟨⟨answer, deed, fun _ => ends trivial⟩, jobs⟩

theorem begin_does (dock : Dock (Ledger β)) (task : Loop.TaskId) (ready : dock.panel.Ready) {request : Request (Ledger β)}
    (allowed : request.only Request.opens = true) :
    Does Standing.Deed (request = .openPanel) task dock (dock.begin task request) := by
  cases request with
  | openPanel => exact (beginOpen_does dock task ready).weaken
  | hide =>
    let act : PanelStep Answer := Panel.quietly Panel.hide
    have yields : Yields Stage.Opens dock dock.panel.hide.drained dock.backend (dock.onPanel act).2 :=
      onPanel_yields dock act
    have concluded : Calm Stage.Opens (dock.onPanel act).2 (dock.begin task .hide) := conclude_calm _ task _
    have both := yields.calmly concluded
    have lock : (dock.begin task .hide).lock = dock.lock := (conclude_lock _ _).trans (onPanel_lock dock act)
    have front : (dock.begin task .hide).panel.front = (dock.panel.registry.size, false) := by
      rw [both.panel]
      exact Panel.hide_front
    refine ⟨⟨none, ?_, fun never => by cases never⟩, both.jobs⟩
    rw [standing_of_front both.backend lock front]
    exact .hidden _
  | background name request =>
    refine .of_calm (Yields.calmly ?_ (conclude_calm _ task _)) (conclude_lock _ _) fun never => by cases never
    exact .of_put rfl rfl rfl (.inr allowed)
  | gather requests =>
    have parts : ∀ stage ∈ requests.map Stage.begin, stage.plain = true ∨ stage.Opens :=
      List.forall_mem_map.mpr fun request inside => .inr (Request.only_of_mem allowed request inside)
    simp only [begin]
    refine .of_calm (((calm_rules task).startAll dock parts).calmly
      ((calm_rules task).waitFor _ rfl (conclude_calm _ task _))) ?_
      fun never => by cases never
    exact (lock_rules task).follow ((lock_rules task).startAll dock fun _ _ => trivial)
      ((lock_rules task).waitFor _ rfl (conclude_lock _ _))
  | _ => cases allowed

theorem resume_does {dock : Dock (Ledger β)} {owner : Option Loop.TaskId} (gated : dock.Gated none owner)
    {rest : List Loop.Turn} {job : Job (Ledger β)} (turn : dock.scheduler.ready = .resume task :: rest)
    (found : dock.scheduler.running.find? task = some job) (ready : dock.panel.Ready)
    (modest : job.stage.plain = true ∨ job.stage.Opens) (sound : dock.standing.Sound) :
    Does Standing.Deed (dock.During Stage.opening task) task dock ((dock.popped rest).resume task) := by
  obtain ⟨stage, label⟩ := job
  have turned : (dock.popped rest).scheduler.running.find? task = some ⟨stage, label⟩ := found
  have during (kind : Stage (Ledger β) → Bool) : dock.During kind task ↔ kind stage = true := during_of_found found
  have jobs (last : Dock (Ledger β)) {opens other : Prop} (same : other → opens)
      (does : Does Standing.Deed opens task (dock.popped rest) last) : Does Standing.Deed other task dock last := by
    obtain ⟨⟨answer, deed, ends⟩, jobs⟩ := does
    exact ⟨⟨answer, deed, fun opens => ends (same opens)⟩, jobs⟩
  rw [during]
  simp only [resume, turned]
  cases stage with
  | begin request =>
    have allowed : request.only Request.opens = true := modest.resolve_left Bool.noConfusion
    refine jobs _ (fun opens => ?_) (begin_does (dock.popped rest) task ready allowed)
    cases request <;> first | rfl | cases opens
  | call call =>
    exact jobs _ id (.of_yields (beginCall_yields _ task call) (beginCall_lock _ call) rfl rfl rfl Bool.noConfusion)
  | callEnding call failure records =>
    exact jobs _ id (.of_calm ((calm_rules task).concludeCall _ call failure records) (conclude_lock _ _) Bool.noConfusion)
  | spawning cwd purpose =>
    have opens := modest.resolve_left Bool.noConfusion
    obtain rfl : purpose = .openPanel none := by
      cases purpose with
      | openPanel previous =>
        cases previous with
        | none => rfl
        | some session => cases opens
      | _ => cases opens
    have mine : owner = some task :=
      (gated.owns task (Option.some_ne_none task).symm).mp ((during Stage.flies).mpr rfl)
    have taken : dock.standing.taken = true := gated.taken.trans (mine ▸ rfl)
    have empty : dock.standing.size = 0 := sound.size.trans (sound.taken taken)
    obtain ⟨⟨_, ⟨usable, rfl, settles⟩, ends⟩, jobs⟩ := endSpawn_does (dock.popped rest) task empty cwd
    exact ⟨⟨some (.ok usable), .settled taken settles, fun _ => ends trivial⟩, jobs⟩
  | queued =>
    have free := (gated.enters turn ((during Stage.queues).mpr rfl)).1
    exact jobs _ (fun _ => trivial) (enter_does (dock.popped rest) task ready free)
  | sweeping calls drainAfter =>
    exact jobs _ id (.of_calm ((calm_rules task).endSweep _ calls drainAfter)
      ((lock_rules task).endSweep _ calls drainAfter) Bool.noConfusion)
  | draining answer =>
    exact jobs _ id (.of_calm ((calm_rules task).drain _ answer) ((lock_rules task).drain _ answer) Bool.noConfusion)
  | gathering tasks => exact jobs _ id (.of_calm (conclude_calm _ task _) (conclude_lock _ _) Bool.noConfusion)

end Dock

end TerminalDock
