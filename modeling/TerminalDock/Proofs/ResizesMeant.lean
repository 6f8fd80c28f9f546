import TerminalDock.Proofs.SizesTold

/-! The sizes that a panel tells and the grids that it changes. A beat tells one size at most, to the session that is
active while the panel is open, and it is the size that goes into the view; no other grid changes. -/

namespace TerminalDock
open Proofs.Steps

def Decimal.Quantity.whole? : Quantity → Option Int
  | .whole value => some value
  | .real _ => none

theorem Decimal.Quantity.whole?_eq {size : Quantity} {value : Int} (same : size.whole? = some value) :
    size = .whole value := by
  cases size with
  | whole other => rw [Option.some.inj same]
  | real other => cases same

/-- With whole cells, and boxes in which division is exact, the grid is the largest one that goes into the view. -/
def Session.Snug (session : Session) : Prop :=
  ∀ cellWidth cellHeight : Int, session.surface.font.cellWidth.whole? = some cellWidth →
    session.surface.font.cellHeight.whole? = some cellHeight → 1 ≤ cellWidth → 1 ≤ cellHeight →
    (session.view.measure.1 - session.surface.padding).natAbs < Nat.pow 2 52 →
    (session.view.measure.2 - session.surface.padding).natAbs < Nat.pow 2 52 →
      session.surface.Snug session.view.measure cellWidth cellHeight session.surface.geometry

namespace Panel.Scale
variable {ended : Ending Failure Panel} {scale next : Scale}

/-- A session shows, and has the size that was proposed for it. -/
structure Filled (ended : Ending Failure Panel) (scale : Scale) (id : String) (size : Geometry) : Prop where
  opened : scale.isOpen = true
  active : scale.registry.active = some id
  room : ended.state.registry.proposal = some (.ok (some size))
  grid : ∀ gauge, scale.registry.gauges.find? id = some gauge → gauge.grid = size

theorem Fit.filled {notify : Bool} {base : Scale} {id : String} {size : Geometry}
    (active : base.registry.active = some id) (shown : base.fitting = true)
    (room : ended.state.registry.proposal = some (.ok (some size)))
    (sane : base.isOpen = base.fitting) : Filled ended (base.onRegistry (·.measure notify id size)) id size := by
  refine ⟨sane.trans shown, active, room, fun gauge there => ?_⟩
  rcases Registry.Scale.find?_measure there with ⟨-, old, -, rfl⟩ | ⟨other, -⟩
  · rfl
  · exact absurd rfl other

theorem Comes.resizes (comes : Comes ended scale next) (calm : scale.registry.outbox = [])
    (shown : next.isOpen = next.fitting) : next.registry.outbox.filter BackendCall.isResize = [] ∨
      ∃ id size, next.registry.outbox.filter BackendCall.isResize = [.resize id size] ∧ Filled ended next id size := by
  have quiet {base : Scale} (prepares : Prepares scale base) :
      base.registry.outbox.filter BackendCall.isResize = [] :=
    List.filter_eq_nil_iff.mpr fun call member => Bool.eq_false_iff.mp (prepares.quiet calm call member)
  cases comes with
  | plain prepares => exact .inl (quiet prepares)
  | @fitted base notify prepares untold fit =>
    cases fit with
    | idle | missed => exact .inl (quiet prepares)
    | @fitted id size active fitting room =>
      have told : (base.registry.measure notify id size).outbox.filter BackendCall.isResize =
          (if notify then [.resize id size] else []).filter BackendCall.isResize := by
        rw [Registry.Scale.outbox_measure, List.filter_append, quiet prepares, List.nil_append]
      cases notify with
      | false => exact .inl told
      | true => exact .inr ⟨id, size, told, Fit.filled active fitting room shown⟩

theorem Comes.grids (comes : Comes ended scale next) (shown : next.isOpen = next.fitting) {id : String}
    {old gauge : Session.Gauge} (before : scale.registry.gauges.find? id = some old)
    (there : next.registry.gauges.find? id = some gauge) (changed : gauge.grid ≠ old.grid) :
    next.isOpen = true ∧ next.registry.active = some id := by
  have same {base : Scale} {another : Session.Gauge} (prepares : Prepares scale base)
      (prepared : base.registry.gauges.find? id = some another) : another = old := by
    rcases prepares.gauges id another prepared with kept | ⟨new, -⟩
    · exact Option.some.inj (kept.symm.trans before)
    · cases before.symm.trans new
  cases comes with
  | plain prepares => exact absurd (congrArg Session.Gauge.grid (same prepares there)) changed
  | fitted prepares untold fit =>
    cases fit with
    | idle | missed => exact absurd (congrArg Session.Gauge.grid (same prepares there)) changed
    | fitted active fitting room =>
      rcases Registry.Scale.find?_measure there with ⟨rfl, -⟩ | ⟨-, untouched⟩
      · exact ⟨shown.trans fitting, active⟩
      · exact absurd (congrArg Session.Gauge.grid (same prepares untouched)) changed

end Panel.Scale

namespace Dock
variable {β : Type} [SessionBackend β] {dock : Dock β} {beat : Beat β} {given : List String}
  {ended : Ending Failure Panel}

/-- The sizes and grids of a beat are meant for whoever shows. -/
structure Meant (dock : Dock β) (beat : Beat β) : Prop where
  single : ((dock.submitted (dock.beat beat)).filter BackendCall.isResize).length ≤ 1
  aimed : ∀ id size, .resize id size ∈ dock.submitted (dock.beat beat) →
    (dock.beat beat).panel.isOpen = true ∧ (dock.beat beat).panel.registry.active = some id ∧
      ∃ session, (dock.beat beat).panel.registry.session? id = some session ∧ session.surface.geometry = size ∧
        session.Snug
  dragging : ∀ y, dock.asked? beat = some (.beginDrag y) ∨ dock.asked? beat = some (.dragTo y) →
    dock.submitted (dock.beat beat) = []
  still : ∀ id before later, dock.panel.registry.session? id = some before →
    (dock.beat beat).panel.registry.session? id = some later → later.surface.geometry ≠ before.surface.geometry →
      (dock.beat beat).panel.isOpen = true ∧ (dock.beat beat).panel.registry.active = some id

private theorem snug_of_filled {panel : Panel} (valid : panel.registry.WellFormed) {id : String} {size : Geometry}
    (filled : Panel.Scale.Filled ⟨panel, none⟩ panel.scale id size) : ∃ session,
      panel.registry.session? id = some session ∧ session.surface.geometry = size ∧ session.Snug := by
  obtain ⟨session, live⟩ := Assoc.has_iff.mp (valid.chosen id filled.active)
  have grid : session.surface.geometry = size := filled.grid session.gauge (Registry.live_scale live)
  have found : panel.registry.activeSession? = some session := by
    rw [Registry.activeSession?, show panel.registry.active = some id from filled.active]
    exact live
  have room := filled.room
  rw [Registry.proposal, found] at room
  refine ⟨session, live, grid, fun cellWidth cellHeight width height wide tall narrow low => ?_⟩
  exact grid ▸ Surface.proposed_snug (Decimal.Quantity.whole?_eq width) (Decimal.Quantity.whole?_eq height) wide tall
    narrow low (Option.some.inj room)

private theorem drag_silent (steady : dock.Steady) {y : Decimal.Quantity}
    (asked : dock.asked? beat = some (.beginDrag y) ∨ dock.asked? beat = some (.dragTo y)) :
    dock.submitted (dock.beat beat) = [] := by
  rcases asked with begun | moved
  · have account := asked_account steady.orderly begun rfl rfl
    rw [account.submitted, state_ending]
    exact steady.calm
  · have account := asked_account steady.orderly moved rfl rfl
    rw [account.submitted, state_ending]
    have same : after (do return Answer.number (← Panel.dragTo y)) dock.panel = after (Panel.dragTo y) dock.panel :=
      after_bind_view id (fun _ _ => rfl) dock.panel
    exact (congrArg (·.registry.outbox) same).trans
      ((Panel.dragTo_silent y steady.valid.registry steady.sane.pliable).trans steady.calm)

theorem Steady.meant (steady : dock.Steady) (allowed : beat.panelwise = true) : dock.Meant beat := by
  obtain ⟨given, ended, advance⟩ := steady.advance allowed
  have comes := advance.step.comes steady.unique
  have next := steady.next allowed
  have shown : ended.state.scale.isOpen = ended.state.scale.fitting := by
    have shown := next.sane.shown
    rw [advance.account.panel] at shown
    exact shown
  have sound := next.valid.registry
  have sent : dock.submitted (dock.beat beat) = ended.state.scale.registry.outbox := advance.account.submitted
  refine ⟨?_, fun id size member => ?_, fun y asked => drag_silent steady asked, fun id before later old live changed => ?_⟩
  · rw [sent]
    rcases comes.resizes steady.calm shown with none_told | ⟨id, size, told, -⟩
    · simp [none_told]
    · simp [told]
  · have among : .resize id size ∈ ended.state.scale.registry.outbox.filter BackendCall.isResize :=
      List.mem_filter.mpr ⟨sent ▸ member, rfl⟩
    rcases comes.resizes steady.calm shown with none_told | ⟨other, size, told, filled⟩
    · rw [none_told] at among
      cases among
    · rw [told] at among
      cases List.mem_singleton.mp among
      rw [advance.account.panel] at sound ⊢
      have filled : Panel.Scale.Filled ⟨ended.state.drained, none⟩ ended.state.drained.scale id size :=
        ⟨filled.opened, filled.active, filled.room, filled.grid⟩
      exact ⟨filled.opened, filled.active, snug_of_filled sound filled⟩
  · rw [advance.account.panel] at live ⊢
    exact comes.grids shown (Registry.live_scale old) (Registry.live_scale live) changed

def resizesBy (task : Loop.TaskId) (dock : Dock β) : List (Beat β) → List BackendCall
  | [] => []
  | beat :: rest =>
    (if dock.actor? beat = some task then (dock.submitted (dock.beat beat)).filter BackendCall.isResize else []) ++
      (dock.beat beat).resizesBy task rest

structure Spent (task : Loop.TaskId) (dock : Dock β) : Prop where
  old : task < dock.scheduler.fresh
  gone : task ∉ dock.scheduler.running.keys

namespace Spent
variable {task : Loop.TaskId}

theorem account {who : Option Loop.TaskId} {last : Dock β} (spent : Spent task dock)
    (account : Account who given ended dock last) : Spent task last := by
  refine ⟨Nat.lt_of_lt_of_le spent.old account.fresh, fun running => ?_⟩
  rcases account.tasks task running with before | new
  · exact spent.gone before
  · exact Nat.not_lt_of_le new spent.old

theorem silent (spent : Spent task dock) (account : Account (some task) given ended dock (dock.beat beat)) :
    dock.submitted (dock.beat beat) = [] := by
  rw [account.submitted]
  by_contra busy
  rcases (account.working busy task rfl).1 with running | new
  · exact spent.gone running
  · exact Nat.not_lt_of_le new spent.old

private theorem resizesBy {beats : List (Beat β)} (spent : Spent task dock) (steady : dock.Steady)
    (allowed : ∀ beat ∈ beats, beat.panelwise = true) : dock.resizesBy task beats = [] := by
  induction beats generalizing dock with
  | nil => rfl
  | cons first rest ih =>
    have now := allowed first (List.mem_cons_self ..)
    obtain ⟨given, ended, advance⟩ := steady.advance now
    have later := ih (spent.account advance.account) (steady.next now) fun beat member =>
      allowed beat (List.mem_cons_of_mem _ member)
    rw [Dock.resizesBy, later, List.append_nil]
    split
    next mine => rw [spent.silent (mine ▸ advance.account)]; rfl
    next => rfl

end Spent

/-- An operation tells one size at most, in however many turns. -/
theorem resizesBy_single {beats : List (Beat β)} (steady : dock.Steady)
    (allowed : ∀ beat ∈ beats, beat.panelwise = true) (task : Loop.TaskId) :
    (dock.resizesBy task beats).length ≤ 1 := by
  induction beats generalizing dock with
  | nil => exact Nat.zero_le _
  | cons first rest ih =>
    have now := allowed first (List.mem_cons_self ..)
    have follow : ∀ beat ∈ rest, beat.panelwise = true := fun beat member => allowed beat (List.mem_cons_of_mem _ member)
    have later := ih (steady.next now) follow
    rw [resizesBy]
    split
    next mine =>
      obtain ⟨given, ended, advance⟩ := steady.advance now
      by_cases quiet : (dock.submitted (dock.beat first)).filter BackendCall.isResize = []
      · rw [quiet]
        exact later
      · -- whoever tells a size has ended with the beat
        obtain ⟨call, told⟩ := List.exists_mem_of_ne_nil _ quiet
        obtain ⟨sent, resize⟩ := List.mem_filter.mp told
        have posted : call ∈ ended.state.registry.outbox := advance.account.submitted ▸ sent
        have spent : Spent task (dock.beat first) :=
          ⟨(advance.account.working (List.ne_nil_of_mem posted) task mine).2,
            advance.account.gone call posted resize task mine⟩
        rw [spent.resizesBy (steady.next now) follow, List.append_nil]
        exact (steady.meant now).single
    next => exact later

/-- However operations overlap, and whenever frames come, the sizes and grids of every beat are meant for whoever shows,
and no operation tells more than one size. -/
theorem resizes_meant {panel : Panel} (new : panel.New) (backend : β) (hook : Transport.FailureHook)
    {beats : List (Beat β)} (allowed : ∀ beat ∈ beats, beat.panelwise = true) :
    (Dock.fresh panel backend hook).Along Meant beats ∧
      ∀ task, ((Dock.fresh panel backend hook).resizesBy task beats).length ≤ 1 :=
  have start := steady_fresh new backend hook
  ⟨start.along Steady.meant allowed, resizesBy_single start allowed⟩

/-- Processes come late, and the frame of a session comes after that was closed. -/
def belated : List (Beat PuppetBackend) :=
  [.move (.ask .openPanel), .move (.answer 0), .move .turn, .move (.ask (.add none)), .fire 0, .move .turn,
    .move (.answer 1), .move .turn, .move .turn, .move (.ask (.closeSession "term-2")), .fire 0,
    .move (.ask (.beginDrag (.whole 600))), .move (.ask (.dragTo (.whole 500))), .move (.ask .endDrag),
    .move (.ask .hide), .move (.ask .layoutChanged)]

theorem resizes_meant_belated :
    ((Dock.fresh Panel.standard ({ hold := true } : PuppetBackend) .log).toldTo 0 belated) =
      [⟨8, 60⟩, ⟨8, 60⟩, ⟨8, 60⟩] ∧
    (Dock.fresh Panel.standard ({ hold := true } : PuppetBackend) .log).Along Meant belated ∧
      ∀ task, ((Dock.fresh Panel.standard ({ hold := true } : PuppetBackend) .log).resizesBy task belated).length ≤ 1 :=
  ⟨by decide +kernel, resizes_meant Panel.standard_new _ _ (by decide)⟩

/-- The view gets a width in which division is rounded up. -/
def vast : List (Beat PuppetBackend) :=
  [.move (.ask .openPanel), .fire 0, .move (.ask (.resizeView "term-1" 58546795155816468 300)),
    .move (.ask .layoutChanged)]

/-- The last column that is told does not go into the view. -/
theorem resizes_meant_fails : (∀ beat ∈ vast, beat.panelwise = true) ∧
    ∃ session, ((Dock.fresh Panel.standard {} .log).play vast).panel.registry.session? "term-1" = some session ∧
      session.surface.font.cellWidth.whole? = some 13 ∧ session.surface.font.cellHeight.whole? = some 35 ∧
      ((Dock.fresh Panel.standard {} .log).toldTo session.serial vast).getLast? = some ⟨8, 4503599627370497⟩ ∧
      ¬session.surface.Snug session.view.measure 13 35 ⟨8, 4503599627370497⟩ := by
  have seen : (((Dock.fresh Panel.standard {} .log).play vast).panel.registry.session? "term-1").map
      (fun session => (session.serial, session.surface.font.cellWidth.whole?, session.surface.font.cellHeight.whole?,
        session.view.measure.1, session.surface.padding, session.surface.minColumns)) =
        some (0, some 13, some 35, 58546795155816468, 8, 2) := by decide +kernel
  obtain ⟨session, live, same⟩ := Option.map_eq_some_iff.mp seen
  simp only [Prod.mk.injEq] at same
  obtain ⟨serial, wide, tall, width, padding, least⟩ := same
  refine ⟨by decide, session, live, wide, tall, ?_, fun snug => ?_⟩
  · rw [serial]
    decide +kernel
  · obtain ⟨columns, ⟨within, -⟩, told⟩ := snug.columns
    have told : 4503599627370497 = max session.surface.minColumns columns := told
    rw [width, padding] at within
    rw [least] at told
    omega

end Dock

end TerminalDock
