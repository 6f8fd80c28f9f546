import TerminalDock.Panel.Registry
import TerminalDock.Proofs.BusLaws
import TerminalDock.Proofs.SurfaceFrames

/-! The registry never mixes its sessions up: each stands under its own identifier, no serial number is
given twice, and the active session is live. No change to what a session shows touches this. -/

namespace TerminalDock
open Proofs.Steps

def Session.tag (session : Session) : Nat × String :=
  (session.serial, session.id)

/-- A session without its name, its size and the contents of its terminal. -/
structure Session.Stance where
  tag : Nat × String
  number : Nat
  exited : Bool
  surface : Surface.Poise
  attached : Bool
  visible : Bool

def Session.stance (session : Session) : Session.Stance where
  tag := session.tag
  number := session.number
  exited := session.exited
  surface := session.surface.poise
  attached := session.view.attached
  visible := session.view.visible

/-- What a session heard: whether it was told of its end, and what was written to its surface. -/
def Session.account (session : Session) : (Nat × String) × Bool × List (List UInt8) :=
  (session.tag, session.exited, session.surface.written)

namespace Registry

def everyone (registry : Registry) : List Session :=
  registry.sessions.values ++ registry.retired

/-- One side of every session, live or gone. -/
def seen {τ : Type} (look : Session → τ) (registry : Registry) : Assoc String τ × List τ :=
  (registry.sessions.map fun (id, session) => (id, look session), registry.retired.map look)

/-- A registry without names, sizes and the contents of terminals. -/
structure Stance where
  sessions : Assoc String Session.Stance × List Session.Stance
  active : Option String
  counter : Nat
  theme : Theme
  serial : Nat
  bus : Event.Bus Subscriber

def stance (registry : Registry) : Stance where
  sessions := registry.seen Session.stance
  active := registry.active
  counter := registry.counter
  theme := registry.factory.theme
  serial := registry.serial
  bus := registry.bus

/-- Who listens to what, and what each session heard so far. -/
structure Hearing where
  sessions : Assoc String ((Nat × String) × Bool × List (List UInt8)) × List ((Nat × String) × Bool × List (List UInt8))
  serial : Nat
  bus : Event.Bus Subscriber

def hearing (registry : Registry) : Hearing where
  sessions := registry.seen Session.account
  serial := registry.serial
  bus := registry.bus

structure WellFormed (registry : Registry) : Prop where
  keys : registry.sessions.keys.Nodup
  named : ∀ id session, registry.session? id = some session → session.id = id
  serials : (registry.everyone.map Session.serial).Nodup
  fresh : ∀ session ∈ registry.everyone, session.serial < registry.serial
  chosen : ∀ id, registry.active = some id → registry.has id = true
  bus : registry.bus.Sound

theorem everyone_of_live {registry : Registry} {id : String} {session : Session}
    (live : registry.session? id = some session) : session ∈ registry.everyone :=
  List.mem_append_left _ (Assoc.mem_values_of_find? live)

namespace WellFormed
variable {registry : Registry}

theorem live_of_mem (valid : registry.WellFormed) {session : Session}
    (member : session ∈ registry.sessions.values) : registry.session? session.id = some session := by
  obtain ⟨⟨id, session⟩, inside, rfl⟩ := List.mem_map.mp member
  have live : registry.session? id = some session := Assoc.find?_of_mem valid.keys inside
  rwa [valid.named id session live]

theorem ids (valid : registry.WellFormed) : registry.sessions.values.map Session.id = registry.sessions.keys := by
  rw [Assoc.values, List.map_map]
  exact List.map_congr_left fun entry member => valid.named _ _ (Assoc.find?_of_mem valid.keys member)

/-- A serial number stands for one session. -/
theorem same_session (valid : registry.WellFormed) {one other : Session} (first : one ∈ registry.everyone)
    (second : other ∈ registry.everyone) (same : one.serial = other.serial) : one = other :=
  List.inj_on_of_nodup_map valid.serials first second same

theorem same_id (valid : registry.WellFormed) {id other : String} {session : Session} {found : Session}
    (live : registry.session? id = some session) (second : registry.session? other = some found)
    (same : session.serial = found.serial) : id = other := by
  have alike := valid.same_session (everyone_of_live live) (everyone_of_live second) same
  rw [← valid.named id session live, ← valid.named other found second, alike]

theorem bySerial_of_mem (valid : registry.WellFormed) {session : Session} (member : session ∈ registry.everyone) :
    registry.bySerial? session.serial = some session := by
  unfold bySerial?
  change registry.everyone.find? _ = _
  cases found : registry.everyone.find? (·.serial == session.serial) with
  | none => exact absurd (List.find?_eq_none.mp found session member) (by simp)
  | some other =>
    have same := List.find?_some found
    exact congrArg some (valid.same_session (List.mem_of_find?_eq_some found) member (beq_iff_eq.mp same))

theorem bySerial_of_live (valid : registry.WellFormed) {id : String} {session : Session}
    (live : registry.session? id = some session) : registry.bySerial? session.serial = some session :=
  valid.bySerial_of_mem (everyone_of_live live)

theorem gone_of_retired (valid : registry.WellFormed) {id : String} {session other : Session}
    (live : registry.session? id = some session) (member : other ∈ registry.retired) :
    other.serial ≠ session.serial := by
  have unique := valid.serials
  rw [everyone, List.map_append, List.nodup_append] at unique
  exact (unique.2.2 _ (List.mem_map_of_mem (Assoc.mem_values_of_find? live)) _ (List.mem_map_of_mem member)).symm

theorem find?_of_live (valid : registry.WellFormed) {id : String} {session : Session}
    (live : registry.session? id = some session) :
    registry.sessions.values.find? (·.serial == session.serial) = some session := by
  have found := valid.bySerial_of_live live
  rw [bySerial?, List.find?_append] at found
  cases among : registry.sessions.values.find? (·.serial == session.serial) with
  | some other => rw [among] at found; exact found
  | none =>
    exact absurd (List.find?_eq_none.mp among session (Assoc.mem_values_of_find? live)) (by simp)

theorem active_live (valid : registry.WellFormed) {id : String} (active : registry.active = some id) :
    ∃ session, registry.activeSession? = some session ∧ registry.session? id = some session := by
  obtain ⟨session, live⟩ := Assoc.has_iff.mp (valid.chosen id active)
  exact ⟨session, by simpa [activeSession?, active, session?] using live, live⟩

end WellFormed

theorem live_of_active {registry : Registry} {session : Session}
    (found : registry.activeSession? = some session) :
    ∃ id, registry.active = some id ∧ registry.session? id = some session := by
  obtain ⟨id, active, live⟩ := Option.bind_eq_some_iff.mp found
  exact ⟨id, active, live⟩

theorem mem_of_bySerial {registry : Registry} {serial : Nat} {session : Session}
    (found : registry.bySerial? serial = some session) : session ∈ registry.everyone ∧ session.serial = serial := by
  unfold bySerial? at found
  have same := List.find?_some found
  exact ⟨List.mem_of_find?_eq_some found, beq_iff_eq.mp same⟩

section Seen
variable {τ υ : Type} {look : Session → τ} {first last : Registry}

theorem seen_comp {other : Session → τ} (view : τ → υ) (same : last.seen look = first.seen other) :
    last.seen (view ∘ look) = first.seen (view ∘ other) := by
  have coarser (look : Session → τ) (registry : Registry) : registry.seen (view ∘ look) =
      ((registry.seen look).1.map fun (id, side) => (id, view side), (registry.seen look).2.map view) := by
    simp [seen]
  rw [coarser, coarser, same]

theorem session?_seen {other : Session → τ} (same : last.seen look = first.seen other) (id : String) :
    (last.session? id).map look = (first.session? id).map other := by
  have tables := congrArg (Assoc.find? id ·.1) same
  simpa only [seen, session?, Assoc.find?_map] using tables

theorem live_of_seen {other : Session → τ} (same : last.seen look = first.seen other) {id : String} {session : Session}
    (live : last.session? id = some session) :
    ∃ old, first.session? id = some old ∧ other old = look session := by
  have tables := session?_seen same id
  rw [live, Option.map_some] at tables
  exact Option.map_eq_some_iff.mp tables.symm

theorem live_of_hearing (same : last.hearing = first.hearing) {id : String} {session : Session}
    (live : first.session? id = some session) :
    ∃ current, last.session? id = some current ∧ current.serial = session.serial := by
  have accounts : last.seen Session.account = first.seen Session.account := congrArg Hearing.sessions same
  obtain ⟨current, now, alike⟩ := live_of_seen accounts.symm live
  exact ⟨current, now, congrArg (·.1.1) alike⟩

theorem retired_of_seen {other : Session → τ} (same : last.seen look = first.seen other) {session : Session}
    (member : session ∈ last.retired) : ∃ old ∈ first.retired, other old = look session := by
  have inside : look session ∈ last.retired.map look := List.mem_map_of_mem member
  rw [show last.retired.map look = first.retired.map other from congrArg Prod.snd same] at inside
  exact List.mem_map.mp inside

theorem has_of_seen (same : last.seen look = first.seen look) (id : String) : last.has id = first.has id := by
  simpa [has, Assoc.has, session?] using congrArg Option.isSome (session?_seen same id)

theorem everyone_seen (registry : Registry) :
    registry.everyone.map look = Assoc.values (registry.seen look).1 ++ (registry.seen look).2 := by
  simp [everyone, seen, Assoc.values_map]

theorem everyone_of_seen (same : last.seen look = first.seen look) {session : Session}
    (member : session ∈ last.everyone) : ∃ old ∈ first.everyone, look old = look session := by
  have inside : look session ∈ last.everyone.map look := List.mem_map.mpr ⟨_, member, rfl⟩
  rw [everyone_seen, same, ← everyone_seen] at inside
  exact List.mem_map.mp inside

end Seen

theorem WellFormed.of_seen {first last : Registry} (valid : first.WellFormed)
    (same : last.seen Session.tag = first.seen Session.tag) (serial : last.serial = first.serial)
    (chosen : ∀ id, last.active = some id → last.has id = true) (bus : last.bus.Sound) : last.WellFormed where
  keys := by
    have tables := congrArg (Assoc.keys ·.1) same
    simp only [seen, Assoc.keys_map] at tables
    rw [tables]
    exact valid.keys
  named := by
    intro id session live
    obtain ⟨old, before, alike⟩ := live_of_seen same live
    exact (congrArg Prod.snd alike).symm.trans (valid.named id old before)
  serials := by
    have numbers (registry : Registry) : registry.everyone.map Session.serial =
        (registry.everyone.map Session.tag).map Prod.fst := by
      rw [List.map_map]; rfl
    rw [numbers, everyone_seen, same, ← everyone_seen, ← numbers]
    exact valid.serials
  fresh := by
    intro session member
    obtain ⟨old, before, alike⟩ := everyone_of_seen same member
    rw [serial, ← show old.serial = session.serial from congrArg Prod.fst alike]
    exact valid.fresh old before
  chosen := chosen
  bus := bus

theorem tags_of_stance {first last : Registry} (same : last.stance = first.stance) :
    last.seen Session.tag = first.seen Session.tag :=
  seen_comp Session.Stance.tag (congrArg Stance.sessions same)

theorem hearing_of_stance {first last : Registry} (same : last.stance = first.stance) :
    last.hearing = first.hearing := by
  have sessions : last.seen Session.account = first.seen Session.account :=
    seen_comp (fun side : Session.Stance => (side.tag, side.exited, side.surface.written))
      (congrArg Stance.sessions same)
  rw [hearing, hearing, sessions, show last.serial = first.serial from congrArg Stance.serial same,
    show last.bus = first.bus from congrArg Stance.bus same]

theorem WellFormed.of_stance {first last : Registry} (valid : first.WellFormed)
    (same : last.stance = first.stance) : last.WellFormed := by
  refine valid.of_seen (tags_of_stance same) (congrArg Stance.serial same) ?_ ?_
  · intro id active
    rw [has_of_seen (tags_of_stance same)]
    exact valid.chosen id ((congrArg Stance.active same).symm.trans active)
  · have tables : last.bus = first.bus := congrArg Stance.bus same
    rw [tables]
    exact valid.bus

def changed (serial : Nat) (f : Session → Session) (session : Session) : Session :=
  if session.serial == serial then f session else session

theorem session?_change (registry : Registry) (serial : Nat) (f : Session → Session) (id : String) :
    (registry.change serial f).session? id = (registry.session? id).map (changed serial f) :=
  Assoc.find?_map (changed serial f) id registry.sessions

theorem seen_congr {τ : Type} {look other : Session → τ} {registry : Registry}
    (each : ∀ session ∈ registry.everyone, look session = other session) :
    registry.seen look = registry.seen other := by
  simp only [seen, Prod.mk.injEq]
  constructor
  · apply List.map_congr_left
    intro entry member
    exact congrArg (Prod.mk entry.1) (each entry.2 (List.mem_append_left _ (List.mem_map.mpr ⟨entry, member, rfl⟩)))
  · apply List.map_congr_left
    intro session member
    exact each session (List.mem_append_right _ member)

theorem seen_changed {τ : Type} (look : Session → τ) (registry : Registry) (serial : Nat) (f : Session → Session) :
    (registry.change serial f).seen look = registry.seen (look ∘ changed serial f) := by
  simp only [seen, change, List.map_map]
  rfl

theorem seen_change_of {τ : Type} {look : Session → τ} {registry : Registry} {serial : Nat}
    {f : Session → Session}
    (same : ∀ session ∈ registry.everyone, session.serial = serial → look (f session) = look session) :
    (registry.change serial f).seen look = registry.seen look := by
  rw [seen_changed]
  refine seen_congr fun session member => ?_
  unfold Function.comp changed
  split
  next here => exact same session member (beq_iff_eq.mp here)
  next => rfl

theorem seen_change {τ : Type} {look : Session → τ} {f : Session → Session}
    (same : ∀ session, look (f session) = look session) (registry : Registry) (serial : Nat) :
    (registry.change serial f).seen look = registry.seen look :=
  seen_change_of fun session _ _ => same session

theorem stance_change_of {registry : Registry} {serial : Nat} {f : Session → Session}
    (same : ∀ session ∈ registry.everyone, session.serial = serial → (f session).stance = session.stance) :
    (registry.change serial f).stance = registry.stance := by
  simp only [stance, seen_change_of same]
  rfl

theorem stance_change {f : Session → Session} (same : ∀ session, (f session).stance = session.stance)
    (registry : Registry) (serial : Nat) : (registry.change serial f).stance = registry.stance :=
  stance_change_of fun session _ _ => same session

theorem hearing_change {f : Session → Session} (same : ∀ session, (f session).account = session.account)
    (registry : Registry) (serial : Nat) : (registry.change serial f).hearing = registry.hearing := by
  simp only [hearing, seen_change same]
  rfl

@[simp] theorem stance_log (registry : Registry) (record : LogRecord) :
    (registry.log record).stance = registry.stance := rfl

@[simp] theorem stance_submit (registry : Registry) (call : BackendCall) :
    (registry.submit call).stance = registry.stance := rfl

end Registry

end TerminalDock
