import TerminalDock.Proofs.RegistrySteps
import TerminalDock.Proofs.RegistryOrder

/-! The faces of the live sessions: what is decided about them from outside, the focus, the place in the layout and
the theme. The steps of the registry act on them by a few operations, and what a session is told leaves them alone. -/

namespace TerminalDock
open Proofs.Steps

/-- A session as it is presented: its numbers, its theme, its focus, and whether it is to be seen. -/
structure Session.Face where
  tag : Nat × String
  number : Nat
  theme : Theme
  focused : Bool
  disposed : Bool
  attached : Bool
  visible : Bool

def Session.face (session : Session) : Session.Face where
  tag := session.tag
  number := session.number
  theme := session.surface.theme
  focused := session.surface.focused
  disposed := session.surface.disposed
  attached := session.view.attached
  visible := session.view.visible

/-- Only what is in the layout can be shown. -/
def Session.Face.shown (visible : Bool) (face : Session.Face) : Session.Face :=
  { face with visible := visible && face.attached }

namespace Registry

/-- The live sessions as they are presented. -/
@[ext] structure Face where
  sessions : Assoc String Session.Face
  active : Option String
  counter : Nat
  theme : Theme

def face (registry : Registry) : Face where
  sessions := registry.sessions.map fun (id, session) => (id, session.face)
  active := registry.active
  counter := registry.counter
  theme := registry.factory.theme

namespace Face

def each (f : String → Session.Face → Session.Face) (face : Face) : Face :=
  { face with sessions := face.sessions.map fun (id, session) => (id, f id session) }

def alter (id : String) (f : Session.Face → Session.Face) (face : Face) : Face :=
  face.each fun name session => if name = id then f session else session

private theorem each_each (f g : String → Session.Face → Session.Face) (face : Face) :
    (face.each f).each g = face.each fun id session => g id (f id session) := by
  simp [each, Function.comp_def]

theorem each_congr {face : Face} {f g : String → Session.Face → Session.Face}
    (same : ∀ entry ∈ face.sessions, f entry.1 entry.2 = g entry.1 entry.2) : face.each f = face.each g := by
  unfold each
  rw [List.map_congr_left fun entry member => congrArg (Prod.mk entry.1) (same entry member)]

theorem alter_alter (id : String) (f g : Session.Face → Session.Face) (face : Face) :
    (face.alter id f).alter id g = face.alter id fun session => g (f session) := by
  unfold alter
  rw [each_each]
  congr 1
  funext name session
  by_cases here : name = id
  · simp [here]
  · simp [here]

theorem each_id (face : Face) : (face.each fun _ session => session) = face := by
  simp [each]

end Face

theorem find?_face (registry : Registry) (id : String) :
    Assoc.find? id registry.face.sessions = (registry.session? id).map Session.face :=
  Assoc.find?_map Session.face id registry.sessions

@[simp] theorem keys_face (registry : Registry) : registry.face.sessions.keys = registry.sessions.keys :=
  Assoc.keys_map Session.face registry.sessions

@[simp] theorem session?_note (registry : Registry) (effect : Effect) (id : String) :
    (registry.note effect).session? id = registry.session? id := rfl

@[simp] theorem face_note (registry : Registry) (effect : Effect) : (registry.note effect).face = registry.face := rfl

private theorem face_of_seen {first last : Registry} (same : last.seen Session.face = first.seen Session.face)
    (active : last.active = first.active) (counter : last.counter = first.counter)
    (theme : last.factory.theme = first.factory.theme) : last.face = first.face :=
  Face.ext (congrArg Prod.fst same) active counter theme

theorem face_of_stance {first last : Registry} (same : last.stance = first.stance) : last.face = first.face := by
  refine face_of_seen ?_ (congrArg Stance.active same) (congrArg Stance.counter same) (congrArg Stance.theme same)
  exact seen_comp (fun side : Session.Stance =>
    (⟨side.tag, side.number, side.surface.theme, side.surface.focused, side.surface.disposed, side.attached,
      side.visible⟩ : Session.Face))
    (congrArg Stance.sessions same)

section Changes
variable {registry : Registry} {id : String} {session current : Session}

private theorem face_change (valid : registry.WellFormed) (live : registry.session? id = some current)
    (same : current.serial = session.serial) {f : Session → Session} {g : Session.Face → Session.Face}
    (turned : (f current).face = g current.face) :
    (registry.change session.serial f).face = registry.face.alter id g := by
  have each : ∀ entry ∈ registry.sessions, (changed session.serial f entry.2).face =
      if entry.1 = id then g entry.2.face else entry.2.face := by
    rintro ⟨name, other⟩ member
    have found : registry.session? name = some other := Assoc.find?_of_mem valid.keys member
    by_cases here : name = id
    · subst here
      have alike : other = current := Option.some.inj (found.symm.trans live)
      simp [changed, alike, same, turned]
    · have different : other.serial ≠ session.serial := by
        rw [← same]
        exact fun equal => here (valid.same_id found live equal)
      simp [changed, different, here]
  unfold face Face.alter Face.each
  congr 1
  simp only [change, List.map_map]
  refine List.map_congr_left fun entry member => ?_
  exact congrArg (Prod.mk entry.1) (each entry member)

theorem changeSurface_face (valid : registry.WellFormed) (live : registry.session? id = some current)
    (same : current.serial = session.serial) (f : Surface → Surface) (g : Session.Face → Session.Face)
    (turned : ({ current with surface := f current.surface } : Session).face = g current.face) :
    (registry.changeSurface session f).face = registry.face.alter id g :=
  face_change valid live same turned

theorem showView_face (valid : registry.WellFormed) (live : registry.session? id = some current)
    (same : current.serial = session.serial) (view : current.view = session.view) (visible : Bool) :
    (registry.showView session visible).face = registry.face.alter id (Session.Face.shown visible) := by
  unfold showView
  dsimp only
  split
  next already =>
    have stays : ∀ entry ∈ registry.face.sessions, entry.2 =
        if entry.1 = id then entry.2.shown visible else entry.2 := by
      rintro ⟨name, other⟩ member
      obtain ⟨⟨other, found⟩, inside, alike⟩ := List.mem_map.mp member
      cases alike
      split
      next here =>
        subst here
        have alike : found = current := Option.some.inj ((Assoc.find?_of_mem valid.keys inside).symm.trans live)
        rw [beq_iff_eq, ← view] at already
        rw [alike, Session.Face.shown, Session.face, ← already]
        rfl
      next => rfl
    exact (Face.each_id _).symm.trans (Face.each_congr stays)
  next =>
    rw [face_note]
    refine face_change valid live same ?_
    rw [← view]
    rfl

theorem session?_elsewhere (valid : registry.WellFormed) (live : registry.session? id = some current)
    (same : current.serial = session.serial) (f : Session → Session) {name : String} (other : name ≠ id) :
    (registry.change session.serial f).session? name = registry.session? name := by
  rw [session?_change]
  cases found : registry.session? name with
  | none => rfl
  | some another =>
    have different : another.serial ≠ session.serial := by
      rw [← same]
      exact fun equal => other (valid.same_id found live equal)
    simp [changed, different]

theorem showView_elsewhere (valid : registry.WellFormed) (live : registry.session? id = some current)
    (same : current.serial = session.serial) (visible : Bool) {name : String} (other : name ≠ id) :
    (registry.showView session visible).session? name = registry.session? name := by
  unfold showView
  dsimp only
  split
  · rfl
  · rw [session?_note]
    exact session?_elsewhere valid live same _ other

theorem sessions_change_gone (unique : registry.sessions.keys.Nodup) {serial : Nat}
    (gone : ∀ name other, registry.session? name = some other → other.serial ≠ serial) (f : Session → Session) :
    (registry.change serial f).sessions = registry.sessions := by
  unfold change
  refine (List.map_congr_left fun entry member => ?_).trans (List.map_id registry.sessions)
  obtain ⟨name, other⟩ := entry
  simp [gone name other (Assoc.find?_of_mem unique member)]

section Fold
variable {act : Registry → Session → Registry} {g : String → Session.Face → Session.Face}
  (sound : ∀ registry session, Sound registry (act registry session))
  (turned : ∀ registry session, registry.WellFormed → registry.session? session.id = some session →
    (act registry session).face = registry.face.alter session.id (g session.id))
  (elsewhere : ∀ registry session name, registry.WellFormed → registry.session? session.id = some session →
    name ≠ session.id → (act registry session).session? name = registry.session? name)
include sound turned elsewhere

private theorem fold_face_of_nodup {todo : List Session} (distinct : (todo.map Session.id).Nodup)
    (valid : registry.WellFormed)
    (live : ∀ session ∈ todo, registry.session? session.id = some session) :
    (todo.foldl act registry).face =
      registry.face.each fun name face => if name ∈ todo.map Session.id then g name face else face := by
  induction todo generalizing registry with
  | nil => exact (Face.each_id _).symm.trans (Face.each_congr fun _ _ => by simp)
  | cons session rest ih =>
    obtain ⟨absent, distinct⟩ := List.nodup_cons.mp distinct
    have here := live session (List.mem_cons_self ..)
    have later : ∀ other ∈ rest, (act registry session).session? other.id = some other := by
      intro other member
      have different : other.id ≠ session.id := fun same => absent (same ▸ List.mem_map_of_mem member)
      rw [elsewhere registry session other.id valid here different]
      exact live other (List.mem_cons_of_mem _ member)
    rw [List.foldl_cons, ih distinct (sound registry session valid).1 later, turned registry session valid here,
      Face.alter, Face.each_each]
    refine Face.each_congr fun entry _ => ?_
    by_cases same : entry.1 = session.id
    · simp [same, absent]
    · simp [same]

/-- What is done to each session in turn, in whatever order they are gone through. -/
theorem fold_face (valid : registry.WellFormed) : (registry.ordered.foldl act registry).face = registry.face.each g := by
  have all : (registry.ordered.map Session.id).Perm registry.sessions.keys :=
    (registry.ordered_perm.map Session.id).trans (.of_eq valid.ids)
  have live : ∀ session ∈ registry.ordered, registry.session? session.id = some session :=
    fun session member => valid.live_of_mem (registry.ordered_perm.mem_iff.mp member)
  rw [fold_face_of_nodup sound turned elsewhere (all.nodup_iff.mpr valid.keys) valid live]
  refine Face.each_congr fun entry member => if_pos (all.mem_iff.mpr ?_)
  rw [← keys_face]
  exact List.mem_map_of_mem member

end Fold

theorem setActive_live (live : registry.session? id = some session) :
    setActive id registry = .ok session { registry with active := some id } := by
  rw [setActive, get_bind, live]
  rfl

end Changes

/-- A step that leaves the faces of the sessions alone. -/
def Still (first last : Registry) : Prop :=
  first.WellFormed → last.WellFormed ∧ last.face = first.face

namespace Still

protected theorem refl (registry : Registry) : Still registry registry := fun valid => ⟨valid, rfl⟩

protected theorem trans {first middle last : Registry} (before : Still first middle) (later : Still middle last) :
    Still first last := by
  intro valid
  obtain ⟨valid, same⟩ := before valid
  obtain ⟨valid, still⟩ := later valid
  exact ⟨valid, still.trans same⟩

theorem of_stance {first last : Registry} (same : last.stance = first.stance) : Still first last :=
  fun valid => ⟨valid.of_stance same, face_of_stance same⟩

end Still

private theorem write_still {registry : Registry} {session : Session} (bytes : List UInt8) (known : registry.Owns session) :
    Still registry (after (onSurface session (Surface.write bytes)) registry) := by
  intro valid
  refine ⟨(onSurface_sound session _ registry valid).1, ?_⟩
  rw [after_onSurface]
  refine face_of_seen (seen_change_of fun other member same => ?_) rfl rfl rfl
  have poise := Surface.poise_write bytes session.surface
  rw [← known other member same] at poise ⊢
  exact congrArg (fun side : Surface.Poise => { other.face with
    theme := side.theme, focused := side.focused, disposed := side.disposed }) poise

theorem markExited_still (registry : Registry) (id : String) : Still registry (registry.markExited id).2 := by
  intro valid
  refine ⟨(markExited_sound registry id valid).1, ?_⟩
  rcases markExited_cases registry id with same | ⟨serial, same⟩
  · rw [same]
  · rw [same]
    refine face_of_seen (seen_change ?_ _ _) rfl rfl rfl
    exact fun _ => rfl

theorem still_tells : TellRules Owns Still where
  refl := .refl
  trans before later := before.trans later
  log _ _ := .of_stance rfl
  mark id registry := markExited_still registry id
  marked owned := owned.marked
  write owned bytes := write_still bytes owned

theorem tell_still (who : Subscriber) (payload : Event.Payload) : Moves Still (tell who payload) :=
  fun _ valid => still_tells.of_valid who payload valid valid

theorem wiring_still {cwd id : String} {first final : Registry} {failure : Failure}
    (failed : Wiring cwd id first (.error failure final)) : Still first final := by
  intro valid
  refine ⟨(wiring_sound failed valid).1, ?_⟩
  cases failed with
  | unbuilt failure => rfl
  | unheard failure => rfl
  | leaking failure => rfl
  | unattached failure => rfl

/-- A new session is in the layout, but neither shown nor focused. -/
def Face.enroll (id : String) (tag : Nat × String) (face : Face) : Face :=
  { face with
    sessions := face.sessions ++ [(id, {
      tag := tag, number := face.counter + 1, theme := face.theme, focused := false, disposed := false
      attached := true, visible := false })]
    active := some id
    counter := face.counter + 1 }

theorem register_face {cwd id : String} {first final : Registry} {session : Session}
    (free : first.session? id = none) (made : Wiring cwd id first (.ok session final)) :
    (register cwd session final).face = first.face.enroll id session.tag := by
  cases made with
  | done =>
    have last := Assoc.put_of_absent free (attached (listening (newborn id first)))
    have sessions : Assoc.put id (attached (listening (newborn id first))) first.sessions = _ := last
    simp only [face, register, log, note, subscribe, counted]
    rw [show (attached (listening (newborn id first))).id = id from rfl, sessions, List.map_append]
    rfl

def Face.without (id : String) (face : Face) : Face :=
  { face with
    sessions := face.sessions.remove id
    active := if face.active == some id then none else face.active }

theorem Face.remove_alter {face : Face} {id : String} (unique : face.sessions.keys.Nodup)
    (f : Session.Face → Session.Face) : (face.alter id f).sessions.remove id = face.sessions.remove id := by
  simp only [Face.alter, Face.each]
  revert unique
  induction face.sessions with
  | nil => exact fun _ => rfl
  | cons entry rest ih =>
    obtain ⟨name, session⟩ := entry
    intro unique
    obtain ⟨absent, unique⟩ := List.nodup_cons.mp unique
    simp only [List.map_cons, Assoc.remove]
    split
    next here =>
      refine (List.map_congr_left fun entry member => ?_).trans (List.map_id rest)
      have elsewhere : entry.1 ≠ id := by
        intro same
        exact absent (List.mem_map.mpr ⟨entry, member, same.trans here.symm⟩)
      rw [if_neg elsewhere]
      rfl
    next => rw [ih unique]

theorem apart_face {registry : Registry} {id : String} {session : Session} (valid : registry.WellFormed)
    (live : registry.session? id = some session) :
    (apart id session registry).face = registry.face.without id := by
  have silent : (silenced id session registry).face =
      registry.face.alter id fun face => { face with focused := false, disposed := true } :=
    changeSurface_face ((Sound.of_unsubscribe registry _ _).trans (.of_unsubscribe _ _ _) valid).1 live rfl _ _ rfl
  have sessions : (apart id session registry).face.sessions = (silenced id session registry).face.sessions.remove id :=
    (Assoc.remove_map Session.face id _).symm
  rw [silent, Face.remove_alter (by rw [keys_face]; exact valid.keys)] at sessions
  exact Face.ext sessions rfl rfl rfl

end Registry

end TerminalDock
