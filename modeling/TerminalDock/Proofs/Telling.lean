import TerminalDock.Proofs.PanelSteps
import TerminalDock.Proofs.RegistryFaces
import TerminalDock.Proofs.Subscriptions

/-! What the announcement of an event does to the sessions. Each that is told of it takes it in by itself;
what fails in one of them is no business of the others. -/

namespace TerminalDock
open Proofs.Steps

def Event.chunks (payload : Event.Payload) : List (List UInt8) :=
  match Event.decodeChunk payload with
  | .ok bytes => [bytes]
  | .error _ => []

namespace Registry

abbrev Account := (Nat × String) × Bool × List (List UInt8)

/-- What a session makes of an event if it is the one that is told. -/
def impress (payload : Event.Payload) (account : Account) : Subscriber → Account
  | .output serial =>
    if account.1.1 = serial then (account.1, account.2.1, account.2.2 ++ Event.chunks payload) else account
  | .exit serial =>
    if account.1.1 = serial then (account.1, true, account.2.2 ++ if account.2.1 then [] else [exitMarker])
    else account

def impressed (payload : Event.Payload) (subscribers : List Subscriber) (account : Account) : Account :=
  subscribers.foldl (impress payload) account

private theorem tag_impress (payload : Event.Payload) (account : Account) (who : Subscriber) :
    (impress payload account who).1 = account.1 := by
  cases who <;> simp only [impress] <;> split <;> rfl

theorem tag_impressed (payload : Event.Payload) (subscribers : List Subscriber) (account : Account) :
    (impressed payload subscribers account).1 = account.1 := by
  unfold impressed
  induction subscribers generalizing account with
  | nil => rfl
  | cons who rest ih => rw [List.foldl_cons, ih, tag_impress]

theorem impressed_deaf {payload : Event.Payload} {subscribers : List Subscriber} {account : Account}
    (output : .output account.1.1 ∉ subscribers) (exit : .exit account.1.1 ∉ subscribers) :
    impressed payload subscribers account = account := by
  unfold impressed
  induction subscribers generalizing account with
  | nil => rfl
  | cons who rest ih =>
    simp only [List.mem_cons, not_or] at output exit
    have same : impress payload account who = account := by
      cases who with
      | output serial => exact if_neg fun here => output.1 (congrArg _ here)
      | exit serial => exact if_neg fun here => exit.1 (congrArg _ here)
    rw [List.foldl_cons, same]
    exact ih output.2 exit.2

/-- A session that is told once takes it in once, whoever else is told before and after. -/
theorem impressed_once {payload : Event.Payload} {subscribers : List Subscriber} {account : Account} {who : Subscriber}
    (once : subscribers.count who = 1)
    (output : .output account.1.1 ≠ who → .output account.1.1 ∉ subscribers)
    (exit : .exit account.1.1 ≠ who → .exit account.1.1 ∉ subscribers) :
    impressed payload subscribers account = impress payload account who := by
  obtain ⟨before, after, rfl⟩ := List.append_of_mem (List.count_pos_iff.mp (by omega : 0 < subscribers.count who))
  rw [List.count_append, List.count_cons_self] at once
  have early : who ∉ before := List.count_eq_zero.mp (by omega)
  have late : who ∉ after := List.count_eq_zero.mp (by omega)
  have absent {other : Subscriber} (part : List Subscriber) (here : part = before ∨ part = after)
      (elsewhere : other ≠ who → other ∉ before ++ who :: after) : other ∉ part := by
    intro member
    by_cases same : other = who
    · subst same
      rcases here with rfl | rfl
      · exact early member
      · exact late member
    · refine elsewhere same (List.mem_append.mpr ?_)
      rcases here with rfl | rfl
      · exact .inl member
      · exact .inr (List.mem_cons_of_mem _ member)
  have first : impressed payload before account = account :=
    impressed_deaf (absent before (.inl rfl) output) (absent before (.inl rfl) exit)
  unfold impressed at first ⊢
  rw [List.foldl_append, first, List.foldl_cons]
  apply impressed_deaf
  · rw [tag_impress]
    exact absent after (.inr rfl) output
  · rw [tag_impress]
    exact absent after (.inr rfl) exit

private theorem account_changed {registry : Registry} (valid : registry.WellFormed) {known session : Session}
    (owner : known ∈ registry.everyone) (member : session ∈ registry.everyone) {f : Session → Session}
    (account : Account → Account) (own : (f known).account = account known.account)
    (others : ∀ other : Account, other.1.1 ≠ known.serial → account other = other) :
    (changed known.serial f session).account = account session.account := by
  unfold changed
  split
  next here =>
    rw [valid.same_session member owner (beq_iff_eq.mp here)]
    exact own
  next elsewhere => exact (others session.account fun same => elsewhere (beq_iff_eq.mpr same)).symm

private theorem write_written (bytes : List UInt8) (surface : Surface) :
    (after (Surface.write bytes) surface).written = surface.written ++ [bytes] :=
  congrArg Surface.Poise.written (Surface.poise_write bytes surface)

private theorem deliver_account {registry : Registry} (valid : registry.WellFormed) {session : Session}
    (known : session ∈ registry.everyone) (payload : Event.Payload) :
    (after (deliver session payload) registry).seen Session.account =
      registry.seen fun other => impress payload other.account (.output session.serial) := by
  unfold deliver
  split
  next error malformed =>
    have dropped (account : Account) : impress payload account (.output session.serial) = account := by
      simp [impress, Event.chunks, malformed]
    simp only [dropped]
    rfl
  next bytes decoded =>
    rw [after_onSurface, seen_changed]
    refine seen_congr fun other member => ?_
    refine account_changed valid known member (impress payload · (.output session.serial)) ?_ ?_
    · simp only [Session.account, write_written]
      simp [impress, Session.tag, Event.chunks, decoded]
    · exact fun account elsewhere => if_neg elsewhere

private theorem noteExit_account {registry : Registry} (valid : registry.WellFormed) {id : String} {session : Session}
    (live : registry.session? id = some session) (payload : Event.Payload) :
    (after (noteExit session) registry).seen Session.account =
      registry.seen fun other => impress payload other.account (.exit session.serial) := by
  have named : session.id = id := valid.named id session live
  unfold noteExit
  rw [after_get_bind]
  cases exited : session.exited with
  | true =>
    have marked : registry.markExited session.id = (false, registry) := by
      simp [markExited, named, live, exited]
    rw [marked]
    refine seen_congr fun other member => ?_
    by_cases same : other.serial = session.serial
    · rw [valid.same_session member (everyone_of_live live) same]
      simp [impress, Session.account, Session.tag, exited]
    · exact (if_neg same).symm
  | false =>
    have marked : registry.markExited session.id =
        (true, registry.change session.serial fun old => { old with exited := true }) := by
      simp [markExited, named, live, exited]
    rw [marked]
    simp only [after_set_bind, if_true]
    refine (after_bind_view (seen Session.account) ?_ _).trans ?_
    · exact fun _ _ => rfl
    · rw [after_onSurface, seen_changed, seen_changed]
      refine seen_congr fun other member => ?_
      by_cases same : other.serial = session.serial
      · rw [valid.same_session member (everyone_of_live live) same]
        simp [changed, impress, Session.account, Session.tag, write_written, exited]
      · simp [changed, impress, Session.account, Session.tag, same]

private theorem tell_account {registry : Registry} (valid : registry.WellFormed) {who : Subscriber}
    (ending : ∀ serial, who = .exit serial → ∃ id session, registry.session? id = some session ∧ session.serial = serial)
    (payload : Event.Payload) :
    (after (tell who payload) registry).seen Session.account =
      registry.seen fun other => impress payload other.account who := by
  cases who with
  | output serial =>
    unfold tell
    rw [after_get_bind]
    cases found : registry.bySerial? serial with
    | none =>
      refine seen_congr fun other member => (if_neg fun same => ?_).symm
      have known := valid.bySerial_of_mem member
      rw [show other.serial = serial from same, found] at known
      cases known
    | some session =>
      obtain ⟨known, same⟩ := mem_of_bySerial found
      refine (after_bind_view (seen Session.account) ?_ _).trans ?_
      · exact fun _ _ => rfl
      · rw [← same]
        exact deliver_account valid known payload
  | exit serial =>
    obtain ⟨id, session, live, same⟩ := ending serial rfl
    unfold tell
    rw [after_get_bind, ← same, valid.bySerial_of_live live]
    exact noteExit_account valid live payload

/-- The table of subscriptions and the serial numbers are no business of those who are told. -/
def Framed (first last : Registry) : Prop :=
  last.bus = first.bus ∧ last.serial = first.serial

namespace Framed

protected theorem refl (registry : Registry) : Framed registry registry := ⟨rfl, rfl⟩

protected theorem trans {first middle last : Registry} (before : Framed first middle) (later : Framed middle last) :
    Framed first last :=
  ⟨later.1.trans before.1, later.2.trans before.2⟩

end Framed

private theorem onSurface_framed {α : Type} (session : Session) (act : SurfaceStep α) :
    Moves Framed (onSurface session act) := by
  intro registry
  rw [after_onSurface]
  exact ⟨rfl, rfl⟩

theorem markExited_framed (registry : Registry) (id : String) : Framed registry (registry.markExited id).2 := by
  rcases markExited_cases registry id with same | ⟨serial, same⟩
  · rw [same]
    exact ⟨rfl, rfl⟩
  · rw [same]
    exact ⟨rfl, rfl⟩

private theorem framed_tells : TellRules (fun _ _ => True) Framed where
  refl := .refl
  trans before later := before.trans later
  log _ := .refl
  mark id registry := markExited_framed registry id
  marked _ _ := trivial
  write _ _ := onSurface_framed _ _ _

end Registry

namespace Panel

theorem tellAll_cons (event : String) (payload : Event.Payload) (who : Subscriber) (rest : List Subscriber)
    (panel : Panel) :
    ∃ next : Panel, tellAll event payload (who :: rest) panel = tellAll event payload rest next ∧
      next.stance = { panel with registry := after (Registry.tell who payload) panel.registry }.stance := by
  unfold after
  rw [tellAll]
  split
  next redraw registry told =>
    dsimp only
    split
    · exact ⟨_, rfl, by rw [told]; rfl⟩
    · exact ⟨_, rfl, by rw [told]⟩
  next failure registry told => exact ⟨_, rfl, by rw [told]; rfl⟩

/-- Everybody who is told of an event takes it in. -/
theorem tellAll_account {event : String} {payload : Event.Payload} {subscribers : List Subscriber} {panel : Panel}
    (valid : panel.registry.WellFormed)
    (ending : ∀ serial, .exit serial ∈ subscribers →
      ∃ id session, panel.registry.session? id = some session ∧ session.serial = serial) :
    (tellAll event payload subscribers panel).registry.seen Session.account =
      panel.registry.seen fun other => Registry.impressed payload subscribers other.account := by
  induction subscribers generalizing panel with
  | nil => rfl
  | cons who rest ih =>
    obtain ⟨next, goOn, same⟩ := tellAll_cons event payload who rest panel
    have stance : next.registry.stance = (after (Registry.tell who payload) panel.registry).stance :=
      congrArg Stance.registry same
    have sound := (Registry.sound_tells.moves who payload panel.registry valid).1.of_stance stance
    have heard : next.registry.seen Session.account =
        panel.registry.seen fun other => Registry.impress payload other.account who := by
      have kept := congrArg Registry.Hearing.sessions (Registry.hearing_of_stance stance)
      refine kept.trans (Registry.tell_account valid (fun serial here => ?_) payload)
      exact ending serial (here ▸ List.mem_cons_self ..)
    have tags : next.registry.seen Session.tag = panel.registry.seen Session.tag := by
      refine (Registry.seen_comp Prod.fst heard).trans (Registry.seen_congr fun other _ => ?_)
      exact Registry.tag_impress payload other.account who
    rw [goOn, ih sound]
    · exact Registry.seen_comp (Registry.impressed payload rest) heard
    · intro serial member
      obtain ⟨id, session, live, number⟩ := ending serial (List.mem_cons_of_mem _ member)
      obtain ⟨current, now, alike⟩ := Registry.live_of_seen tags.symm live
      exact ⟨id, current, now, (congrArg Prod.fst alike).trans number⟩

theorem tellAll_framed (event : String) (payload : Event.Payload) (subscribers : List Subscriber) (panel : Panel) :
    Registry.Framed panel.registry (tellAll event payload subscribers panel).registry :=
  tellAll_registry Registry.framed_tells (Registry.framed_tells.moves · payload) (fun registry _ => .refl registry) event
    subscribers panel

theorem tellAll_still (event : String) (payload : Event.Payload) (subscribers : List Subscriber) (panel : Panel) :
    Registry.Still panel.registry (tellAll event payload subscribers panel).registry :=
  tellAll_registry Registry.still_tells (Registry.tell_still · payload) (fun _ _ => .of_stance rfl) event subscribers panel

end Panel

end TerminalDock
