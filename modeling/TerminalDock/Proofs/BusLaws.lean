import TerminalDock.Event.Bus
import TerminalDock.Proofs.TableLaws

/-! Who is told of an event after registrations came and went. -/

namespace TerminalDock.Event.Bus

variable {η : Type} [DecidableEq η]

/-- No event stands in the table twice, so that what is withdrawn does not come to light again. -/
def Sound (bus : Bus η) : Prop :=
  bus.table.keys.Nodup

omit [DecidableEq η] in
theorem sound_listen {bus : Bus η} (sound : bus.Sound) (event : String) (handler : η) :
    (bus.listen event handler).Sound :=
  Assoc.keys_put_nodup sound _

theorem sound_unlisten {bus : Bus η} (sound : bus.Sound) (event : String) (handler : η) :
    (bus.unlisten event handler).Sound := by
  unfold unlisten
  split
  · exact Assoc.keys_remove_nodup sound event
  · exact Assoc.keys_put_nodup sound _

omit [DecidableEq η] in
theorem handlers_listen (bus : Bus η) (event other : String) (handler : η) :
    (bus.listen event handler).handlers other =
      if other = event then bus.handlers event ++ [handler] else bus.handlers other := by
  unfold handlers listen
  split
  next same => subst same; simp [Assoc.find?_put_self, handlers]
  next different => rw [Assoc.find?_put_of_ne different]

theorem handlers_unlisten {bus : Bus η} (sound : bus.Sound) (event other : String) (handler : η) :
    (bus.unlisten event handler).handlers other =
      if other = event then (bus.handlers event).erase handler else bus.handlers other := by
  unfold unlisten
  split
  next nobody =>
    split
    next same =>
      subst same
      rw [nobody]
      simp only [handlers, Assoc.find?_remove_self sound, Option.getD_none]
    next different => simp only [handlers, Assoc.find?_remove_of_ne different]
  next rest some =>
    split
    next same => subst same; simp only [handlers, Assoc.find?_put_self, Option.getD_some]
    next different => simp only [handlers, Assoc.find?_put_of_ne different]

theorem count_listen (bus : Bus η) (event other : String) (handler who : η) :
    ((bus.listen event handler).handlers other).count who =
      (bus.handlers other).count who + if other = event ∧ who = handler then 1 else 0 := by
  rw [handlers_listen]
  by_cases here : other = event
  · subst here
    by_cases same : who = handler
    · subst same; simp
    · simp [same, Ne.symm same]
  · simp [here]

theorem count_unlisten {bus : Bus η} (sound : bus.Sound) (event other : String) (handler who : η) :
    ((bus.unlisten event handler).handlers other).count who =
      (bus.handlers other).count who - if other = event ∧ who = handler then 1 else 0 := by
  rw [handlers_unlisten sound]
  by_cases here : other = event
  · subst here
    by_cases same : who = handler
    · subst same; simp [List.count_erase_self]
    · simp [same, List.count_erase_of_ne same]
  · simp [here]

theorem handlers_undone {bus : Bus η} (sound : bus.Sound) {event other : String} (different : event ≠ other)
    {first second : η} (unheard : first ∉ bus.handlers event) (silent : second ∉ bus.handlers other) (name : String) :
    ((((bus.listen event first).listen other second).unlisten event first).unlisten other second).handlers name =
      bus.handlers name := by
  have erased {handlers : List η} {who : η} (absent : who ∉ handlers) : (handlers ++ [who]).erase who = handlers := by
    rw [List.erase_append_right _ absent, List.erase_cons_head, List.append_nil]
  have both := sound_listen (sound_listen sound event first) other second
  rw [handlers_unlisten (sound_unlisten both _ _), handlers_unlisten both, handlers_unlisten both]
  simp only [handlers_listen, different, different.symm, if_true, if_false, erased unheard, erased silent]
  split
  next here => rw [here]
  next =>
    split
    next here => rw [here]
    next => rfl

end TerminalDock.Event.Bus
