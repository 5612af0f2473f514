import SandboxShell.Session.Event

/-!
Views of what a program does. A view alters events and leaves some out. Programs put together from
parts that look the same look the same, and what a view leaves alone can be read off behind it.
-/

namespace SandboxShell

variable {α β : Type} {view : Event → Option Event}

namespace Traced

def seen (view : Event → Option Event) (t : Traced α) : Traced α :=
  ⟨t.events.filterMap view, t.value⟩

theorem seen_eq_iff {t u : Traced α} : t.seen view = u.seen view ↔
    t.events.filterMap view = u.events.filterMap view ∧ t.value = u.value := by
  unfold seen
  rw [mk.injEq]

theorem seen_bind_congr {t u : Traced α} {f g : α → Traced β} (first : t.seen view = u.seen view)
    (next : (f u.value).seen view = (g u.value).seen view) :
    (t >>= f).seen view = (u >>= g).seen view := by
  obtain ⟨events, value⟩ := seen_eq_iff.1 first
  obtain ⟨later, last⟩ := seen_eq_iff.1 next
  apply seen_eq_iff.2
  rw [events_bind, events_bind, value_bind, value_bind, value, List.filterMap_append,
    List.filterMap_append, events, later]
  exact ⟨rfl, last⟩

end Traced

namespace Event

theorem filterMap_view {f : Event → Option β} (kept : ∀ e, (view e).bind f = f e)
    (events : List Event) : (events.filterMap view).filterMap f = events.filterMap f := by
  rw [List.filterMap_filterMap]
  congr 1
  funext e
  exact kept e

theorem flatMap_view {f : Event → List β} (kept : ∀ e, ((view e).map f).getD [] = f e)
    (events : List Event) : (events.filterMap view).flatMap f = events.flatMap f := by
  induction events with
  | nil => rfl
  | cons e rest ih =>
    rw [List.flatMap_cons, ← kept e, ← ih]
    cases shown : view e with
    | none => rw [List.filterMap_cons_none shown]; rfl
    | some other => rw [List.filterMap_cons_some shown]; rfl

end Event

end SandboxShell
