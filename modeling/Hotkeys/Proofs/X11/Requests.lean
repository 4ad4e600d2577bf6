import Hotkeys.X11.Manager
import Mathlib.Data.Finset.Basic
import Mathlib.Data.Finset.Filter

/-!
# What the server holds

The server holds a grab from the request that was granted until a request to give it up; granting
it a second time changes nothing, and giving up one that is not held changes nothing either.
`Connection.held` reads this off the requests of a connection.

Main statements: asking for grabs adds exactly the granted ones and is refused exactly if one of
them is denied (`grabAll_outcome`); a release takes away exactly those grabs of its list that no
registration needs (`mem_held_release`).
-/

set_option autoImplicit false

namespace Hotkeys.X11

open Hotkeys.Keys (Mask)

/-- The grabs that the server holds once it has answered a request. -/
def Request.effect (held : Finset Grab) : Request → Finset Grab
  | .grab g granted => if granted then insert g held else held
  | .ungrab g => held.erase g
  | .ungrabAll family => held.filter fun g => g.family ≠ family

/-- The grab of a code under modifiers on a device. -/
def Grab.on (family : Family) (p : Keycode × Mask) : Grab :=
  { family, code := p.1, mods := p.2 }

theorem Registration.grabs_eq {α : Type} (r : Registration α) :
    r.grabs = r.grabbed.map (Grab.on r.kind.family) := rfl

namespace Connection

/-- The grabs that the server holds for a connection. -/
def held (c : Connection) : Finset Grab :=
  c.requests.foldl Request.effect ∅

@[simp] theorem send_alive (c : Connection) (r : Request) : (c.send r).alive = c.alive := by
  unfold send
  split <;> rfl

@[simp] theorem send_denied (c : Connection) (r : Request) : (c.send r).denied = c.denied := by
  unfold send
  split <;> rfl

theorem held_send {c : Connection} (halive : c.alive = true) (r : Request) :
    (c.send r).held = r.effect c.held := by
  simp [held, send, halive]

@[simp] theorem ungrab_alive (c : Connection) (g : Grab) : (c.ungrab g).alive = c.alive :=
  send_alive c _

@[simp] theorem ungrab_denied (c : Connection) (g : Grab) : (c.ungrab g).denied = c.denied :=
  send_denied c _

theorem mem_held_ungrab {c : Connection} (halive : c.alive = true) {g g' : Grab} :
    g ∈ (c.ungrab g').held ↔ g ∈ c.held ∧ g ≠ g' := by
  rw [ungrab, held_send halive, Request.effect, Finset.mem_erase, and_comm]

theorem grab_of_denied {c : Connection} (halive : c.alive = true) {g : Grab}
    (hdenied : g ∈ c.denied) : c.grab g = (some .refused, c.send (.grab g false)) := by
  simp [grab, halive, hdenied]

theorem grab_of_not_denied {c : Connection} (halive : c.alive = true) {g : Grab}
    (hdenied : g ∉ c.denied) : c.grab g = (none, c.send (.grab g true)) := by
  simp [grab, halive, hdenied]

theorem mem_held_granted {c : Connection} (halive : c.alive = true) {g g' : Grab} :
    g ∈ (c.send (.grab g' true)).held ↔ g = g' ∨ g ∈ c.held := by
  rw [held_send halive, Request.effect, if_pos rfl, Finset.mem_insert]

theorem held_refused {c : Connection} (halive : c.alive = true) (g : Grab) :
    (c.send (.grab g false)).held = c.held := by
  simp [held_send halive, Request.effect]

end Connection

namespace Manager

variable {α : Type}

/-! ## Asking for several grabs -/

theorem grabAll_cons_of_denied {family : Family} {p : Keycode × Mask}
    {ps : List (Keycode × Mask)} {c : Connection} (halive : c.alive = true)
    (hdenied : Grab.on family p ∈ c.denied) :
    grabAll family (p :: ps) c = (some .refused, [], c.send (.grab (Grab.on family p) false)) := by
  have hgrab := Connection.grab_of_denied halive hdenied
  rw [Grab.on] at hgrab ⊢
  rw [grabAll, hgrab]

theorem grabAll_cons_of_not_denied {family : Family} {p : Keycode × Mask}
    {ps : List (Keycode × Mask)} {c : Connection} (halive : c.alive = true)
    (hdenied : Grab.on family p ∉ c.denied) :
    grabAll family (p :: ps) c =
      let rest := grabAll family ps (c.send (.grab (Grab.on family p) true))
      (rest.1, p :: rest.2.1, rest.2.2) := by
  have hgrab := Connection.grab_of_not_denied halive hdenied
  rw [Grab.on] at hgrab ⊢
  rw [grabAll, hgrab]

/-- What a list of grabs comes to while the server answers.  If none is denied, all are granted; if
one is, the answer is a refusal, and `granted` are those before the first denied one.  Either way
the server then holds what it held before and what it granted. -/
inductive GrabsOutcome (family : Family) (ps : List (Keycode × Mask)) (c : Connection) :
    Option RequestError × List (Keycode × Mask) × Connection → Prop where
  | granted {c' : Connection} (hfree : ∀ p ∈ ps, Grab.on family p ∉ c.denied)
      (halive : c'.alive = true) (hsame : c'.denied = c.denied)
      (hheld : ∀ g, g ∈ c'.held ↔ g ∈ c.held ∨ g ∈ ps.map (Grab.on family)) :
      GrabsOutcome family ps c (none, ps, c')
  | refused {granted : List (Keycode × Mask)} {c' : Connection}
      (hdenied : ∃ p ∈ ps, Grab.on family p ∈ c.denied)
      (halive : c'.alive = true) (hsame : c'.denied = c.denied)
      (hheld : ∀ g, g ∈ c'.held ↔ g ∈ c.held ∨ g ∈ granted.map (Grab.on family)) :
      GrabsOutcome family ps c (some .refused, granted, c')

/-- A grab in front that is granted. -/
theorem held_cons {family : Family} {p : Keycode × Mask} {granted : List (Keycode × Mask)}
    {c c' : Connection} (halive : c.alive = true)
    (hheld : ∀ g, g ∈ c'.held ↔ g ∈ (c.send (.grab (Grab.on family p) true)).held ∨
      g ∈ granted.map (Grab.on family)) (g : Grab) :
    g ∈ c'.held ↔ g ∈ c.held ∨ g ∈ (p :: granted).map (Grab.on family) := by
  rw [hheld, Connection.mem_held_granted halive, List.map_cons, List.mem_cons, or_left_comm,
    or_assoc]

theorem grabAll_outcome (family : Family) (ps : List (Keycode × Mask)) {c : Connection}
    (halive : c.alive = true) : GrabsOutcome family ps c (grabAll family ps c) := by
  induction ps generalizing c with
  | nil => exact .granted (by simp) halive rfl (by simp)
  | cons p ps ih =>
      by_cases hdenied : Grab.on family p ∈ c.denied
      · rw [grabAll_cons_of_denied halive hdenied]
        exact .refused ⟨p, List.mem_cons_self, hdenied⟩ (by simpa using halive) (by simp)
          (by simp [Connection.held_refused halive])
      · rw [grabAll_cons_of_not_denied halive hdenied]
        have hrest := ih (c := c.send (.grab (Grab.on family p) true)) (by simpa using halive)
        generalize grabAll family ps (c.send (.grab (Grab.on family p) true)) = rest at hrest ⊢
        cases hrest with
        | granted hfree halive' hsame hheld =>
            refine .granted ?_ halive' (by simpa using hsame) (held_cons halive hheld)
            intro q hq
            rcases List.mem_cons.mp hq with rfl | hq
            · exact hdenied
            · simpa using hfree q hq
        | refused hdenied' halive' hsame hheld =>
            obtain ⟨q, hq, hin⟩ := hdenied'
            exact .refused ⟨q, List.mem_cons_of_mem p hq, by simpa using hin⟩ halive'
              (by simpa using hsame) (held_cons halive hheld)

/-! ## Giving grabs up -/

theorem release_cons (registry : Registry α) (family : Family) (p : Keycode × Mask)
    (ps : List (Keycode × Mask)) (c : Connection) :
    release registry family (p :: ps) c =
      release registry family ps
        (if registry.needs (Grab.on family p) then c else c.ungrab (Grab.on family p)) := rfl

theorem release_connection (registry : Registry α) (family : Family)
    (ps : List (Keycode × Mask)) (c : Connection) :
    (release registry family ps c).alive = c.alive ∧
      (release registry family ps c).denied = c.denied := by
  induction ps generalizing c with
  | nil => exact ⟨rfl, rfl⟩
  | cons p ps ih =>
      rw [release_cons]
      split
      · exact ih c
      · simpa using ih (c.ungrab (Grab.on family p))

/-- A release keeps what some registration needs and what is not on its list. -/
theorem mem_held_release {registry : Registry α} {family : Family}
    {ps : List (Keycode × Mask)} {c : Connection} (halive : c.alive = true) {g : Grab} :
    g ∈ (release registry family ps c).held ↔
      g ∈ c.held ∧ (registry.needs g = true ∨ g ∉ ps.map (Grab.on family)) := by
  induction ps generalizing c with
  | nil => simp [release]
  | cons p ps ih =>
      rw [release_cons]
      by_cases hneeds : registry.needs (Grab.on family p) = true
      · rw [if_pos hneeds, ih halive, List.map_cons, List.mem_cons]
        constructor
        · rintro ⟨hheld, hneed | hout⟩
          · exact ⟨hheld, Or.inl hneed⟩
          · refine ⟨hheld, ?_⟩
            by_cases hsame : g = Grab.on family p
            · exact Or.inl (hsame ▸ hneeds)
            · exact Or.inr fun hin => hin.elim hsame hout
        · rintro ⟨hheld, hneed | hout⟩
          · exact ⟨hheld, Or.inl hneed⟩
          · exact ⟨hheld, Or.inr fun hin => hout (Or.inr hin)⟩
      · have hleft : (c.ungrab (Grab.on family p)).alive = true := by simpa using halive
        rw [if_neg hneeds, ih hleft, Connection.mem_held_ungrab halive, List.map_cons,
          List.mem_cons]
        constructor
        · rintro ⟨⟨hheld, hother⟩, hneed | hout⟩
          · exact ⟨hheld, Or.inl hneed⟩
          · exact ⟨hheld, Or.inr fun hin => hin.elim hother hout⟩
        · rintro ⟨hheld, hkeep⟩
          have hother : g ≠ Grab.on family p := by
            rintro rfl
            rcases hkeep with hneed | hout
            · exact hneeds hneed
            · exact hout (Or.inl rfl)
          refine ⟨⟨hheld, hother⟩, ?_⟩
          rcases hkeep with hneed | hout
          · exact Or.inl hneed
          · exact Or.inr fun hin => hout (Or.inr hin)

end Manager

end Hotkeys.X11
