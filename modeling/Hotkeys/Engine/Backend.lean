import Hotkeys.Engine.Error
import Hotkeys.Engine.Job

/-!
# Backends

What the engine asks of a windowing system: to open a session, to bind chords in it and to leave
it.  Everything that the engine does is stated for any backend.
-/

set_option autoImplicit false

namespace Hotkeys.Engine

/-- A windowing system whose state is a `σ` and whose sessions are named by a `ι`. -/
structure Backend (σ ι : Type) where
  /-- Opens a session. -/
  connect : σ → Except Error ι × σ
  /-- Binds a chord text for a kind of event; the answer is the number of the registration. -/
  bind : ι → Text → EventKind → Job → σ → Except Error Nat × σ
  /-- Drops every registration of a session and ends it. -/
  detach : ι → σ → Except Error Unit × σ

end Hotkeys.Engine
