import Hotkeys.Engine.Backend

/-!
# Registration

The bindings of a configuration are bound one after the other; a binding that is refused is
reported and does not keep the others from being bound.
-/

set_option autoImplicit false

namespace Hotkeys.Engine

open Hotkeys.Config (Binding Configuration)

variable {σ ι : Type}

/-- What became of the bindings of a configuration. -/
structure Registered where
  /-- The numbers of the registrations, in order. -/
  ids : List Nat
  /-- The bindings that were refused, as they were written. -/
  failed : List Text
  deriving DecidableEq, Repr

/-- The report that a binding was refused. -/
def refusal (b : Binding) (e : Error) : LogRecord :=
  { level := .warn
    message := "can not register a keybinding".toList
    fields := [("binding".toList, b.written), ("error".toList, e.message)] }

/-- Binds one binding of a configuration. -/
def register (backend : Backend σ ι) (session : ι) (c : Configuration) (b : Binding) (s : σ) :
    Except Error Nat × σ :=
  backend.bind session b.normalized b.event (jobOf c b.command) s

/-- Binds bindings of a configuration in order. -/
def registerEach (backend : Backend σ ι) (session : ι) (c : Configuration) :
    List Binding → σ → Registered × Log × σ
  | [], s => ({ ids := [], failed := [] }, [], s)
  | b :: bs, s =>
    match register backend session c b s with
    | (.ok id, s) =>
      let (rest, log, s) := registerEach backend session c bs s
      ({ rest with ids := id :: rest.ids }, log, s)
    | (.error e, s) =>
      let (rest, log, s) := registerEach backend session c bs s
      ({ rest with failed := b.written :: rest.failed }, refusal b e :: log, s)

/-- Binds every binding of a configuration. -/
def registerAll (backend : Backend σ ι) (session : ι) (c : Configuration) (s : σ) :
    Registered × Log × σ :=
  registerEach backend session c c.bindings s

end Hotkeys.Engine
