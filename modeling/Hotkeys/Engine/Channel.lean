/-!
# Channels

What is sent to the daemon waits in a channel until the daemon takes it.  Channels come with the
runtime that the daemon runs on; here is what it relies on: what was sent is received once and in
order, and the close of a channel is noticed when everything before it has been received.
-/

set_option autoImplicit false

namespace Hotkeys.Engine

variable {χ α : Type}

/-- What looking into a channel finds. -/
inductive Received (α : Type) where
  /-- What was sent first of what still waits. -/
  | value (a : α)
  /-- Nothing waits, and nothing can come any more. -/
  | closed
  /-- Nothing waits now. -/
  | nothing
  deriving DecidableEq, Repr

/-- Channels for an `α`, in states that are a `χ`. -/
structure Channel (χ α : Type) where
  /-- Sends something. -/
  send : α → χ → χ
  /-- Closes the channel. -/
  close : χ → χ
  /-- Takes what waits first. -/
  receive : χ → Received α × χ
  /-- What was sent and not yet taken, the oldest first. -/
  waiting : χ → List α
  /-- Whether the channel has been closed. -/
  isClosed : χ → Bool
  /-- What is sent waits behind everything else, unless the channel is closed. -/
  waiting_send (a : α) (c : χ) :
    waiting (send a c) = if isClosed c then waiting c else waiting c ++ [a]
  /-- Sending does not close a channel, and does not open it again. -/
  isClosed_send (a : α) (c : χ) : isClosed (send a c) = isClosed c
  /-- Closing loses nothing. -/
  waiting_close (c : χ) : waiting (close c) = waiting c
  /-- Closing closes. -/
  isClosed_close (c : χ) : isClosed (close c) = true
  /-- What is taken is what waits first. -/
  receive_fst (c : χ) :
    (receive c).1 =
      match waiting c with
      | a :: _ => .value a
      | [] => if isClosed c then .closed else .nothing
  /-- The rest goes on waiting. -/
  waiting_receive (c : χ) : waiting (receive c).2 = (waiting c).tail
  /-- Taking does not close a channel, and does not open it again. -/
  isClosed_receive (c : χ) : isClosed (receive c).2 = isClosed c

/-- A channel that is a list. -/
structure Queue (α : Type) where
  /-- What waits. -/
  items : List α
  /-- Whether it is closed. -/
  closed : Bool
  deriving DecidableEq, Repr

/-- Lists do what is asked of channels. -/
def Queue.channel : Channel (Queue α) α where
  send a q := if q.closed then q else { q with items := q.items ++ [a] }
  close q := { q with closed := true }
  receive q :=
    match q.items with
    | a :: rest => (.value a, { q with items := rest })
    | [] => (if q.closed then .closed else .nothing, q)
  waiting := Queue.items
  isClosed := Queue.closed
  waiting_send a q := by split <;> rfl
  isClosed_send a q := by split <;> rfl
  waiting_close _ := rfl
  isClosed_close _ := rfl
  receive_fst q := by obtain ⟨_ | ⟨a, rest⟩, closed⟩ := q <;> rfl
  waiting_receive q := by obtain ⟨_ | ⟨a, rest⟩, closed⟩ := q <;> rfl
  isClosed_receive q := by obtain ⟨_ | ⟨a, rest⟩, closed⟩ := q <;> rfl

end Hotkeys.Engine
