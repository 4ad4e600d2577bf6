import Hotkeys.Proofs.Engine.Calls

/-!
# Sessions follow one another

A daemon lives from its start through any occasions to wake it, each with the files as they are
then.  Its calls are those of whole cycles, one after the other: a session is opened, each binding
of what was read for it is bound once and in order, and the session is left before anything else is
read or opened.

`Accounts` says which calls go with which readings in which phase; `Follows` is the protocol that a
windowing system expects of any client.  Main statement: `calls_keep_sessions_apart`.
-/

set_option autoImplicit false

namespace Hotkeys.Engine

open Hotkeys.Config (Binding Configuration)
open Hotkeys.Host (Files)

variable {σ ι : Type}

/-! ## The protocol of sessions -/

namespace Call

/-- Whether a call opened a session. -/
def opens : Call ι → Bool
  | .connect (.ok _) => true
  | _ => false

/-- Whether a call leaves a session. -/
def leaves : Call ι → Bool
  | .detach _ => true
  | _ => false

end Call

/-- Calls that keep to the protocol, from the session that is open before them to the one that is
open after them: a session is asked for only while none is open, and nothing is bound in or left
but the session that is open. -/
inductive Follows : Option ι → List (Call ι) → Option ι → Prop where
  /-- No calls. -/
  | done (now : Option ι) : Follows now [] now
  /-- A session is opened. -/
  | opened {session : ι} {rest : List (Call ι)} {last : Option ι}
      (h : Follows (some session) rest last) :
      Follows none (.connect (.ok session) :: rest) last
  /-- A session is not opened. -/
  | refused {e : Error} {rest : List (Call ι)} {last : Option ι} (h : Follows none rest last) :
      Follows none (.connect (.error e) :: rest) last
  /-- A chord is bound in the open session, or refused. -/
  | bound {session : ι} {chord : Text} {event : EventKind} {job : Job} {rest : List (Call ι)}
      {last : Option ι} (h : Follows (some session) rest last) :
      Follows (some session) (.bind session chord event job :: rest) last
  /-- The open session is left. -/
  | left {session : ι} {rest : List (Call ι)} {last : Option ι} (h : Follows none rest last) :
      Follows (some session) (.detach session :: rest) last

namespace Follows

variable {now middle last : Option ι} {calls more : List (Call ι)}

theorem append (h : Follows now calls middle) (hmore : Follows middle more last) :
    Follows now (calls ++ more) last := by
  induction h with
  | done _ => exact hmore
  | opened _ ih => exact .opened (ih hmore)
  | refused _ ih => exact .refused (ih hmore)
  | bound _ ih => exact .bound (ih hmore)
  | left _ ih => exact .left (ih hmore)

/-- Whoever keeps to the protocol keeps to it at every point. -/
theorem take (h : Follows now calls last) (n : Nat) :
    ∃ middle, Follows now (calls.take n) middle := by
  induction h generalizing n with
  | done now => exact ⟨now, by rw [List.take_nil]; exact .done now⟩
  | opened _ ih =>
      cases n with
      | zero => exact ⟨_, .done _⟩
      | succ n => exact (ih n).imp fun _ hrest => .opened hrest
  | refused _ ih =>
      cases n with
      | zero => exact ⟨_, .done _⟩
      | succ n => exact (ih n).imp fun _ hrest => .refused hrest
  | bound _ ih =>
      cases n with
      | zero => exact ⟨_, .done _⟩
      | succ n => exact (ih n).imp fun _ hrest => .bound hrest
  | left _ ih =>
      cases n with
      | zero => exact ⟨_, .done _⟩
      | succ n => exact (ih n).imp fun _ hrest => .left hrest

/-- The sessions that are opened are those that are left and the one that stays open. -/
theorem count (h : Follows now calls last) :
    now.toList.length + calls.countP Call.opens =
      calls.countP Call.leaves + last.toList.length := by
  induction h with
  | done _ => simp
  | opened _ ih => simpa [List.countP_cons, Call.opens, Call.leaves, Nat.add_comm] using ih
  | refused _ ih => simpa [List.countP_cons, Call.opens, Call.leaves] using ih
  | bound _ ih => simpa [List.countP_cons, Call.opens, Call.leaves] using ih
  | left _ ih =>
      simp only [Option.toList_none, List.length_nil, Nat.zero_add] at ih
      simp [List.countP_cons, Call.opens, Call.leaves, ih]
      omega

/-- Calls that begin while no session is open. -/
theorem count_of_none (h : Follows none calls last) :
    calls.countP Call.opens = calls.countP Call.leaves + last.toList.length := by
  have hcount := h.count
  rwa [Option.toList_none, List.length_nil, Nat.zero_add] at hcount

end Follows

namespace Cycle

theorem follows_bindCalls (k : Cycle ι) (bs : List Binding) :
    Follows (some k.session) (bs.map k.bindCall) (some k.session) := by
  induction bs with
  | nil => exact .done _
  | cons b bs ih => exact .bound ih

theorem follows_opening (k : Cycle ι) : Follows none k.opening (some k.session) :=
  .opened (k.follows_bindCalls k.config.bindings)

theorem follows_calls (k : Cycle ι) : Follows none k.calls none :=
  k.follows_opening.append (.left (.done none))

/-- Leaving the session of a cycle makes it whole. -/
theorem flatMap_calls_concat (past : List (Cycle ι)) (k : Cycle ι) (more : List (Call ι)) :
    (past ++ [k]).flatMap Cycle.calls ++ more =
      past.flatMap Cycle.calls ++ k.opening ++ .detach k.session :: more := by
  simp [calls]

theorem follows_flatMap_calls (past : List (Cycle ι)) :
    Follows none (past.flatMap Cycle.calls) none := by
  induction past with
  | nil => exact .done none
  | cons k past ih =>
      rw [List.flatMap_cons]
      exact k.follows_calls.append ih

end Cycle

/-! ## Lives -/

/-- What wakes the daemon, and the files at that time. -/
structure Occasion where
  /-- The files. -/
  files : Files
  /-- What wakes it. -/
  wake : Wake

/-- The session that the daemon waits in. -/
def Phase.session? : Phase ι → Option ι
  | .listening session => some session
  | .ended _ => none

theorem Phase.session?_of_isEnded {phase : Phase ι} (hended : phase.isEnded = true) :
    phase.session? = none := by
  cases phase with
  | listening session => exact absurd hended Bool.false_ne_true
  | ended result => rfl

/-- What was read for a cycle. -/
def Cycle.reading (k : Cycle ι) : Except Config.Error Configuration :=
  .ok k.config

/-- The calls that go with what was read and the phase that the daemon is in.  A cycle for each
reading, whole except for the last one while the daemon waits; the first reading that fails, or
that no session is opened for, is the last one to matter. -/
inductive Accounts :
    List (Except Config.Error Configuration) → List (Call ι) → Phase ι → Prop where
  /-- The daemon waits in its last session. -/
  | waiting (past : List (Cycle ι)) (now : Cycle ι) :
      Accounts (past.map Cycle.reading ++ [now.reading])
        (past.flatMap Cycle.calls ++ now.opening) (.listening now.session)
  /-- It has ended as it should. -/
  | shutDown (past : List (Cycle ι)) :
      Accounts (past.map Cycle.reading) (past.flatMap Cycle.calls) (.ended (.ok ()))
  /-- It has ended because there was no configuration. -/
  | unread (past : List (Cycle ι)) (fault : Config.Error)
      (rest : List (Except Config.Error Configuration)) :
      Accounts (past.map Cycle.reading ++ .error fault :: rest) (past.flatMap Cycle.calls)
        (.ended (.error (.config fault)))
  /-- It has ended because there was no session. -/
  | refused (past : List (Cycle ι)) (c : Configuration) (e : Error)
      (rest : List (Except Config.Error Configuration)) :
      Accounts (past.map Cycle.reading ++ .ok c :: rest)
        (past.flatMap Cycle.calls ++ [.connect (.error e)]) (.ended (.error e))

/-- Whole cycles keep to the protocol, and only the session of a waiting daemon is open. -/
theorem Accounts.follows {readings : List (Except Config.Error Configuration)}
    {calls : List (Call ι)} {phase : Phase ι} (h : Accounts readings calls phase) :
    Follows none calls phase.session? := by
  cases h with
  | waiting past now => exact (Cycle.follows_flatMap_calls past).append now.follows_opening
  | shutDown past => exact Cycle.follows_flatMap_calls past
  | unread past _ _ => exact Cycle.follows_flatMap_calls past
  | refused past _ _ _ =>
      exact (Cycle.follows_flatMap_calls past).append (.refused (.done none))

namespace Daemon

/-- What the daemon does on some occasions. -/
def run (d : Daemon) (backend : Backend σ ι) (phase : Phase ι) (s : σ) :
    List Occasion → Phase ι × Log × σ
  | [] => (phase, [], s)
  | o :: rest =>
    let (phase, log, s) := d.wake backend o.files phase s o.wake
    let (last, more, s) := run d backend phase s rest
    (last, log ++ more, s)

/-- What the daemon does from its start. -/
def live (d : Daemon) (backend : Backend σ ι) (files : Files) (ready : Option Configuration)
    (s : σ) (occasions : List Occasion) : Phase ι × Log × σ :=
  let (phase, log, s) := d.start backend files ready s
  let (last, more, s) := d.run backend phase s occasions
  (last, log ++ more, s)

/-- To be woken several times while the files stay the same is to be woken on as many occasions. -/
theorem wakeAll_eq_run (d : Daemon) (backend : Backend σ ι) (files : Files) (phase : Phase ι)
    (s : σ) (ws : List Wake) :
    d.wakeAll backend files phase s ws =
      d.run backend phase s (ws.map fun wake => { files, wake }) := by
  induction ws generalizing phase s with
  | nil => rfl
  | cons w ws ih =>
      rw [wakeAll, List.map_cons, run]
      simp only [ih]

/-- The daemon that has ended does nothing. -/
theorem run_ended (d : Daemon) (backend : Backend σ ι) (result : Except Error Unit) (s : σ)
    (occasions : List Occasion) :
    d.run backend (.ended result) s occasions = (.ended result, [], s) := by
  induction occasions with
  | nil => rfl
  | cons o rest ih => simp only [run, wake, ih, List.append_nil]

/-! ## Readings -/

/-- What the daemon reads first. -/
def firstReading (d : Daemon) (files : Files) (ready : Option Configuration) :
    Except Config.Error Configuration :=
  ready.elim (d.reading files) .ok

/-- What the daemon is asked to read again, up to the first occasion that ends it. -/
def rereadings (d : Daemon) : List Occasion → List (Except Config.Error Configuration)
  | [] => []
  | o :: rest =>
    if o.wake.ends then []
    else if d.rereads o.wake then d.reading o.files :: d.rereadings rest
    else d.rereadings rest

theorem start_traced (d : Daemon) (backend : Backend σ ι) (files : Files)
    (ready : Option Configuration) (s : σ) (calls : List (Call ι)) :
    ∃ made, d.start backend.traced files ready (s, calls) =
        withCalls (d.start backend files ready s) (calls ++ made) ∧
      Begun (d.firstReading files ready) (d.start backend files ready s).1 made := by
  cases ready with
  | none => exact d.begin_traced backend files s calls
  | some c =>
      obtain ⟨made, htraced, hentered⟩ := d.enter_traced backend c s calls
      exact ⟨made, htraced, .read hentered⟩

/-- A reading accounts for the calls made on it, after whole cycles; and for good if the daemon
ends with it. -/
theorem Begun.accounts {answer : Except Config.Error Configuration} {phase : Phase ι}
    {made : List (Call ι)} (hbegun : Begun answer phase made) (past : List (Cycle ι))
    {rest : List (Except Config.Error Configuration)}
    (hrest : phase.isEnded = true ∨ rest = []) :
    Accounts (past.map Cycle.reading ++ answer :: rest) (past.flatMap Cycle.calls ++ made)
      phase := by
  cases hbegun with
  | unread fault =>
      rw [List.append_nil]
      exact .unread past fault rest
  | @read c _ _ hentered =>
      cases hentered with
      | refused e => exact .refused past c e rest
      | opened session =>
          have hnil : rest = [] := hrest.resolve_left Bool.false_ne_true
          rw [hnil]
          exact .waiting past { session, config := c }

/-- In a session that was just opened, everything that was read has been bound. -/
theorem Begun.eq_opening {answer : Except Config.Error Configuration} {session : ι}
    {made : List (Call ι)} (hbegun : Begun answer (.listening session) made) :
    ∃ c, answer = .ok c ∧ made = Cycle.opening { session, config := c } := by
  cases hbegun with
  | @read c _ _ hentered =>
      cases hentered with
      | opened _ => exact ⟨c, rfl, rfl⟩

/-! ## Runs -/

/-- After whole cycles and the calls on one more reading, a run makes the calls that the readings
account for.  The induction is on the occasions: one that has the daemon read again makes the
current cycle whole and starts another one. -/
theorem run_traced (d : Daemon) (backend : Backend σ ι) (occasions : List Occasion)
    {answer : Except Config.Error Configuration} {phase : Phase ι} {made : List (Call ι)}
    (hbegun : Begun answer phase made) (past : List (Cycle ι)) (s : σ) :
    ∃ calls, d.run backend.traced phase (s, past.flatMap Cycle.calls ++ made) occasions =
        withCalls (d.run backend phase s occasions) calls ∧
      Accounts (past.map Cycle.reading ++ answer :: d.rereadings occasions) calls
        (d.run backend phase s occasions).1 := by
  induction occasions generalizing answer phase made past s with
  | nil => exact ⟨_, rfl, hbegun.accounts past (Or.inr rfl)⟩
  | cons o rest ih =>
      cases phase with
      | ended result =>
          rw [run_ended, run_ended]
          exact ⟨_, rfl, hbegun.accounts past (Or.inl rfl)⟩
      | listening session =>
          obtain ⟨c, rfl, rfl⟩ := hbegun.eq_opening
          obtain ⟨more, htraced, hhandled⟩ := d.handle_traced backend o.files session s
            (past.flatMap Cycle.calls ++ Cycle.opening { session, config := c }) o.wake
          rw [run, run, wake, wake, htraced, rereadings]
          generalize d.handle backend o.files session s o.wake = out at hhandled ⊢
          obtain ⟨next, log, s'⟩ := out
          cases hhandled with
          | waits hends hrereads =>
              obtain ⟨calls, hrun, haccounts⟩ := ih hbegun past s'
              rw [hends, hrereads]
              refine ⟨calls, ?_, haccounts⟩
              simp only [withCalls, List.append_nil, hrun]
          | @reloads _ made hends hrereads hbegun' =>
              obtain ⟨calls, hrun, haccounts⟩ :=
                ih hbegun' (past ++ [{ session, config := c }]) s'
              rw [Cycle.flatMap_calls_concat] at hrun
              rw [List.map_append, List.append_assoc] at haccounts
              rw [hends, hrereads]
              refine ⟨calls, ?_, haccounts⟩
              simp only [withCalls, hrun]
          | ends hends =>
              have haccounts := Accounts.shutDown (past ++ [{ session, config := c }])
              rw [List.map_append, ← List.append_nil (List.flatMap _ _),
                Cycle.flatMap_calls_concat] at haccounts
              rw [hends]
              simp only [withCalls, run_ended]
              exact ⟨_, rfl, haccounts⟩

/-- From its start on, the daemon makes the calls that its readings account for. -/
theorem live_traced (d : Daemon) (backend : Backend σ ι) (files : Files)
    (ready : Option Configuration) (s : σ) (occasions : List Occasion) :
    ∃ calls, d.live backend.traced files ready (s, []) occasions =
        withCalls (d.live backend files ready s occasions) calls ∧
      Accounts (d.firstReading files ready :: d.rereadings occasions) calls
        (d.live backend files ready s occasions).1 := by
  obtain ⟨made, hstart, hbegun⟩ := d.start_traced backend files ready s []
  obtain ⟨calls, hrun, haccounts⟩ :=
    d.run_traced backend occasions hbegun [] (d.start backend files ready s).2.2
  refine ⟨calls, ?_, haccounts⟩
  rw [List.nil_append] at hstart
  rw [List.flatMap_nil, List.nil_append] at hrun
  simp only [live, hstart, withCalls, hrun]

end Daemon

/-- Whatever a backend answers, whatever is there to be read and whatever wakes the daemon in any
order: its calls are cycles for what it reads, in which every binding is bound once and in order
before the session is left, once and before anything else.  So at every point at most one of the
sessions opened has not been left, only in that one is anything bound, and a daemon that has ended,
as it should or with an error, has left every session. -/
theorem calls_keep_sessions_apart (d : Daemon) (backend : Backend σ ι) (files : Files)
    (ready : Option Configuration) (s : σ) (occasions : List Occasion) :
    let out := d.live backend files ready s occasions
    ∃ calls, d.live backend.traced files ready (s, []) occasions = withCalls out calls ∧
      Accounts (d.firstReading files ready :: d.rereadings occasions) calls out.1 ∧
      (∀ n, ∃ now, Follows none (calls.take n) now ∧
        (calls.take n).countP Call.opens =
          (calls.take n).countP Call.leaves + now.toList.length) ∧
      Follows none calls out.1.session? ∧
      (out.1.isEnded = true → calls.countP Call.opens = calls.countP Call.leaves) := by
  intro out
  obtain ⟨calls, hlive, haccounts⟩ := d.live_traced backend files ready s occasions
  have hfollows : Follows none calls out.1.session? := haccounts.follows
  refine ⟨calls, hlive, haccounts, ?_, hfollows, ?_⟩
  · intro n
    obtain ⟨now, hnow⟩ := hfollows.take n
    exact ⟨now, hnow, hnow.count_of_none⟩
  · intro hended
    rw [hfollows.count_of_none, Phase.session?_of_isEnded hended]
    rfl

end Hotkeys.Engine
