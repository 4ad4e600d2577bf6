import Hotkeys.Engine.Daemon

/-!
# The calls of the daemon

Every backend can be made to write down the calls made to it.  The daemon does not notice: it
reports the same, ends up in the same phase and leaves the backend in the same state.  So whatever
is said of the calls of a traced run is said of the run itself.

For each part of the daemon one statement says what it calls and in which phase that leaves it:
`registerEach_traced`, `enter_traced`, `begin_traced`, `handle_traced`.
-/

set_option autoImplicit false

namespace Hotkeys.Engine

open Hotkeys.Config (Binding Configuration)
open Hotkeys.Host (Files)

variable {σ ι : Type}

/-! ## Writing down calls -/

/-- A call to a windowing system. -/
inductive Call (ι : Type) where
  /-- A session is asked for and opened, or not. -/
  | connect (answer : Except Error ι)
  /-- A chord is to be bound in a session. -/
  | bind (session : ι) (chord : Text) (event : EventKind) (job : Job)
  /-- A session is to be left. -/
  | detach (session : ι)

/-- A backend that does the same and writes down what it is asked. -/
def Backend.traced (backend : Backend σ ι) : Backend (σ × List (Call ι)) ι where
  connect := fun (s, calls) =>
    let (answer, s) := backend.connect s
    (answer, s, calls ++ [.connect answer])
  bind := fun session chord event job (s, calls) =>
    let (answer, s) := backend.bind session chord event job s
    (answer, s, calls ++ [.bind session chord event job])
  detach := fun session (s, calls) =>
    let (answer, s) := backend.detach session s
    (answer, s, calls ++ [.detach session])

/-- What a part of the daemon yields, together with the calls made up to its end. -/
def withCalls {β : Type} (out : β × Log × σ) (calls : List (Call ι)) :
    β × Log × σ × List (Call ι) :=
  (out.1, out.2.1, out.2.2, calls)

/-! ## Cycles -/

/-- A session and the configuration that it was opened for. -/
structure Cycle (ι : Type) where
  /-- The session. -/
  session : ι
  /-- The configuration. -/
  config : Configuration

namespace Cycle

/-- The call that binds a binding of the configuration. -/
def bindCall (k : Cycle ι) (b : Binding) : Call ι :=
  .bind k.session b.normalized b.event (jobOf k.config b.command)

/-- The calls that open a session and bind each binding of its configuration once, in order. -/
def opening (k : Cycle ι) : List (Call ι) :=
  .connect (.ok k.session) :: k.config.bindings.map k.bindCall

/-- The calls of a whole cycle. -/
def calls (k : Cycle ι) : List (Call ι) :=
  k.opening ++ [.detach k.session]

end Cycle

/-! ## Opening a session -/

/-- Each binding is bound once, in order, whether or not those before it were refused. -/
theorem registerEach_traced (backend : Backend σ ι) (k : Cycle ι) (bs : List Binding) (s : σ)
    (calls : List (Call ι)) :
    registerEach backend.traced k.session k.config bs (s, calls) =
      withCalls (registerEach backend k.session k.config bs s) (calls ++ bs.map k.bindCall) := by
  induction bs generalizing s calls with
  | nil =>
      rw [List.map_nil, List.append_nil]
      rfl
  | cons b bs ih =>
      have htraced : register backend.traced k.session k.config b (s, calls) =
          ((register backend k.session k.config b s).1,
            (register backend k.session k.config b s).2, calls ++ [k.bindCall b]) := rfl
      rw [registerEach, registerEach, htraced]
      generalize register backend k.session k.config b s = out
      obtain ⟨answer, s'⟩ := out
      cases answer with
      | ok id =>
          simp only [ih, withCalls, List.map_cons, List.append_assoc, List.singleton_append]
      | error e =>
          simp only [ih, withCalls, List.map_cons, List.append_assoc, List.singleton_append]

namespace Daemon

/-- What opening a session for a configuration calls and where it leads. -/
inductive Entered (c : Configuration) : Phase ι → List (Call ι) → Prop where
  /-- There is no session, and nothing more is called. -/
  | refused (e : Error) : Entered c (.ended (.error e)) [.connect (.error e)]
  /-- There is one, and everything is bound in it. -/
  | opened (session : ι) :
      Entered c (.listening session) (Cycle.opening { session, config := c })

theorem enter_traced (d : Daemon) (backend : Backend σ ι) (c : Configuration) (s : σ)
    (calls : List (Call ι)) :
    ∃ made, d.enter backend.traced c (s, calls) =
        withCalls (d.enter backend c s) (calls ++ made) ∧
      Entered c (d.enter backend c s).1 made := by
  have htraced : backend.traced.connect (s, calls) =
      ((backend.connect s).1, (backend.connect s).2,
        calls ++ [.connect (backend.connect s).1]) := rfl
  rw [enter, enter, htraced]
  generalize backend.connect s = out
  obtain ⟨answer, s'⟩ := out
  cases answer with
  | error e => exact ⟨_, rfl, .refused e⟩
  | ok session =>
      refine ⟨_, ?_, .opened session⟩
      have hbound := registerEach_traced backend { session, config := c } c.bindings s'
        (calls ++ [.connect (.ok session)])
      simp only [registerAll, hbound, withCalls, Cycle.opening, List.append_assoc,
        List.singleton_append]

/-- What reading a configuration and opening a session for it calls and where it leads. -/
inductive Begun : Except Config.Error Configuration → Phase ι → List (Call ι) → Prop where
  /-- There is no configuration, and nothing is called. -/
  | unread (fault : Config.Error) : Begun (.error fault) (.ended (.error (.config fault))) []
  /-- There is one. -/
  | read {c : Configuration} {phase : Phase ι} {made : List (Call ι)}
      (hentered : Entered c phase made) : Begun (.ok c) phase made

/-- What the daemon reads from its source. -/
def reading (d : Daemon) (files : Files) : Except Config.Error Configuration :=
  (Config.load files d.policy d.source).1

theorem begin_traced (d : Daemon) (backend : Backend σ ι) (files : Files) (s : σ)
    (calls : List (Call ι)) :
    ∃ made, d.begin backend.traced files (s, calls) =
        withCalls (d.begin backend files s) (calls ++ made) ∧
      Begun (d.reading files) (d.begin backend files s).1 made := by
  rw [begin, begin, reading]
  generalize Config.load files d.policy d.source = out
  obtain ⟨answer, log⟩ := out
  cases answer with
  | error fault => exact ⟨[], by rw [List.append_nil]; rfl, .unread fault⟩
  | ok c =>
      obtain ⟨made, htraced, hentered⟩ := d.enter_traced backend c s calls
      exact ⟨made, by simp only [htraced]; rfl, .read hentered⟩

/-! ## Leaving it -/

theorem leave_traced (backend : Backend σ ι) (session : ι) (s : σ) (calls : List (Call ι)) :
    leave backend.traced session (s, calls) =
      ((leave backend session s).1, (leave backend session s).2,
        calls ++ [.detach session]) := by
  have htraced : backend.traced.detach session (s, calls) =
      ((backend.detach session s).1, (backend.detach session s).2,
        calls ++ [.detach session]) := rfl
  rw [leave, leave, htraced]
  generalize backend.detach session s = out
  obtain ⟨answer, s'⟩ := out
  cases answer <;> rfl

theorem finish_traced (d : Daemon) (backend : Backend σ ι) (session : ι) (s : σ)
    (calls : List (Call ι)) :
    d.finish backend.traced session (s, calls) =
      withCalls (d.finish backend session s) (calls ++ [.detach session]) := by
  rw [finish, finish, leave_traced]
  rfl

end Daemon

/-! ## Being woken -/

/-- Whether the daemon ends when it is woken so. -/
def Wake.ends : Wake → Bool
  | .signal (.shutdown _) => true
  | .closed => true
  | _ => false

namespace Daemon

/-- Whether the daemon reads its configuration again when it is woken so. -/
def rereads (d : Daemon) : Wake → Bool
  | .signal .reload => d.source.isFile
  | _ => false

/-- What waking the daemon in a session calls and where it leads. -/
inductive Handled (d : Daemon) (files : Files) (session : ι) (w : Wake) :
    Phase ι → List (Call ι) → Prop where
  /-- It goes on waiting. -/
  | waits (hends : w.ends = false) (hrereads : d.rereads w = false) :
      Handled d files session w (.listening session) []
  /-- It leaves the session, and only then reads and opens the next one. -/
  | reloads {phase : Phase ι} {made : List (Call ι)} (hends : w.ends = false)
      (hrereads : d.rereads w = true) (hbegun : Begun (d.reading files) phase made) :
      Handled d files session w phase (.detach session :: made)
  /-- It leaves the session and ends. -/
  | ends (hends : w.ends = true) : Handled d files session w (.ended (.ok ())) [.detach session]

theorem handle_traced (d : Daemon) (backend : Backend σ ι) (files : Files) (session : ι) (s : σ)
    (calls : List (Call ι)) (w : Wake) :
    ∃ made, d.handle backend.traced files session (s, calls) w =
        withCalls (d.handle backend files session s w) (calls ++ made) ∧
      Handled d files session w (d.handle backend files session s w).1 made := by
  cases w with
  | failed e => exact ⟨[], by rw [List.append_nil]; rfl, .waits rfl rfl⟩
  | closed => exact ⟨_, d.finish_traced backend session s calls, .ends rfl⟩
  | signal sig =>
      cases sig with
      | shutdown name =>
          refine ⟨[.detach session], ?_, .ends rfl⟩
          rw [handle, handle, finish_traced]
          rfl
      | reload =>
          rw [handle, handle]
          by_cases hfile : d.source.isFile = true
          · rw [if_pos hfile, if_pos hfile, leave_traced]
            obtain ⟨made, htraced, hbegun⟩ := d.begin_traced backend files
              (leave backend session s).2 (calls ++ [.detach session])
            refine ⟨_, ?_, .reloads rfl hfile hbegun⟩
            simp only [htraced, withCalls, List.append_assoc, List.singleton_append]
          · rw [if_neg hfile, if_neg hfile]
            exact ⟨[], by rw [List.append_nil]; rfl, .waits rfl (Bool.not_eq_true _ ▸ hfile)⟩

end Daemon

end Hotkeys.Engine
