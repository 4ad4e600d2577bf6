import Hotkeys.Engine.InMemory
import Hotkeys.Proofs.Engine.Serving

/-!
# The course of a daemon

With the backend in memory a daemon is a fold over what it takes up.  A `Course` says which
configurations come into force and how the daemon ends; the sessions, and what is bound in them,
can be read off it.  Main statement: `play_eq_course`.
-/

set_option autoImplicit false

namespace Hotkeys.Engine

open Hotkeys.Config (Binding Configuration)
open Hotkeys.Host (Files)

/-- Whether it is the error of a command that wakes the daemon. -/
def Wake.isFailure : Wake → Bool
  | .failed _ => true
  | _ => false

/-! ## Courses -/

/-- What becomes of a daemon. -/
structure Course where
  /-- The configurations that come into force, one after the other. -/
  configs : List Configuration
  /-- How the daemon ends, if it does. -/
  result : Option (Except Error Unit)

namespace Course

/-- The course that begins with what was read; one without a configuration ends. -/
def beginning : Except Config.Error Configuration → Course → Course
  | .error fault, _ => { configs := [], result := some (.error (.config fault)) }
  | .ok c, rest => { rest with configs := c :: rest.configs }

/-- A course after other configurations were in force. -/
def after (past : List Configuration) (course : Course) : Course :=
  { course with configs := past ++ course.configs }

theorem after_nil (course : Course) : course.after [] = course := rfl

theorem after_beginning (past : List Configuration) (c : Configuration) (rest : Course) :
    (beginning (.ok c) rest).after past = rest.after (past ++ [c]) := by
  rw [after, after, List.append_assoc]
  rfl

end Course

namespace Daemon

/-- The rest of a course while some configuration is in force.  A reload puts in force what the
file holds then, if the source is a file; a shutdown or the close of the channel is the end. -/
def courseFrom (d : Daemon) : List Occasion → Course
  | [] => { configs := [], result := none }
  | o :: rest =>
    match o.wake with
    | .failed _ => d.courseFrom rest
    | .signal .reload =>
      if d.source.isFile then .beginning (d.reading o.files) (d.courseFrom rest)
      else d.courseFrom rest
    | .signal (.shutdown _) | .closed => { configs := [], result := some (.ok ()) }

theorem courseFrom_reload (d : Daemon) (files : Files) (rest : List Occasion) :
    d.courseFrom ({ files, wake := .signal .reload } :: rest) =
      if d.source.isFile then .beginning (d.reading files) (d.courseFrom rest)
      else d.courseFrom rest :=
  rfl

/-- The errors of commands have no say in a course. -/
theorem courseFrom_filter (d : Daemon) (occasions : List Occasion) :
    d.courseFrom (occasions.filter fun o => !o.wake.isFailure) = d.courseFrom occasions := by
  induction occasions with
  | nil => rfl
  | cons o rest ih =>
      obtain ⟨files, wake⟩ := o
      cases wake with
      | failed e => exact ih
      | closed => rfl
      | signal sig =>
          cases sig with
          | shutdown name => rfl
          | reload =>
              have hfilter : (({ files, wake := .signal .reload } : Occasion) :: rest).filter
                  (fun o => !o.wake.isFailure) =
                    { files, wake := .signal .reload } ::
                      rest.filter fun o => !o.wake.isFailure := rfl
              rw [hfilter, courseFrom_reload, courseFrom_reload, ih]

/-- The course of a daemon: the configuration that it was given is the first one in force, or else
what is read at the start. -/
def course (d : Daemon) (files : Files) (ready : Option Configuration)
    (occasions : List Occasion) : Course :=
  .beginning (d.firstReading files ready) (d.courseFrom occasions)

end Daemon

/-! ## Sessions of a course -/

/-- The bindings that are not refused. -/
def accepted (rejected : List Text) (c : Configuration) : List Binding :=
  c.bindings.filter fun b => !rejected.contains b.normalized

namespace Session

/-- A session in which bindings of a configuration have been bound. -/
def holding (rejected : List Text) (c : Configuration) (bs : List Binding) : Session :=
  { lastId := UInt32.ofNat bs.length
    bound := bs.mapIdx fun i b =>
      { id := UInt32.ofNat i + 1
        chord := b.normalized
        event := b.event
        job := jobOf c b.command }
    rejected
    detached := false }

/-- The session of a configuration in force. -/
def live (rejected : List Text) (c : Configuration) : Session :=
  holding rejected c (accepted rejected c)

theorem map_bound_holding (rejected : List Text) (c : Configuration) (bs : List Binding) :
    (holding rejected c bs).bound.map (fun b => (b.chord, b.event)) =
      bs.map fun b => (b.normalized, b.event) := by
  refine List.ext_getElem ?_ fun i _ _ => ?_
  · rw [List.length_map, holding, List.length_mapIdx, List.length_map]
  · simp only [holding, List.getElem_map, List.getElem_mapIdx]

end Session

namespace Course

/-- Where a daemon is after its course. -/
def phase (course : Course) : Phase Nat :=
  match course.result with
  | none => .listening (course.configs.length - 1)
  | some result => .ended result

/-- The sessions after a course: one for each configuration that came into force, all of them left
but the last one of a daemon that waits. -/
def sessions (rejected : List Text) (course : Course) : Sessions :=
  { rejected
    opened :=
      match course.result with
      | none =>
        course.configs.dropLast.map (fun c => (Session.live rejected c).detach) ++
          course.configs.getLast?.toList.map (Session.live rejected)
      | some _ => course.configs.map fun c => (Session.live rejected c).detach }

end Course

/-! ## Opening and leaving sessions in memory -/

theorem Session.bind_holding (rejected : List Text) (c : Configuration) (bs : List Binding)
    (b : Binding) :
    ((holding rejected c bs).bind b.normalized b.event (jobOf c b.command)).2 =
      holding rejected c (bs ++ if rejected.contains b.normalized then [] else [b]) := by
  have hattached : (holding rejected c bs).detached = false := rfl
  have hrejected : (holding rejected c bs).rejected = rejected := rfl
  rw [bind, hattached, hrejected, if_neg Bool.false_ne_true]
  split
  case isTrue => rw [List.append_nil]
  case isFalse =>
    have hnext : UInt32.ofNat (bs.length + 1) = UInt32.ofNat bs.length + 1 := UInt32.ofNat_add _ _
    simp only [holding, List.length_append, List.mapIdx_append, List.length_singleton,
      List.mapIdx_cons, List.mapIdx_nil, Nat.zero_add, hnext]

/-- Binding in the newest session. -/
theorem bind_newest (rejected : List Text) (past : List Session) (session : Session) (chord : Text)
    (event : EventKind) (job : Job) :
    (Sessions.bind past.length chord event job { rejected, opened := past ++ [session] }).2 =
      { rejected, opened := past ++ [(session.bind chord event job).2] } := by
  have hnewest : (past ++ [session])[past.length]? = some session := List.getElem?_concat_length
  rw [Sessions.bind]
  simp only [hnewest, List.set_append_right _ _ (Nat.le_refl _), Nat.sub_self,
    List.set_cons_zero]

/-- Binding bindings in the newest session, one after the other. -/
theorem registerEach_inMemory (rejected : List Text) (c : Configuration) (past : List Session)
    (done bs : List Binding) :
    (registerEach inMemory past.length c bs
        { rejected, opened := past ++ [Session.holding rejected c done] }).2.2 =
      { rejected
        opened := past ++ [Session.holding rejected c
          (done ++ bs.filter fun b => !rejected.contains b.normalized)] } := by
  induction bs generalizing done with
  | nil =>
      rw [List.filter_nil, List.append_nil]
      rfl
  | cons b bs ih =>
      have hbind := bind_newest rejected past (Session.holding rejected c done) b.normalized b.event
        (jobOf c b.command)
      rw [Session.bind_holding] at hbind
      have hregister : (register inMemory past.length c b
          { rejected, opened := past ++ [Session.holding rejected c done] }).2 = _ := hbind
      have hfilter : (b :: bs).filter (fun b => !rejected.contains b.normalized) =
          (if rejected.contains b.normalized then [] else [b]) ++
            bs.filter fun b => !rejected.contains b.normalized := by
        rw [List.filter_cons]
        cases rejected.contains b.normalized <;> rfl
      rw [hfilter, ← List.append_assoc, ← ih, registerEach]
      generalize register inMemory past.length c b
        { rejected, opened := past ++ [Session.holding rejected c done] } = out at hregister
      obtain ⟨answer, s⟩ := out
      cases hregister
      cases answer <;> rfl

namespace Daemon

variable (d : Daemon) (rejected : List Text)

/-- A daemon opens one session for a configuration and binds in it what is not refused. -/
theorem enter_inMemory (c : Configuration) (past : List Session) :
    let out := d.enter inMemory c { rejected, opened := past }
    out.1 = .listening past.length ∧
      out.2.2 = { rejected, opened := past ++ [Session.live rejected c] } := by
  have hbound := registerEach_inMemory rejected c past [] c.bindings
  exact ⟨rfl, hbound⟩

/-- The session that is left is the newest one. -/
theorem leave_inMemory (past : List Session) (session : Session) :
    (leave inMemory past.length { rejected, opened := past ++ [session] }).2 =
      { rejected, opened := past ++ [session.detach] } := by
  have hmodify : (past ++ [session]).modify past.length Session.detach =
      past ++ [session.detach] := by
    induction past with
    | nil => rfl
    | cons first past ih => exact congrArg (first :: ·) ih
  exact congrArg (fun opened => ({ rejected, opened } : Sessions)) hmodify

/-- Once the session of a configuration is left, the configuration belongs to the past. -/
theorem leave_live (past : List Configuration) (c : Configuration) :
    let left := past.map fun c => (Session.live rejected c).detach
    (leave inMemory left.length { rejected, opened := left ++ [Session.live rejected c] }).2 =
      { rejected, opened := (past ++ [c]).map fun c => (Session.live rejected c).detach } := by
  intro left
  rw [leave_inMemory, List.map_append, List.map_singleton]

/-- What reading a configuration and opening a session for it leads to. -/
def begun (rejected : List Text) (past : List Session) :
    Except Config.Error Configuration → Phase Nat × Sessions
  | .error fault => (.ended (.error (.config fault)), { rejected, opened := past })
  | .ok c =>
    (.listening past.length, { rejected, opened := past ++ [Session.live rejected c] })

theorem begin_inMemory (files : Files) (past : List Session) :
    let out := d.begin inMemory files { rejected, opened := past }
    (out.1, out.2.2) = begun rejected past (d.reading files) := by
  rw [begin, reading]
  generalize Config.load files d.policy d.source = loaded
  obtain ⟨answer, log⟩ := loaded
  cases answer with
  | error fault => rfl
  | ok c =>
      obtain ⟨hphase, hstate⟩ := d.enter_inMemory rejected c past
      exact Prod.ext hphase hstate

theorem start_inMemory (files : Files) (ready : Option Configuration) :
    let out := d.start inMemory files ready (.fresh rejected)
    (out.1, out.2.2) = begun rejected [] (d.firstReading files ready) := by
  cases ready with
  | none => exact d.begin_inMemory rejected files []
  | some c =>
      obtain ⟨hphase, hstate⟩ := d.enter_inMemory rejected c []
      exact Prod.ext hphase hstate

/-- After what was read, a run follows the course.  The induction is on what is taken up; a reload
adds a configuration to those that were in force. -/
theorem run_begun (occasions : List Occasion) (past : List Configuration)
    (answer : Except Config.Error Configuration) :
    let now := begun rejected (past.map fun c => (Session.live rejected c).detach) answer
    let out := d.run inMemory now.1 now.2 occasions
    let course := (Course.beginning answer (d.courseFrom occasions)).after past
    (out.1, out.2.2) = (course.phase, course.sessions rejected) := by
  induction occasions generalizing past answer with
  | nil =>
      cases answer with
      | error fault =>
          simp only [begun, run, Course.beginning, Course.after, List.append_nil]
          rfl
      | ok c =>
          simp only [begun, run, courseFrom, Course.beginning, Course.after, Course.phase,
            Course.sessions, List.length_map, List.length_append, List.length_singleton,
            Nat.add_sub_cancel, List.dropLast_concat, List.getLast?_concat, Option.toList_some,
            List.map_singleton]
  | cons o rest ih =>
      cases answer with
      | error fault =>
          simp only [begun, run_ended, Course.beginning, Course.after, List.append_nil]
          rfl
      | ok c =>
          have hstay := ih past (.ok c)
          have hleft := leave_live rejected past c
          obtain ⟨files, wake⟩ := o
          cases wake with
          | failed e => exact hstay
          | closed =>
              simp only [begun, run, Daemon.wake, handle, finish, run_ended]
              rw [hleft]
              rfl
          | signal sig =>
              cases sig with
              | shutdown name =>
                  simp only [begun, run, Daemon.wake, handle, finish, run_ended]
                  rw [hleft]
                  rfl
              | reload =>
                  rw [courseFrom_reload]
                  cases hfile : d.source.isFile with
                  | false =>
                      simp only [begun, run, Daemon.wake, handle, hfile, Bool.false_eq_true,
                        if_false]
                      exact hstay
                  | true =>
                      -- The session is left before anything is read: whatever comes of the
                      -- reading, the configuration belongs to the past.
                      have hbegin := d.begin_inMemory rejected files
                        ((past ++ [c]).map fun c => (Session.live rejected c).detach)
                      have hrest := ih (past ++ [c]) (d.reading files)
                      simp only [begun, run, Daemon.wake, handle, hfile, if_true]
                      rw [hleft]
                      generalize d.begin inMemory files _ = out at hbegin ⊢
                      obtain ⟨phase, log, state⟩ := out
                      simp only at hbegin
                      rw [← hbegin] at hrest
                      rw [Course.after_beginning]
                      exact hrest

/-! ## The last session -/

/-- Until a daemon ends, each reload of a file puts one more configuration in force, and nothing
else does. -/
theorem length_courseFrom (occasions : List Occasion)
    (hresult : (d.courseFrom occasions).result = none) :
    (d.courseFrom occasions).configs.length =
      if d.source.isFile then (signalsOf occasions).count .reload else 0 := by
  induction occasions with
  | nil =>
      rw [signalsOf, List.filterMap_nil, List.count_nil, ite_self]
      rfl
  | cons o rest ih =>
      obtain ⟨files, wake⟩ := o
      cases wake with
      | failed e => exact ih hresult
      | closed => exact absurd hresult (Option.some_ne_none _)
      | signal sig =>
          cases sig with
          | shutdown name => exact absurd hresult (Option.some_ne_none _)
          | reload =>
              have hsignals : signalsOf ({ files, wake := .signal .reload } :: rest) =
                  .reload :: signalsOf rest := rfl
              rw [courseFrom_reload] at hresult ⊢
              rw [hsignals, List.count_cons_self]
              cases hfile : d.source.isFile with
              | false =>
                  rw [hfile] at hresult ih
                  exact ih hresult
              | true =>
                  rw [hfile] at hresult ih
                  simp only [if_true] at hresult ih ⊢
                  cases hreading : d.reading files with
                  | error fault =>
                      rw [hreading] at hresult
                      exact absurd hresult (Option.some_ne_none _)
                  | ok c =>
                      rw [hreading] at hresult
                      exact congrArg (· + 1) (ih hresult)

/-- The session of a waiting daemon is the newest one, and what is bound in it is what is not
refused of the configuration that came into force last. -/
theorem live_of_listening {files : Files} {ready : Option Configuration}
    {occasions : List Occasion} {session : Nat}
    (hlistening : (d.course files ready occasions).phase = .listening session) :
    ∃ c, (d.course files ready occasions).configs.getLast? = some c ∧
      ((d.course files ready occasions).sessions rejected).opened[session]? =
        some (Session.live rejected c) ∧
      ((d.course files ready occasions).sessions rejected).opened.length =
        1 + if d.source.isFile then (signalsOf occasions).count .reload else 0 := by
  rw [course] at hlistening ⊢
  generalize d.firstReading files ready = answer at hlistening ⊢
  cases answer with
  | error fault => cases hlistening
  | ok first =>
      have hcount := d.length_courseFrom occasions
      generalize d.courseFrom occasions = rest at hlistening hcount
      obtain ⟨configs, result⟩ := rest
      cases result with
      | some result => cases hlistening
      | none =>
          obtain ⟨past, c, hlast⟩ : ∃ past c, first :: configs = past ++ [c] :=
            ⟨_, _, (List.dropLast_concat_getLast (List.cons_ne_nil first configs)).symm⟩
          have hlength : (first :: configs).length = 1 +
              if d.source.isFile then (signalsOf occasions).count .reload else 0 := by
            rw [List.length_cons, hcount rfl, Nat.add_comm]
          simp only [Course.beginning, Course.phase, Course.sessions, hlast, List.length_append,
            List.length_singleton, Nat.add_sub_cancel, Phase.listening.injEq,
            List.dropLast_concat, List.getLast?_concat, Option.toList_some, List.map_singleton,
            List.length_map] at hlistening hlength ⊢
          subst hlistening
          refine ⟨c, rfl, ?_, hlength⟩
          rw [List.getElem?_append_right (Nat.le_of_eq (List.length_map _)), List.length_map,
            Nat.sub_self]
          rfl

end Daemon

/-! ## Main statement -/

/-- With the backend in memory a daemon is a fold over its signals, whatever the channels that
bring them, whatever waits in them at the start and whatever happens in any order: files change,
signals are sent, the channel is closed, commands fail.

The signals that were taken up are the first ones sent, in order, and the rest waits; the close is
taken up after all of them.  Where the daemon is and what its sessions hold is read off the course
of what was taken up.  While the daemon waits, it is in its newest session, one for the start and
one for each reload of a file that was taken up; bound there is what is not refused of the
configuration that came into force last, in order.  After the end nothing has an effect any more;
with enough turns, everything that waits is taken up or the daemon ends; and the errors of commands
have no say in the course, but those that are taken up are reported. -/
theorem play_eq_course {χ ε : Type} (d : Daemon) (channels : Channels χ ε) (rejected : List Text)
    (files : Files) (ready : Option Configuration) (signals : χ) (errors : ε)
    (moves : List Move) :
    let began := d.launch inMemory files ready signals errors (.fresh rejected)
    let out := d.play inMemory channels began moves
    let occasions := d.taken inMemory channels began moves
    let course := d.course files ready occasions
    (signalsOf occasions ++ channels.signals.waiting out.signals =
        channels.signals.waiting signals ++
          (if channels.signals.isClosed signals then [] else sentSignals moves)) ∧
      (∀ o ∈ occasions, o.wake = .closed → channels.signals.waiting out.signals = []) ∧
      (out.phase = course.phase ∧ out.state = course.sessions rejected) ∧
      (∀ session, out.phase = .listening session →
        ∃ c live, course.configs.getLast? = some c ∧ out.state.opened[session]? = some live ∧
          live.detached = false ∧
          live.bound.map (fun b => (b.chord, b.event)) =
            (c.bindings.filter fun b => !rejected.contains b.normalized).map
              (fun b => (b.normalized, b.event)) ∧
          out.state.opened.length =
            1 + if d.source.isFile then (signalsOf occasions).count .reload else 0) ∧
      (out.phase.isEnded = true → ∀ more,
        let later := d.play inMemory channels out more
        (later.phase, later.log, later.state) = (out.phase, out.log, out.state)) ∧
      (∀ turns : List Bool, Daemon.remaining channels out ≤ turns.length →
        let later := d.play inMemory channels out (turns.map .turn)
        later.phase.isEnded = true ∨ Daemon.remaining channels later = 0) ∧
      course = d.course files ready (occasions.filter fun o => !o.wake.isFailure) ∧
      ∀ o ∈ occasions, ∀ e, o.wake = .failed e → commandFailure e ∈ out.log := by
  intro began out occasions course
  have hstart := d.start_inMemory rejected files ready
  have hplay := d.play_eq_run inMemory channels began moves
  have hrun := d.run_begun rejected occasions [] (d.firstReading files ready)
  have hcourse : out.phase = course.phase ∧ out.state = course.sessions rejected := by
    have hlaunch : (began.phase, began.state) =
        Daemon.begun rejected [] (d.firstReading files ready) := hstart
    rw [Prod.ext_iff] at hlaunch
    simp only [List.map_nil, ← hlaunch.1, ← hlaunch.2, Course.after_nil, Prod.mk.injEq]
      at hrun
    simp only [Prod.mk.injEq] at hplay
    exact ⟨hplay.1.trans hrun.1, hplay.2.2.trans hrun.2⟩
  refine ⟨d.signalsOf_taken inMemory channels began moves, fun o ho hclosed => ?_, hcourse,
    fun session hlistening => ?_, fun hended more => ?_, fun turns henough => ?_, ?_,
    fun o ho e hfailed => ?_⟩
  · exact (d.settled_of_taken inMemory channels ho hclosed).2.1
  · rw [hcourse.1] at hlistening
    obtain ⟨c, hlast, hlive, hlength⟩ := d.live_of_listening rejected hlistening
    rw [hcourse.2]
    exact ⟨c, _, hlast, hlive, rfl, Session.map_bound_holding rejected c _, hlength⟩
  · exact d.play_ended inMemory channels hended more
  · exact d.play_turns inMemory channels out turns henough
  · exact congrArg (Course.beginning _) (d.courseFrom_filter occasions).symm
  · exact d.reported_of_taken inMemory channels ho hfailed

/-- Two reloads open two sessions, each for the file as it is in its turn, although one of them was
sent before the daemon started and both before the last change.  A chord of the last file is
refused, and a reload that is sent behind the shutdown is not taken up. -/
theorem play_eq_course_of_reloads :
    let files (text : String) : Files :=
      { nodes := [(["keys".toList], .file (Text.Utf8.encode text.toList) false)], here := [] }
    let d : Daemon := { source := .file "/keys".toList, policy := .skip, traced := false }
    let channels : Channels (Queue Signal) (Queue CommandError) := ⟨Queue.channel, Queue.channel⟩
    let began := d.launch inMemory (files "#a\nx\n") none ⟨[.reload], false⟩ ⟨[], false⟩
      (.fresh ["c".toList])
    let moves : List Move :=
      [.change (files "#b\nx\n"), .send .reload, .turn true,
        .change (files "#c\nx\n#Super+d\nx\n"), .turn false]
    let ending : List Move := [.send (.shutdown "INT".toList), .send .reload, .turn false]
    let out := d.play inMemory channels began moves
    let ended := d.play inMemory channels began (moves ++ ending)
    let bound (s : Sessions) : List (Bool × List (Text × EventKind)) :=
      s.opened.map fun s => (s.detached, s.bound.map fun b => (b.chord, b.event))
    out.phase = .listening 2 ∧
      signalsOf (d.taken inMemory channels began moves) = [.reload, .reload] ∧
      bound out.state = [(true, []), (true, []), (false, [("mod4-d".toList, .keyPress)])] ∧
      (∃ (c : Configuration) (live : Session), out.state.opened[2]? = some live ∧
        live.bound.map (fun b => (b.chord, b.event)) =
          (c.bindings.filter fun b => !(["c".toList].contains b.normalized)).map
            (fun b => (b.normalized, b.event))) ∧
      ended.phase.isEnded = true ∧
      bound ended.state = [(true, []), (true, []), (true, [])] := by
  intro files d channels began moves ending out ended bound
  obtain ⟨-, -, ⟨hphase, hstate⟩, hlive, -⟩ := play_eq_course d channels ["c".toList]
    (files "#a\nx\n") none ⟨[.reload], false⟩ ⟨[], false⟩ moves
  obtain ⟨-, -, ⟨hphase', hstate'⟩, -⟩ := play_eq_course d channels ["c".toList]
    (files "#a\nx\n") none ⟨[.reload], false⟩ ⟨[], false⟩ (moves ++ ending)
  have hout : d.play inMemory channels (d.launch inMemory (files "#a\nx\n") none ⟨[.reload], false⟩
      ⟨[], false⟩ (.fresh ["c".toList])) moves = out := rfl
  rw [hout] at hphase hstate hlive
  have hlistening : out.phase = .listening 2 := by
    have hresult : (d.course (files "#a\nx\n") none
        (d.taken inMemory channels began moves)).result.isNone = true := by decide +kernel
    have hconfigs : (d.course (files "#a\nx\n") none
        (d.taken inMemory channels began moves)).configs.length = 3 := by decide +kernel
    rw [hphase, Course.phase, Option.isNone_iff_eq_none.mp hresult, hconfigs]
  obtain ⟨c, live, -, hnewest, -, hbound, -⟩ := hlive 2 hlistening
  refine ⟨hlistening, by decide +kernel, ?_, ⟨c, live, hnewest, hbound⟩, ?_, ?_⟩
  · rw [hstate]
    decide +kernel
  · rw [show ended.phase = _ from hphase']
    decide +kernel
  · rw [show ended.state = _ from hstate']
    decide +kernel

end Hotkeys.Engine
