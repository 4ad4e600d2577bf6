import Hotkeys.Engine.Serving
import Hotkeys.Proofs.Engine.Sessions

/-!
# What a daemon takes up

Among everything that goes on, a daemon takes up one thing in each turn.  To play moves is to live
through what is taken up (`play_eq_run`); of the signals sent, none is lost and none overtakes
another (`signalsOf_taken`); and a daemon that gets enough turns leaves nothing waiting
(`play_turns`).
-/

set_option autoImplicit false

namespace Hotkeys.Engine

open Hotkeys.Config (Configuration)
open Hotkeys.Host (Files)

variable {χ ε σ ι : Type}

/-! ## One look into the channels -/

namespace Channels

/-- Two states of a channel that hold the same. -/
def Same {α : Type} (channel : Channel χ α) (c c' : χ) : Prop :=
  channel.waiting c' = channel.waiting c ∧ channel.isClosed c' = channel.isClosed c

/-- What a look into the channels may find, and what is left in them. -/
inductive Looked (channels : Channels χ ε) (signals : χ) (errors : ε) :
    Option Wake × χ × ε → Prop where
  /-- A signal, the one that waits first. -/
  | signal {s : Signal} {signals' : χ} {errors' : ε}
      (hfirst : channels.signals.waiting signals = s :: channels.signals.waiting signals')
      (hclosed : channels.signals.isClosed signals' = channels.signals.isClosed signals)
      (herrors : channels.errors.waiting errors' = channels.errors.waiting errors) :
      Looked channels signals errors (some (.signal s), signals', errors')
  /-- The close of the channel of signals, in which nothing waits any more. -/
  | closed {signals' : χ} {errors' : ε} (hnone : channels.signals.waiting signals = [])
      (hclosed : channels.signals.isClosed signals = true)
      (hsame : Same channels.signals signals signals')
      (herrors : channels.errors.waiting errors' = channels.errors.waiting errors) :
      Looked channels signals errors (some .closed, signals', errors')
  /-- The error of a command. -/
  | failed {e : CommandError} {signals' : χ} {errors' : ε}
      (hsame : Same channels.signals signals signals')
      (hfirst : channels.errors.waiting errors = e :: channels.errors.waiting errors') :
      Looked channels signals errors (some (.failed e), signals', errors')
  /-- Nothing. -/
  | nothing {signals' : χ} {errors' : ε} (hnone : channels.signals.waiting signals = [])
      (hopen : channels.signals.isClosed signals = false)
      (hsame : Same channels.signals signals signals')
      (herrors : channels.errors.waiting errors = [])
      (herrors' : channels.errors.waiting errors' = []) :
      Looked channels signals errors (none, signals', errors')

theorem signal?_cases (channels : Channels χ ε) (signals : χ) :
    (∃ s rest, channels.signal? signals = (some (.signal s), rest) ∧
        channels.signals.waiting signals = s :: channels.signals.waiting rest ∧
          channels.signals.isClosed rest = channels.signals.isClosed signals) ∨
      (channels.signals.waiting signals = [] ∧
        ∃ rest, Same channels.signals signals rest ∧
          channels.signal? signals =
            (if channels.signals.isClosed signals then some .closed else none, rest)) := by
  have hfound := channels.signals.receive_fst signals
  have hrest := channels.signals.waiting_receive signals
  have hclosed := channels.signals.isClosed_receive signals
  rw [signal?]
  generalize channels.signals.receive signals = out at hfound hrest hclosed
  obtain ⟨found, rest⟩ := out
  cases hwaiting : channels.signals.waiting signals with
  | cons s more =>
      rw [hwaiting] at hfound hrest
      cases hfound
      exact Or.inl ⟨s, rest, rfl, congrArg (s :: ·) hrest.symm, hclosed⟩
  | nil =>
      rw [hwaiting] at hfound hrest
      refine Or.inr ⟨rfl, rest, ⟨hrest.trans hwaiting.symm, hclosed⟩, ?_⟩
      cases hend : channels.signals.isClosed signals with
      | true =>
          rw [hend] at hfound
          cases hfound
          rfl
      | false =>
          rw [hend] at hfound
          cases hfound
          rfl

theorem error?_cases (channels : Channels χ ε) (errors : ε) :
    (∃ e rest, channels.error? errors = (some (.failed e), rest) ∧
        channels.errors.waiting errors = e :: channels.errors.waiting rest) ∨
      (channels.errors.waiting errors = [] ∧
        ∃ rest, channels.errors.waiting rest = [] ∧ channels.error? errors = (none, rest)) := by
  have hfound := channels.errors.receive_fst errors
  have hrest := channels.errors.waiting_receive errors
  rw [error?]
  generalize channels.errors.receive errors = out at hfound hrest
  obtain ⟨found, rest⟩ := out
  cases hwaiting : channels.errors.waiting errors with
  | cons e more =>
      rw [hwaiting] at hfound hrest
      cases hfound
      exact Or.inl ⟨e, rest, rfl, congrArg (e :: ·) hrest.symm⟩
  | nil =>
      rw [hwaiting] at hfound hrest
      refine Or.inr ⟨rfl, rest, hrest, ?_⟩
      cases hend : channels.errors.isClosed errors with
      | true =>
          rw [hend] at hfound
          cases hfound
          rfl
      | false =>
          rw [hend] at hfound
          cases hfound
          rfl

/-- Whichever channel is looked into first. -/
theorem looked_next? (channels : Channels χ ε) (errorsFirst : Bool) (signals : χ) (errors : ε) :
    Looked channels signals errors (channels.next? errorsFirst signals errors) := by
  have hself : Same channels.signals signals signals := ⟨rfl, rfl⟩
  rw [next?]
  cases errorsFirst with
  | true =>
      rw [if_pos rfl]
      rcases channels.error?_cases errors with
        ⟨e, errors', herror, hfirst⟩ | ⟨hnone, errors', hnone', herror⟩
      · rw [herror]
        exact .failed hself hfirst
      · rw [herror]
        rcases channels.signal?_cases signals with
          ⟨s, signals', hsignal, hfirst, hclosed⟩ | ⟨hnothing, signals', hsame, hsignal⟩
        · rw [hsignal]
          exact .signal hfirst hclosed (hnone'.trans hnone.symm)
        · rw [hsignal]
          cases hend : channels.signals.isClosed signals with
          | true => exact .closed hnothing hend hsame (hnone'.trans hnone.symm)
          | false => exact .nothing hnothing hend hsame hnone hnone'
  | false =>
      rw [if_neg Bool.false_ne_true]
      rcases channels.signal?_cases signals with
        ⟨s, signals', hsignal, hfirst, hclosed⟩ | ⟨hnothing, signals', hsame, hsignal⟩
      · rw [hsignal]
        exact .signal hfirst hclosed rfl
      · rw [hsignal]
        cases hend : channels.signals.isClosed signals with
        | true => exact .closed hnothing hend hsame rfl
        | false =>
            rcases channels.error?_cases errors with
              ⟨e, errors', herror, hfirst⟩ | ⟨hnone, errors', hnone', herror⟩
            · simp only [Bool.false_eq_true, if_false, herror]
              exact .failed hsame hfirst
            · simp only [Bool.false_eq_true, if_false, herror]
              exact .nothing hnothing hend hsame hnone hnone'

end Channels

/-! ## What is taken up -/

/-- The signal that wakes the daemon, if it is one. -/
def Wake.signal? : Wake → Option Signal
  | .signal s => some s
  | _ => none

/-- The signals among what is taken up. -/
def signalsOf (occasions : List Occasion) : List Signal :=
  occasions.filterMap fun o => o.wake.signal?

/-- The signals that are sent before the channel is closed. -/
def sentSignals : List Move → List Signal
  | [] => []
  | .send s :: moves => s :: sentSignals moves
  | .close :: _ => []
  | _ :: moves => sentSignals moves

theorem signalsOf_append (before after : List Occasion) :
    signalsOf (before ++ after) = signalsOf before ++ signalsOf after :=
  List.filterMap_append

namespace Daemon

/-- What the daemon takes up in a move, with the files as they are then. -/
def takes (channels : Channels χ ε) (w : World χ ε σ ι) : Move → Option Occasion
  | .turn errorsFirst =>
    if w.phase.isEnded then none
    else (channels.next? errorsFirst w.signals w.errors).1.map fun wake =>
      { files := w.files, wake }
  | _ => none

/-- What the daemon takes up while moves are played. -/
def taken (d : Daemon) (backend : Backend σ ι) (channels : Channels χ ε) :
    World χ ε σ ι → List Move → List Occasion
  | _, [] => []
  | w, m :: moves =>
    (takes channels w m).toList ++ taken d backend channels (d.step backend channels w m) moves

variable (d : Daemon) (backend : Backend σ ι) (channels : Channels χ ε)

theorem play_cons (w : World χ ε σ ι) (m : Move) (moves : List Move) :
    d.play backend channels w (m :: moves) =
      d.play backend channels (d.step backend channels w m) moves :=
  rfl

theorem play_append (w : World χ ε σ ι) (before after : List Move) :
    d.play backend channels w (before ++ after) =
      d.play backend channels (d.play backend channels w before) after :=
  List.foldl_append

/-- What a turn of a daemon that waits finds, takes up and does. -/
theorem turn_cases {w : World χ ε σ ι} (hlistening : w.phase.isEnded = false)
    (errorsFirst : Bool) :
    ∃ wake? signals errors, Channels.Looked channels w.signals w.errors (wake?, signals, errors) ∧
      takes channels w (.turn errorsFirst) =
        wake?.map (fun wake => { files := w.files, wake }) ∧
      d.step backend channels w (.turn errorsFirst) =
        match wake? with
        | none => { w with signals, errors }
        | some wake =>
          { w with
            signals
            errors
            phase := (d.wake backend w.files w.phase w.state wake).1
            log := w.log ++ (d.wake backend w.files w.phase w.state wake).2.1
            state := (d.wake backend w.files w.phase w.state wake).2.2 } := by
  have hlooked := channels.looked_next? errorsFirst w.signals w.errors
  rw [step, turn, takes, hlistening, if_neg Bool.false_ne_true, if_neg Bool.false_ne_true]
  generalize channels.next? errorsFirst w.signals w.errors = found at hlooked
  obtain ⟨wake?, signals, errors⟩ := found
  refine ⟨wake?, signals, errors, hlooked, rfl, ?_⟩
  cases wake? <;> rfl

/-! ## Playing is living through what is taken up -/

theorem run_append (phase : Phase ι) (s : σ) (before after : List Occasion) :
    d.run backend phase s (before ++ after) =
      let first := d.run backend phase s before
      let second := d.run backend first.1 first.2.2 after
      (second.1, first.2.1 ++ second.2.1, second.2.2) := by
  induction before generalizing phase s with
  | nil => rfl
  | cons o before ih => simp only [List.cons_append, run, ih, List.append_assoc]

theorem step_eq_run (w : World χ ε σ ι) (m : Move) :
    let next := d.step backend channels w m
    let did := d.run backend w.phase w.state (takes channels w m).toList
    (next.phase, next.log, next.state) = (did.1, w.log ++ did.2.1, did.2.2) := by
  have hnothing : (w.phase, w.log, w.state) = (w.phase, w.log ++ [], w.state) := by
    rw [List.append_nil]
  cases m with
  | turn errorsFirst =>
      cases hphase : w.phase.isEnded with
      | true =>
          rw [step, turn, takes, hphase, if_pos rfl, if_pos rfl]
          exact hnothing
      | false =>
          obtain ⟨wake?, signals, errors, -, htakes, hstep⟩ :=
            d.turn_cases backend channels hphase errorsFirst
          rw [htakes, hstep]
          cases wake? with
          | none => exact hnothing
          | some wake =>
              simp only [Option.map_some, Option.toList_some, run, List.append_nil]
  | _ => exact hnothing

/-- To play moves is to live through what is taken up. -/
theorem play_eq_run (w : World χ ε σ ι) (moves : List Move) :
    let out := d.play backend channels w moves
    let did := d.run backend w.phase w.state (d.taken backend channels w moves)
    (out.phase, out.log, out.state) = (did.1, w.log ++ did.2.1, did.2.2) := by
  induction moves generalizing w with
  | nil =>
      simp only [taken, run, List.append_nil]
      rfl
  | cons m moves ih =>
      have hstep := d.step_eq_run backend channels w m
      have hrest := ih (d.step backend channels w m)
      simp only [Prod.mk.injEq] at hstep hrest ⊢
      obtain ⟨hphase, hlog, hstate⟩ := hstep
      rw [hphase, hlog, hstate] at hrest
      simp only [taken, run_append, ← List.append_assoc]
      exact hrest

/-! ## Signals -/

/-- A turn takes a signal from where it waited. -/
theorem turn_signals (w : World χ ε σ ι) (errorsFirst : Bool) :
    signalsOf (takes channels w (.turn errorsFirst)).toList ++
        channels.signals.waiting (d.step backend channels w (.turn errorsFirst)).signals =
      channels.signals.waiting w.signals ∧
    channels.signals.isClosed (d.step backend channels w (.turn errorsFirst)).signals =
      channels.signals.isClosed w.signals := by
  cases hphase : w.phase.isEnded with
  | true =>
      rw [step, turn, takes, hphase, if_pos rfl, if_pos rfl]
      exact ⟨rfl, rfl⟩
  | false =>
      obtain ⟨wake?, signals, errors, hlooked, htakes, hstep⟩ :=
        d.turn_cases backend channels hphase errorsFirst
      rw [htakes, hstep]
      cases hlooked with
      | signal hfirst hclosed _ => exact ⟨hfirst.symm, hclosed⟩
      | closed _ _ hsame _ => exact hsame
      | failed hsame _ => exact hsame
      | nothing _ _ hsame _ _ => exact hsame

/-- Of the signals sent, none is lost, none is taken twice and none overtakes another. -/
theorem signalsOf_taken (w : World χ ε σ ι) (moves : List Move) :
    signalsOf (d.taken backend channels w moves) ++
        channels.signals.waiting (d.play backend channels w moves).signals =
      channels.signals.waiting w.signals ++
        (if channels.signals.isClosed w.signals then [] else sentSignals moves) := by
  induction moves generalizing w with
  | nil =>
      rw [sentSignals, ite_self, List.append_nil]
      rfl
  | cons m moves ih =>
      have hrest := ih (d.step backend channels w m)
      cases m with
      | turn errorsFirst =>
          obtain ⟨hsignals, hclosed⟩ := d.turn_signals backend channels w errorsFirst
          rw [taken, signalsOf_append, List.append_assoc, play_cons, hrest, hclosed,
            ← List.append_assoc, hsignals]
          rfl
      | send s =>
          rw [step] at hrest
          simp only [channels.signals.waiting_send, channels.signals.isClosed_send] at hrest
          cases hclosed : channels.signals.isClosed w.signals with
          | true =>
              rw [hclosed] at hrest
              exact hrest
          | false =>
              rw [hclosed] at hrest
              simp only [Bool.false_eq_true, if_false, List.append_assoc] at hrest
              exact hrest
      | close =>
          -- What is sent behind the close was never sent, so that only what waits is left.
          rw [step] at hrest
          simp only [channels.signals.waiting_close, channels.signals.isClosed_close,
            if_true] at hrest
          rw [sentSignals, ite_self]
          exact hrest
      | change files => exact hrest
      | fail e => exact hrest

/-! ## The end -/

/-- Whether nothing can come any more because the close of the channel was noticed. -/
def Settled (channels : Channels χ ε) (w : World χ ε σ ι) : Prop :=
  w.phase.isEnded = true ∧ channels.signals.waiting w.signals = [] ∧
    channels.signals.isClosed w.signals = true

/-- A daemon that has ended stays as it is, whatever happens. -/
theorem step_ended {w : World χ ε σ ι} (hended : w.phase.isEnded = true) (m : Move) :
    takes channels w m = none ∧ (d.step backend channels w m).phase = w.phase := by
  cases m with
  | turn errorsFirst =>
      rw [step, turn, takes, hended, if_pos rfl, if_pos rfl]
      exact ⟨rfl, rfl⟩
  | _ => exact ⟨rfl, rfl⟩

theorem taken_ended {w : World χ ε σ ι} (hended : w.phase.isEnded = true) (moves : List Move) :
    d.taken backend channels w moves = [] := by
  induction moves generalizing w with
  | nil => rfl
  | cons m moves ih =>
      obtain ⟨htakes, hphase⟩ := d.step_ended backend channels hended m
      rw [taken, htakes, ih (hphase ▸ hended)]
      rfl

/-- Nothing that happens after its end has any effect on a daemon. -/
theorem play_ended {w : World χ ε σ ι} (hended : w.phase.isEnded = true) (moves : List Move) :
    let later := d.play backend channels w moves
    (later.phase, later.log, later.state) = (w.phase, w.log, w.state) := by
  have hplay := d.play_eq_run backend channels w moves
  rw [d.taken_ended backend channels hended] at hplay
  simp only [run, List.append_nil] at hplay
  exact hplay

theorem step_settled {w : World χ ε σ ι} (hsettled : Settled channels w) (m : Move) :
    Settled channels (d.step backend channels w m) := by
  obtain ⟨hended, hwaiting, hclosed⟩ := hsettled
  refine ⟨(d.step_ended backend channels hended m).2 ▸ hended, ?_⟩
  cases m with
  | turn errorsFirst =>
      rw [step, turn, if_pos hended]
      exact ⟨hwaiting, hclosed⟩
  | send s =>
      rw [step]
      simp only [channels.signals.waiting_send, channels.signals.isClosed_send, hclosed, if_true]
      exact ⟨hwaiting, trivial⟩
  | close =>
      rw [step]
      simp only [channels.signals.waiting_close, channels.signals.isClosed_close]
      exact ⟨hwaiting, trivial⟩
  | change files => exact ⟨hwaiting, hclosed⟩
  | fail e => exact ⟨hwaiting, hclosed⟩

theorem play_settled {w : World χ ε σ ι} (hsettled : Settled channels w) (moves : List Move) :
    Settled channels (d.play backend channels w moves) := by
  induction moves generalizing w with
  | nil => exact hsettled
  | cons m moves ih => exact ih (d.step_settled backend channels hsettled m)

/-- The turn in which something is taken up. -/
theorem exists_turn_of_mem_taken {w : World χ ε σ ι} {moves : List Move} {o : Occasion}
    (ho : o ∈ d.taken backend channels w moves) :
    ∃ before errorsFirst after, moves = before ++ .turn errorsFirst :: after ∧
      takes channels (d.play backend channels w before) (.turn errorsFirst) = some o := by
  induction moves generalizing w with
  | nil => exact absurd ho List.not_mem_nil
  | cons m moves ih =>
      rw [taken, List.mem_append, Option.mem_toList] at ho
      rcases ho with hnow | hlater
      · cases m with
        | turn errorsFirst => exact ⟨[], errorsFirst, moves, rfl, hnow⟩
        | _ => exact absurd hnow (Option.not_mem_none o)
      · obtain ⟨before, errorsFirst, after, rfl, htakes⟩ := ih hlater
        exact ⟨m :: before, errorsFirst, after, rfl, htakes⟩

/-- What was found in a turn in which something is taken up, and what was done. -/
theorem turn_of_takes {w : World χ ε σ ι} {errorsFirst : Bool} {o : Occasion}
    (htakes : takes channels w (.turn errorsFirst) = some o) :
    ∃ session signals errors, w.phase = .listening session ∧
      Channels.Looked channels w.signals w.errors (some o.wake, signals, errors) ∧
      d.step backend channels w (.turn errorsFirst) =
        { w with
          signals
          errors
          phase := (d.handle backend w.files session w.state o.wake).1
          log := w.log ++ (d.handle backend w.files session w.state o.wake).2.1
          state := (d.handle backend w.files session w.state o.wake).2.2 } := by
  cases hphase : w.phase with
  | ended result =>
      have hended : w.phase.isEnded = true := hphase ▸ rfl
      rw [(d.step_ended backend channels hended _).1] at htakes
      exact absurd htakes.symm (Option.some_ne_none o)
  | listening session =>
      have hlistening : w.phase.isEnded = false := hphase ▸ rfl
      obtain ⟨wake?, signals, errors, hlooked, htakes', hstep⟩ :=
        d.turn_cases backend channels hlistening errorsFirst
      rw [htakes'] at htakes
      obtain ⟨wake, rfl, rfl⟩ := Option.map_eq_some_iff.mp htakes
      refine ⟨session, signals, errors, rfl, hlooked, ?_⟩
      rw [hstep, hphase]
      rfl

/-- The close of the channel is taken up only after every signal. -/
theorem settled_of_taken {w : World χ ε σ ι} {moves : List Move} {o : Occasion}
    (ho : o ∈ d.taken backend channels w moves) (hclosed : o.wake = .closed) :
    Settled channels (d.play backend channels w moves) := by
  obtain ⟨before, errorsFirst, after, rfl, htakes⟩ := d.exists_turn_of_mem_taken backend channels ho
  obtain ⟨session, signals, errors, -, hlooked, hstep⟩ := d.turn_of_takes backend channels htakes
  rw [play_append, play_cons, hstep]
  refine d.play_settled backend channels ?_ after
  rw [hclosed] at hlooked ⊢
  cases hlooked with
  | closed hnone hend hsame _ => exact ⟨rfl, hsame.1.trans hnone, hsame.2.trans hend⟩

/-! ## Turns -/

/-- How much waits for the daemon. -/
def remaining (channels : Channels χ ε) (w : World χ ε σ ι) : Nat :=
  (channels.signals.waiting w.signals).length + (channels.errors.waiting w.errors).length +
    (if channels.signals.isClosed w.signals then 1 else 0)

/-- A turn takes up one of the things that wait, or ends the daemon. -/
theorem remaining_turn {w : World χ ε σ ι} (errorsFirst : Bool) :
    let next := d.step backend channels w (.turn errorsFirst)
    next.phase.isEnded = true ∨ remaining channels next = remaining channels w - 1 := by
  intro next
  cases hphase : w.phase with
  | ended result =>
      have hended : w.phase.isEnded = true := hphase ▸ rfl
      exact Or.inl ((d.step_ended backend channels hended _).2 ▸ hended)
  | listening session =>
      have hlistening : w.phase.isEnded = false := hphase ▸ rfl
      obtain ⟨wake?, signals, errors, hlooked, -, hstep⟩ :=
        d.turn_cases backend channels hlistening errorsFirst
      have hnext : next = _ := hstep
      rw [hnext]
      cases hlooked with
      | signal hfirst hclosed herrors =>
          refine Or.inr ?_
          simp only [remaining, hfirst, hclosed, herrors, List.length_cons]
          omega
      | closed _ _ _ _ =>
          rw [hphase]
          exact Or.inl rfl
      | failed hsame hfirst =>
          refine Or.inr ?_
          simp only [remaining, hsame.1, hsame.2, hfirst, List.length_cons]
          omega
      | nothing hnone hopen hsame herrors herrors' =>
          refine Or.inr ?_
          simp only [remaining, hsame.1, hsame.2, hnone, hopen, herrors, herrors', List.length_nil]
          rfl

/-- After enough turns nothing waits, unless the daemon has ended. -/
theorem play_turns (w : World χ ε σ ι) (turns : List Bool)
    (henough : remaining channels w ≤ turns.length) :
    let later := d.play backend channels w (turns.map .turn)
    later.phase.isEnded = true ∨ remaining channels later = 0 := by
  induction turns generalizing w with
  | nil => exact Or.inr (Nat.le_zero.mp henough)
  | cons errorsFirst turns ih =>
      rcases d.remaining_turn backend channels (w := w) errorsFirst with hended | hless
      · refine Or.inl ?_
        have hstays := d.play_ended backend channels hended (turns.map .turn)
        rw [Prod.mk.injEq] at hstays
        exact hstays.1 ▸ hended
      · rw [List.length_cons] at henough
        exact ih _ (by omega)

/-! ## Errors of commands -/

/-- Every error that is taken up is reported. -/
theorem reported_of_taken {w : World χ ε σ ι} {moves : List Move} {o : Occasion}
    (ho : o ∈ d.taken backend channels w moves) {e : CommandError} (hfailed : o.wake = .failed e) :
    commandFailure e ∈ (d.play backend channels w moves).log := by
  obtain ⟨before, errorsFirst, after, rfl, htakes⟩ := d.exists_turn_of_mem_taken backend channels ho
  obtain ⟨session, signals, errors, -, -, hstep⟩ := d.turn_of_takes backend channels htakes
  rw [play_append, play_cons]
  have hplay := d.play_eq_run backend channels
    (d.step backend channels (d.play backend channels w before) (.turn errorsFirst)) after
  simp only [Prod.mk.injEq] at hplay
  rw [hplay.2.1, hstep, hfailed]
  exact List.mem_append_left _ (List.mem_append_right _ (List.mem_singleton_self _))

end Daemon

end Hotkeys.Engine
