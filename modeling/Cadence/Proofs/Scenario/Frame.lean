import Cadence.Scenario.Scene
import Cadence.Proofs.Loop.Script
import Cadence.Proofs.Cancel.Flags

/-!
# Cadence.Proofs.Scenario.Frame

What each operation of a scripted scene changes.

A scene is changed by five kinds of operation: signals (and the actions made of them), checks of
a probe, calls of the scripted work, the three operations on the run's flag, and the hooks.
Each changes only a few of the scene's fields. The work is the only one that moves the call
counter, and it answers the script's entry at that counter.

No operation moves a token to another flag, and only a look at the run's flag or a wait on it
clears a flag, the run's own: every other operation raises flags at most (`Scene.Raises`,
`Scene.Spares`).

No operation moves the clock back: the pause of a strategy may move it forward, and nothing
else touches it. So a deadline that has passed stays passed, and once every deadline of a
terminator has passed, its checks no longer read the clock.

## Main results

* `Iteration.scripted_scene`: against a scene, the pacing of every strategy runs a scripted unit
  of work in the sense of `Pacing.Scripted`, with the scene's call counter and `Scene.answer`.
* `met_blindFrom`: a terminator whose deadlines have all passed by `start` answers alike on two
  scenes alike apart from the clock, once both clocks are at or past `start`.
-/

namespace Cadence.Scenario

namespace Scene

variable {α : Type}

/-- The answer of call number `c` of a script: its step's value or fault, and `script exhausted`
once the steps are used up. -/
def answer (steps : List (Step α)) (c : Nat) : Except Fault α :=
  match steps[c]? with
  | some (.ok v _) => .ok v
  | some (.fail e _) => .error e
  | none => .error (.message "script exhausted")

theorem answer_past {steps : List (Step α)} {c : Nat} (past : steps.length ≤ c) :
    answer steps c = .error (.message "script exhausted") := by
  simp [answer, List.getElem?_eq_none past]

/-! ### Signals and actions change only the tokens -/

theorem signal_eq (s : Scene α) (sig : Signal) :
    s.signal sig = { s with tokens := (s.signal sig).tokens } := by
  cases sig <;> rfl

theorem perform_eq (s : Scene α) (act : Action) :
    s.perform act = { s with tokens := (s.perform act).tokens } := by
  induction act generalizing s with
  | nil => rfl
  | cons sig act ih =>
    simp only [perform, List.foldl_cons] at ih ⊢
    rw [ih (s.signal sig), signal_eq s sig]

@[simp] theorem perform_calls (s : Scene α) (act : Action) : (s.perform act).calls = s.calls := by
  rw [perform_eq]

@[simp] theorem perform_flag (s : Scene α) (act : Action) : (s.perform act).flag = s.flag := by
  rw [perform_eq]

/-! ### Probes and terminators keep the call counter -/

/-- A list of actions performed in turn changes only the tokens. -/
theorem foldl_perform_calls (s : Scene α) (acts : List (Nat × Action)) :
    (acts.foldl (fun s a => s.perform a.2) s).calls = s.calls := by
  induction acts generalizing s with
  | nil => rfl
  | cons a acts ih => rw [List.foldl_cons, ih, perform_calls]

@[simp] theorem ask_calls (p : Probe) (s : Scene α) : (ask p s).2.calls = s.calls := by
  simp only [ask, foldl_perform_calls]

/-! ### The work answers the script and counts its call -/

theorem work_answer (steps : List (Step α)) (s : Scene α) :
    (work steps s).1 = answer steps s.calls := by
  unfold work answer
  rcases steps[s.calls]? with _ | ⟨v, act⟩ | ⟨e, act⟩ <;> rfl

@[simp] theorem work_calls (steps : List (Step α)) (s : Scene α) :
    (work steps s).2.calls = s.calls + 1 := by
  unfold work
  rcases steps[s.calls]? with _ | ⟨v, act⟩ | ⟨e, act⟩ <;> simp

/-! ### The run's flag -/

theorem runFlag_observe (s : Scene α) :
    runFlag.observe s = (s.tokens.isSignalled s.flag, { s with tokens := s.tokens.clear s.flag }) :=
  rfl

/-- A wait answers whether the flag was set and clears it; only a wait that is not cancelled
moves the clock. -/
theorem runFlag_suspend (d : Duration) (s : Scene α) :
    runFlag.suspend d s =
      (s.tokens.isSignalled s.flag,
        { s with
          tokens := s.tokens.clear s.flag,
          clock := if s.tokens.isSignalled s.flag then s.clock else s.clock + d.toMillis }) :=
  rfl

theorem runFlag_rearm (s : Scene α) :
    runFlag.rearm s = { s with tokens := s.tokens.signal s.flag } :=
  rfl

end Scene

theorem met_scene_calls {α : Type} (t : Terminator Probe) (s : Scene α) :
    (t.met Scene.ask Scene.now (fun _ s => s) s).2.calls = s.calls := by
  induction t generalizing s with
  | never => rfl
  | timeout d => rfl
  | timeoutAnd c d ih =>
    simp only [Terminator.met]
    split
    · exact ih s
    · rfl
  | condition p => exact Scene.ask_calls p s

/-! ### Operations that raise flags, and the ones that clear the run's flag -/

section Flags

variable {α : Type}

/-- `s'` comes from `s` by raising flags: the run's flag and the flag of every token stay where
they were, and every raised flag stays raised. -/
structure Scene.Raises (s s' : Scene α) : Prop where
  flag_eq : s'.flag = s.flag
  flagOf_eq : ∀ i, s'.tokens.flagOf i = s.tokens.flagOf i
  raised : ∀ i, s.tokens.isSignalled i = true → s'.tokens.isSignalled i = true

/-- `s'` comes from `s` by raising flags and clearing at most the run's own: a raised flag that
the run's token does not share stays raised. -/
structure Scene.Spares (s s' : Scene α) : Prop where
  flag_eq : s'.flag = s.flag
  flagOf_eq : ∀ i, s'.tokens.flagOf i = s.tokens.flagOf i
  raised : ∀ i, s.tokens.flagOf s.flag ≠ s.tokens.flagOf i → s.tokens.isSignalled i = true →
    s'.tokens.isSignalled i = true

namespace Scene

variable {s s' s'' : Scene α}

theorem Raises.refl (s : Scene α) : Raises s s := ⟨rfl, fun _ => rfl, fun _ set => set⟩

theorem Raises.trans (first : Raises s s') (second : Raises s' s'') : Raises s s'' :=
  ⟨second.flag_eq.trans first.flag_eq, fun i => (second.flagOf_eq i).trans (first.flagOf_eq i),
    fun i set => second.raised i (first.raised i set)⟩

theorem Raises.spares (raises : Raises s s') : Spares s s' :=
  ⟨raises.flag_eq, raises.flagOf_eq, fun i _ set => raises.raised i set⟩

theorem Spares.refl (s : Scene α) : Spares s s := ⟨rfl, fun _ => rfl, fun _ _ set => set⟩

theorem Spares.trans (first : Spares s s') (second : Spares s' s'') : Spares s s'' := by
  refine ⟨second.flag_eq.trans first.flag_eq, fun i => (second.flagOf_eq i).trans
    (first.flagOf_eq i), fun i apart set => second.raised i ?_ (first.raised i apart set)⟩
  -- the flags stay where they were, so the run's flag is still apart from `i`'s
  rw [first.flag_eq, first.flagOf_eq, first.flagOf_eq]
  exact apart

theorem raises_signal (s : Scene α) (sig : Signal) : Raises s (s.signal sig) := by
  cases sig with
  | own =>
    exact ⟨rfl, Tokens.flagOf_signal _ _, fun _ set => Tokens.isSignalled_signal_of_signalled set _⟩
  | everyToken =>
    exact ⟨rfl, Tokens.flagOf_cancelAll _,
      fun _ set => Tokens.isSignalled_cancelAll_of_signalled set⟩
  | token j =>
    exact ⟨rfl, Tokens.flagOf_signal _ _, fun _ set => Tokens.isSignalled_signal_of_signalled set _⟩

theorem raises_perform (s : Scene α) (act : Action) : Raises s (s.perform act) := by
  induction act generalizing s with
  | nil => exact .refl s
  | cons sig act ih =>
    simp only [perform, List.foldl_cons] at ih ⊢
    exact (raises_signal s sig).trans (ih _)

theorem raises_foldl_perform (s : Scene α) (acts : List (Nat × Action)) :
    Raises s (acts.foldl (fun s a => s.perform a.2) s) := by
  induction acts generalizing s with
  | nil => exact .refl s
  | cons a acts ih =>
    rw [List.foldl_cons]
    exact (raises_perform s a.2).trans (ih _)

theorem raises_ask (p : Probe) (s : Scene α) : Raises s (ask p s).2 := by
  -- counting the check moves no flag
  have counted : Raises s { s with counters := s.counters.set p.id (s.counters.getD p.id 0 + 1) } :=
    ⟨rfl, fun _ => rfl, fun _ set => set⟩
  exact counted.trans (raises_foldl_perform _ _)

theorem raises_work (steps : List (Step α)) (s : Scene α) : Raises s (work steps s).2 := by
  have counted : Raises s { s with calls := s.calls + 1 } := ⟨rfl, fun _ => rfl, fun _ set => set⟩
  unfold work
  rcases steps[s.calls]? with _ | ⟨v, act⟩ | ⟨e, act⟩
  · exact counted
  · exact counted.trans (raises_perform _ act)
  · exact counted.trans (raises_perform _ act)

theorem raises_rearm (s : Scene α) : Raises s (runFlag.rearm s) :=
  ⟨rfl, Tokens.flagOf_signal _ _, fun _ set => Tokens.isSignalled_signal_of_signalled set _⟩

theorem spares_observe (s : Scene α) : Spares s (runFlag.observe s).2 :=
  ⟨rfl, Tokens.flagOf_clear _ _,
    fun _ apart set => (Tokens.isSignalled_clear_of_ne apart).trans set⟩

theorem spares_suspend (d : Duration) (s : Scene α) : Spares s (runFlag.suspend d s).2 :=
  ⟨rfl, Tokens.flagOf_clear _ _,
    fun _ apart set => (Tokens.isSignalled_clear_of_ne apart).trans set⟩

end Scene

theorem raises_met (t : Terminator Probe) (s : Scene α) :
    Scene.Raises s (t.met Scene.ask Scene.now (fun _ s => s) s).2 := by
  induction t generalizing s with
  | never => exact .refl s
  | timeout d => exact .refl s
  | timeoutAnd c d ih =>
    simp only [Terminator.met]
    split
    · exact ih s
    · exact .refl s
  | condition p => exact Scene.raises_ask p s

end Flags

/-! ### The clock -/

namespace Scene

variable {α : Type}

/-- A scene with its clock set back to zero: the scene apart from the time. -/
def untimed (s : Scene α) : Scene α := { s with clock := 0 }

/-- A check point that neither reads nor moves the clock: on a scene without its clock it gives
the same answer, and the same scene without its clock. -/
def Timeless {β : Type} (op : Scene α → β × Scene α) : Prop :=
  ∀ s, op s.untimed = ((op s).1, (op s).2.untimed)

/-- A change of scene that neither reads nor moves the clock. -/
def ClockFree (f : Scene α → Scene α) : Prop := ∀ s, f s.untimed = (f s).untimed

/-- A timeless check point answers alike on scenes alike but for the clock, and leaves them
alike. -/
theorem Timeless.agree {β : Type} {op : Scene α → β × Scene α} (timeless : Timeless op)
    {s t : Scene α} (alike : s.untimed = t.untimed) :
    (op s).1 = (op t).1 ∧ (op s).2.untimed = (op t).2.untimed := by
  have both : ((op s).1, (op s).2.untimed) = ((op t).1, (op t).2.untimed) := by
    rw [← timeless s, ← timeless t, alike]
  exact Prod.ext_iff.mp both

@[simp] theorem untimed_untimed (s : Scene α) : s.untimed.untimed = s.untimed := rfl

@[simp] theorem untimed_calls (s : Scene α) : s.untimed.calls = s.calls := rfl

@[simp] theorem untimed_tokens (s : Scene α) : s.untimed.tokens = s.tokens := rfl

@[simp] theorem untimed_flag (s : Scene α) : s.untimed.flag = s.flag := rfl

theorem perform_untimed (s : Scene α) (act : Action) :
    s.untimed.perform act = (s.perform act).untimed := by
  induction act generalizing s with
  | nil => rfl
  | cons sig act ih =>
    have signalled : s.untimed.signal sig = (s.signal sig).untimed := by cases sig <;> rfl
    simp only [perform, List.foldl_cons] at ih ⊢
    rw [signalled, ih]

theorem foldl_perform_untimed (s : Scene α) (acts : List (Nat × Action)) :
    acts.foldl (fun s a => s.perform a.2) s.untimed =
      (acts.foldl (fun s a => s.perform a.2) s).untimed := by
  induction acts generalizing s with
  | nil => rfl
  | cons a acts ih => rw [List.foldl_cons, List.foldl_cons, perform_untimed, ih]

theorem ask_timeless (p : Probe) : Timeless (α := α) (ask p) := by
  intro s
  simp only [ask]
  rw [← foldl_perform_untimed]
  rfl

theorem work_timeless (steps : List (Step α)) : Timeless (work steps) := by
  intro s
  simp only [work, untimed_calls]
  rcases steps[s.calls]? with _ | ⟨v, act⟩ | ⟨e, act⟩
  · rfl
  · rw [← perform_untimed]
    rfl
  · rw [← perform_untimed]
    rfl

theorem observe_timeless : Timeless (α := α) runFlag.observe := fun _ => rfl

/-- A wait that was not cancelled moves nothing but the clock. -/
theorem suspend_untimed_of_not_cancelled {d : Duration} {s : Scene α}
    (waited : (runFlag.suspend d s).1 = false) : (runFlag.suspend d s).2.untimed = s.untimed := by
  rw [runFlag_suspend] at waited ⊢
  simp only at waited
  simp only [untimed, Tokens.clear_of_not_signalled waited]

/-- A cancelled wait, followed by raising the flag again, gives back the scene it started
from. -/
theorem rearm_suspend_of_cancelled {d : Duration} {s : Scene α}
    (cancelled : (runFlag.suspend d s).1 = true) : runFlag.rearm (runFlag.suspend d s).2 = s := by
  rw [runFlag_suspend] at cancelled ⊢
  simp only at cancelled
  simp only [runFlag_rearm, cancelled, if_true, Tokens.signal_clear_of_signalled cancelled]

/-! ### The clock only moves forward -/

@[simp] theorem perform_clock (s : Scene α) (act : Action) : (s.perform act).clock = s.clock := by
  rw [perform_eq]

theorem foldl_perform_clock (s : Scene α) (acts : List (Nat × Action)) :
    (acts.foldl (fun s a => s.perform a.2) s).clock = s.clock := by
  induction acts generalizing s with
  | nil => rfl
  | cons a acts ih => rw [List.foldl_cons, ih, perform_clock]

@[simp] theorem ask_clock (p : Probe) (s : Scene α) : (ask p s).2.clock = s.clock := by
  simp only [ask, foldl_perform_clock]

@[simp] theorem work_clock (steps : List (Step α)) (s : Scene α) :
    (work steps s).2.clock = s.clock := by
  unfold work
  rcases steps[s.calls]? with _ | ⟨v, act⟩ | ⟨e, act⟩ <;> simp

@[simp] theorem observe_clock (s : Scene α) : (runFlag.observe s).2.clock = s.clock := rfl

@[simp] theorem rearm_clock (s : Scene α) : (runFlag.rearm s).clock = s.clock := rfl

theorem clock_le_suspend (d : Duration) (s : Scene α) :
    s.clock ≤ (runFlag.suspend d s).2.clock := by
  rw [runFlag_suspend]
  split <;> simp

/-! ### Check points blind to the clock once the deadlines have passed -/

/-- Two scenes alike apart from the clock, with both clocks at or past `start`. -/
def AlikeFrom (start : Nat) (s t : Scene α) : Prop :=
  s.untimed = t.untimed ∧ start ≤ s.clock ∧ start ≤ t.clock

/-- A check point blind to the clock from `start` on: from scenes alike from `start` it answers
alike, and leads to scenes alike from `start`. -/
def BlindFrom {β : Type} (start : Nat) (op : Scene α → β × Scene α) : Prop :=
  ∀ s t, AlikeFrom start s t → (op s).1 = (op t).1 ∧ AlikeFrom start (op s).2 (op t).2

theorem AlikeFrom.trans {start : Nat} {s t u : Scene α} (first : AlikeFrom start s t)
    (second : AlikeFrom start t u) : AlikeFrom start s u :=
  ⟨first.1.trans second.1, first.2.1, second.2.2⟩

/-- A timeless check point that keeps the clock is blind to it from any start. -/
theorem Timeless.blindFrom {β : Type} {op : Scene α → β × Scene α} (timeless : Timeless op)
    (keeps : ∀ s, (op s).2.clock = s.clock) (start : Nat) : BlindFrom start op := by
  intro s t alike
  obtain ⟨same, after⟩ := timeless.agree alike.1
  exact ⟨same, after, by rw [keeps]; exact alike.2.1, by rw [keeps]; exact alike.2.2⟩

/-- The work neither reads the clock nor moves it. -/
theorem work_blindFrom (steps : List (Step α)) (start : Nat) : BlindFrom start (work steps) :=
  (work_timeless steps).blindFrom (work_clock steps) start

end Scene

end Cadence.Scenario

namespace Cadence

/-- Whether every deadline of a terminator has passed at `now`. The clock only moves forward,
so from then on the terminator's answers do not depend on it. -/
def Terminator.passedBy {γ : Type} (now : Nat) : Terminator γ → Bool
  | .never => true
  | .timeout d => d.passed now
  | .timeoutAnd c d => d.passed now && c.passedBy now
  | .condition _ => true

/-- A deadline that has passed stays passed. -/
theorem Deadline.passed_mono {d : Deadline} {now later : Nat} (passed : d.passed now = true)
    (later_le : now ≤ later) : d.passed later = true := by
  have waited := of_decide_eq_true passed
  simp only [Deadline.elapsed] at waited
  exact decide_eq_true (by simp only [Deadline.elapsed]; omega)

end Cadence

namespace Cadence.Scenario

/-- Checking a terminator in a scene does not move the clock. -/
theorem met_scene_clock {α : Type} (t : Terminator Probe) (s : Scene α) :
    (t.met Scene.ask Scene.now (fun _ s => s) s).2.clock = s.clock := by
  induction t generalizing s with
  | never => rfl
  | timeout d => rfl
  | timeoutAnd c d ih =>
    simp only [Terminator.met]
    split
    · exact ih s
    · rfl
  | condition p => exact Scene.ask_clock p s

/-- A terminator whose deadlines have all passed by `start` is blind to the clock from `start`
on: each deadline it asks has passed on both sides, and its conditions do not read the clock. -/
theorem met_blindFrom {α : Type} {t : Terminator Probe} {start : Nat}
    (passed : t.passedBy start = true) :
    Scene.BlindFrom (α := α) start (t.met Scene.ask Scene.now fun _ s => s) := by
  induction t with
  | never => intro s u alike; exact ⟨rfl, alike⟩
  | timeout d =>
    intro s u alike
    have atS := Deadline.passed_mono (d := d) passed alike.2.1
    have atU := Deadline.passed_mono (d := d) passed alike.2.2
    simp only [Terminator.met, Scene.now, atS, atU, true_and]
    exact alike
  | timeoutAnd c d ih =>
    intro s u alike
    simp only [Terminator.passedBy, Bool.and_eq_true] at passed
    have atS := Deadline.passed_mono passed.1 alike.2.1
    have atU := Deadline.passed_mono passed.1 alike.2.2
    simp only [Terminator.met, Scene.now, atS, atU, if_true]
    exact ih passed.2 s u alike
  | condition p => exact (Scene.ask_timeless p).blindFrom (Scene.ask_clock p) start

end Cadence.Scenario

namespace Cadence

open Scenario

/-- Against a scene whose unit of work is a script, every strategy's loop is a scripted loop
counted by the scene's calls. -/
theorem Iteration.scripted_scene {α : Type} (it : Iteration) (h : Handle Probe (Scene α) α)
    (steps : List (Step α)) (scripted : h.work = Scene.work steps) :
    (it.pacing (h.host Scene.ask Scene.now Scene.runFlag fun _ s => s)).Scripted Scene.calls
      (Scene.answer steps) where
  met s := by simpa [Handle.host] using met_scene_calls h.terminator s
  poll s := by
    cases it <;> simp only [Iteration.pacing, Pacing.busy, Pacing.throttled, Pacing.reinterrupt,
      Handle.host, Scene.runFlag_observe]
  pause k s := by
    cases it <;>
      simp only [Iteration.pacing, Pacing.busy, Pacing.throttled, Pacing.reinterrupt,
        Handle.host, Scene.runFlag_suspend, Scene.runFlag_rearm] <;>
      cases s.tokens.isSignalled s.flag <;> rfl
  answer k s := by simp [Handle.host, scripted, Scene.work_answer]
  work k s := by simp [Handle.host, scripted]

end Cadence
