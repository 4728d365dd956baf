import Cadence.App.Program
import Cadence.Proofs.Loop.Handle

/-!
# Cadence.Proofs.CounterRun

The counter that `loopkit run --until N` drives.

The program's unit of work counts: its `k`-th call answers `k` and publishes it, unless `k` is
the call it was told to fail on, which answers a refusal and publishes nothing. With `--until N`
and no deadline, the loop's only condition is that the published count has reached `N`. When
nothing cancels the loop, every strategy then runs the same course, whatever its interval: calls
`1, 2, …` succeed until the count reaches `N` or the call to fail on comes, whichever is first.
A failing call at or below `N` ends the run as failed with the count before it; otherwise the
run ends as terminated at `N`. The configuration and `--propagate` decide only the policy, which
decides whether a failure is printed as a report or ends the program with an error.

## Main results

* `App.loop_counts`: the loop of every strategy over the counter, from a count `k`, stops with
  `countOutcome` within `countPasses` passes.
* `App.runCommand_counts`: the `run` command prints the report of that outcome, or ends with the
  failure when it is propagated.
* `App.counter_run_law`: the whole program, once its configuration is loaded and its log set up.

## Proof strategy

A world is quiet when no cancellation signal is due and the flag is down. In a quiet world every
check of the flag answers `false` and every wait only moves the clock, so the three strategies
reduce to one pass: check the count, call the counter, go on. A pass goes one of three ways
(`counter_done_pass`, `counter_refused_pass`, `counter_counted_pass`), and the loop lemma is an
induction on the fuel over them, carrying the published count as the number of iterations and
the last value.
-/

namespace Cadence

/-- What a run answers for a loop that stopped with `o`, under policy `p`: the failure itself
when the loop failed and the policy propagates it, a report otherwise. -/
def Outcome.answer {α : Type} (o : Outcome α) (p : FailurePolicy) : Except Fault (Report α) :=
  match o.stop, p with
  | .failed e, .propagate => .error e
  | stop, _ => .ok ⟨o.last, o.iterations, stop.toExit⟩

/-- A settlement answers what the outcome and the handle's policy make of it; the world only
tells where the hook and the notes went. -/
theorem Handle.settle_fst {γ σ α : Type} (h : Handle γ σ α) (note : Note → σ → σ) (o : Outcome α)
    (s : σ) : (h.settle note o s).1 = o.answer h.policy := by
  rcases o with ⟨last, iterations, stop⟩
  unfold Handle.settle Outcome.answer
  cases stop <;> cases h.policy <;> rfl

end Cadence

namespace Cadence.App

/-! ### The counter's world -/

namespace World

/-- No cancellation signal is due and the flag is down. -/
def Quiet (w : World) : Prop := w.due = none ∧ w.raised = false

/-- Writing a note only adds to the log. -/
theorem note_eq (n : Note) (w : World) : note n w = { w with written := (note n w).written } := by
  simp only [note, write]
  split <;> rfl

@[simp] theorem note_seen (n : Note) (w : World) : (note n w).seen = w.seen := by
  rw [note_eq]

@[simp] theorem note_failOn (n : Note) (w : World) : (note n w).failOn = w.failOn := by
  rw [note_eq]

@[simp] theorem note_due (n : Note) (w : World) : (note n w).due = w.due := by
  rw [note_eq]

@[simp] theorem note_raised (n : Note) (w : World) : (note n w).raised = w.raised := by
  rw [note_eq]

-- quietness is passed on field by field: comparing two worlds whole would unfold their clocks
theorem note_quiet {w : World} (quiet : w.Quiet) (n : Note) : (note n w).Quiet :=
  ⟨(note_due n w).trans quiet.1, (note_raised n w).trans quiet.2⟩

/-- In a quiet world the flag reads down, and reading it changes nothing. -/
theorem observe_quiet {w : World} (quiet : w.Quiet) : observe w = (false, w) := by
  obtain ⟨noSignal, down⟩ := quiet
  rcases w with ⟨clock, seen, failOn, due, raised, filter, written, finishedAt⟩
  simp only at noSignal down
  subst noSignal down
  rfl

/-- In a quiet world a wait is never cut short: it only moves the clock. -/
theorem suspend_quiet {w : World} (quiet : w.Quiet) (d : Duration) :
    suspend d w = (false, { w with clock := w.clock + d.toNanos }) := by
  obtain ⟨noSignal, down⟩ := quiet
  simp [suspend, deliver, noSignal, down]

/-- A call of the counter: the next count, published, unless it is the call to fail on. -/
theorem count_eq (w : World) :
    count w =
      if w.failOn = some (w.seen + 1) then
        (.error (.message ("counter refused to reach " ++ toString (w.seen + 1))), w)
      else (.ok (w.seen + 1), { w with seen := w.seen + 1 }) := by
  by_cases refused : w.failOn = some (w.seen + 1) <;> simp [count, refused]

end World

/-! ### One pass of a counter loop -/

section Pass

variable {n : Nat} (h : CounterLoop) (counting : h.terminator = .condition n)
  (working : h.work = World.count)

/-- The pacing of a counter loop's strategy against the program's world. -/
abbrev counterPacing : Pacing World Nat :=
  h.iteration.pacing (h.host World.reached World.now World.flag World.note)

include counting in
/-- The loop's check asks whether the published count has reached `n`, and changes nothing. -/
theorem counter_met (w : World) : (counterPacing h).met w = (decide (n ≤ w.seen), w) := by
  simp [Handle.host, counting, Terminator.met, World.reached]

/-- In a quiet world a look at the flag answers `false` and changes nothing. -/
theorem counter_poll {w : World} (quiet : w.Quiet) : (counterPacing h).poll w = (false, w) := by
  unfold counterPacing
  cases it : h.iteration <;>
    simp [Iteration.pacing, Pacing.busy, Pacing.throttled, Pacing.reinterrupt, Handle.host,
      World.flag, World.observe_quiet quiet]

include working in
/-- The work is a call of the counter, after the note of the iteration. -/
theorem counter_work (k : Nat) (w : World) :
    (counterPacing h).work k w = World.count (World.note (.iteration h.iteration k) w) := by
  simp [Handle.host, working]

/-- In a quiet world a pause is never cancelled, and keeps the world quiet with the same count
and the same call to fail on. -/
theorem counter_pause (k : Nat) {w : World} (quiet : w.Quiet) :
    ∃ w', (counterPacing h).pause k w = (false, w') ∧ w'.Quiet ∧ w'.seen = w.seen ∧
      w'.failOn = w.failOn := by
  unfold counterPacing
  cases it : h.iteration with
  | busy => exact ⟨w, by simp [Iteration.pacing, Pacing.busy], quiet, rfl, rfl⟩
  | throttled d =>
    refine ⟨{ w with clock := w.clock + d.toNanos }, ?_, ⟨quiet.1, quiet.2⟩, rfl, rfl⟩
    simp [Iteration.pacing, Pacing.throttled, Handle.host, World.flag,
      World.suspend_quiet quiet]
  | reinterrupt d =>
    refine ⟨{ w with clock := w.clock + d.toNanos }, ?_, ⟨quiet.1, quiet.2⟩, rfl, rfl⟩
    simp [Iteration.pacing, Pacing.reinterrupt, Handle.host, World.flag,
      World.suspend_quiet quiet]

/-! The three ways a pass can go, from a quiet world. -/

include counting in
/-- A pass from a count that has reached `n` ends the loop as terminated, in the same world. -/
theorem counter_done_pass {w : World} (reached : n ≤ w.seen) (fuel : Nat) (p : Progress Nat) :
    (counterPacing h).loop (fuel + 1) p w = some (p.finish .terminated, w) := by
  simp only [Pacing.loop, counter_met h counting, decide_eq_true reached]

include counting working in
/-- A pass whose call is the one to fail on ends the loop as failed, with the refusal, after the
note of the iteration. -/
theorem counter_refused_pass {w : World} (quiet : w.Quiet) (below : ¬n ≤ w.seen)
    (refused : w.failOn = some (w.seen + 1)) (fuel : Nat) (p : Progress Nat) :
    (counterPacing h).loop (fuel + 1) p w =
      some (p.finish (.failed (.message ("counter refused to reach " ++ toString (w.seen + 1)))),
        World.note (.iteration h.iteration (p.iterations + 1)) w) := by
  have called := counter_work h working (p.iterations + 1) w
  have failing : World.count (World.note (.iteration h.iteration (p.iterations + 1)) w) =
      (.error (.message ("counter refused to reach " ++ toString (w.seen + 1))),
        World.note (.iteration h.iteration (p.iterations + 1)) w) := by
    rw [World.count_eq, World.note_failOn, World.note_seen, if_pos refused]
  simp only [Pacing.loop, counter_met h counting, decide_eq_false below, counter_poll h quiet,
    called, failing]

include counting working in
/-- Any other pass publishes the next count, records it, and goes on from a quiet world with
the same call to fail on. -/
theorem counter_counted_pass {w : World} (quiet : w.Quiet) (below : ¬n ≤ w.seen)
    (passed : w.failOn ≠ some (w.seen + 1)) (fuel : Nat) (p : Progress Nat) :
    ∃ w', w'.Quiet ∧ w'.seen = w.seen + 1 ∧ w'.failOn = w.failOn ∧
      (counterPacing h).loop (fuel + 1) p w =
        (counterPacing h).loop fuel (p.record (w.seen + 1)) w' := by
  have called := counter_work h working (p.iterations + 1) w
  have counted : World.count (World.note (.iteration h.iteration (p.iterations + 1)) w) =
      (.ok (w.seen + 1),
        { World.note (.iteration h.iteration (p.iterations + 1)) w with seen := w.seen + 1 }) := by
    have passed' : ¬(World.note (.iteration h.iteration (p.iterations + 1)) w).failOn =
        some ((World.note (.iteration h.iteration (p.iterations + 1)) w).seen + 1) := by
      rw [World.note_failOn, World.note_seen]
      exact passed
    rw [World.count_eq, if_neg passed', World.note_seen]
  -- the pause only moves the clock, so the count and the call to fail on stay as they were
  have noted := World.note_quiet quiet (.iteration h.iteration (p.iterations + 1))
  have published :
      ({ World.note (.iteration h.iteration (p.iterations + 1)) w with seen := w.seen + 1 }).Quiet :=
    ⟨noted.1, noted.2⟩
  obtain ⟨w', paused, quiet', seen', failOn'⟩ := counter_pause h (p.iterations + 1) published
  refine ⟨w', quiet', seen', by rw [failOn', World.note_failOn], ?_⟩
  simp only [Pacing.loop, counter_met h counting, decide_eq_false below, counter_poll h quiet,
    called, counted, paused]

end Pass

/-! ### The course of a counter loop -/

/-- The call on which a counter that counts from `k` to `n` is refused: the call to fail on, if
it comes after `k` and no later than `n`. -/
def refusal (n k : Nat) : Option Nat → Option Nat
  | some f => if k < f ∧ f ≤ n then some f else none
  | none => none

/-- How a counter loop that counts from `k` to `n` stops: failed with the count before the
refused call, or terminated at `n`. -/
def countOutcome (n k : Nat) (failOn : Option Nat) : Outcome Nat :=
  match refusal n k failOn with
  | some f => ⟨f - 1, f - 1, .failed (.message ("counter refused to reach " ++ toString f))⟩
  | none => ⟨n, n, .terminated⟩

/-- The passes that loop takes: up to the refused call, or one past the `n - k` calls left. -/
def countPasses (n k : Nat) (failOn : Option Nat) : Nat :=
  match refusal n k failOn with
  | some f => f - k
  | none => n - k + 1

theorem refusal_done {n k : Nat} (done : n ≤ k) (failOn : Option Nat) :
    refusal n k failOn = none := by
  cases failOn with
  | none => rfl
  | some f =>
    -- no call after `k` is at or below `n`
    have outside : ¬(k < f ∧ f ≤ n) := by omega
    rw [refusal, if_neg outside]

theorem refusal_next {n k : Nat} (below : k < n) :
    refusal n k (some (k + 1)) = some (k + 1) := by
  rw [refusal, if_pos ⟨Nat.lt_succ_self k, below⟩]

theorem refusal_succ {n k : Nat} {failOn : Option Nat} (passed : failOn ≠ some (k + 1)) :
    refusal n (k + 1) failOn = refusal n k failOn := by
  cases failOn with
  | none => rfl
  | some f =>
    have other : f ≠ k + 1 := fun same => passed (congrArg some same)
    simp only [refusal]
    -- the two windows differ only at `k + 1`, which is not the call to fail on
    by_cases inside : k < f ∧ f ≤ n
    · rw [if_pos inside, if_pos (by omega)]
    · rw [if_neg inside, if_neg (by omega)]

/-- The refused call is the call to fail on, after `k` and no later than `n`. -/
theorem refusal_eq_some {n k f : Nat} {failOn : Option Nat} :
    refusal n k failOn = some f ↔ failOn = some f ∧ k < f ∧ f ≤ n := by
  cases failOn with
  | none => simp [refusal]
  | some f' =>
    simp only [refusal]
    by_cases inside : k < f' ∧ f' ≤ n
    · simp only [if_pos inside, Option.some.injEq]
      constructor
      · rintro rfl
        exact ⟨rfl, inside⟩
      · rintro ⟨rfl, -⟩
        rfl
    · simp only [if_neg inside, reduceCtorEq, Option.some.injEq, false_iff, not_and]
      rintro rfl
      exact fun after bounded => inside ⟨after, bounded⟩

theorem countPasses_pos (n k : Nat) (failOn : Option Nat) : 0 < countPasses n k failOn := by
  unfold countPasses
  cases refused : refusal n k failOn with
  | none => simp only; omega
  | some f =>
    have after := (refusal_eq_some.mp refused).2.1
    simp only
    omega

theorem countPasses_succ {n k : Nat} {failOn : Option Nat} (below : k < n)
    (passed : failOn ≠ some (k + 1)) :
    countPasses n k failOn = countPasses n (k + 1) failOn + 1 := by
  simp only [countPasses, refusal_succ passed]
  cases refused : refusal n k failOn with
  | none => simp only; omega
  | some f =>
    obtain ⟨failing, after, -⟩ := refusal_eq_some.mp refused
    -- the refused call is later than `k + 1`
    have later : k + 1 < f :=
      Nat.lt_of_le_of_ne after fun same => passed (by rw [failing, same])
    simp only
    omega

theorem countOutcome_succ {n k : Nat} {failOn : Option Nat} (passed : failOn ≠ some (k + 1)) :
    countOutcome n (k + 1) failOn = countOutcome n k failOn := by
  simp only [countOutcome, refusal_succ passed]

/-- From nothing published, the counter is refused exactly when the call to fail on is one of
the calls `1 … n`; a call to fail on numbered `0` is never made. -/
theorem countOutcome_zero (n : Nat) (failOn : Option Nat) :
    countOutcome n 0 failOn =
      match failOn with
      | some f =>
        if 1 ≤ f ∧ f ≤ n then ⟨f - 1, f - 1, .failed (.message ("counter refused to reach " ++ toString f))⟩
        else ⟨n, n, .terminated⟩
      | none => ⟨n, n, .terminated⟩ := by
  cases failOn with
  | none => rfl
  | some f =>
    by_cases inside : 1 ≤ f ∧ f ≤ n
    · have refused : refusal n 0 (some f) = some f := refusal_eq_some.mpr ⟨rfl, inside⟩
      simp only [countOutcome, refused, if_pos inside]
    · have passed : refusal n 0 (some f) = none := by
        simp only [refusal]
        exact if_neg inside
      simp only [countOutcome, passed, if_neg inside]

/-- **The counter loop.** From a quiet world whose published count is `k`, with `k` iterations
made and `k` the last value, the loop of every strategy over the counter stops within
`countPasses` passes with `countOutcome`: nothing cancels it, so it stops only on the count or
on the refused call. -/
theorem loop_counts {n : Nat} (h : CounterLoop) (counting : h.terminator = .condition n)
    (working : h.work = World.count) :
    ∀ (fuel k : Nat) (w : World), w.Quiet → w.seen = k → k ≤ n →
      countPasses n k w.failOn ≤ fuel →
      ∃ w', (counterPacing h).loop fuel ⟨k, k⟩ w = some (countOutcome n k w.failOn, w')
  | 0, k, w, _, _, _, enough => absurd enough (Nat.not_le.mpr (countPasses_pos n k w.failOn))
  | fuel + 1, k, w, quiet, seen, below, enough => by
    subst seen
    by_cases done : n ≤ w.seen
    · -- the count has reached `n`
      refine ⟨w, ?_⟩
      rw [counter_done_pass h counting done, countOutcome, refusal_done done]
      simp [Progress.finish, Nat.le_antisymm below done]
    by_cases refused : w.failOn = some (w.seen + 1)
    · -- the next call is the one to fail on
      refine ⟨World.note (.iteration h.iteration (w.seen + 1)) w, ?_⟩
      rw [counter_refused_pass h counting working quiet done refused fuel]
      simp [countOutcome, refused, refusal_next (Nat.lt_of_not_le done), Progress.finish]
    · -- the call succeeds, and the rest of the course starts one count further
      obtain ⟨w', quiet', seen', failOn', pass⟩ :=
        counter_counted_pass h counting working quiet done refused fuel ⟨w.seen, w.seen⟩
      have more : countPasses n (w.seen + 1) w'.failOn ≤ fuel := by
        have := countPasses_succ (Nat.lt_of_not_le done) refused
        rw [failOn']
        omega
      obtain ⟨w'', rest⟩ := loop_counts h counting working fuel (w.seen + 1) w' quiet' seen'
        (Nat.lt_of_not_le done) more
      rw [failOn', countOutcome_succ refused] at rest
      exact ⟨w'', pass.trans rest⟩

/-! ### The `run` command -/

/-- The loop `run` builds for a count to stop at and no deadline: its only condition is the
count, its work is the counter, and its policy is `propagate` if asked for and the
configuration's otherwise. -/
theorem runHandle_counts (cfg : Config) {n : Nat} {opts : RunOptions}
    (counted : opts.stopAt = some n) (noTimeout : opts.timeoutMs = none) :
    (runHandle cfg opts).terminator = .condition n ∧ (runHandle cfg opts).work = World.count ∧
      (runHandle cfg opts).policy = if opts.propagate then .propagate else cfg.failurePolicy := by
  obtain ⟨strategy, timeoutMs, stopAt, intervalMs, cancelAfterMs, failOn, propagate, json⟩ := opts
  simp only at counted noTimeout
  subst counted noTimeout
  cases strategy <;> cases intervalMs <;> cases propagate <;> exact ⟨rfl, rfl, rfl⟩

/-- The loop `run` builds propagates failures exactly when `--propagate` is given or the
configuration asks for it. -/
theorem runHandle_propagates_iff (cfg : Config) {n : Nat} {opts : RunOptions}
    (counted : opts.stopAt = some n) (noTimeout : opts.timeoutMs = none) :
    (runHandle cfg opts).policy = .propagate ↔
      opts.propagate = true ∨ cfg.failurePolicy = .propagate := by
  rw [(runHandle_counts cfg counted noTimeout).2.2]
  cases opts.propagate <;> simp

/-- With a count to stop at and no deadline, `run` gives its loop enough iterations for the
counter's whole course: the count and a call to fail on each bound it, and no cancellation
does. -/
theorem countPasses_le_runBound {n : Nat} (opts : RunOptions) (noTimeout : opts.timeoutMs = none)
    (counted : opts.stopAt = some n) (interval : Nat) :
    countPasses n 0 opts.failOn ≤ runBound opts interval none := by
  have unpaced : pacedBound interval none = none := by
    unfold pacedBound
    split <;> rfl
  simp only [runBound, noTimeout, counted, unpaced]
  cases opts.failOn with
  | none =>
    have bound : boundOf [some (n + 2), none, none] = n + 2 := rfl
    simp only [Option.bind_none, bound, countPasses, refusal]
    omega
  | some f =>
    by_cases zero : f = 0
    · subst zero
      have bound : boundOf [some (n + 2), none, none] = n + 2 := rfl
      have never : refusal n 0 (some 0) = none := by simp [refusal]
      simp only [Option.bind_some, if_true, bound, countPasses, never]
      omega
    · have bound : boundOf [some (n + 2), some (f + 1), none] = min (n + 2) (f + 1) := rfl
      simp only [Option.bind_some, zero, if_false, bound, countPasses]
      -- the count bounds the course at `n + 1` passes, the call to fail on at `f`
      cases refused : refusal n 0 (some f) with
      | none =>
        have late : ¬(0 < f ∧ f ≤ n) := fun inside => by
          rw [refusal, if_pos inside] at refused
          cases refused
        simp only
        omega
      | some f' =>
        obtain ⟨same, -, bounded⟩ := refusal_eq_some.mp refused
        cases same
        simp only
        omega

/-- A counter loop run from a quiet world that has published nothing answers what its course's
outcome and its policy make of it. -/
theorem runCounter_counts {n : Nat} (h : CounterLoop) (counting : h.terminator = .condition n)
    (working : h.work = World.count) {fuel : Nat} {w w' : World} {fin : Finish}
    (ran : runCounter h fuel w = (fin, w')) (quiet : w.Quiet) (fresh : w.seen = 0)
    (enough : countPasses n 0 w.failOn ≤ fuel) :
    fin.answer = some ((countOutcome n 0 w.failOn).answer h.policy) := by
  have begun := World.note_quiet quiet (.begin h.iteration)
  obtain ⟨w'', course⟩ := loop_counts h counting working fuel 0 _ begun
    (by rw [World.note_seen, fresh]) (Nat.zero_le n) (by rwa [World.note_failOn])
  rw [World.note_failOn] at course
  have start : (Progress.start : Progress Nat) = ⟨0, 0⟩ := rfl
  unfold runCounter at ran
  rw [Handle.run_eq_loop, start, course] at ran
  simp only [Option.map_some, Prod.mk.injEq] at ran
  rw [← ran.1, Handle.settle_fst]

@[simp] theorem Output.infoAt_stdout (o : Output) (message : String) (time : Nat) :
    (o.infoAt message time).stdout = o.stdout := by
  unfold Output.infoAt
  split <;> rfl

@[simp] theorem Output.info_stdout (o : Output) (message : String) :
    (o.info message).stdout = o.stdout :=
  o.infoAt_stdout message 0

@[simp] theorem Output.absorb_stdout (o : Output) (records : List Log.Record) :
    (o.absorb records).stdout = o.stdout := rfl

/-- **The `run` command over the counter.** With a count to stop at, no deadline and nothing to
cancel the loop, `run` answers as the counter's course and the policy make it: a report is
printed after what was printed before, and a propagated failure prints nothing and is the
command's failure. -/
theorem runCommand_counts (m : Machine) (cfg : Config) (o : Output) {n : Nat} {opts : RunOptions}
    (counted : opts.stopAt = some n) (noTimeout : opts.timeoutMs = none)
    (noCancel : opts.cancelAfterMs = none) (noInterrupt : m.interruptAfter = none)
    {answer : Except Fault (Report Nat)}
    (answering : (countOutcome n 0 opts.failOn).answer (runHandle cfg opts).policy = answer) :
    (runCommand m cfg opts o).2 =
      (match answer with
        | .ok _ => none
        | .error f => some (workFailed f)) ∧
    ∃ ms, (runCommand m cfg opts o).1.stdout =
      o.stdout ++ (match answer with
        | .ok r =>
          (if opts.json then Json.pretty (reportJson r ms) else reportLine m.color "counter" r ms) ++
            "\n"
        | .error _ => "") := by
  obtain ⟨counting, working, -⟩ := runHandle_counts cfg counted noTimeout
  have noPlan : cancelPlan opts.cancelAfterMs m.interruptAfter = none := by
    rw [noCancel, noInterrupt]
    rfl
  -- the loop starts quiet, with nothing published, and is given enough iterations
  have answered : (runCounter (runHandle cfg opts)
      (runBound opts (((runHandle cfg opts).iteration.interval?.map Duration.toNanos).getD 0) none)
      { failOn := opts.failOn,
        filter := (o.info ("Running " ++ opts.strategy.debugText ++ " counter loop")).filter }).1.answer =
      some answer := by
    rw [← answering]
    exact runCounter_counts _ counting working rfl ⟨rfl, rfl⟩ rfl
      (countPasses_le_runBound opts noTimeout counted _)
  unfold runCommand
  simp only [noPlan, Option.map_none]
  unfold reported
  rw [answered]
  cases answer with
  | ok r => exact ⟨rfl, _, by simp [Output.print, String.append_assoc]; rfl⟩
  | error f => exact ⟨rfl, 0, by simp⟩

/-! ### The program -/

/-- Once its configuration is loaded and its log set up, the program prints the verbose banner,
if asked for, and ends as its `run` command does: with status `0`, or with status `1` and the
command's failure after what it wrote to the error stream. -/
theorem invoke_run (m : Machine) (config : Option String) (verbose : Bool) (opts : RunOptions)
    {cfg : Config} (loaded : Config.load m.files m.places config = .ok cfg) {logFile : Files.Path}
    (logged : setupLogging m = .ok logFile) :
    ∃ o : Output,
      o.stdout = (if verbose then paint m.color .yellow "Verbose mode enabled" ++ "\n" else "") ∧
      invoke m ⟨config, verbose, .run opts⟩ =
        match (runCommand m cfg opts o).2 with
        | none => (runCommand m cfg opts o).1.finish 0
        | some t =>
          { (runCommand m cfg opts o).1 with
            stderr := (runCommand m cfg opts o).1.stderr ++ t.render }.finish 1 := by
  unfold invoke
  simp only [loaded, logged]
  refine ⟨_, ?_, rfl⟩
  cases verbose <;> simp [Output.print]

/-- The whole program over the counter, once its configuration is loaded and its log set up:
it ends with status `0` and the report of the answer after the banner, or with status `1`, the
banner alone on its output, and the failure last on its error stream. -/
theorem invoke_counts (m : Machine) (config : Option String) (verbose : Bool) {n : Nat}
    {opts : RunOptions} (counted : opts.stopAt = some n) (noTimeout : opts.timeoutMs = none)
    (noCancel : opts.cancelAfterMs = none) (noInterrupt : m.interruptAfter = none)
    {cfg : Config} (loaded : Config.load m.files m.places config = .ok cfg) {logFile : Files.Path}
    (logged : setupLogging m = .ok logFile) :
    let t := invoke m ⟨config, verbose, .run opts⟩
    let shown := if verbose then paint m.color .yellow "Verbose mode enabled" ++ "\n" else ""
    match (countOutcome n 0 opts.failOn).answer (runHandle cfg opts).policy with
    | .ok r =>
      t.status = 0 ∧ ∃ ms, t.stdout = shown ++
        (if opts.json then Json.pretty (reportJson r ms) else reportLine m.color "counter" r ms) ++
          "\n"
    | .error f => t.status = 1 ∧ t.stdout = shown ∧ ∃ before, t.stderr = before ++ (workFailed f).render := by
  intro t shown
  obtain ⟨o, banner, invoked⟩ := invoke_run m config verbose opts loaded logged
  cases answering : (countOutcome n 0 opts.failOn).answer (runHandle cfg opts).policy with
  | ok r =>
    obtain ⟨trouble, ms, printed⟩ :=
      runCommand_counts m cfg o counted noTimeout noCancel noInterrupt answering
    simp only [t, invoked, trouble]
    refine ⟨rfl, ms, ?_⟩
    rw [Output.finish, printed, banner, String.append_assoc]
  | error f =>
    obtain ⟨trouble, _, printed⟩ :=
      runCommand_counts m cfg o counted noTimeout noCancel noInterrupt answering
    simp only [t, invoked, trouble]
    refine ⟨rfl, ?_, _, rfl⟩
    rw [Output.finish, printed, banner, String.append_empty]

/-- **The counter run law.** Take a machine on which the configuration loads and the log can be
set up, and a `run` of the counter with a count `n` to stop at, no deadline and nothing to
cancel it; every strategy, interval, call to fail on, output format and verbosity is allowed.

* The counter's next call publishes the next count, unless it is the call to fail on, which is
  refused with its number and publishes nothing.
* The course stops failed with `f - 1` as the last value and the iterations when the call `f`
  to fail on is one of `1 … n`, and terminated at `n` otherwise.
* The policy propagates exactly when `--propagate` is given or the configuration asks for it.
* A propagated failure ends the program with status `1`, prints nothing past the banner, and
  writes last the application's failure, caused by the unit of work's; every other course ends
  with status `0` and the report of the course after the banner. -/
theorem counter_run_law (m : Machine) (config : Option String) (verbose : Bool) {n : Nat}
    {opts : RunOptions} (counted : opts.stopAt = some n) (noTimeout : opts.timeoutMs = none)
    (noCancel : opts.cancelAfterMs = none) (noInterrupt : m.interruptAfter = none)
    {cfg : Config} (loaded : Config.load m.files m.places config = .ok cfg) {logFile : Files.Path}
    (logged : setupLogging m = .ok logFile) :
    let outcome := countOutcome n 0 opts.failOn
    let policy := (runHandle cfg opts).policy
    let t := invoke m ⟨config, verbose, .run opts⟩
    let shown := if verbose then paint m.color .yellow "Verbose mode enabled" ++ "\n" else ""
    (∀ w : World, World.count w =
      if w.failOn = some (w.seen + 1) then
        (.error (.message ("counter refused to reach " ++ toString (w.seen + 1))), w)
      else (.ok (w.seen + 1), { w with seen := w.seen + 1 })) ∧
    outcome =
      (match opts.failOn with
        | some f =>
          if 1 ≤ f ∧ f ≤ n then
            ⟨f - 1, f - 1, .failed (.message ("counter refused to reach " ++ toString f))⟩
          else ⟨n, n, .terminated⟩
        | none => ⟨n, n, .terminated⟩) ∧
    (policy = .propagate ↔ opts.propagate = true ∨ cfg.failurePolicy = .propagate) ∧
    match outcome.stop, policy with
    | .failed e, .propagate =>
      t.status = 1 ∧ t.stdout = shown ∧
        ∃ before, t.stderr = before ++ Trouble.render
          { context := "Application failed", causes := ["Unit of work failed: " ++ e.text, e.text] }
    | stop, _ =>
      t.status = 0 ∧ ∃ ms, t.stdout = shown ++
        (if opts.json then Json.pretty (reportJson ⟨outcome.last, outcome.iterations, stop.toExit⟩ ms)
          else reportLine m.color "counter" ⟨outcome.last, outcome.iterations, stop.toExit⟩ ms) ++
          "\n" := by
  intro outcome policy t shown
  refine ⟨World.count_eq, countOutcome_zero n opts.failOn,
    runHandle_propagates_iff cfg counted noTimeout, ?_⟩
  have process := invoke_counts m config verbose counted noTimeout noCancel noInterrupt loaded logged
  -- the program answers what the outcome and the policy make of it
  simp only [outcome, policy]
  generalize countOutcome n 0 opts.failOn = o at process ⊢
  generalize (runHandle cfg opts).policy = p at process ⊢
  rcases o with ⟨last, iterations, stop⟩
  cases stop <;> cases p <;> exact process

/-- On a machine with no files, where the defaults stand and the log can be set up, a busy count
to `3` that is told to fail on call `2` and to propagate ends the program with status `1`. -/
theorem counter_run_law_refused_on_two :
    Config.load (default : Machine).files (default : Machine).places none = .ok {} ∧
    setupLogging (default : Machine) = .ok ["loopkit", "logs", "loopkit.log"] ∧
    (invoke (default : Machine) ⟨none, false,
      .run { strategy := .busy, stopAt := some 3, failOn := some 2, propagate := true }⟩).status =
      1 := by
  refine ⟨rfl, rfl, ?_⟩
  obtain ⟨-, -, -, failed⟩ := @counter_run_law (default : Machine) none false 3
    { strategy := .busy, stopAt := some 3, failOn := some 2, propagate := true }
    rfl rfl rfl rfl {} rfl _ rfl
  exact failed.1

end Cadence.App
