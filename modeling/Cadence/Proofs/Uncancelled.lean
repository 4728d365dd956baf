import Cadence.Proofs.Agreement
import Cadence.Proofs.Scenario.Untouched

/-!
# Cadence.Proofs.Uncancelled

Without cancellation, the three strategies agree.

The strategies differ only in how they look at the run's flag. While the flag stays clear,
looking at it answers `false` and changes nothing, and every wait runs its course; so `busy`,
`throttled` and `reinterrupt` then meet the same terminator checks and the same calls of the
work, and stop the same way.

## Main result

`strategies_agree_without_cancellation`: run a handle against a scripted scene, with a hook that
does not read the clock and a terminator whose deadlines have all passed when the run starts. If
the `busy` run passes only through worlds where the flag is clear, or if the run's token is a
fresh one that no action names, then the `busy` run does not end cancelled, and the `throttled`
and `reinterrupt` runs, at any intervals, give the same answer and end in the same scene apart
from the clock: the same calls of the work, the same checks of the conditions, the same flags
and the same hooks fired.

`throttled_differs_from_busy_before_deadline`: the condition on the deadlines is needed.

## Proof strategy

`throttled` against `busy` is a lock-step simulation along the `busy` run
(`Pacing.loop_sim_along`): scenes alike apart from the clock, both clocks past the terminator's
deadlines, with the flag clear on the `busy` side. `reinterrupt` against `busy` needs no
condition on the flag (`reinterrupt_loop_as_busy`). A `busy` loop that only sees a clear flag is
never cancelled (`Pacing.loop_uncancelled`).
-/

namespace Cadence.Scenario

variable {α : Type}

/-- A settled outcome that did not stop as cancelled is not reported as cancelled. -/
theorem settle_exit_ne_cancelled [Inhabited α] (h : Handle Probe (Scene α) α) {o : Outcome α}
    (uncancelled : o.stop ≠ .cancelled) {s s' : Scene α} {r : Report α}
    (settled : h.settle (fun _ s => s) o s = (.ok r, s')) : r.exit ≠ .cancelled := by
  rcases stopped : o.stop with _ | _ | e
  case cancelled => exact absurd stopped uncancelled
  case failed =>
    cases policy : h.policy with
    | propagate => simp [h.settle_propagated _ stopped policy] at settled
    | contain =>
      simp only [h.settle_contained _ stopped policy, Prod.mk.injEq, Except.ok.injEq] at settled
      rw [← settled.1]
      intro stop
      cases stop
  case terminated =>
    have unfailed : ∀ e, o.stop ≠ .failed e := by rw [stopped]; exact Stop.terminated_ne_failed
    simp only [h.settle_unfailed _ unfailed, Prod.mk.injEq, Except.ok.injEq] at settled
    rw [← settled.1, stopped]
    intro stop
    cases stop

section Throttled

variable (h : Handle Probe (Scene α) α) (steps : List (Step α))

/-- The `throttled` and `busy` loops of a scripted scene, from scenes alike from `start` with
the flag clear, run alike for as long as the `busy` loop sees the flag clear, when every deadline
of the terminator has passed by `start`. -/
theorem throttled_loop_as_busy (scripted : h.work = Scene.work steps) {start : Nat}
    (passed : h.terminator.passedBy start = true) (d : Duration) (fuel : Nat) (p : Progress α)
    (s t : Scene α) (alike : Scene.AlikeFrom start s t) (clear : t.unsignalled)
    (quiet : (Pacing.busy (h.host Scene.ask Scene.now Scene.runFlag fun _ s => s)).along
      Scene.unsignalled fuel p t) :
    Option.Rel (fun a b => a.1 = b.1 ∧ a.2.untimed = b.2.untimed)
      (((Iteration.throttled d).pacing (h.host Scene.ask Scene.now Scene.runFlag
        fun _ s => s)).loop fuel p s)
      ((Iteration.busy.pacing (h.host Scene.ask Scene.now Scene.runFlag fun _ s => s)).loop
        fuel p t) := by
  -- the relation keeps the flag clear on the `busy` side, where `busy` is about to look at it
  have sim := Pacing.loop_sim_along
    ((Iteration.throttled d).pacing (h.host Scene.ask Scene.now Scene.runFlag fun _ s => s))
    (Iteration.busy.pacing (h.host Scene.ask Scene.now Scene.runFlag fun _ s => s))
    (fun s t => Scene.AlikeFrom start s t ∧ t.unsignalled) Scene.unsignalled ?met ?poll ?work
    ?pause fuel p s t ⟨alike, clear⟩ quiet
  · exact Pacing.rel_mono (fun a b related => ⟨related.1, related.2.1.1⟩) sim
  case met =>
    intro s t related goodAfter
    obtain ⟨same, after⟩ := met_blindFrom passed s t related.1
    exact ⟨same, after, goodAfter⟩
  case poll =>
    -- `throttled` does not look; `busy` looks at a clear flag, which changes nothing
    intro s t related _
    have unset : t.tokens.isSignalled t.flag = false := by
      simpa [Scene.unsignalled] using related.2
    have looked : Scene.runFlag.observe t = (false, t) := by
      rw [Scene.runFlag_observe, unset, Tokens.clear_of_not_signalled unset]
    simp only [Iteration.pacing, Pacing.throttled, Pacing.busy, Handle.host, looked]
    exact ⟨trivial, related⟩
  case work =>
    intro k s t related goodAfter
    have blindWork : Scene.BlindFrom start h.work := scripted ▸ Scene.work_blindFrom steps start
    obtain ⟨same, after⟩ := blindWork s t related.1
    simp only [Iteration.pacing_work, Handle.host] at goodAfter ⊢
    exact ⟨same, after, goodAfter⟩
  case pause =>
    -- the flag is clear on both sides, so the wait of `throttled` runs its course
    intro k s t related _
    have unset : s.tokens.isSignalled s.flag = false := by
      have sameTokens := congrArg Scene.tokens related.1.1
      have sameFlag := congrArg Scene.flag related.1.1
      simp only [Scene.untimed_tokens, Scene.untimed_flag] at sameTokens sameFlag
      simpa [Scene.unsignalled, sameTokens, sameFlag] using related.2
    have moved := Scene.suspend_untimed_of_not_cancelled (d := d) (s := s) (by
      rw [Scene.runFlag_suspend, unset])
    have later := Scene.clock_le_suspend d s
    rcases waited : Scene.runFlag.suspend d s with ⟨_ | _, s'⟩
    case true => rw [Scene.runFlag_suspend, unset] at waited; cases waited
    rw [waited] at moved later
    simp only [Iteration.pacing, Pacing.throttled, Pacing.busy, Handle.host, waited]
    exact ⟨trivial, ⟨moved.trans related.1.1, Nat.le_trans related.1.2.1 later, related.1.2.2⟩,
      related.2⟩

end Throttled

/-- **Without cancellation the strategies agree.** When the `busy` run only ever sees its flag
clear, or the run is detached, `busy` never ends cancelled, and `throttled` and
`reinterrupt` end as `busy` does, with the same outcome and worlds alike but for the clock. -/
theorem strategies_agree_without_cancellation [Inhabited α] (h : Handle Probe (Scene α) α)
    (steps : List (Step α)) (scripted : h.work = Scene.work steps)
    (hookFree : ∀ v, Scene.ClockFree (h.hook.fire v)) (i j : Duration) (fuel : Nat)
    (s : Scene α) (passed : h.terminator.passedBy s.clock = true)
    (unsignalled :
      (Pacing.busy (h.host Scene.ask Scene.now Scene.runFlag fun _ s => s)).along
        Scene.unsignalled fuel .start s ∨ Detached steps h.terminator s) :
    (∀ r s', { h with iteration := .busy }.run Scene.ask Scene.now Scene.runFlag
      (fun _ s => s) fuel s = some (.ok r, s') → r.exit ≠ .cancelled) ∧
    Option.Rel (fun a b => a.1 = b.1 ∧ a.2.untimed = b.2.untimed)
      ({ h with iteration := .throttled i }.run Scene.ask Scene.now Scene.runFlag
        (fun _ s => s) fuel s)
      ({ h with iteration := .busy }.run Scene.ask Scene.now Scene.runFlag (fun _ s => s) fuel s) ∧
    Option.Rel (fun a b => a.1 = b.1 ∧ a.2.untimed = b.2.untimed)
      ({ h with iteration := .reinterrupt j }.run Scene.ask Scene.now Scene.runFlag
        (fun _ s => s) fuel s)
      ({ h with iteration := .busy }.run Scene.ask Scene.now Scene.runFlag
        (fun _ s => s) fuel s) := by
  -- a detached run is one whose `busy` run only sees a clear flag
  have quiet : (Pacing.busy (h.host Scene.ask Scene.now Scene.runFlag fun _ s => s)).along
      Scene.unsignalled fuel .start s :=
    unsignalled.elim id fun detached => detached.along scripted fuel .start
  have throttled :=
    throttled_loop_as_busy h steps scripted passed i fuel .start s s
      ⟨rfl, Nat.le_refl _, Nat.le_refl _⟩ (Pacing.good_of_along quiet) quiet
  have reinterrupt := reinterrupt_loop_as_busy h steps scripted j fuel .start s passed
  refine ⟨?uncancelled, runs_alike_of_loops h hookFree throttled,
    runs_alike_of_loops h hookFree reinterrupt⟩
  case uncancelled =>
    intro r s' ran
    simp only [Handle.run_eq_loop, Handle.host_withIteration, Handle.settle_withIteration,
      Option.map_eq_some_iff] at ran
    obtain ⟨⟨o, s₁⟩, stopped, settled⟩ := ran
    -- `busy` looks at the flag only where it is clear, and never pauses
    have uncancelled := Pacing.loop_uncancelled _ Scene.unsignalled
      (fun w clearW => by simpa [Pacing.busy, Handle.host, Scene.runFlag_observe,
        Scene.unsignalled] using clearW)
      (fun _ _ _ => rfl) fuel .start s quiet o s₁ stopped
    exact settle_exit_ne_cancelled h uncancelled settled

/-- A detached run whose steps cancel the group and signal the run's own group token, and whose
condition, behind a deadline that passed before the run, signals the own token too: none of it
reaches the fresh token, and the strategies agree. -/
theorem strategies_agree_when_detached :
    let steps : List (Step Nat) := [.ok 1 [.everyToken], .ok 2 [.token 0], .ok 3 []]
    let h : Handle Probe (Scene Nat) Nat :=
      { work := Scene.work steps,
        terminator := .timeoutAnd (.condition ⟨0, [false, false, true], false, [(1, [.own])]⟩)
          ⟨0, 40⟩,
        iteration := .busy,
        hook := .consumer fun v s => { s with fired := s.fired ++ [.consumer v] },
        policy := .contain }
    let s : Scene Nat :=
      { tokens := (Tokens.ofGroup 1).fresh.1, own := 0, flag := (Tokens.ofGroup 1).fresh.2,
        counters := [0], clock := 40 }
    h.work = Scene.work steps ∧ (∀ v, Scene.ClockFree (h.hook.fire v)) ∧
    h.terminator.passedBy s.clock = true ∧
    ((Pacing.busy (h.host Scene.ask Scene.now Scene.runFlag fun _ s => s)).along
        Scene.unsignalled 5 .start s ∨ Detached steps h.terminator s) ∧
    (∀ r s', { h with iteration := .busy }.run Scene.ask Scene.now Scene.runFlag
      (fun _ s => s) 5 s = some (.ok r, s') → r.exit ≠ .cancelled) ∧
    Option.Rel (fun a b => a.1 = b.1 ∧ a.2.untimed = b.2.untimed)
      ({ h with iteration := .throttled (Duration.ofMillis 10) }.run Scene.ask Scene.now
        Scene.runFlag (fun _ s => s) 5 s)
      ({ h with iteration := .busy }.run Scene.ask Scene.now Scene.runFlag (fun _ s => s) 5 s) ∧
    Option.Rel (fun a b => a.1 = b.1 ∧ a.2.untimed = b.2.untimed)
      ({ h with iteration := .reinterrupt (Duration.ofMillis 20) }.run Scene.ask Scene.now
        Scene.runFlag (fun _ s => s) 5 s)
      ({ h with iteration := .busy }.run Scene.ask Scene.now Scene.runFlag (fun _ s => s) 5 s) := by
  intro steps h s
  have detached : Detached steps h.terminator s :=
    ⟨⟨Tokens.ofGroup 1, Tokens.wellFormed_ofGroup 1, rfl, rfl⟩, by decide⟩
  exact ⟨rfl, fun _ _ => rfl, rfl, .inr detached,
    strategies_agree_without_cancellation h steps rfl (fun _ _ => rfl) _ _ 5 s rfl (.inr detached)⟩

/-- A deadline that has not passed tells `throttled` from `busy`, though nothing is cancelled:
waiting a second after its first call, a `throttled` loop finds a 200 ms deadline passed, while
a `busy` loop runs its script to the end. -/
theorem throttled_differs_from_busy_before_deadline :
    let h : Handle Probe (Scene Nat) Nat :=
      { work := Scene.work [.ok 1 [], .ok 2 []], terminator := .timeout ⟨0, 200⟩,
        iteration := .busy, hook := .none, policy := .contain }
    let s : Scene Nat := { tokens := Tokens.ofGroup 1, own := 0, flag := 0 }
    let report := fun r : Except Fault (Report Nat) × Scene Nat =>
      r.1.toOption.map fun rep => (rep.value, rep.iterations, rep.exit)
    ({ h with iteration := .throttled (Duration.ofMillis 1000) }.run Scene.ask Scene.now
        Scene.runFlag (fun _ s => s) 4 s).map report = some (some (1, 1, .terminated)) ∧
      ({ h with iteration := .busy }.run Scene.ask Scene.now Scene.runFlag (fun _ s => s) 4
        s).map report = some (some (2, 2, .failed "script exhausted")) := by
  decide

end Cadence.Scenario
