import Cadence.Loop.Handle
import Cadence.Proofs.Loop.Pacing

/-!
# Cadence.Proofs.Loop.Handle

Running a handle: its strategy's loop, then the settlement of the stop.

`Handle.run` takes a note that the loop begins, runs the loop of the handle's strategy, and
settles how it stopped. The settlement has three cases, one lemma each: a failure under the
`propagate` policy is returned as the fault, with no hook; a failure under `contain` is reported
as a `failed` ending after the hook fired with the last value; and a loop that did not fail is
reported with its ending after the hook fired with the last value.
-/

namespace Cadence

namespace Handle

variable {γ σ α : Type} (h : Handle γ σ α) (note : Note → σ → σ)

/-- The host of a handle does not depend on its strategy. -/
@[simp] theorem host_withIteration (it : Iteration) (ask : γ → σ → Bool × σ) (now : σ → Nat)
    (flag : Flag σ) :
    ({ h with iteration := it }).host ask now flag note = h.host ask now flag note :=
  rfl

/-- Nor does the settlement of its stop. -/
@[simp] theorem settle_withIteration (it : Iteration) :
    ({ h with iteration := it }).settle note = h.settle note :=
  rfl

/-- A run is the loop of the handle's strategy, settled. -/
theorem run_eq_loop [Inhabited α] (ask : γ → σ → Bool × σ) (now : σ → Nat) (flag : Flag σ)
    (fuel : Nat) (s : σ) :
    h.run ask now flag note fuel s =
      ((h.iteration.pacing (h.host ask now flag note)).loop fuel .start
        (note (.begin h.iteration) s)).map fun r => h.settle note r.1 r.2 := by
  rw [run, Iteration.drive_eq_loop]

/-- A failure under the `propagate` policy is returned, and no hook fires. -/
theorem settle_propagated {o : Outcome α} {e : Fault} (failed : o.stop = .failed e)
    (propagate : h.policy = .propagate) (s : σ) :
    h.settle note o s = (.error e, note (.propagating o.iterations) s) := by
  rw [settle, failed, propagate]

/-- A failure under the `contain` policy is reported as a `failed` ending with the fault's
text, once the hook has fired with the last value. -/
theorem settle_contained {o : Outcome α} {e : Fault} (failed : o.stop = .failed e)
    (contain : h.policy = .contain) (s : σ) :
    h.settle note o s =
      (.ok ⟨o.last, o.iterations, .failed e.text⟩,
        note (.ended (.failed e.text) o.iterations)
          (h.hook.fire o.last (note (.aborted o.iterations e) s))) := by
  rw [settle, failed, contain]
  rfl

/-- A loop that did not fail is reported with its ending, once the hook has fired with the last
value. -/
theorem settle_unfailed {o : Outcome α} (unfailed : ∀ e, o.stop ≠ .failed e) (s : σ) :
    h.settle note o s =
      (.ok ⟨o.last, o.iterations, o.stop.toExit⟩,
        note (.ended o.stop.toExit o.iterations) (h.hook.fire o.last s)) := by
  rcases o with ⟨last, iterations, _ | _ | e⟩
  · rfl
  · rfl
  · exact absurd rfl (unfailed e)

end Handle

end Cadence
