import Cadence.Proofs.Loop.Pacing

/-!
# Cadence.Proofs.Loop.Trace

The check points of a run.

A loop meets its world only at check points: it asks the terminator, observes the flag, runs
the unit of work, waits on the flag, and raises the flag again. Running a loop against
`Host.traced host` keeps, beside the world, every check point it met with its answer and the
world right after it, in order. The notes a loop takes are not check points.

## Main result

`Iteration.loop_traced`: a traced run is the run itself; keeping the check points changes
neither the outcome nor the world.
-/

namespace Cadence

/-- A check point of a loop, with what it answered. -/
inductive Check (α : Type) where
  /-- The terminator was asked. -/
  | met (answer : Bool)
  /-- The flag was observed. -/
  | observe (answer : Bool)
  /-- The unit of work ran. -/
  | work (answer : Except Fault α)
  /-- A wait on the flag ended, cancelled or not. -/
  | suspend (cancelled : Bool)
  /-- The flag was raised again. -/
  | rearm

namespace Check

variable {σ α β : Type}

/-- An answer `(b, s)` of a check point, with the check point `check b` and the world `s` kept
after the trace `tr`. -/
def keep (check : β → Check α) (r : β × σ) (tr : List (Check α × σ)) :
    β × σ × List (Check α × σ) :=
  (r.1, r.2, tr ++ [(check r.1, r.2)])

/-- Whether a check point looks at the flag: observations, waits and raises. -/
def isFlag : Check α → Bool
  | .observe _ | .suspend _ | .rearm => true
  | .met _ | .work _ => false

/-- Whether a check point is a wait or a raise, the check points only a pause makes. -/
def isWait : Check α → Bool
  | .suspend _ | .rearm => true
  | .met _ | .observe _ | .work _ => false

/-- Whether a check point caught the flag raised: an observation or a wait that found it set. -/
def catches : Check α → Bool
  | .observe true | .suspend true => true
  | _ => false

/-- Whether a check point is a call of the unit of work. -/
def isWork : Check α → Bool
  | .work _ => true
  | _ => false

end Check

/-- A host that also keeps every check point with the world after it. -/
def Host.traced {σ α : Type} (host : Host σ α) : Host (σ × List (Check α × σ)) α where
  met x := Check.keep .met (host.met x.1) x.2
  observe x := Check.keep .observe (host.observe x.1) x.2
  work x := Check.keep .work (host.work x.1) x.2
  suspend d x := Check.keep .suspend (host.suspend d x.1) x.2
  rearm x := (host.rearm x.1, x.2 ++ [(.rearm, host.rearm x.1)])
  note n x := (host.note n x.1, x.2)

section Projection

variable {σ τ α : Type}

/-- Runs related through a function of the world, with equal outcomes: the first, seen through
the function, is the second. -/
private theorem map_of_rel {f : τ → σ} {x : Option (Outcome α × τ)} {y : Option (Outcome α × σ)}
    (h : Option.Rel (fun a b => a.1 = b.1 ∧ f a.2 = b.2) x y) :
    x.map (fun a => (a.1, f a.2)) = y := by
  cases h with
  | none => rfl
  | some h => rw [Option.map_some, h.1, h.2]

/-- Keeping the check points changes neither the outcome of a loop nor its world. -/
theorem Iteration.loop_traced (it : Iteration) (host : Host σ α) (fuel : Nat) (p : Progress α)
    (s : σ) (tr : List (Check α × σ)) :
    ((it.pacing host.traced).loop fuel p (s, tr)).map (fun a => (a.1, a.2.1)) =
      (it.pacing host).loop fuel p s := by
  apply map_of_rel
  cases it <;>
  refine Pacing.loop_sim _ _ (fun x t => x.1 = t) ?_ ?_ ?_ ?_ fuel p (s, tr) s rfl <;>
  intros <;> subst_vars <;>
  simp only [Iteration.pacing, Pacing.busy, Pacing.throttled, Pacing.reinterrupt, Host.traced,
    Check.keep, and_self]
  -- what is left are the pauses that wait: split on how the wait ended
  all_goals rcases host.suspend _ _ with ⟨_ | _, _⟩ <;> exact ⟨rfl, rfl⟩


end Projection

end Cadence
