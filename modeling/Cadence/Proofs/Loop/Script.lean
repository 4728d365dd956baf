import Cadence.Proofs.Loop.Pacing

/-!
# Cadence.Proofs.Loop.Script

Loops over a scripted unit of work.

A unit of work is scripted when each call answers the next entry of a fixed script: the `c`-th
call answers `answer c`, where `c` is a counter of the world that the work moves on by one and
that no other check point touches.

## Main result

`Pacing.Scripted.loop_spec`: a scripted loop that stops has made calls `c, c + 1, …` whose
answers are values `vs` followed by at most one failure. It reports `vs.length` more
iterations and the last of `vs` as its value (the value it started with when `vs` is empty),
and it stops as failed exactly when the last call failed, with that call's fault.
`Pacing.Scripted.loop_stops` adds that a script that fails from some call on always stops.

## Proof strategy

Induction on the fuel. The invariant is that the answers of the calls made so far are all
values, the last of which is the progress's value. A pass either stops at one of its check
points, which do not move the counter, or makes exactly one call, which extends the answers
by one.
-/

namespace Cadence

/-- A loop that ended on its terminator did not fail. -/
theorem Stop.terminated_ne_failed (e : Fault) : Stop.terminated ≠ .failed e := Stop.noConfusion

/-- A loop that was cancelled did not fail. -/
theorem Stop.cancelled_ne_failed (e : Fault) : Stop.cancelled ≠ .failed e := Stop.noConfusion

/-- The answers of `n` calls of a script, from call `c` on. -/
def Script.answers {α : Type} (answer : Nat → Except Fault α) (c n : Nat) :
    List (Except Fault α) :=
  (List.range n).map fun k => answer (c + k)

namespace Script

variable {α : Type} (answer : Nat → Except Fault α)

@[simp] theorem answers_zero (c : Nat) : answers answer c 0 = [] := rfl

theorem answers_succ (c n : Nat) :
    answers answer c (n + 1) = answer c :: answers answer (c + 1) n := by
  simp only [answers, List.range_succ_eq_map, List.map_cons, List.map_map, Nat.add_zero]
  congr 1
  apply List.map_congr_left
  intro k _
  simp only [Function.comp_apply]
  congr 1
  omega

theorem answers_one (c : Nat) : answers answer c 1 = [answer c] := by
  simp [answers_succ]

/-- A loop that started at call `c` with progress `p` and stopped at call `c'` with outcome `o`
made calls whose answers are values `vs` followed by at most one failure `e?`; it reports the
last of `vs` and their number, and it failed exactly with `e?`. -/
def Reports (p : Progress α) (c c' : Nat) (o : Outcome α) : Prop :=
  c ≤ c' ∧ ∃ (vs : List α) (e? : Option Fault),
    answers answer c (c' - c) = vs.map .ok ++ e?.toList.map .error ∧
    o.last = vs.getLastD p.last ∧ o.iterations = p.iterations + vs.length ∧
    ∀ e, o.stop = .failed e ↔ e? = some e

variable {answer}

/-- Stopping before a call, other than by a failure, reports nothing new. -/
theorem reports_stop (p : Progress α) (c : Nat) {r : Stop} (hr : ∀ e, r ≠ .failed e) :
    Reports answer p c c (p.finish r) := by
  refine ⟨Nat.le_refl c, [], none, by simp, rfl, rfl, fun e => ?_⟩
  simpa [Progress.finish] using hr e

/-- A failed call stops the loop with its fault and reports nothing new. -/
theorem reports_fail (p : Progress α) {c : Nat} {e : Fault} (failed : answer c = .error e) :
    Reports answer p c (c + 1) (p.finish (.failed e)) := by
  refine ⟨Nat.le_succ c, [], some e, ?_, rfl, rfl, fun e' => ?_⟩
  · simp [answers_one, failed]
  · simp [Progress.finish]

/-- A call that answered `v`, followed by a run that reports from the next call on with `v`
recorded, reports from this call on. -/
theorem reports_record {p : Progress α} {c c' : Nat} {v : α} {o : Outcome α}
    (answered : answer c = .ok v) (rest : Reports answer (p.record v) (c + 1) c' o) :
    Reports answer p c c' o := by
  obtain ⟨le, vs, e?, calls, last, count, stop⟩ := rest
  refine ⟨by omega, v :: vs, e?, ?_, ?_, ?_, stop⟩
  · have split : c' - c = c' - (c + 1) + 1 := by omega
    rw [split, answers_succ, calls, answered, List.map_cons, List.cons_append]
  · rw [last]
    cases vs with
    | nil => rfl
    | cons w ws => simp only [List.getLastD_cons]
  · simp only [count, Progress.record, List.length_cons]
    omega

end Script

namespace Pacing

variable {σ α : Type}

/-- The work of a pacing reads `answer` at the counter `calls` and moves it on by one; the other
check points keep the counter. -/
structure Scripted (pc : Pacing σ α) (calls : σ → Nat) (answer : Nat → Except Fault α) :
    Prop where
  met : ∀ s, calls (pc.met s).2 = calls s
  poll : ∀ s, calls (pc.poll s).2 = calls s
  pause : ∀ k s, calls (pc.pause k s).2 = calls s
  answer : ∀ k s, (pc.work k s).1 = answer (calls s)
  work : ∀ k s, calls (pc.work k s).2 = calls s + 1

namespace Scripted

variable {pc : Pacing σ α} {calls : σ → Nat} {answer : Nat → Except Fault α}

/-- **Scripted loops report their calls.** -/
theorem loop_spec (scripted : pc.Scripted calls answer) :
    ∀ fuel p s o s', pc.loop fuel p s = some (o, s') →
      Script.Reports answer p (calls s) (calls s') o
  | 0, _, _, _, _, h => by cases h
  | fuel + 1, p, s, o, s', h => by
    rcases metAt : pc.met s with ⟨_ | _, s₁⟩
    case true =>
      simp only [loop, metAt, Option.some.injEq, Prod.mk.injEq] at h
      obtain ⟨rfl, rfl⟩ := h
      rw [← scripted.met s, metAt]
      exact Script.reports_stop p _ Stop.terminated_ne_failed
    have kept₁ : calls s₁ = calls s := by rw [← scripted.met s, metAt]
    rcases pollAt : pc.poll s₁ with ⟨_ | _, s₂⟩
    case true =>
      simp only [loop, metAt, pollAt, Option.some.injEq, Prod.mk.injEq] at h
      obtain ⟨rfl, rfl⟩ := h
      rw [← kept₁, ← scripted.poll s₁, pollAt]
      exact Script.reports_stop p _ Stop.cancelled_ne_failed
    have kept₂ : calls s₂ = calls s := by rw [← kept₁, ← scripted.poll s₁, pollAt]
    have answered := scripted.answer (p.iterations + 1) s₂
    have called := scripted.work (p.iterations + 1) s₂
    rcases workAt : pc.work (p.iterations + 1) s₂ with ⟨e | v, s₃⟩ <;>
      rw [workAt, kept₂] at answered called <;> dsimp only at answered called
    case error =>
      simp only [loop, metAt, pollAt, workAt, Option.some.injEq, Prod.mk.injEq] at h
      obtain ⟨rfl, rfl⟩ := h
      rw [called]
      exact Script.reports_fail p answered.symm
    refine Script.reports_record answered.symm ?_
    rw [← called]
    rcases pauseAt : pc.pause (p.iterations + 1) s₃ with ⟨_ | _, s₄⟩
    case true =>
      simp only [loop, metAt, pollAt, workAt, pauseAt, Option.some.injEq, Prod.mk.injEq] at h
      obtain ⟨rfl, rfl⟩ := h
      rw [← scripted.pause (p.iterations + 1) s₃, pauseAt]
      exact Script.reports_stop (p.record v) _ Stop.cancelled_ne_failed
    simp only [loop, metAt, pollAt, workAt, pauseAt] at h
    rw [← scripted.pause (p.iterations + 1) s₃, pauseAt]
    exact loop_spec scripted fuel (p.record v) s₄ o s' h

/-- **Scripted loops stop.** A script that fails from call `bound` on stops every loop given more
passes than there are calls left before `bound`. -/
theorem loop_stops (scripted : pc.Scripted calls answer) {bound : Nat}
    (fails : ∀ c, bound ≤ c → ∃ e, answer c = .error e) :
    ∀ fuel p s, bound - calls s < fuel → ∃ o s', pc.loop fuel p s = some (o, s')
  | 0, _, _, enough => absurd enough (Nat.not_lt_zero _)
  | fuel + 1, p, s, enough => by
    rcases metAt : pc.met s with ⟨_ | _, s₁⟩
    case true => exact ⟨_, _, by simp only [loop, metAt]; rfl⟩
    rcases pollAt : pc.poll s₁ with ⟨_ | _, s₂⟩
    case true => exact ⟨_, _, by simp only [loop, metAt, pollAt]; rfl⟩
    have kept : calls s₂ = calls s := by
      rw [← scripted.met s, metAt, ← scripted.poll s₁, pollAt]
    have answered := scripted.answer (p.iterations + 1) s₂
    have called := scripted.work (p.iterations + 1) s₂
    rcases workAt : pc.work (p.iterations + 1) s₂ with ⟨e | v, s₃⟩ <;>
      rw [workAt, kept] at answered called <;> dsimp only at answered called
    case error => exact ⟨_, _, by simp only [loop, metAt, pollAt, workAt]; rfl⟩
    -- the call answered a value, so the script had not reached `bound` yet
    have before : calls s < bound := by
      refine Nat.lt_of_not_le fun past => ?_
      obtain ⟨e, failed⟩ := fails (calls s) past
      rw [failed] at answered
      cases answered
    rcases pauseAt : pc.pause (p.iterations + 1) s₃ with ⟨_ | _, s₄⟩
    case true => exact ⟨_, _, by simp only [loop, metAt, pollAt, workAt, pauseAt]; rfl⟩
    have moved : calls s₄ = calls s + 1 := by
      rw [← called, ← scripted.pause (p.iterations + 1) s₃, pauseAt]
    simp only [loop, metAt, pollAt, workAt, pauseAt]
    exact loop_stops scripted fails fuel (p.record v) s₄ (by omega)

end Scripted

end Pacing

end Cadence
