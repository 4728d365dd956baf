import Cadence.Proofs.Loop.Pacing

/-!
# Cadence.Proofs.Loop.Along

Loops that stay among good worlds.

`Pacing.along pc good fuel p s` says that every world a loop passes through is good: the world it
starts from, and the world after each check point it meets. It is a property of one run. It is
what lets two pacings be compared that answer alike only at good worlds: a `busy` loop and a
`throttled` loop agree only while the flag stays clear.

## Main results

* `Pacing.loop_sim_along`: lock-step simulation whose obligations hold only where the second
  pacing reaches a good world, for a run of the second pacing that stays among good worlds.
* `Pacing.along_of_invariant`: a property that every check point keeps holds along every run.
* `Pacing.loop_uncancelled`: a loop whose two checks of the flag answer `false` at good worlds
  does not stop as cancelled along a run that stays among them.
-/

namespace Cadence.Pacing

variable {σ τ α : Type}

/-- Whether every world the loop passes through within `fuel` passes is good: the world it starts
from, and the world after each check point it meets. -/
def along (pc : Pacing σ α) (good : σ → Bool) : Nat → Progress α → σ → Bool
  | 0, _, s => good s
  | fuel + 1, p, s =>
    let met := pc.met s
    let poll := pc.poll met.2
    let work := pc.work (p.iterations + 1) poll.2
    let pause := pc.pause (p.iterations + 1) work.2
    good s && (good met.2 && (met.1 || (good poll.2 && (poll.1 || (good work.2 &&
      match work.1 with
      | .error _ => true
      | .ok v => good pause.2 && (pause.1 || pc.along good fuel (p.record v) pause.2))))))

/-- A run that stays among good worlds starts from one. -/
theorem good_of_along {pc : Pacing σ α} {good : σ → Bool} {fuel : Nat} {p : Progress α} {s : σ}
    (stays : pc.along good fuel p s) : good s := by
  cases fuel with
  | zero => exact stays
  | succ fuel =>
    simp only [along, Bool.and_eq_true] at stays
    exact stays.1

/-! ### Simulation along good worlds -/

section Simulation

variable {R : σ → τ → Prop} {good : τ → Bool}

/-- **Lock-step simulation along good worlds.** If from related worlds the two pacings answer
every check point alike and lead to related worlds whenever the second one reaches a good world,
their loops from related worlds run in lock step for as long as the second loop stays among good
worlds. -/
theorem loop_sim_along (A : Pacing σ α) (B : Pacing τ α) (R : σ → τ → Prop) (good : τ → Bool)
    (met : ∀ s t, R s t → good (B.met t).2 →
      (A.met s).1 = (B.met t).1 ∧ R (A.met s).2 (B.met t).2)
    (poll : ∀ s t, R s t → good (B.poll t).2 →
      (A.poll s).1 = (B.poll t).1 ∧ R (A.poll s).2 (B.poll t).2)
    (work : ∀ k s t, R s t → good (B.work k t).2 →
      (A.work k s).1 = (B.work k t).1 ∧ R (A.work k s).2 (B.work k t).2)
    (pause : ∀ k s t, R s t → good (B.pause k t).2 →
      (A.pause k s).1 = (B.pause k t).1 ∧ R (A.pause k s).2 (B.pause k t).2) :
    ∀ fuel p s t, R s t → B.along good fuel p t →
      Option.Rel (fun a b => a.1 = b.1 ∧ R a.2 b.2) (A.loop fuel p s) (B.loop fuel p t)
  | 0, _, _, _, _, _ => .none
  | fuel + 1, p, s, t, related, stays => by
    simp only [along, Bool.and_eq_true, Bool.or_eq_true] at stays
    obtain ⟨-, goodMet, stays⟩ := stays
    obtain ⟨answer, s₁, t₁, metA, metB, related⟩ := agree_cases (met s t related goodMet)
    simp only [metB] at stays
    cases answer with
    | true => simpa only [loop, metA, metB] using .some ⟨rfl, related⟩
    | false =>
    simp only [Bool.false_eq_true, false_or] at stays
    obtain ⟨goodPoll, stays⟩ := stays
    obtain ⟨answer, s₂, t₂, pollA, pollB, related⟩ := agree_cases (poll s₁ t₁ related goodPoll)
    simp only [pollB] at stays
    cases answer with
    | true => simpa only [loop, metA, metB, pollA, pollB] using .some ⟨rfl, related⟩
    | false =>
    simp only [Bool.false_eq_true, false_or] at stays
    obtain ⟨goodWork, stays⟩ := stays
    obtain ⟨result, s₃, t₃, workA, workB, related⟩ :=
      agree_cases (work (p.iterations + 1) s₂ t₂ related goodWork)
    simp only [workB] at stays
    cases result with
    | error e =>
      simpa only [loop, metA, metB, pollA, pollB, workA, workB] using .some ⟨rfl, related⟩
    | ok v =>
    simp only [Bool.and_eq_true, Bool.or_eq_true] at stays
    obtain ⟨goodPause, stays⟩ := stays
    obtain ⟨answer, s₄, t₄, pauseA, pauseB, related⟩ :=
      agree_cases (pause (p.iterations + 1) s₃ t₃ related goodPause)
    simp only [pauseB] at stays
    cases answer with
    | true =>
      simpa only [loop, metA, metB, pollA, pollB, workA, workB, pauseA, pauseB] using
        .some ⟨rfl, related⟩
    | false =>
      simp only [Bool.false_eq_true, false_or] at stays
      simpa only [loop, metA, metB, pollA, pollB, workA, workB, pauseA, pauseB] using
        loop_sim_along A B R good met poll work pause fuel (p.record v) s₄ t₄ related stays

end Simulation

/-! ### Runs that stay among good worlds -/

/-- A property that holds where a loop starts, that every check point keeps, and that makes a
world good, holds along every run. -/
theorem along_of_invariant (pc : Pacing σ α) (inv : σ → Prop) (good : σ → Bool)
    (inv_good : ∀ s, inv s → good s) (met : ∀ s, inv s → inv (pc.met s).2)
    (poll : ∀ s, inv s → inv (pc.poll s).2) (work : ∀ k s, inv s → inv (pc.work k s).2)
    (pause : ∀ k s, inv s → inv (pc.pause k s).2) :
    ∀ fuel p s, inv s → pc.along good fuel p s
  | 0, _, s, holds => inv_good s holds
  | fuel + 1, p, s, holds => by
    have afterMet := met s holds
    have afterPoll := poll _ afterMet
    have afterWork := work (p.iterations + 1) _ afterPoll
    have afterPause := pause (p.iterations + 1) _ afterWork
    simp only [along, Bool.and_eq_true, Bool.or_eq_true]
    refine ⟨inv_good s holds, inv_good _ afterMet,
      .inr ⟨inv_good _ afterPoll, .inr ⟨inv_good _ afterWork, ?_⟩⟩⟩
    -- only a pass whose work succeeded pauses and goes on
    split
    · rfl
    · simp only [Bool.and_eq_true, Bool.or_eq_true]
      exact ⟨inv_good _ afterPause,
        .inr (along_of_invariant pc inv good inv_good met poll work pause fuel _ _ afterPause)⟩

/-- A loop whose two checks of the flag answer `false` at good worlds does not stop as cancelled
along a run that stays among good worlds. -/
theorem loop_uncancelled (pc : Pacing σ α) (good : σ → Bool)
    (poll : ∀ s, good s → (pc.poll s).1 = false)
    (pause : ∀ k s, good s → (pc.pause k s).1 = false) :
    ∀ fuel p s, pc.along good fuel p s →
      ∀ o s', pc.loop fuel p s = some (o, s') → o.stop ≠ .cancelled
  | 0, _, _, _, _, _, stopped => by cases stopped
  | fuel + 1, p, s, stays, o, s', stopped => by
    simp only [along, Bool.and_eq_true, Bool.or_eq_true] at stays
    obtain ⟨-, goodMet, stays⟩ := stays
    rcases metAt : pc.met s with ⟨_ | _, s₁⟩
    case true =>
      simp only [loop, metAt, Option.some.injEq, Prod.mk.injEq] at stopped
      rw [← stopped.1]
      simp [Progress.finish]
    simp only [metAt, Bool.false_eq_true, false_or] at goodMet stays
    -- the flag is clear where the loop looks at it, so looking does not stop the loop
    have quietPoll := poll s₁ goodMet
    obtain ⟨goodPoll, stays⟩ := stays
    rcases pollAt : pc.poll s₁ with ⟨_ | _, s₂⟩
    case true => simp [pollAt] at quietPoll
    simp only [pollAt, Bool.false_eq_true, false_or] at goodPoll stays
    obtain ⟨goodWork, stays⟩ := stays
    rcases workAt : pc.work (p.iterations + 1) s₂ with ⟨_ | v, s₃⟩
    case error e =>
      simp only [loop, metAt, pollAt, workAt, Option.some.injEq, Prod.mk.injEq] at stopped
      rw [← stopped.1]
      simp [Progress.finish]
    simp only [workAt, Bool.and_eq_true, Bool.or_eq_true] at goodWork stays
    have quietPause := pause (p.iterations + 1) s₃ goodWork
    obtain ⟨goodPause, stays⟩ := stays
    rcases pauseAt : pc.pause (p.iterations + 1) s₃ with ⟨_ | _, s₄⟩
    case true => simp [pauseAt] at quietPause
    simp only [pauseAt, Bool.false_eq_true, false_or] at stays
    simp only [loop, metAt, pollAt, workAt, pauseAt] at stopped
    exact loop_uncancelled pc good poll pause fuel (p.record v) s₄ stays o s' stopped

/-! ### Assertions at the check points of a loop -/

/-- **The loop rule.** Give an assertion for each of the four points of a pass where the loop
may go on: before asking the terminator, after it, after looking at the flag, after the work.
If each check point leads from its assertion to the next one when the loop goes on, and to
`final` with the stop when the loop stops there, then every stop of the loop satisfies `final`.
-/
theorem loop_rule (pc : Pacing σ α) (start afterMet afterPoll afterWork : σ → Prop)
    (final : Stop → σ → Prop)
    (met : ∀ s, start s → ∀ b s', pc.met s = (b, s') →
      if b then final .terminated s' else afterMet s')
    (poll : ∀ s, afterMet s → ∀ b s', pc.poll s = (b, s') →
      if b then final .cancelled s' else afterPoll s')
    (work : ∀ k s, afterPoll s → ∀ r s', pc.work k s = (r, s') →
      match r with
      | .ok _ => afterWork s'
      | .error e => final (.failed e) s')
    (pause : ∀ k s, afterWork s → ∀ b s', pc.pause k s = (b, s') →
      if b then final .cancelled s' else start s') :
    ∀ fuel p s, start s → ∀ o s', pc.loop fuel p s = some (o, s') → final o.stop s'
  | 0, _, _, _, _, _, stopped => by cases stopped
  | fuel + 1, p, s, holds, o, s', stopped => by
    rcases metAt : pc.met s with ⟨_ | _, s₁⟩
    case true =>
      have ended := met s holds true s₁ metAt
      simp only [loop, metAt, Option.some.injEq, Prod.mk.injEq] at stopped
      rw [← stopped.1, ← stopped.2]
      exact ended
    have holds₁ := met s holds false s₁ metAt
    rcases pollAt : pc.poll s₁ with ⟨_ | _, s₂⟩
    case true =>
      have ended := poll s₁ holds₁ true s₂ pollAt
      simp only [loop, metAt, pollAt, Option.some.injEq, Prod.mk.injEq] at stopped
      rw [← stopped.1, ← stopped.2]
      exact ended
    have holds₂ := poll s₁ holds₁ false s₂ pollAt
    rcases workAt : pc.work (p.iterations + 1) s₂ with ⟨_ | v, s₃⟩
    case error e =>
      have ended := work (p.iterations + 1) s₂ holds₂ (.error e) s₃ workAt
      simp only [loop, metAt, pollAt, workAt, Option.some.injEq, Prod.mk.injEq] at stopped
      rw [← stopped.1, ← stopped.2]
      exact ended
    have holds₃ := work (p.iterations + 1) s₂ holds₂ (.ok v) s₃ workAt
    rcases pauseAt : pc.pause (p.iterations + 1) s₃ with ⟨_ | _, s₄⟩
    case true =>
      have ended := pause (p.iterations + 1) s₃ holds₃ true s₄ pauseAt
      simp only [loop, metAt, pollAt, workAt, pauseAt, Option.some.injEq, Prod.mk.injEq] at stopped
      rw [← stopped.1, ← stopped.2]
      exact ended
    have holds₄ := pause (p.iterations + 1) s₃ holds₃ false s₄ pauseAt
    simp only [loop, metAt, pollAt, workAt, pauseAt] at stopped
    exact loop_rule pc start afterMet afterPoll afterWork final met poll work pause fuel
      (p.record v) s₄ holds₄ o s' stopped

end Cadence.Pacing
