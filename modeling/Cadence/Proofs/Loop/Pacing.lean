import Cadence.Loop.Strategy

/-!
# Cadence.Proofs.Loop.Pacing

One loop for all three strategies.

Every strategy runs the same pass: ask the terminator, look at the flag, run the unit of work,
then pause. The strategies differ only in the two checks around the work. `busy` observes the
flag before working and does not pause; `throttled` does not look before working, and its pause
is a wait whose cancellation ends the loop; `reinterrupt` observes the flag, and its pause is a
wait that raises the flag again when it is cancelled, so that the next observation sees it.

## Main results

* `Iteration.drive_eq_loop`: each strategy's loop is `Pacing.loop` of its pacing.
* `Pacing.loop_sim`: two pacings whose check points answer alike from related worlds run in
  lock step, and stop the same way in related worlds.

## Proof strategy

The bridges unfold one pass of a strategy against one pass of `Pacing.loop`, by induction on
the fuel. The simulation is an induction on the fuel that carries the relation through the four
check points of each pass.
-/

namespace Cadence

/-- The check points of one pass of a loop, in the order they are met. -/
structure Pacing (σ α : Type) where
  /-- Ask the terminator: `true` ends the loop as terminated. -/
  met : σ → Bool × σ
  /-- Look at the flag before working: `true` ends the loop as cancelled. -/
  poll : σ → Bool × σ
  /-- Run the unit of work for the `k`-th time. -/
  work : Nat → σ → Except Fault α × σ
  /-- Pause after the `k`-th successful iteration: `true` ends the loop as cancelled. -/
  pause : Nat → σ → Bool × σ

namespace Pacing

variable {σ τ α : Type}

/-- The loop of a pacing from progress `p`, within `fuel` passes. -/
def loop (pc : Pacing σ α) : Nat → Progress α → σ → Option (Outcome α × σ)
  | 0, _, _ => none
  | fuel + 1, p, s =>
    match pc.met s with
    | (true, s) => some (p.finish .terminated, s)
    | (false, s) =>
      match pc.poll s with
      | (true, s) => some (p.finish .cancelled, s)
      | (false, s) =>
        match pc.work (p.iterations + 1) s with
        | (.error e, s) => some (p.finish (.failed e), s)
        | (.ok v, s) =>
          match pc.pause (p.iterations + 1) s with
          | (true, s) => some ((p.record v).finish .cancelled, s)
          | (false, s) => loop pc fuel (p.record v) s

/-! ### Lock-step simulation -/

section Simulation

variable {β : Type} {R : σ → τ → Prop}

/-- Two answers that agree, with related worlds, are the same answer paired with each world. -/
theorem agree_cases {x : β × σ} {y : β × τ} (h : x.1 = y.1 ∧ R x.2 y.2) :
    ∃ b s t, x = (b, s) ∧ y = (b, t) ∧ R s t :=
  ⟨x.1, x.2, y.2, rfl, by rw [h.1], h.2⟩

/-- **Lock-step simulation.** If from related worlds the two pacings answer every check point
alike and lead to related worlds, their loops from related worlds both run out of fuel, or both
stop with the same outcome in related worlds. -/
theorem loop_sim (A : Pacing σ α) (B : Pacing τ α) (R : σ → τ → Prop)
    (met : ∀ s t, R s t → (A.met s).1 = (B.met t).1 ∧ R (A.met s).2 (B.met t).2)
    (poll : ∀ s t, R s t → (A.poll s).1 = (B.poll t).1 ∧ R (A.poll s).2 (B.poll t).2)
    (work : ∀ k s t, R s t → (A.work k s).1 = (B.work k t).1 ∧ R (A.work k s).2 (B.work k t).2)
    (pause : ∀ k s t, R s t →
      (A.pause k s).1 = (B.pause k t).1 ∧ R (A.pause k s).2 (B.pause k t).2) :
    ∀ fuel p s t, R s t →
      Option.Rel (fun a b => a.1 = b.1 ∧ R a.2 b.2) (A.loop fuel p s) (B.loop fuel p t)
  | 0, _, _, _, _ => .none
  | fuel + 1, p, s, t, related => by
    obtain ⟨answer, s₁, t₁, metA, metB, related⟩ := agree_cases (met s t related)
    cases answer with
    | true => simpa only [loop, metA, metB] using .some ⟨rfl, related⟩
    | false =>
    obtain ⟨answer, s₂, t₂, pollA, pollB, related⟩ := agree_cases (poll s₁ t₁ related)
    cases answer with
    | true => simpa only [loop, metA, metB, pollA, pollB] using .some ⟨rfl, related⟩
    | false =>
    obtain ⟨result, s₃, t₃, workA, workB, related⟩ :=
      agree_cases (work (p.iterations + 1) s₂ t₂ related)
    cases result with
    | error e =>
      simpa only [loop, metA, metB, pollA, pollB, workA, workB] using .some ⟨rfl, related⟩
    | ok v =>
    obtain ⟨answer, s₄, t₄, pauseA, pauseB, related⟩ :=
      agree_cases (pause (p.iterations + 1) s₃ t₃ related)
    cases answer with
    | true =>
      simpa only [loop, metA, metB, pollA, pollB, workA, workB, pauseA, pauseB] using
        .some ⟨rfl, related⟩
    | false =>
      simpa only [loop, metA, metB, pollA, pollB, workA, workB, pauseA, pauseB] using
        loop_sim A B R met poll work pause fuel (p.record v) s₄ t₄ related

/-- Related optional results stay related through maps that keep the relation. -/
theorem rel_map {β γ δ ε : Type} {r : β → γ → Prop} {r' : δ → ε → Prop} {f : β → δ}
    {g : γ → ε} (keep : ∀ a b, r a b → r' (f a) (g b)) :
    ∀ {x y}, Option.Rel r x y → Option.Rel r' (x.map f) (y.map g)
  | _, _, .none => .none
  | _, _, .some related => .some (keep _ _ related)

/-- Related optional results are related by every weaker relation. -/
theorem rel_mono {β γ : Type} {r r' : β → γ → Prop} (weaker : ∀ a b, r a b → r' a b) :
    ∀ {x y}, Option.Rel r x y → Option.Rel r' x y
  | _, _, .none => .none
  | _, _, .some related => .some (weaker _ _ related)

end Simulation

/-! ### The pacings of the three strategies -/

/-- `busy`: observe the flag before working, never pause. -/
def busy (host : Host σ α) : Pacing σ α where
  met := host.met
  poll := host.observe
  work k s := host.work (host.note (.iteration .busy k) s)
  pause _ s := (false, s)

/-- `throttled`: work without looking at the flag, then wait; a cancelled wait ends the loop. -/
def throttled (host : Host σ α) (d : Duration) : Pacing σ α where
  met := host.met
  poll s := (false, s)
  work k s := host.work (host.note (.iteration (.throttled d) k) s)
  pause k s :=
    match host.suspend d s with
    | (true, s) => (true, host.note (.waitCancelled k) s)
    | (false, s) => (false, s)

/-- `reinterrupt`: observe the flag before working, then wait; a cancelled wait raises the flag
again and the loop goes on. -/
def reinterrupt (host : Host σ α) (d : Duration) : Pacing σ α where
  met := host.met
  poll := host.observe
  work k s := host.work (host.note (.iteration (.reinterrupt d) k) s)
  pause _ s :=
    match host.suspend d s with
    | (true, s) => (false, host.rearm (host.note .rearming s))
    | (false, s) => (false, s)

end Pacing

/-- The pacing of a strategy against a host. -/
def Iteration.pacing {σ α : Type} (host : Host σ α) : Iteration → Pacing σ α
  | .busy => .busy host
  | .throttled d => .throttled host d
  | .reinterrupt d => .reinterrupt host d

namespace Iteration

variable {σ α : Type}

@[simp] theorem pacing_met (host : Host σ α) (it : Iteration) :
    (it.pacing host).met = host.met := by
  cases it <;> rfl

@[simp] theorem pacing_work (host : Host σ α) (it : Iteration) (k : Nat) (s : σ) :
    (it.pacing host).work k s = host.work (host.note (.iteration it k) s) := by
  cases it <;> rfl

end Iteration

/-! ### Each strategy is the loop of its pacing -/

namespace Strategy

variable {σ α : Type}

theorem busy_eq_loop (host : Host σ α) :
    ∀ fuel p s, busy host fuel p s = (Pacing.busy host).loop fuel p s
  | 0, _, _ => rfl
  | fuel + 1, p, s => by
    simp only [busy, Pacing.loop, Pacing.busy]
    rcases host.met s with ⟨_ | _, s₁⟩ <;> simp only
    rcases host.observe s₁ with ⟨_ | _, s₂⟩ <;> simp only
    rcases host.work (host.note (.iteration .busy (p.iterations + 1)) s₂) with ⟨e | v, s₃⟩ <;>
      simp only
    exact busy_eq_loop host fuel (p.record v) s₃

theorem throttled_eq_loop (host : Host σ α) (d : Duration) :
    ∀ fuel p s, throttled host d fuel p s = (Pacing.throttled host d).loop fuel p s
  | 0, _, _ => rfl
  | fuel + 1, p, s => by
    simp only [throttled, Pacing.loop, Pacing.throttled]
    rcases host.met s with ⟨_ | _, s₁⟩ <;> simp only
    rcases host.work (host.note (.iteration (.throttled d) (p.iterations + 1)) s₁)
      with ⟨e | v, s₂⟩ <;> simp only
    rcases host.suspend d s₂ with ⟨_ | _, s₃⟩ <;> simp only
    exact throttled_eq_loop host d fuel (p.record v) s₃

theorem reinterrupt_eq_loop (host : Host σ α) (d : Duration) :
    ∀ fuel p s, reinterrupt host d fuel p s = (Pacing.reinterrupt host d).loop fuel p s
  | 0, _, _ => rfl
  | fuel + 1, p, s => by
    simp only [reinterrupt, Pacing.loop, Pacing.reinterrupt]
    rcases host.met s with ⟨_ | _, s₁⟩ <;> simp only
    rcases host.observe s₁ with ⟨_ | _, s₂⟩ <;> simp only
    rcases host.work (host.note (.iteration (.reinterrupt d) (p.iterations + 1)) s₂)
      with ⟨e | v, s₃⟩ <;> simp only
    rcases host.suspend d s₃ with ⟨_ | _, s₄⟩ <;> simp only
    · exact reinterrupt_eq_loop host d fuel (p.record v) s₄
    · exact reinterrupt_eq_loop host d fuel (p.record v) (host.rearm (host.note .rearming s₄))

end Strategy

/-- A strategy's run from the start is the loop of its pacing. -/
theorem Iteration.drive_eq_loop {σ α : Type} [Inhabited α] (it : Iteration) (host : Host σ α)
    (fuel : Nat) (s : σ) : it.drive host fuel s = (it.pacing host).loop fuel .start s := by
  cases it with
  | busy => exact Strategy.busy_eq_loop host fuel .start s
  | throttled d => exact Strategy.throttled_eq_loop host d fuel .start s
  | reinterrupt d => exact Strategy.reinterrupt_eq_loop host d fuel .start s

end Cadence
