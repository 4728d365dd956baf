import Cadence.Proofs.LastGoodValue
import Cadence.Proofs.Loop.Along
import Cadence.Error

/-!
# Cadence.Proofs.Settlement

How a run ends: the failure policy and the hook.

A run first drives its loop to a stop, and only then settles it. A failed unit of work under the
`propagate` policy is handed back as the failure itself, and the hook does not fire. Every other
stop, a contained failure, a cancellation or a met terminator under either policy, becomes a
report with the loop's last value, its number of successful iterations and its ending, and the
hook fires once, on the world the loop stopped in: an effect without a value, a consumer with
the report's value.

## Main result

`run_settles_by_policy`: against a scene whose unit of work is a script, from any state of its
tokens and for every strategy, terminator, hook and policy, the loop stops in a world where no
hook has fired yet, a failed stop carries the fault of the loop's last call, and the run's
answer and world are as above.

## Proof strategy

Against a scene the loop of every strategy is scripted, so it stops and its calls answer values
and then at most one failure (`Pacing.Scripted.loop_stops`, `Pacing.Scripted.loop_spec`). No
check point of a scene records a hook: the terminator and the flag change only tokens, counters
and the clock, and the work only the tokens and its counter. So the record of fired hooks is an
invariant of the loop (`Pacing.loop_keeps`), and only the settlement adds to it.
-/

namespace Cadence

/-- A property that every check point keeps holds where the loop stops. -/
theorem Pacing.loop_keeps {σ α : Type} (pc : Pacing σ α) (inv : σ → Prop)
    (met : ∀ s, inv s → inv (pc.met s).2) (poll : ∀ s, inv s → inv (pc.poll s).2)
    (work : ∀ k s, inv s → inv (pc.work k s).2) (pause : ∀ k s, inv s → inv (pc.pause k s).2) :
    ∀ fuel p s, inv s → ∀ o s', pc.loop fuel p s = some (o, s') → inv s' := by
  -- the loop rule with the same assertion at every point of a pass
  refine pc.loop_rule inv inv inv inv (fun _ => inv) ?_ ?_ ?_ ?_
  · intro s holds b s' metAt
    have kept := met s holds
    rw [metAt] at kept
    cases b <;> exact kept
  · intro s holds b s' pollAt
    have kept := poll s holds
    rw [pollAt] at kept
    cases b <;> exact kept
  · intro k s holds r s' workAt
    have kept := work k s holds
    rw [workAt] at kept
    cases r <;> exact kept
  · intro k s holds b s' pauseAt
    have kept := pause k s holds
    rw [pauseAt] at kept
    cases b <;> exact kept

/-- A property that every operation of a host keeps, the notes included, holds where the loop of
every strategy stops. -/
theorem Iteration.loop_keeps {σ α : Type} (it : Iteration) (host : Host σ α) (inv : σ → Prop)
    (met : ∀ s, inv s → inv (host.met s).2) (observe : ∀ s, inv s → inv (host.observe s).2)
    (work : ∀ s, inv s → inv (host.work s).2) (suspend : ∀ d s, inv s → inv (host.suspend d s).2)
    (rearm : ∀ s, inv s → inv (host.rearm s)) (note : ∀ n s, inv s → inv (host.note n s)) :
    ∀ fuel p s, inv s → ∀ o s', (it.pacing host).loop fuel p s = some (o, s') → inv s' := by
  refine Pacing.loop_keeps _ inv (fun s kept => ?_) (fun s kept => ?_) (fun k s kept => ?_)
    (fun k s kept => ?_)
  · rw [Iteration.pacing_met]
    exact met s kept
  · cases it with
    | busy => exact observe s kept
    | throttled d => exact kept
    | reinterrupt d => exact observe s kept
  · rw [Iteration.pacing_work]
    exact work _ (note _ s kept)
  · -- a pause is a wait, maybe followed by a note and a raise of the flag
    cases it with
    | busy => exact kept
    | throttled d =>
      have waited := suspend d s kept
      rcases suspended : host.suspend d s with ⟨_ | _, s'⟩ <;>
        rw [suspended] at waited <;> simp only [Iteration.pacing, Pacing.throttled, suspended]
      · exact waited
      · exact note _ _ waited
    | reinterrupt d =>
      have waited := suspend d s kept
      rcases suspended : host.suspend d s with ⟨_ | _, s'⟩ <;>
        rw [suspended] at waited <;> simp only [Iteration.pacing, Pacing.reinterrupt, suspended]
      · exact waited
      · exact rearm _ (note _ _ waited)

namespace Scenario

variable {α : Type}

/-! ### No check point fires a hook -/

namespace Scene

@[simp] theorem perform_fired (s : Scene α) (act : Action) : (s.perform act).fired = s.fired := by
  rw [perform_eq]

theorem foldl_perform_eq (s : Scene α) (acts : List (Nat × Action)) :
    acts.foldl (fun s a => s.perform a.2) s =
      { s with tokens := (acts.foldl (fun s a => s.perform a.2) s).tokens } := by
  induction acts generalizing s with
  | nil => rfl
  | cons a acts ih => rw [List.foldl_cons, ih, perform_eq s a.2]

/-- A check of a probe changes only the tokens and the probes' counters. -/
theorem ask_eq (p : Probe) (s : Scene α) :
    (ask p s).2 = { s with tokens := (ask p s).2.tokens, counters := (ask p s).2.counters } := by
  simp only [ask]
  rw [foldl_perform_eq]

@[simp] theorem ask_fired (p : Probe) (s : Scene α) : (ask p s).2.fired = s.fired := by
  rw [ask_eq]

@[simp] theorem work_fired (steps : List (Step α)) (s : Scene α) :
    (work steps s).2.fired = s.fired := by
  unfold work
  rcases steps[s.calls]? with _ | ⟨v, act⟩ | ⟨e, act⟩ <;> simp

end Scene

theorem met_scene_fired (t : Terminator Probe) (s : Scene α) :
    (t.met Scene.ask Scene.now (fun _ s => s) s).2.fired = s.fired := by
  induction t generalizing s with
  | never => rfl
  | timeout d => rfl
  | timeoutAnd c d ih =>
    simp only [Terminator.met]
    split
    · exact ih s
    · rfl
  | condition p => exact Scene.ask_fired p s

/-- Against a scene, the loop of every strategy stops with the hooks fired before it, and no
more. -/
theorem loop_keeps_fired (it : Iteration) (h : Handle Probe (Scene α) α)
    (steps : List (Step α)) (scripted : h.work = Scene.work steps) (fuel : Nat) (p : Progress α)
    (s : Scene α) (o : Outcome α) (s' : Scene α)
    (stopped : (it.pacing (h.host Scene.ask Scene.now Scene.runFlag fun _ s => s)).loop fuel p s =
      some (o, s')) :
    s'.fired = s.fired := by
  -- the operations on the flag change only the tokens and the clock
  refine Iteration.loop_keeps it _ (fun x => x.fired = s.fired) ?met ?observe ?work ?suspend
    ?rearm ?note fuel p s rfl o s' stopped
  case met => exact fun x kept => (met_scene_fired h.terminator x).trans kept
  case observe => exact fun x kept => kept
  case work =>
    intro x kept
    simp only [Handle.host, scripted, Scene.work_fired]
    exact kept
  case suspend => exact fun d x kept => kept
  case rearm => exact fun x kept => kept
  case note => exact fun n x kept => kept

/-! ### The answer of a run -/

/-- **Failure policy and hook.** Run a handle of any strategy, terminator, hook and policy against
a scene whose unit of work is a script, from any state of its tokens, with more passes than the
script has steps left. Its loop stops with an outcome `o` in a world `s₁` where no hook has fired
since the run began, and a failed stop carries the fault of the loop's last call. Then:

* a failure under `propagate` is returned as that fault, whose error reads `Unit of work
  failed: ` and the fault's text and has the fault's text as its cause, in the world `s₁`: the
  hook does not fire;
* every other stop is reported with the last value, the number of successful iterations and the
  ending of the stop, in the world where the hook fired once on `s₁`, an effect without a value
  and a consumer with the report's value. -/
theorem run_settles_by_policy [Inhabited α] (h : Handle Probe (Scene α) α)
    (steps : List (Step α)) (scripted : h.work = Scene.work steps) (fuel : Nat) (s : Scene α)
    (enough : steps.length - s.calls < fuel) :
    ∃ (o : Outcome α) (s₁ : Scene α),
      h.iteration.drive (h.host Scene.ask Scene.now Scene.runFlag fun _ s => s) fuel s =
        some (o, s₁) ∧
      s₁.fired = s.fired ∧
      (∀ e, o.stop = .failed e → ∃ vs : List α,
        Script.answers (Scene.answer steps) s.calls (s₁.calls - s.calls) =
          vs.map .ok ++ [.error e]) ∧
      match o.stop, h.policy with
      | .failed e, .propagate =>
        h.run Scene.ask Scene.now Scene.runFlag (fun _ s => s) fuel s = some (.error e, s₁) ∧
        (LoopError.work e).message = "Unit of work failed: " ++ e.text ∧
        (LoopError.work e).cause? = some e.text
      | stop, _ =>
        h.run Scene.ask Scene.now Scene.runFlag (fun _ s => s) fuel s =
          some (.ok ⟨o.last, o.iterations, stop.toExit⟩,
            match h.hook with
            | .none => s₁
            | .effect fire => fire s₁
            | .consumer fire => fire o.last s₁) := by
  have scriptedLoop := h.iteration.scripted_scene h steps scripted
  -- the script fails once its steps are used up, so the loop stops
  obtain ⟨o, s₁, stopped⟩ := scriptedLoop.loop_stops
    (fun c (past : steps.length ≤ c) => ⟨_, Scene.answer_past past⟩) fuel .start s enough
  obtain ⟨-, vs, e?, calls, -, -, failedIff⟩ := scriptedLoop.loop_spec fuel .start s o s₁ stopped
  have ran : h.run Scene.ask Scene.now Scene.runFlag (fun _ s => s) fuel s =
      some (h.settle (fun _ s => s) o s₁) := by
    rw [Handle.run_eq_loop, stopped]
    rfl
  refine ⟨o, s₁, by rw [Iteration.drive_eq_loop]; exact stopped,
    loop_keeps_fired h.iteration h steps scripted fuel .start s o s₁ stopped, ?lastCall, ?settled⟩
  case lastCall =>
    intro e failed
    rw [(failedIff e).mp failed] at calls
    exact ⟨vs, calls⟩
  case settled =>
    rw [ran]
    -- the stop and the policy decide which of the three settlements applies
    cases stop : o.stop with
    | failed e =>
      cases policy : h.policy with
      | propagate => exact ⟨by rw [h.settle_propagated _ stop policy], rfl, rfl⟩
      | contain =>
        rw [h.settle_contained _ stop policy]
        cases h.hook <;> rfl
    | terminated =>
      rw [h.settle_unfailed _ (by rw [stop]; exact Stop.terminated_ne_failed), stop]
      cases h.hook <;> rfl
    | cancelled =>
      rw [h.settle_unfailed _ (by rw [stop]; exact Stop.cancelled_ne_failed), stop]
      cases h.hook <;> rfl

/-- A busy loop under `propagate` whose second call fails, with a consumer hook: the failure is
returned and the consumer is not given a value. -/
theorem run_settles_by_policy_when_propagating :
    let steps : List (Step Nat) := [.ok 10 [], .fail (.message "boom") []]
    let h : Handle Probe (Scene Nat) Nat :=
      { work := Scene.work steps, terminator := .never, iteration := .busy,
        hook := .consumer fun v s => { s with fired := s.fired ++ [.consumer v] },
        policy := .propagate }
    let s : Scene Nat := { tokens := Tokens.ofGroup 1, own := 0, flag := 0 }
    h.work = Scene.work steps ∧ steps.length - s.calls < 4 ∧
    ∃ (o : Outcome Nat) (s₁ : Scene Nat),
      h.iteration.drive (h.host Scene.ask Scene.now Scene.runFlag fun _ s => s) 4 s =
        some (o, s₁) ∧
      s₁.fired = s.fired ∧
      (∀ e, o.stop = .failed e → ∃ vs : List Nat,
        Script.answers (Scene.answer steps) s.calls (s₁.calls - s.calls) =
          vs.map .ok ++ [.error e]) ∧
      match o.stop, h.policy with
      | .failed e, .propagate =>
        h.run Scene.ask Scene.now Scene.runFlag (fun _ s => s) 4 s = some (.error e, s₁) ∧
        (LoopError.work e).message = "Unit of work failed: " ++ e.text ∧
        (LoopError.work e).cause? = some e.text
      | stop, _ =>
        h.run Scene.ask Scene.now Scene.runFlag (fun _ s => s) 4 s =
          some (.ok ⟨o.last, o.iterations, stop.toExit⟩,
            match h.hook with
            | .none => s₁
            | .effect fire => fire s₁
            | .consumer fire => fire o.last s₁) :=
  ⟨rfl, by decide, run_settles_by_policy _ _ rfl 4 _ (by decide)⟩

end Scenario

end Cadence
