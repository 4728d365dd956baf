import Cadence.Proofs.Loop.Handle
import Cadence.Proofs.Scenario.Frame

/-!
# Cadence.Proofs.LastGoodValue

A run reports the value of its last good call, never that of a failed one.

## Main result

`run_reports_last_good_value`: run a handle of any strategy, terminator, hook and policy against
a scene whose unit of work is a script, from any state of its tokens. The run stops, and the
calls it made answered the script's entries from the scene's call counter on: values, then at
most one failure. A failure under `propagate` is returned as that call's fault. Otherwise the
report's value is the last value (the default when there is none), its iterations are the
number of values, its ending is `failed` with the fault's text exactly when a call failed, and
the hook fired with the report's value where the loop stopped.

## Proof strategy

Every strategy runs the shared loop of `Pacing`, and against a scene that loop is scripted
(`Iteration.scripted_scene`): only the work moves the call counter. The scripted loop stops,
since the script fails once its steps are used up, and it reports its calls
(`Pacing.Scripted.loop_spec`). The settlement of the stop then gives the answer case by case.
-/

namespace Cadence.Scenario

variable {α : Type}

/-- The ending a loop that stopped with `stop` is reported with, given the fault of its last
call, if that call failed. -/
private theorem toExit_of_reports {stop : Stop} {e? : Option Fault} :
    (∀ e, stop = .failed e ↔ e? = some e) →
      match e? with
      | some e => stop.toExit = .failed e.text
      | none => stop.toExit = .terminated ∨ stop.toExit = .cancelled := by
  intro failedIff
  cases e? with
  | some e =>
    show stop.toExit = .failed e.text
    rw [(failedIff e).mpr rfl]
    rfl
  | none =>
    show stop.toExit = .terminated ∨ stop.toExit = .cancelled
    cases stop with
    | terminated => exact .inl rfl
    | cancelled => exact .inr rfl
    | failed e => cases (failedIff e).mp rfl

theorem run_reports_last_good_value [Inhabited α] (h : Handle Probe (Scene α) α)
    (steps : List (Step α)) (scripted : h.work = Scene.work steps) (fuel : Nat) (s : Scene α)
    (enough : steps.length - s.calls < fuel) :
    ∃ (s₁ : Scene α) (vs : List α) (e? : Option Fault) (exit : Exit),
      Script.answers (Scene.answer steps) s.calls (s₁.calls - s.calls) =
        vs.map .ok ++ e?.toList.map .error ∧
      (match e? with
        | some e => exit = .failed e.text
        | none => exit = .terminated ∨ exit = .cancelled) ∧
      h.run Scene.ask Scene.now Scene.runFlag (fun _ s => s) fuel s =
        some (match e?, h.policy with
          | some e, .propagate => (.error e, s₁)
          | _, _ =>
            (.ok ⟨vs.getLastD default, vs.length, exit⟩,
              h.hook.fire (vs.getLastD default) s₁)) := by
  have scriptedLoop := h.iteration.scripted_scene h steps scripted
  -- the script fails once its steps are used up, so the loop stops
  obtain ⟨o, s₁, stopped⟩ := scriptedLoop.loop_stops
    (fun c (past : steps.length ≤ c) => ⟨_, Scene.answer_past past⟩) fuel .start s enough
  obtain ⟨-, vs, e?, calls, last, count, failedIff⟩ :=
    scriptedLoop.loop_spec fuel .start s o s₁ stopped
  have reported : o = ⟨vs.getLastD default, vs.length, o.stop⟩ := by
    rcases o with ⟨_, _, _⟩
    simp only [Progress.start] at last count
    rw [last, count, Nat.zero_add]
  refine ⟨s₁, vs, e?, o.stop.toExit, calls, toExit_of_reports failedIff, ?_⟩
  rw [Handle.run_eq_loop, stopped, Option.map_some]
  congr 1
  cases e? with
  | some e =>
    have failed := (failedIff e).mpr rfl
    cases policy : h.policy with
    | propagate => exact h.settle_propagated _ failed policy s₁
    | contain =>
      rw [h.settle_contained _ failed policy, failed, reported]
      rfl
  | none =>
    have unfailed : ∀ e, o.stop ≠ .failed e := by
      intro e failed
      cases (failedIff e).mp failed
    rw [h.settle_unfailed _ unfailed, reported]

/-- Two good calls and a failure on a busy loop under `contain`: the report keeps the second
value. -/
theorem run_reports_last_good_value_after_failure :
    let steps : List (Step Nat) := [.ok 10 [], .ok 20 [], .fail (.message "boom") []]
    let h : Handle Probe (Scene Nat) Nat :=
      { work := Scene.work steps, terminator := .never, iteration := .busy, hook := .none,
        policy := .contain }
    let s : Scene Nat := { tokens := Tokens.ofGroup 1, own := 0, flag := 0 }
    h.work = Scene.work steps ∧ steps.length - s.calls < 5 ∧
    ∃ (s₁ : Scene Nat) (vs : List Nat) (e? : Option Fault) (exit : Exit),
      Script.answers (Scene.answer steps) s.calls (s₁.calls - s.calls) =
        vs.map .ok ++ e?.toList.map .error ∧
      (match e? with
        | some e => exit = .failed e.text
        | none => exit = .terminated ∨ exit = .cancelled) ∧
      h.run Scene.ask Scene.now Scene.runFlag (fun _ s => s) 5 s =
        some (match e?, h.policy with
          | some e, .propagate => (.error e, s₁)
          | _, _ =>
            (.ok ⟨vs.getLastD default, vs.length, exit⟩,
              h.hook.fire (vs.getLastD default) s₁)) :=
  ⟨rfl, by decide, run_reports_last_good_value _ _ rfl 5 _ (by decide)⟩

end Cadence.Scenario
