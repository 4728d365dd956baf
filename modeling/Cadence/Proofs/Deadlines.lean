import Mathlib.Data.List.Basic
import Cadence.Scenario.Run
import Cadence.App.World
import Cadence.Proofs.Scenario.Frame

/-!
# Cadence.Proofs.Deadlines

A deadline guards everything under it.

A deadline-and-condition node asks its deadline first and its condition only once the deadline
has passed: it is met when both are, and before the deadline it answers `false` without asking
the condition at all. Nodes nest, so the innermost part of a tree sits behind a chain of
deadlines, outermost first. One evaluation of the tree asks that chain in order, stops at the
first deadline that has not passed, and evaluates the innermost part (a condition, or a bare
deadline, or `never`) only when every deadline of the chain has passed. A condition that is
already true therefore never makes a tree met before its deadlines.

In a scripted scene the conditions are probes that count their checks and may perform actions.
There, a tree whose chain has not passed answers `false` every time and leaves the scene exactly
as it was, and a tree whose chain has passed answers, evaluation after evaluation, exactly as
its innermost part does.

## Main results

* `Terminator.met_behind`: one evaluation of a tree takes the notes of the deadlines it asks,
  then evaluates the innermost part if every deadline of the chain has passed, and otherwise
  answers `false`.
* `Scenario.checkRepeatedly_behind`: any number of evaluations in a row in a scene.
* `Terminator.deadlines_guard_conditions`: a single node, the chain at every depth, and the
  scene, together.
-/

namespace Cadence

namespace Terminator

variable {γ σ : Type}

/-- The deadlines in front of the innermost part of a tree, outermost first. -/
def deadlines : Terminator γ → List Deadline
  | .never | .timeout _ | .condition _ => []
  | .timeoutAnd c d => d :: c.deadlines

/-- The innermost part of a tree: what stands below all its deadline-and-condition nodes. -/
def core : Terminator γ → Terminator γ
  | .never => .never
  | .timeout d => .timeout d
  | .timeoutAnd c _ => c.core
  | .condition g => .condition g

@[simp] theorem deadlines_timeoutAnd (c : Terminator γ) (d : Deadline) :
    (timeoutAnd c d).deadlines = d :: c.deadlines := rfl

@[simp] theorem core_timeoutAnd (c : Terminator γ) (d : Deadline) :
    (timeoutAnd c d).core = c.core := rfl

variable (ask : γ → σ → Bool × σ) (now : σ → Nat) (note : Note → σ → σ)

/-- **Deadlines guard the innermost part.** When taking a note does not move the clock, one
evaluation of a tree takes some notes and then, if every deadline of its chain has passed,
evaluates the innermost part; if one has not, it answers `false` and does nothing else. -/
theorem met_behind (keeps : ∀ n s, now (note n s) = now s) :
    ∀ (t : Terminator γ) (s : σ), ∃ notes : List Note,
      t.met ask now note s =
        if t.deadlines.all (·.passed (now s)) then
          t.core.met ask now note (notes.foldl (fun s n => note n s) s)
        else (false, notes.foldl (fun s n => note n s) s)
  | .never, _ => ⟨[], rfl⟩
  | .timeout _, _ => ⟨[], rfl⟩
  | .condition _, _ => ⟨[], rfl⟩
  | .timeoutAnd c d, s => by
    -- the node leaves its note before it asks anything under it
    have same := keeps (.deadlineChecked (d.elapsed (now s))) s
    by_cases passed : d.passed (now s)
    · obtain ⟨notes, inner⟩ := met_behind keeps c (note (.deadlineChecked (d.elapsed (now s))) s)
      refine ⟨.deadlineChecked (d.elapsed (now s)) :: notes, ?_⟩
      rw [same] at inner
      simp only [met, passed, if_true, inner, deadlines_timeoutAnd, core_timeoutAnd,
        List.all_cons, Bool.true_and, List.foldl_cons]
    · refine ⟨[.deadlineChecked (d.elapsed (now s))], ?_⟩
      simp [met, passed]

/-- A tree is met only where every deadline of its chain has passed, whatever its condition
would answer. -/
theorem passed_of_met (keeps : ∀ n s, now (note n s) = now s) {t : Terminator γ} {s : σ}
    (isMet : (t.met ask now note s).1 = true) : t.deadlines.all (·.passed (now s)) = true := by
  obtain ⟨notes, behind⟩ := met_behind ask now note keeps t s
  by_contra blocked
  rw [behind, if_neg blocked] at isMet
  cases isMet

end Terminator

namespace Scenario

variable {α : Type}

/-! ### Terminators in a scripted scene -/

/-- In a scene, where no note is kept, a tree whose chain has passed at the scene's clock is
its innermost part, and one whose chain has not answers `false` and leaves the scene as it was:
no probe is counted and no action is performed. -/
theorem met_scene (t : Terminator Probe) (s : Scene α) :
    t.met Scene.ask Scene.now (fun _ s => s) s =
      if t.deadlines.all (·.passed s.clock) then t.core.met Scene.ask Scene.now (fun _ s => s) s
      else (false, s) := by
  obtain ⟨notes, behind⟩ := Terminator.met_behind Scene.ask Scene.now (fun _ s => s)
    (fun _ _ => rfl) t s
  rwa [List.foldl_fixed] at behind

/-- One more evaluation of `f`, its answer kept after the answers so far. -/
def evaluate {σ : Type} (f : σ → Bool × σ) (x : List Bool × σ) (_ : Nat) : List Bool × σ :=
  (x.1 ++ [(f x.2).1], (f x.2).2)

/-- The evaluations in a row of the terminator operation, one `evaluate` each. -/
theorem checkRepeatedly_eq (t : Terminator Probe) (probes evals : Nat) :
    checkRepeatedly t probes evals =
      (List.range evals).foldl (evaluate (t.met Scene.ask Scene.now fun _ s => s))
        ([], { tokens := Tokens.ofGroup 1, own := 0, flag := 0,
               counters := List.replicate probes 0 }) :=
  rfl

/-- Evaluations in a row of a tree whose chain has not passed answer `false` each time and leave
the scene as it was. -/
theorem foldl_evaluate_blocked (t : Terminator Probe) (s : Scene α)
    (blocked : t.deadlines.all (·.passed s.clock) = false) :
    ∀ (xs : List Nat) (acc : List Bool),
      xs.foldl (evaluate (t.met Scene.ask Scene.now fun _ s => s)) (acc, s) =
        (acc ++ List.replicate xs.length false, s)
  | [], acc => by simp
  | _ :: xs, acc => by
    have quiet : t.met Scene.ask Scene.now (fun _ s => s) s = (false, s) := by
      rw [met_scene, blocked]
      rfl
    rw [List.foldl_cons, evaluate, quiet, foldl_evaluate_blocked t s blocked xs,
      List.length_cons, List.replicate_succ, List.append_assoc, List.singleton_append]

/-- Evaluations in a row of a tree whose chain has passed are those of its innermost part: the
clock does not move between them, so the chain stays passed. -/
theorem foldl_evaluate_open (t : Terminator Probe) :
    ∀ (xs : List Nat) (acc : List Bool) (s : Scene α),
      t.deadlines.all (·.passed s.clock) = true →
      xs.foldl (evaluate (t.met Scene.ask Scene.now fun _ s => s)) (acc, s) =
        xs.foldl (evaluate (t.core.met Scene.ask Scene.now fun _ s => s)) (acc, s)
  | [], _, _, _ => rfl
  | _ :: xs, acc, s, opened => by
    have inner : t.met Scene.ask Scene.now (fun _ s => s) s =
        t.core.met Scene.ask Scene.now (fun _ s => s) s := by
      rw [met_scene, opened]
      rfl
    have still : t.deadlines.all (·.passed (t.core.met Scene.ask Scene.now (fun _ s => s) s).2.clock) =
        true := by
      rwa [met_scene_clock]
    simp only [List.foldl_cons, evaluate, inner]
    exact foldl_evaluate_open t xs _ _ still

/-- **Evaluations in a row.** Evaluating a tree `n` times in a fresh scene, whose clock stays at
zero, answers as its innermost part does and leaves the same scene when every deadline of its
chain has passed at zero; otherwise it answers `false` `n` times and leaves the fresh scene as it
was, with no probe counted and no token signalled. -/
theorem checkRepeatedly_behind (t : Terminator Probe) (probes n : Nat) :
    checkRepeatedly t probes n =
      if t.deadlines.all (·.passed 0) then checkRepeatedly t.core probes n
      else (List.replicate n false,
        { tokens := Tokens.ofGroup 1, own := 0, flag := 0,
          counters := List.replicate probes 0 }) := by
  rw [checkRepeatedly_eq, checkRepeatedly_eq]
  by_cases opened : t.deadlines.all (·.passed 0)
  · rw [if_pos opened]
    exact foldl_evaluate_open t _ _ _ opened
  · rw [if_neg opened, foldl_evaluate_blocked t _ (by simpa using opened), List.length_range]
    rfl

end Scenario

/-- Writing a note to the program's log does not move its clock. -/
theorem App.World.now_note (n : Note) (w : App.World) : (App.World.note n w).now = w.now := by
  simp only [App.World.note, App.World.write]
  split <;> rfl

namespace Terminator

variable {γ σ : Type}

/-- **Deadlines guard conditions at every depth.**

* A deadline-and-condition node, from any world, answers whether its deadline has passed and,
  only then, what its condition answers; its condition is evaluated exactly when the deadline
  has passed, and otherwise the node only takes its note.
* When taking a note does not move the clock, a tree evaluates its innermost part only where
  every deadline of its chain has passed, after nothing but the notes of those deadlines, and
  otherwise answers `false` after nothing but notes; so it is met only where every deadline of
  its chain has passed.
* In a scripted scene, a tree whose chain has not passed answers `false` and leaves the scene
  as it was, and one whose chain has passed (a deadline with a limit of zero always has) is its
  innermost part; over any number of evaluations in a row, it answers as its innermost part
  does, or `false` every time with the scene untouched. -/
theorem deadlines_guard_conditions (ask : γ → σ → Bool × σ) (now : σ → Nat)
    (note : Note → σ → σ) (keeps : ∀ n s, now (note n s) = now s) :
    (∀ (c : Terminator γ) (d : Deadline) (s : σ),
      let s' := note (.deadlineChecked (d.elapsed (now s))) s
      (timeoutAnd c d).met ask now note s =
        if d.passed (now s) then c.met ask now note s' else (false, s')) ∧
    (∀ (t : Terminator γ) (s : σ), ∃ notes : List Note,
      t.met ask now note s =
        if t.deadlines.all (·.passed (now s)) then
          t.core.met ask now note (notes.foldl (fun s n => note n s) s)
        else (false, notes.foldl (fun s n => note n s) s)) ∧
    (∀ (t : Terminator γ) (s : σ),
      (t.met ask now note s).1 = true → t.deadlines.all (·.passed (now s)) = true) ∧
    (∀ {α : Type} (t : Terminator Scenario.Probe) (s : Scenario.Scene α),
      t.met Scenario.Scene.ask Scenario.Scene.now (fun _ s => s) s =
        if t.deadlines.all (·.passed s.clock) then
          t.core.met Scenario.Scene.ask Scenario.Scene.now (fun _ s => s) s
        else (false, s)) ∧
    (∀ (t : Terminator Scenario.Probe) (probes n : Nat),
      Scenario.checkRepeatedly t probes n =
        if t.deadlines.all (·.passed 0) then Scenario.checkRepeatedly t.core probes n
        else (List.replicate n false,
          { tokens := Tokens.ofGroup 1, own := 0, flag := 0,
            counters := List.replicate probes 0 })) :=
  ⟨fun _ _ _ => rfl, met_behind ask now note keeps,
    fun _ _ isMet => passed_of_met ask now note keeps isMet,
    fun t s => Scenario.met_scene t s, Scenario.checkRepeatedly_behind⟩

/-- In the program's world, where every note is written to the log, taking a note does not move
the clock, so a terminator there is met only where every deadline of its chain has passed. -/
theorem deadlines_guard_conditions_in_program :
    (∀ n w, App.World.now (App.World.note n w) = App.World.now w) ∧
    ∀ (t : Terminator Nat) (w : App.World),
      (t.met App.World.reached App.World.now App.World.note w).1 = true →
        t.deadlines.all (·.passed w.now) = true :=
  ⟨App.World.now_note,
    (deadlines_guard_conditions App.World.reached App.World.now App.World.note
      App.World.now_note).2.2.1⟩

end Terminator

end Cadence
