import Cadence.Proofs.Loop.Handle
import Cadence.Proofs.Loop.Trace
import Cadence.Proofs.Scenario.Frame

/-!
# Cadence.Proofs.Agreement

When two strategies run a handle alike.

Against a scripted scene, the strategies differ only in how they treat the run's flag and in the
time they wait. So runs of one handle under two strategies are compared apart from the clock:
two scenes are alike when they agree in everything but the clock, and two traces are alike when
they agree, the clock apart, on every check point that is not about the flag.

## Main result

`reinterrupt_runs_as_busy`: a `reinterrupt` loop runs exactly as a `busy` loop, apart from its
waits. A cancelled wait followed by raising the flag again gives back the scene it started from,
and a wait that is not cancelled moves only the clock; so as long as nothing else reads the
clock (every deadline of the terminator has passed when the run starts, the hook does not look
at the time), the two runs give the same answer, meet the same check points in the same order,
and end in scenes that differ at most in the clock.

`reinterrupt_differs_from_busy_before_deadline`: the condition on the deadlines is needed. A
deadline that has not passed sees the time `reinterrupt` waits, and `busy` never waits.

## Proof strategy

Lock-step simulation (`Pacing.loop_sim`) of the two traced loops, with the relation "alike apart
from the clock, both clocks at or past the run's start, and alike traces once the waits are left
out" (`AlikeFrom`). The clock only moves forward, so a deadline passed at the start stays passed,
and every check point other than the pause is blind to the clock on such scenes; the pause of
`reinterrupt` keeps a traced scene alike to itself. The plain
runs are the traced runs without their traces, settled in the same way.
-/

namespace Cadence.Scenario

variable {α : Type}

/-! ### Traces apart from the clock -/

/-- The check points of a trace other than those `drop` selects, each with the scene after it
apart from the clock. -/
def view (drop : Check α → Bool) (tr : List (Check α × Scene α)) : List (Check α × Scene α) :=
  (tr.filter fun c => !drop c.1).map fun c => (c.1, c.2.untimed)

section View

variable {drop : Check α → Bool}

theorem view_kept {c : Check α} (kept : drop c = false) (tr : List (Check α × Scene α))
    (s : Scene α) : view drop (tr ++ [(c, s)]) = view drop tr ++ [(c, s.untimed)] := by
  simp [view, kept]

theorem view_dropped {c : Check α} (dropped : drop c = true) (tr : List (Check α × Scene α))
    (s : Scene α) : view drop (tr ++ [(c, s)]) = view drop tr := by
  simp [view, dropped]

end View

/-- Two traced scenes alike: the scenes agree apart from the clock, and so do their traces once
the check points that `drop` selects are left out. -/
def Alike (drop : Check α → Bool) (x y : Scene α × List (Check α × Scene α)) : Prop :=
  x.1.untimed = y.1.untimed ∧ view drop x.2 = view drop y.2

/-- Two traced scenes alike from `start`: the scenes alike apart from the clock with both clocks
at or past `start`, and their traces alike once the check points that `drop` selects are left
out. -/
def AlikeFrom (drop : Check α → Bool) (start : Nat) (x y : Scene α × List (Check α × Scene α)) :
    Prop :=
  Scene.AlikeFrom start x.1 y.1 ∧ view drop x.2 = view drop y.2

namespace AlikeFrom

variable {drop : Check α → Bool} {start : Nat} {x y z : Scene α × List (Check α × Scene α)}

theorem alike (alike : AlikeFrom drop start x y) : Alike drop x y := ⟨alike.1.1, alike.2⟩

theorem trans (first : AlikeFrom drop start x y) (second : AlikeFrom drop start y z) :
    AlikeFrom drop start x z :=
  ⟨first.1.trans second.1, first.2.trans second.2⟩

/-- A check point blind to the clock from `start`, kept in the trace, keeps two traced scenes
alike from `start`. -/
theorem keep {β : Type} {op : Scene α → β × Scene α} (blind : Scene.BlindFrom start op)
    {check : β → Check α} (kept : ∀ b, drop (check b) = false) (alike : AlikeFrom drop start x y) :
    (Check.keep check (op x.1) x.2).1 = (Check.keep check (op y.1) y.2).1 ∧
      AlikeFrom drop start (Check.keep check (op x.1) x.2).2 (Check.keep check (op y.1) y.2).2 := by
  obtain ⟨same, after⟩ := blind x.1 y.1 alike.1
  refine ⟨same, after, ?_⟩
  simp only [Check.keep, view_kept (kept _), alike.2, same, after.1]

end AlikeFrom

/-! ### The settlement does not read the clock -/

/-- Settling one outcome on two scenes alike but for the clock gives the same answer and scenes
alike but for the clock, when the hook does not read the clock. -/
theorem settle_alike (h : Handle Probe (Scene α) α)
    (hookFree : ∀ v, Scene.ClockFree (h.hook.fire v)) (o : Outcome α) {s t : Scene α}
    (alike : s.untimed = t.untimed) :
    (h.settle (fun _ s => s) o s).1 = (h.settle (fun _ s => s) o t).1 ∧
      (h.settle (fun _ s => s) o s).2.untimed = (h.settle (fun _ s => s) o t).2.untimed := by
  have fired : (h.hook.fire o.last s).untimed = (h.hook.fire o.last t).untimed := by
    rw [← hookFree o.last s, ← hookFree o.last t, alike]
  rcases failed : o.stop with _ | _ | e
  case failed =>
    cases policy : h.policy with
    | propagate => simp only [h.settle_propagated _ failed policy, alike, and_self]
    | contain => simp only [h.settle_contained _ failed policy, fired, and_self]
  all_goals
    have unfailed : ∀ e, o.stop ≠ .failed e := by rw [failed]; intro e stop; cases stop
    simp only [h.settle_unfailed _ unfailed, fired, and_self]

/-- Runs of one handle under two strategies whose loops run alike apart from the clock give the
same answer, and end in scenes alike apart from the clock, when the hook does not read the
clock. -/
theorem runs_alike_of_loops [Inhabited α] (h : Handle Probe (Scene α) α)
    (hookFree : ∀ v, Scene.ClockFree (h.hook.fire v)) {it it' : Iteration} {fuel : Nat}
    {s : Scene α}
    (loops : Option.Rel (fun a b => a.1 = b.1 ∧ a.2.untimed = b.2.untimed)
      ((it.pacing (h.host Scene.ask Scene.now Scene.runFlag fun _ s => s)).loop fuel .start s)
      ((it'.pacing (h.host Scene.ask Scene.now Scene.runFlag fun _ s => s)).loop fuel .start s)) :
    Option.Rel (fun a b => a.1 = b.1 ∧ a.2.untimed = b.2.untimed)
      ({ h with iteration := it }.run Scene.ask Scene.now Scene.runFlag (fun _ s => s) fuel s)
      ({ h with iteration := it' }.run Scene.ask Scene.now Scene.runFlag (fun _ s => s) fuel
        s) := by
  simp only [Handle.run_eq_loop, Handle.host_withIteration, Handle.settle_withIteration]
  refine Pacing.rel_map (fun a b related => ?_) loops
  obtain ⟨same, alike⟩ := related
  rw [← same]
  exact settle_alike h hookFree a.1 alike

/-! ### `reinterrupt` runs as `busy` -/

section Reinterrupt

variable (h : Handle Probe (Scene α) α) (steps : List (Step α))

/-- The pause of `reinterrupt` answers that the loop goes on, and leaves a traced scene alike to
itself once waits are left out, with its clock moved forward if at all: a wait that is not
cancelled moves only the clock, and a cancelled one is undone by raising the flag again. -/
theorem reinterrupt_pause_alike (d : Duration) (k start : Nat)
    (x : Scene α × List (Check α × Scene α)) (past : start ≤ x.1.clock) :
    ((Pacing.reinterrupt (h.host Scene.ask Scene.now Scene.runFlag fun _ s => s).traced d).pause
        k x).1 = false ∧
      AlikeFrom Check.isWait start
        ((Pacing.reinterrupt (h.host Scene.ask Scene.now Scene.runFlag fun _ s => s).traced
          d).pause k x).2 x := by
  have later := Scene.clock_le_suspend d x.1
  rcases waited : Scene.runFlag.suspend d x.1 with ⟨_ | _, s'⟩
  · have moved := Scene.suspend_untimed_of_not_cancelled (by rw [waited])
    rw [waited] at moved later
    simp only [Pacing.reinterrupt, Host.traced, Handle.host, Check.keep, waited]
    exact ⟨trivial, ⟨moved, Nat.le_trans past later, past⟩, view_dropped rfl _ _⟩
  · have undone := Scene.rearm_suspend_of_cancelled (by rw [waited])
    rw [waited] at undone
    simp only [Pacing.reinterrupt, Host.traced, Handle.host, Check.keep, waited]
    refine ⟨trivial, ⟨by rw [undone], by rw [undone]; exact past, past⟩, ?_⟩
    rw [view_dropped rfl, view_dropped rfl]

/-- The traced `reinterrupt` and `busy` loops of a scripted scene, from traced scenes alike from
`start` once waits are left out, run in lock step and stay alike from `start`, when every
deadline of the terminator has passed by `start`. -/
theorem reinterrupt_traced_sim (scripted : h.work = Scene.work steps) {start : Nat}
    (passed : h.terminator.passedBy start = true) (d : Duration) (fuel : Nat) (p : Progress α)
    (x y : Scene α × List (Check α × Scene α)) (alike : AlikeFrom Check.isWait start x y) :
    Option.Rel (fun a b => a.1 = b.1 ∧ AlikeFrom Check.isWait start a.2 b.2)
      ((Pacing.reinterrupt (h.host Scene.ask Scene.now Scene.runFlag fun _ s => s).traced d).loop
        fuel p x)
      ((Pacing.busy (h.host Scene.ask Scene.now Scene.runFlag fun _ s => s).traced).loop
        fuel p y) := by
  refine Pacing.loop_sim _ _ _ ?met ?poll ?work ?pause fuel p x y alike
  case met =>
    intro x y alike
    exact AlikeFrom.keep (met_blindFrom passed) (fun _ => rfl) alike
  case poll =>
    intro x y alike
    exact AlikeFrom.keep (Scene.observe_timeless.blindFrom Scene.observe_clock start)
      (fun _ => rfl) alike
  case work =>
    intro k x y alike
    have blindWork : Scene.BlindFrom start h.work := scripted ▸ Scene.work_blindFrom steps start
    exact AlikeFrom.keep blindWork (fun _ => rfl) alike
  case pause =>
    -- `busy` does not pause; the pause of `reinterrupt` keeps its own side alike
    intro k x y alike
    obtain ⟨goesOn, kept⟩ := reinterrupt_pause_alike h d k start x alike.1.2.1
    exact ⟨goesOn, kept.trans alike⟩

/-- So do the plain loops: they are the traced loops with their traces left out. -/
theorem reinterrupt_loop_as_busy (scripted : h.work = Scene.work steps) (d : Duration)
    (fuel : Nat) (p : Progress α) (s : Scene α) (passed : h.terminator.passedBy s.clock = true) :
    Option.Rel (fun a b => a.1 = b.1 ∧ a.2.untimed = b.2.untimed)
      (((Iteration.reinterrupt d).pacing (h.host Scene.ask Scene.now Scene.runFlag
        fun _ s => s)).loop fuel p s)
      ((Iteration.busy.pacing (h.host Scene.ask Scene.now Scene.runFlag fun _ s => s)).loop
        fuel p s) := by
  rw [← Iteration.loop_traced (.reinterrupt d) _ fuel p s [],
    ← Iteration.loop_traced .busy _ fuel p s []]
  refine Pacing.rel_map (fun a b related => ⟨related.1, related.2.1.1⟩)
    (reinterrupt_traced_sim h steps scripted passed d fuel p (s, []) (s, []) ?_)
  exact ⟨⟨rfl, Nat.le_refl _, Nat.le_refl _⟩, rfl⟩

theorem reinterrupt_runs_as_busy [Inhabited α] (scripted : h.work = Scene.work steps)
    (hookFree : ∀ v, Scene.ClockFree (h.hook.fire v)) (d : Duration) (fuel : Nat) (s : Scene α)
    (passed : h.terminator.passedBy s.clock = true) :
    Option.Rel (fun a b => a.1 = b.1 ∧ a.2.untimed = b.2.untimed)
      ({ h with iteration := .reinterrupt d }.run Scene.ask Scene.now Scene.runFlag
        (fun _ s => s) fuel s)
      ({ h with iteration := .busy }.run Scene.ask Scene.now Scene.runFlag
        (fun _ s => s) fuel s) ∧
    Option.Rel (fun a b => a.1 = b.1 ∧ Alike Check.isWait a.2 b.2)
      ((Iteration.reinterrupt d).drive
        (h.host Scene.ask Scene.now Scene.runFlag fun _ s => s).traced fuel (s, []))
      (Iteration.busy.drive
        (h.host Scene.ask Scene.now Scene.runFlag fun _ s => s).traced fuel (s, [])) := by
  have plain := reinterrupt_loop_as_busy h steps scripted d fuel .start s passed
  have traced := reinterrupt_traced_sim h steps scripted passed d fuel .start (s, []) (s, [])
    ⟨⟨rfl, Nat.le_refl _, Nat.le_refl _⟩, rfl⟩
  refine ⟨runs_alike_of_loops h hookFree plain, ?_⟩
  rw [Iteration.drive_eq_loop, Iteration.drive_eq_loop]
  exact Pacing.rel_mono (fun a b related => ⟨related.1, related.2.alike⟩) traced

/-- A condition behind a deadline that passed before the run, which signals the run's own token
at its second check: both loops are cancelled at the check point after it, with the consumer
fired on the second value. -/
theorem reinterrupt_runs_as_busy_when_probe_cancels :
    let steps : List (Step Nat) := [.ok 1 [], .ok 2 [], .ok 3 []]
    let h : Handle Probe (Scene Nat) Nat :=
      { work := Scene.work steps,
        terminator := .timeoutAnd (.condition ⟨0, [false, false], true, [(2, [.own])]⟩) ⟨0, 100⟩,
        iteration := .busy,
        hook := .consumer fun v s => { s with fired := s.fired ++ [.consumer v] },
        policy := .contain }
    let s : Scene Nat := { tokens := Tokens.ofGroup 1, own := 0, flag := 0, clock := 250 }
    h.work = Scene.work steps ∧ (∀ v, Scene.ClockFree (h.hook.fire v)) ∧
    h.terminator.passedBy s.clock = true ∧
    Option.Rel (fun a b => a.1 = b.1 ∧ a.2.untimed = b.2.untimed)
      ({ h with iteration := .reinterrupt (Duration.ofMillis 10) }.run Scene.ask Scene.now
        Scene.runFlag (fun _ s => s) 6 s)
      ({ h with iteration := .busy }.run Scene.ask Scene.now Scene.runFlag (fun _ s => s) 6 s) ∧
    Option.Rel (fun a b => a.1 = b.1 ∧ Alike Check.isWait a.2 b.2)
      ((Iteration.reinterrupt (Duration.ofMillis 10)).drive
        (h.host Scene.ask Scene.now Scene.runFlag fun _ s => s).traced 6 (s, []))
      (Iteration.busy.drive (h.host Scene.ask Scene.now Scene.runFlag fun _ s => s).traced 6
        (s, [])) :=
  ⟨rfl, fun _ _ => rfl, rfl, reinterrupt_runs_as_busy _ _ rfl (fun _ _ => rfl) _ _ _ rfl⟩

end Reinterrupt

/-- A deadline that has not passed tells the strategies apart. Under a 200 ms deadline, a
`reinterrupt` loop that waits a second after each call finds the deadline passed after its first
call, while a `busy` loop never moves the clock and runs its script to the end. -/
theorem reinterrupt_differs_from_busy_before_deadline :
    let h : Handle Probe (Scene Nat) Nat :=
      { work := Scene.work [.ok 1 [], .ok 2 []], terminator := .timeout ⟨0, 200⟩,
        iteration := .busy, hook := .none, policy := .contain }
    let s : Scene Nat := { tokens := Tokens.ofGroup 1, own := 0, flag := 0 }
    let report := fun r : Except Fault (Report Nat) × Scene Nat =>
      r.1.toOption.map fun rep => (rep.value, rep.iterations, rep.exit)
    ({ h with iteration := .reinterrupt (Duration.ofMillis 1000) }.run Scene.ask Scene.now
        Scene.runFlag (fun _ s => s) 4 s).map report = some (some (1, 1, .terminated)) ∧
      ({ h with iteration := .busy }.run Scene.ask Scene.now Scene.runFlag (fun _ s => s) 4
        s).map report = some (some (2, 2, .failed "script exhausted")) := by
  decide

end Cadence.Scenario
