import Cadence.Proofs.Cancellation
import Cadence.Proofs.Settlement
import Cadence.Proofs.LastCallWins
import Cadence.Scenario.Run

/-!
# Cadence.Proofs.RunSequence

A cancellation outlives the runs that do not catch it.

The runs of a scenario follow each other on the group's tokens. A signal raises a token's flag,
and only a look at the flag or a wait on it clears it again, and each only the flag of the run
that looks. So a raised flag stays raised through every run on another flag, and through every
run on it that ends other than cancelled: it is lost only to a run on a token that shares it,
and that run reports the cancellation.

## Main results

* `loop_spares`: the loop of every strategy raises flags and clears at most its own.
* `RunSpec.run_keeps_raised`: after one run a raised flag is still raised, or the run was on it
  and reports a cancellation.
* `runEach_keeps_raised`: after a sequence of runs a raised flag is still raised, or it stayed
  raised up to the first run that was on it and reported a cancellation.

## Proof strategy

Each operation of a scene either only raises flags (`Scene.Raises`) or also clears the run's own
(`Scene.Spares`); both keep every token's flag where it is, and both compose. The loop keeps
`Scene.Spares` from its start (`Iteration.loop_keeps`), so a flag the run's own does not share
stays raised; the run's own flag, raised at the start, is kept by the loop unless it ends
cancelled (`drive_settled`). A hook that only raises flags keeps both. The sequence is an
induction over the runs.
-/

namespace Cadence.Scenario

variable {α : Type}

/-! ### One run -/

section Run

variable (h : Handle Probe (Scene α) α) {steps : List (Step α)}

/-- The loop of every strategy against a scripted scene raises flags and clears at most the
run's own. -/
theorem loop_spares (scripted : h.work = Scene.work steps) (it : Iteration) (fuel : Nat)
    (p : Progress α) (s : Scene α) {o : Outcome α} {s' : Scene α}
    (stopped : (it.pacing (h.host Scene.ask Scene.now Scene.runFlag fun _ s => s)).loop fuel p s =
      some (o, s')) :
    Scene.Spares s s' := by
  refine Iteration.loop_keeps it _ (Scene.Spares s) ?met ?observe ?work ?suspend ?rearm ?note
    fuel p s (.refl s) o s' stopped
  case met => exact fun x kept => kept.trans (raises_met h.terminator x).spares
  case observe => exact fun x kept => kept.trans (Scene.spares_observe x)
  case work =>
    intro x kept
    simp only [Handle.host, scripted]
    exact kept.trans (Scene.raises_work steps x).spares
  case suspend => exact fun d x kept => kept.trans (Scene.spares_suspend d x)
  case rearm => exact fun x kept => kept.trans (Scene.raises_rearm x).spares
  case note => exact fun _ _ kept => kept

/-- A raised flag of the run's own stays raised through the loop, unless the loop ends
cancelled. -/
theorem loop_keeps_own_raised [Inhabited α] (scripted : h.work = Scene.work steps)
    (it : Iteration) (fuel : Nat) (s : Scene α) (raised : s.signalled = true) {o : Outcome α}
    {s' : Scene α}
    (stopped : (it.pacing (h.host Scene.ask Scene.now Scene.runFlag fun _ s => s)).loop fuel
      .start s = some (o, s'))
    (uncancelled : o.stop ≠ .cancelled) : s'.signalled = true := by
  -- the traced loop ends in the same world, and it is settled
  have traced := Iteration.loop_traced it (h.host Scene.ask Scene.now Scene.runFlag
    fun _ s => s) fuel .start s []
  rw [stopped, Option.map_eq_some_iff] at traced
  obtain ⟨⟨o', s'', tr⟩, ran, same⟩ := traced
  simp only [Prod.mk.injEq] at same
  obtain ⟨rfl, rfl⟩ := same
  rw [← Iteration.drive_eq_loop] at ran
  exact ((drive_settled h steps scripted it fuel s ran).raised [] tr rfl raised).2.1 uncancelled

/-- A hook that clears no flag. -/
def HookRaises (hook : Hook (Scene α) α) : Prop :=
  ∀ v s i, s.tokens.isSignalled i = true → (hook.fire v s).tokens.isSignalled i = true

theorem settle_keeps_raised (hookRaises : HookRaises h.hook) (o : Outcome α) {s : Scene α}
    {i : Nat} (raised : s.tokens.isSignalled i = true) :
    (h.settle (fun _ s => s) o s).2.tokens.isSignalled i = true := by
  rcases stopped : o.stop with _ | _ | e
  case terminated =>
    rw [h.settle_unfailed _ (by rw [stopped]; exact Stop.terminated_ne_failed)]
    exact hookRaises _ _ _ raised
  case cancelled =>
    rw [h.settle_unfailed _ (by rw [stopped]; exact Stop.cancelled_ne_failed)]
    exact hookRaises _ _ _ raised
  case failed =>
    cases policy : h.policy with
    | propagate =>
      rw [h.settle_propagated _ stopped policy]
      exact raised
    | contain =>
      rw [h.settle_contained _ stopped policy]
      exact hookRaises _ _ _ raised

theorem settle_cancelled {o : Outcome α} (cancelled : o.stop = .cancelled) (s : Scene α) :
    (h.settle (fun _ s => s) o s).1 = .ok ⟨o.last, o.iterations, .cancelled⟩ := by
  rw [h.settle_unfailed _ (by rw [cancelled]; exact Stop.cancelled_ne_failed), cancelled]
  rfl

/-- After one run of a handle, a raised flag is still raised, or the run's own flag shares it
and the run reports a cancellation. -/
theorem run_keeps_raised [Inhabited α] (scripted : h.work = Scene.work steps)
    (hookRaises : HookRaises h.hook) (fuel : Nat) (s : Scene α) {i : Nat}
    (raised : s.tokens.isSignalled i = true) {a : Except Fault (Report α)} {s' : Scene α}
    (ran : h.run Scene.ask Scene.now Scene.runFlag (fun _ s => s) fuel s = some (a, s')) :
    s'.tokens.isSignalled i = true ∨
      (s.tokens.flagOf s.flag = s.tokens.flagOf i ∧ ∃ r, a = .ok r ∧ r.exit = .cancelled) := by
  rw [Handle.run_eq_loop, Option.map_eq_some_iff] at ran
  obtain ⟨⟨o, s₁⟩, stopped, settled⟩ := ran
  have frame := loop_spares h scripted h.iteration fuel .start s stopped
  -- the loop keeps the flag raised, unless it is the run's own and the loop ends cancelled
  have kept : s₁.tokens.isSignalled i = true ∨
      (s.tokens.flagOf s.flag = s.tokens.flagOf i ∧ o.stop = .cancelled) := by
    by_cases shared : s.tokens.flagOf s.flag = s.tokens.flagOf i
    · by_cases cancelled : o.stop = .cancelled
      · exact .inr ⟨shared, cancelled⟩
      · have own : s.signalled = true := by
          rw [Scene.signalled, Tokens.isSignalled_of_flagOf_eq shared]
          exact raised
        have ownAfter := loop_keeps_own_raised h scripted h.iteration fuel s own stopped cancelled
        have sharedAfter : s₁.tokens.flagOf s₁.flag = s₁.tokens.flagOf i := by
          rw [frame.flag_eq, frame.flagOf_eq, frame.flagOf_eq, shared]
        rw [Scene.signalled, Tokens.isSignalled_of_flagOf_eq sharedAfter] at ownAfter
        exact .inl ownAfter
    · exact .inl (frame.raised i shared raised)
  rcases kept with after | ⟨shared, cancelled⟩
  · have hooked := settle_keeps_raised h hookRaises o after
    rw [settled] at hooked
    exact .inl hooked
  · have answer := settle_cancelled h cancelled s₁
    rw [settled] at answer
    exact .inr ⟨shared, _, answer, rfl⟩

end Run

/-! ### A run of a scenario -/

namespace RunSpec

variable (spec : RunSpec α)

/-- The handle a run builds. -/
def handle : Handle Probe (Scene α) α :=
  ((spec.factory.start (Scene.work spec.steps)).applyAll spec.calls).build 0

/-- The scene a run starts from on tokens `ts`: its own token signalled first if it asks so,
and its flag a fresh token's if it is detached. -/
def scene (ts : Tokens) : Scene α :=
  let ts := if spec.execute && spec.presignal then ts.signal spec.token else ts
  { tokens := if spec.detached then ts.fresh.1 else ts, own := spec.token,
    flag := if spec.detached then ts.fresh.2 else spec.token,
    counters := List.replicate spec.probes 0 }

/-- Every hook the calls of a run set clears no flag. -/
def HooksRaise : Prop := ∀ c ∈ spec.calls, ∀ hook ∈ Call.hook? c, HookRaises hook

theorem handle_work : spec.handle.work = Scene.work spec.steps := by
  simp only [handle, Builder.build, Builder.applyAll_work]
  cases spec.factory <;> rfl

theorem hookRaises_handle (hooks : spec.HooksRaise) : HookRaises spec.handle.hook := by
  simp only [handle, Builder.build, Builder.applyAll_hook]
  rcases picked : lastPick Call.hook? spec.calls with _ | hook
  · -- no call sets a hook, and a factory sets none
    cases spec.factory <;> exact fun _ _ _ set => set
  · obtain ⟨c, called, sets⟩ := List.mem_filterMap.1 (List.mem_of_getLast? picked)
    exact hooks c called hook sets

/-- A run ends in one of two ways: its loop is not run, or runs out of passes, and the run
answers nothing on the tokens it started on; or the run answers what the handle answers. -/
theorem run_cases [Inhabited α] (ts : Tokens) (shown : Nat) :
    ((spec.run ts shown).1.answer = none ∧ (spec.run ts shown).2 = (spec.scene ts).tokens) ∨
    (spec.execute = true ∧ ∃ a s', spec.handle.run Scene.ask Scene.now Scene.runFlag
        (fun _ s => s) (spec.steps.length + 2) (spec.scene ts) = some (a, s') ∧
      (spec.run ts shown).1.answer = some a ∧ (spec.run ts shown).2 = s'.tokens) := by
  cases execute : spec.execute
  · cases detached : spec.detached <;> simp [RunSpec.run, scene, execute, detached]
  · rcases ran : spec.handle.run Scene.ask Scene.now Scene.runFlag (fun _ s => s)
        (spec.steps.length + 2) (spec.scene ts) with _ | ⟨a, s'⟩
    · left
      cases detached : spec.detached <;>
        simp_all [RunSpec.run, scene, handle]
    · right
      refine ⟨rfl, a, s', rfl, ?_⟩
      cases detached : spec.detached <;>
        simp_all [RunSpec.run, scene, handle]

variable {spec}

/-- Signalling a token first keeps every raised flag raised. -/
theorem presignal_raised {ts : Tokens} {k : Nat} (raised : ts.isSignalled k = true) (first : Bool)
    (t : Nat) : (if first then ts.signal t else ts).isSignalled k = true := by
  split
  · exact Tokens.isSignalled_signal_of_signalled raised t
  · exact raised

theorem scene_raised {ts : Tokens} {k : Nat} (raised : ts.isSignalled k = true) :
    (spec.scene ts).tokens.isSignalled k = true := by
  have signalled := presignal_raised raised (spec.execute && spec.presignal) spec.token
  simp only [scene]
  split
  · exact Tokens.isSignalled_fresh_of_signalled signalled
  · exact signalled

/-- A run whose flag shares a raised flag runs on its own token, and that token shares it in the
tokens the run was given. -/
theorem scene_shared {ts : Tokens} {k : Nat} (raised : ts.isSignalled k = true)
    (shared : (spec.scene ts).tokens.flagOf (spec.scene ts).flag =
      (spec.scene ts).tokens.flagOf k) :
    spec.detached = false ∧ ts.flagOf spec.token = ts.flagOf k := by
  simp only [scene] at shared
  cases detached : spec.detached
  · simp only [detached, Bool.false_eq_true, if_false] at shared
    refine ⟨rfl, ?_⟩
    split at shared <;> simpa using shared
  · -- a detached run's flag is fresh, and a fresh token shares no raised flag
    simp only [detached, if_true] at shared
    have signalled := presignal_raised raised (spec.execute && spec.presignal) spec.token
    exact absurd shared (Tokens.flagOf_fresh_ne_of_signalled signalled)

/-- A run catches the raised flag of token `k` on tokens `ts`: it runs attached, on a token that
shares the flag, and reports a cancellation. -/
def Catches (spec : RunSpec α) (ts : Tokens) (k : Nat) (r : RunResult α) : Prop :=
  spec.execute = true ∧ spec.detached = false ∧ ts.flagOf spec.token = ts.flagOf k ∧
    ∃ rep, r.answer = some (.ok rep) ∧ rep.exit = .cancelled

/-- After one run of a scenario a raised flag is still raised, or the run catches it. -/
theorem run_keeps_raised [Inhabited α] (hooks : spec.HooksRaise) (ts : Tokens) (shown : Nat)
    {k : Nat}
    (raised : ts.isSignalled k = true) :
    (spec.run ts shown).2.isSignalled k = true ∨ spec.Catches ts k (spec.run ts shown).1 := by
  have atStart : (spec.scene ts).tokens.isSignalled k = true := scene_raised raised
  rcases spec.run_cases ts shown with ⟨-, after⟩ | ⟨execute, a, s', ran, answer, after⟩
  · rw [after]
    exact .inl atStart
  · rcases Scenario.run_keeps_raised spec.handle spec.handle_work (spec.hookRaises_handle hooks)
      _ _ atStart ran with kept | ⟨shared, rep, isOk, exit⟩
    · rw [after]
      exact .inl kept
    · obtain ⟨attached, sameFlag⟩ := scene_shared raised shared
      exact .inr ⟨execute, attached, sameFlag, rep, by rw [answer, isOk], exit⟩

end RunSpec

/-! ### Runs one after another -/

/-- Runs specs one after another on shared tokens: each run's result, and the tokens after the
last. -/
def runEach [Inhabited α] (shown : Nat) : List (RunSpec α) → Tokens → List (RunResult α) × Tokens
  | [], ts => ([], ts)
  | spec :: specs, ts =>
    let first := spec.run ts shown
    let rest := runEach shown specs first.2
    (first.1 :: rest.1, rest.2)

variable [Inhabited α]

@[simp] theorem runEach_nil (shown : Nat) (ts : Tokens) : runEach (α := α) shown [] ts = ([], ts) :=
  rfl

@[simp] theorem runEach_cons (shown : Nat) (spec : RunSpec α) (specs : List (RunSpec α))
    (ts : Tokens) :
    runEach shown (spec :: specs) ts =
      ((spec.run ts shown).1 :: (runEach shown specs (spec.run ts shown).2).1,
        (runEach shown specs (spec.run ts shown).2).2) :=
  rfl

/-- A fold that gathers the result of each run after the ones before, and hands the tokens on,
runs the specs one after another. -/
theorem foldl_runs (shown : Nat)
    (f : List (RunResult α) × Tokens → RunSpec α → List (RunResult α) × Tokens)
    (step : ∀ acc ts spec, f (acc, ts) spec =
      (acc ++ [(spec.run ts shown).1], (spec.run ts shown).2)) :
    ∀ (specs : List (RunSpec α)) acc ts,
      specs.foldl f (acc, ts) = (acc ++ (runEach shown specs ts).1, (runEach shown specs ts).2) := by
  intro specs
  induction specs with
  | nil => intro acc ts; simp
  | cons spec specs ih =>
    intro acc ts
    rw [List.foldl_cons, step, ih]
    simp

/-- The runs of a scenario are its specs run one after another from the group's tokens with the
presignalled ones raised. -/
theorem runAll_eq_runEach (n : Nat) (presignalled : List Nat) (specs : List (RunSpec α)) :
    runAll n presignalled specs =
      (runEach n specs (presignalled.foldl Tokens.signal (Tokens.ofGroup n))).1 := by
  rw [runAll, foldl_runs n _ (fun acc ts spec => rfl)]
  simp

/-- **A cancellation outlives the runs that do not catch it.** After runs one after another on
shared tokens, a flag raised before them is still raised, or some run catches it: it was raised
after every run before that one, and that run ran on a token sharing it and reported a
cancellation. -/
theorem runEach_keeps_raised (shown : Nat) (specs : List (RunSpec α))
    (hooks : ∀ spec ∈ specs, spec.HooksRaise) (ts : Tokens) {k : Nat}
    (raised : ts.isSignalled k = true) :
    (runEach shown specs ts).2.isSignalled k = true ∨
      ∃ pre spec post, specs = pre ++ spec :: post ∧
        (∀ done rest, pre = done ++ rest → (runEach shown done ts).2.isSignalled k = true) ∧
        spec.Catches (runEach shown pre ts).2 k (spec.run (runEach shown pre ts).2 shown).1 := by
  induction specs generalizing ts with
  | nil => exact .inl raised
  | cons spec specs ih =>
    rcases spec.run_keeps_raised (hooks spec List.mem_cons_self) ts shown raised with
      kept | caught
    · -- the first run keeps the flag: the rest of the runs start from where it ended
      rcases ih (fun s member => hooks s (List.mem_cons_of_mem _ member)) _ kept with
        after | ⟨pre, later, post, split, before, catches⟩
      · exact .inl after
      · refine .inr ⟨spec :: pre, later, post, by rw [split, List.cons_append], ?_, catches⟩
        intro done rest whole
        rcases List.cons_eq_append_iff.1 whole with ⟨rfl, -⟩ | ⟨done', rfl, inPre⟩
        · exact raised
        · exact before done' rest inPre
    · -- the first run catches it
      refine .inr ⟨[], spec, specs, rfl, fun done rest whole => ?_, caught⟩
      rw [(List.nil_eq_append_iff.1 whole).1]
      exact raised

/-- A run on another token leaves token 0's flag raised for the next run on token 0, whose first
look catches it and clears it. -/
example :
    let specs : List (RunSpec Nat) := [{ steps := [.ok 1 []], token := 1 }, { steps := [.ok 1 []] }]
    let results := runEach 2 specs ((Tokens.ofGroup 2).signal 0)
    results.1.map (fun r => r.answer.map fun a => a.toOption.map (·.exit)) =
        [some (some (.failed "script exhausted")), some (some .cancelled)] ∧
      results.2.isSignalled 0 = false := by
  decide

end Cadence.Scenario
