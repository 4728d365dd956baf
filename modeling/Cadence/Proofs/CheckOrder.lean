import Cadence.Proofs.Loop.Words
import Cadence.Proofs.Cancellation

/-!
# Cadence.Proofs.CheckOrder

The order of each strategy's check points.

Write `T+`/`T-` for the terminator met or not, `O+`/`O-` for an observation of the flag that
found it set or clear, `W+`/`W-` for a good or failed call of the unit of work, `S+`/`S-` for a
wait that was cancelled or not, and `R` for a raise of the flag. Every drive of a strategy spells
one word of its language, and the final block tells how it stopped:

* `busy`: `(T- O- W+)*`, then `T+` (terminated), `T- O+` (cancelled) or `T- O- W-` (failed);
* `throttled`: `(T- W+ S-)*`, then `T+` (terminated), `T- W-` (failed) or `T- W+ S+`
  (cancelled);
* `reinterrupt`: `(T- O- W+ (S- | S+ R))*`, then `T+`, `T- O+` or `T- O- W-`, as `busy`.

So the terminator is asked once more than there are iterations, except when `throttled` ends
cancelled, where it is asked once per iteration; and only a last `T+` is a met terminator.

## Main results

* `Iteration.drive_word`: against any host, a drive that stops spells passes of its strategy
  and then the final block of its stop, with one iteration per good call.
* `check_points_spell_strategy_word`: against a scene with a scripted unit of work, the drive
  stops, and its word, its counts of terminator checks and iterations, and, when the run's flag
  is set from the start, its lone final block.

## Proof strategy

`Pacing.Marked.loop_word` gives the word for every pacing by the looks and pauses it spells, and
the strategies' looks and pauses compute to the languages above. When the flag is set from the
start, the loop rule carries the facts that the flag stays set and that the trace is still the
start of the first pass, up to the check point that stops the loop.
-/

namespace Cadence

/-- Whether a letter is an answer of the terminator. -/
def Mark.isMet : Mark → Bool
  | .met _ => true
  | _ => false

namespace Iteration

variable {σ α : Type}

/-- The words of one pass that goes on, for each strategy. -/
def passWords : Iteration → List (List Mark)
  | .busy => [[.met false, .observe false, .work true]]
  | .throttled _ => [[.met false, .work true, .suspend false]]
  | .reinterrupt _ =>
    [[.met false, .observe false, .work true, .suspend false],
      [.met false, .observe false, .work true, .suspend true, .rearm]]

/-- The block that ends a loop, by strategy and stop. -/
def finalWord : Iteration → Stop → List Mark
  | _, .terminated => [.met true]
  | .throttled _, .cancelled => [.met false, .work true, .suspend true]
  | .throttled _, .failed _ => [.met false, .work false]
  | _, .cancelled => [.met false, .observe true]
  | _, .failed _ => [.met false, .observe false, .work false]

theorem isPass_iff (it : Iteration) (w : List Mark) :
    Pacing.IsPass it.looks it.pauses w ↔ w ∈ it.passWords := by
  cases it <;> simp [Pacing.IsPass, looks, pauses, passWords]

theorem ends_iff (it : Iteration) (stop : Stop) (w : List Mark) (k : Nat) :
    Pacing.Ends it.looks it.pauses stop w k ↔
      w = it.finalWord stop ∧ k = (it.finalWord stop).count (.work true) := by
  cases it <;> cases stop <;> simp [Pacing.Ends, looks, pauses, finalWord]

/-! ### Letters of the passes and of the final blocks -/

/-- A pass that goes on makes one good call and asks the terminator once, without meeting it. -/
theorem passWords_letters (it : Iteration) :
    ∀ w ∈ it.passWords, w.count (.work true) = 1 ∧ w.countP Mark.isMet = 1 ∧ .met true ∉ w := by
  cases it <;> simp only [passWords] <;> decide

theorem passes_letters (it : Iteration) :
    ∀ passes : List (List Mark), (∀ w ∈ passes, w ∈ it.passWords) →
      passes.flatten.count (.work true) = passes.length ∧
      passes.flatten.countP Mark.isMet = passes.length ∧ .met true ∉ passes.flatten
  | [], _ => by simp
  | w :: passes, allPass => by
    obtain ⟨good, asked, unmet⟩ := it.passWords_letters w (allPass w List.mem_cons_self)
    obtain ⟨good', asked', unmet'⟩ :=
      passes_letters it passes fun w' member => allPass w' (List.mem_cons_of_mem w member)
    refine ⟨?_, ?_, ?_⟩
    · rw [List.flatten_cons, List.count_append, good, good', List.length_cons, Nat.add_comm]
    · rw [List.flatten_cons, List.countP_append, asked, asked', List.length_cons, Nat.add_comm]
    · rw [List.flatten_cons, List.mem_append]
      exact fun met => met.elim unmet unmet'

/-- A final block asks the terminator once, and meets it only when it is the whole block. -/
theorem finalWord_letters (it : Iteration) (stop : Stop) :
    (it.finalWord stop).countP Mark.isMet = 1 ∧
      (.met true ∈ it.finalWord stop → it.finalWord stop = [.met true]) := by
  cases it <;> cases stop <;> simp only [finalWord] <;> decide

/-- The good calls of a final block: one when `throttled` ends in a cancelled wait. -/
theorem finalWord_good (it : Iteration) (stop : Stop) :
    (it.finalWord stop).count (.work true) =
      match it, stop with
      | .throttled _, .cancelled => 1
      | _, _ => 0 := by
  cases it <;> cases stop <;> rfl

/-- In passes that never meet the terminator followed by a final block, a met terminator is the
last letter. -/
theorem met_last {passes final : List Mark} (unmet : .met true ∉ passes)
    (alone : .met true ∈ final → final = [.met true]) :
    ∀ i, (passes ++ final)[i]? = some (.met true) → i + 1 = (passes ++ final).length := by
  intro i found
  by_cases early : i < passes.length
  · rw [List.getElem?_append_left early] at found
    exact absurd (List.mem_of_getElem? found) unmet
  · rw [List.getElem?_append_right (Nat.le_of_not_lt early)] at found
    have whole := alone (List.mem_of_getElem? found)
    rw [whole] at found ⊢
    -- the one letter of `[.met true]` is at its start
    have first : i - passes.length = 0 := by
      rcases hi : i - passes.length with _ | j
      · rfl
      · rw [hi] at found
        simp at found
    rw [List.length_append, List.length_singleton]
    omega

/-! ### The word of a drive -/

/-- **Every drive spells a word of its strategy.** Run a strategy against any host, keeping its
check points: if it stops, its letters are passes that go on, each one of the strategy's pass
words, followed by the final block of its stop, and it counted one iteration per good call. -/
theorem drive_word [Inhabited α] (it : Iteration) (host : Host σ α) (fuel : Nat) (s : σ)
    {o : Outcome α} {x : σ × List (Check α × σ)}
    (stopped : it.drive host.traced fuel (s, []) = some (o, x)) :
    ∃ passes : List (List Mark), (∀ w ∈ passes, w ∈ it.passWords) ∧
      Check.word x.2 = passes.flatten ++ it.finalWord o.stop ∧
      o.iterations = (Check.word x.2).count (.work true) := by
  rw [drive_eq_loop] at stopped
  obtain ⟨passes, final, k, allPass, ends, letters, counted⟩ :=
    (it.marked_traced host).loop_word fuel .start (s, []) o x stopped
  obtain ⟨rfl, rfl⟩ := (it.ends_iff o.stop final k).mp ends
  have word : Check.word x.2 = passes.flatten ++ it.finalWord o.stop := by
    simpa using letters
  have allPass' : ∀ w ∈ passes, w ∈ it.passWords := fun w member =>
    (it.isPass_iff w).mp (allPass w member)
  refine ⟨passes, allPass', word, ?_⟩
  rw [counted, word, List.count_append, (it.passes_letters passes allPass').1]
  simp [Progress.start]

end Iteration

/-! ### A run whose flag is set from the start -/

namespace Scenario

variable {α : Type}

/-- The world after asking the terminator of a traced host. -/
theorem traced_met_world {σ : Type} (it : Iteration) (host : Host σ α)
    (y : σ × List (Check α × σ)) :
    ((it.pacing host.traced).met y).2.1 = (host.met y.1).2 := by
  simp [Iteration.pacing_met, Host.traced, Check.keep]

/-- The world after a call of the work of a traced host. -/
theorem traced_work_world {σ : Type} (it : Iteration) (host : Host σ α) (k : Nat)
    (y : σ × List (Check α × σ)) :
    ((it.pacing host.traced).work k y).2.1 = (host.work (host.note (.iteration it k) y.1)).2 := by
  simp [Iteration.pacing_work, Host.traced, Check.keep]

/-- **A set flag stops the first pass.** Against a scene whose run flag is set, the loop of
every strategy spells nothing but the final block of its stop, and never observes the flag
clear: the flag stays set through the terminator and the work, so the first look or wait finds
it. -/
theorem signalled_spells_final (it : Iteration) (h : Handle Probe (Scene α) α)
    (steps : List (Step α)) (scripted : h.work = Scene.work steps) (fuel : Nat) (p : Progress α)
    (s : Scene α) (raised : s.signalled) {o : Outcome α} {x : Scene α × List (Check α × Scene α)}
    (stopped : (it.pacing (h.host Scene.ask Scene.now Scene.runFlag fun _ s => s).traced).loop
      fuel p (s, []) = some (o, x)) :
    Check.word x.2 = it.finalWord o.stop ∧ .observe false ∉ Check.word x.2 := by
  let host := h.host Scene.ask Scene.now Scene.runFlag fun _ s => s
  have marked := it.marked_traced host
  -- only `throttled` reaches the work with the flag set, and only its wait can follow
  refine Pacing.loop_rule _
    (fun y => Check.word y.2 = [] ∧ y.1.signalled)
    (fun y => Check.word y.2 = [.met false] ∧ y.1.signalled)
    (fun y => (∃ d, it = .throttled d) ∧ Check.word y.2 = [.met false] ∧ y.1.signalled)
    (fun y => (∃ d, it = .throttled d) ∧ Check.word y.2 = [.met false, .work true] ∧
      y.1.signalled)
    (fun stop y => Check.word y.2 = it.finalWord stop ∧ .observe false ∉ Check.word y.2)
    ?met ?poll ?work ?pause fuel p (s, []) ⟨rfl, raised⟩ o x stopped
  case met =>
    intro y holds b y' metAt
    obtain ⟨empty, set⟩ := holds
    have word := marked.met y
    have kept : y'.1.signalled := by
      have world := traced_met_world it host y
      rw [metAt] at world
      rw [world]
      exact signalled_met set h.terminator
    rw [metAt, empty] at word
    cases b with
    | true => exact ⟨by cases it <;> exact word, by rw [word]; simp⟩
    | false => exact ⟨word, kept⟩
  case poll =>
    intro y holds b y' pollAt
    obtain ⟨word, set⟩ := holds
    cases it with
    | throttled d =>
      simp only [Iteration.pacing, Pacing.throttled, Prod.mk.injEq] at pollAt
      obtain ⟨rfl, rfl⟩ := pollAt
      exact ⟨⟨d, rfl⟩, word, set⟩
    | busy | reinterrupt d =>
      -- the observation finds the flag set, and stops the loop
      simp only [Iteration.pacing, Pacing.busy, Pacing.reinterrupt, Host.traced, Check.keep,
        Prod.mk.injEq] at pollAt
      obtain ⟨rfl, rfl⟩ := pollAt
      have found : (Scene.runFlag.observe y.1).1 = true := (Scene.observe_signalled y.1).1 ▸ set
      have spelled : Check.word (y.2 ++ [(.observe true, (Scene.runFlag.observe y.1).2)]) =
          [.met false, .observe true] := by
        rw [Check.word_append, word]
        rfl
      simp only [Handle.host, found, if_true, Iteration.finalWord, spelled]
      decide
  case work =>
    intro k y holds r y' workAt
    obtain ⟨⟨d, throttled⟩, word, set⟩ := holds
    subst throttled
    have letters := marked.work k y
    rw [workAt, word] at letters
    cases r with
    | error e => exact ⟨letters, by rw [letters]; simp⟩
    | ok v =>
      have world := traced_work_world (.throttled d) host k y
      rw [workAt] at world
      refine ⟨⟨d, rfl⟩, letters, ?_⟩
      rw [world]
      simp only [host, Handle.host, scripted]
      exact Scene.signalled_work set steps
  case pause =>
    intro k y holds b y' pauseAt
    obtain ⟨⟨d, throttled⟩, word, set⟩ := holds
    subst throttled
    -- the wait finds the flag set, is cancelled, and stops the loop
    have found : (Scene.runFlag.suspend d y.1).1 = true := (Scene.suspend_signalled d y.1).1 ▸ set
    simp only [Iteration.pacing, Pacing.throttled, Host.traced, Check.keep, Handle.host,
      found] at pauseAt
    simp only [Prod.mk.injEq] at pauseAt
    obtain ⟨rfl, rfl⟩ := pauseAt
    have spelled : Check.word (y.2 ++ [(.suspend true, (Scene.runFlag.suspend d y.1).2)]) =
        [.met false, .work true, .suspend true] := by
      rw [Check.word_append, word]
      rfl
    simp only [if_true, Iteration.finalWord, spelled]
    decide

/-! ### The check points of a scripted run -/

/-- **Check-point order.** Drive a handle of any strategy, terminator and interval against a
scene whose unit of work is a script, from any state of its tokens, with more passes than the
script has steps left, keeping its check points. The drive stops, with the same outcome and
world as without keeping them, and its letters

* are passes that go on, each a pass word of its strategy, followed by the final block of its
  stop;
* hold one good call per iteration;
* hold one check of the terminator per iteration and one more, except that a `throttled` loop
  that ends cancelled checks it once per iteration, and made at least one;
* meet the terminator only in their last letter;
* are the final block alone, with no observation of a clear flag, when the run's flag is set at
  the start. -/
theorem check_points_spell_strategy_word [Inhabited α] (h : Handle Probe (Scene α) α)
    (steps : List (Step α)) (scripted : h.work = Scene.work steps) (fuel : Nat) (s : Scene α)
    (enough : steps.length - s.calls < fuel) :
    ∃ (o : Outcome α) (s' : Scene α) (trace : List (Check α × Scene α)),
      h.iteration.drive (h.host Scene.ask Scene.now Scene.runFlag fun _ s => s) fuel s =
        some (o, s') ∧
      h.iteration.drive (h.host Scene.ask Scene.now Scene.runFlag fun _ s => s).traced fuel
        (s, []) = some (o, (s', trace)) ∧
      (∃ passes : List (List Mark), (∀ w ∈ passes, w ∈ h.iteration.passWords) ∧
        Check.word trace = passes.flatten ++ h.iteration.finalWord o.stop) ∧
      o.iterations = (Check.word trace).count (.work true) ∧
      (Check.word trace).countP Mark.isMet =
        (match h.iteration, o.stop with
          | .throttled _, .cancelled => o.iterations
          | _, _ => o.iterations + 1) ∧
      (∀ d, h.iteration = .throttled d → o.stop = .cancelled → 1 ≤ o.iterations) ∧
      (∀ i, (Check.word trace)[i]? = some (.met true) → i + 1 = trace.length) ∧
      (s.tokens.isSignalled s.flag = true →
        Check.word trace = h.iteration.finalWord o.stop ∧ .observe false ∉ Check.word trace) := by
  let host := h.host Scene.ask Scene.now Scene.runFlag fun _ s => s
  have scriptedLoop := h.iteration.scripted_scene h steps scripted
  -- the script fails once its steps are used up, so the loop stops
  obtain ⟨o₀, s₀, stopped⟩ := scriptedLoop.loop_stops
    (fun c (past : steps.length ≤ c) => ⟨_, Scene.answer_past past⟩) fuel .start s enough
  -- keeping the check points changes neither the outcome nor the world
  have kept := Iteration.loop_traced h.iteration host fuel .start s []
  rw [stopped] at kept
  obtain ⟨⟨o, s', trace⟩, tracedStopped, same⟩ := Option.map_eq_some_iff.mp kept
  simp only [Prod.mk.injEq] at same
  obtain ⟨rfl, rfl⟩ := same
  have traced : h.iteration.drive host.traced fuel (s, []) = some (o, (s', trace)) := by
    rw [Iteration.drive_eq_loop]
    exact tracedStopped
  obtain ⟨passes, allPass, word, counted⟩ := h.iteration.drive_word host fuel s traced
  obtain ⟨good, asked, unmet⟩ := h.iteration.passes_letters passes allPass
  obtain ⟨askedFinal, alone⟩ := h.iteration.finalWord_letters o.stop
  have iterations :
      o.iterations = passes.length + (h.iteration.finalWord o.stop).count (.work true) := by
    rw [counted, word, List.count_append, good]
  refine ⟨o, s', trace, by rw [Iteration.drive_eq_loop]; exact stopped, traced,
    ⟨passes, allPass, word⟩, counted, ?checks, ?atLeastOne, ?metLast, ?presignalled⟩
  case checks =>
    rw [word, List.countP_append, asked, askedFinal, iterations, Iteration.finalWord_good]
    rcases h.iteration with _ | d | d <;> rcases o.stop with _ | _ | e <;> rfl
  case atLeastOne =>
    intro d throttled cancelled
    rw [iterations, Iteration.finalWord_good, throttled, cancelled]
    exact Nat.le_add_left 1 passes.length
  case metLast =>
    intro i found
    rw [word] at found
    have last := Iteration.met_last unmet alone i found
    rwa [← word, Check.length_word] at last
  case presignalled =>
    intro raised
    exact signalled_spells_final h.iteration h steps scripted fuel .start s raised tracedStopped

/-- A `throttled` loop whose flag is set at the start still makes one good call, then finds the
flag in its wait: it spells `T- W+ S+`. -/
theorem check_points_spell_strategy_word_when_presignalled :
    let steps : List (Step Nat) := [.ok 1 [], .ok 2 []]
    let h : Handle Probe (Scene Nat) Nat :=
      { work := Scene.work steps, terminator := .never,
        iteration := .throttled (Duration.ofMillis 1), hook := .none, policy := .contain }
    let s : Scene Nat := { tokens := (Tokens.ofGroup 1).signal 0, own := 0, flag := 0 }
    h.work = Scene.work steps ∧ steps.length - s.calls < 4 ∧
    ∃ (o : Outcome Nat) (s' : Scene Nat) (trace : List (Check Nat × Scene Nat)),
      h.iteration.drive (h.host Scene.ask Scene.now Scene.runFlag fun _ s => s) 4 s =
        some (o, s') ∧
      h.iteration.drive (h.host Scene.ask Scene.now Scene.runFlag fun _ s => s).traced 4
        (s, []) = some (o, (s', trace)) ∧
      (∃ passes : List (List Mark), (∀ w ∈ passes, w ∈ h.iteration.passWords) ∧
        Check.word trace = passes.flatten ++ h.iteration.finalWord o.stop) ∧
      o.iterations = (Check.word trace).count (.work true) ∧
      (Check.word trace).countP Mark.isMet =
        (match h.iteration, o.stop with
          | .throttled _, .cancelled => o.iterations
          | _, _ => o.iterations + 1) ∧
      (∀ d, h.iteration = .throttled d → o.stop = .cancelled → 1 ≤ o.iterations) ∧
      (∀ i, (Check.word trace)[i]? = some (.met true) → i + 1 = trace.length) ∧
      (s.tokens.isSignalled s.flag = true →
        Check.word trace = h.iteration.finalWord o.stop ∧ .observe false ∉ Check.word trace) :=
  ⟨rfl, by decide, check_points_spell_strategy_word _ _ rfl 4 _ (by decide)⟩

end Scenario

end Cadence
