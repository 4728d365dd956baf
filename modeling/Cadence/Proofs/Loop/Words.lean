import Cadence.Proofs.Loop.Trace

/-!
# Cadence.Proofs.Loop.Words

The check points of a loop spell a word.

Write each check point as a letter that keeps only what it checked and how it answered: a
terminator that was or was not met, an observation of the flag, a good or failed call of the
unit of work, a wait that was or was not cancelled, and a raise of the flag. A loop passes its
check points in a fixed order, so the letters of a run form a word of a small language: some
passes that go on, each the terminator not met, a look at the flag that does not stop, a good
call and a pause that does not stop, and then one final block that stops the loop. What the look
and the pause spell depends on the strategy; the rest is the shape of `Pacing.loop` itself.

## Main results

* `Pacing.Marked.loop_word`: a loop whose check points extend the trace as a pacing's looks and
  pauses say spells passes followed by a final block, the final block fits the stop, and the
  loop counts one iteration for each pass and for a final block that ends in a pause.
* `Iteration.marked_traced`: the strategies' pacings of a traced host extend the trace that way,
  each with its own looks and pauses.
-/

namespace Cadence

/-- A check point as a letter: what was checked and how it answered. -/
inductive Mark where
  /-- The terminator was asked: met or not. -/
  | met (answer : Bool)
  /-- The flag was observed: set or clear. -/
  | observe (answer : Bool)
  /-- The unit of work ran: good or failed. -/
  | work (ok : Bool)
  /-- A wait on the flag ended: cancelled or not. -/
  | suspend (cancelled : Bool)
  /-- The flag was raised again. -/
  | rearm
  deriving DecidableEq, Repr

/-- The letter of a check point. -/
def Check.mark {α : Type} : Check α → Mark
  | .met b => .met b
  | .observe b => .observe b
  | .work r => .work r.isOk
  | .suspend b => .suspend b
  | .rearm => .rearm

/-- The letters of a trace. -/
def Check.word {α σ : Type} (trace : List (Check α × σ)) : List Mark := trace.map (·.1.mark)

section Word

variable {α σ : Type}

@[simp] theorem Check.word_nil : Check.word ([] : List (Check α × σ)) = [] := rfl

@[simp] theorem Check.word_append (trace more : List (Check α × σ)) :
    Check.word (trace ++ more) = Check.word trace ++ Check.word more := by
  simp [Check.word]

@[simp] theorem Check.length_word (trace : List (Check α × σ)) :
    (Check.word trace).length = trace.length := by
  simp [Check.word]

end Word

namespace Pacing

variable {σ α : Type}

/-- How the check points of a pacing over traced worlds extend the letters of the trace: the
terminator and the work add their own letter, a look at the flag that answers `b` adds some `u`
with `(b, u)` among `looks`, and a pause that answers `b` adds some `v` with `(b, v)` among
`pauses`. -/
structure Marked (pc : Pacing (σ × List (Check α × σ)) α)
    (looks pauses : List (Bool × List Mark)) : Prop where
  met : ∀ x, Check.word (pc.met x).2.2 = Check.word x.2 ++ [.met (pc.met x).1]
  poll : ∀ x, ∃ u, ((pc.poll x).1, u) ∈ looks ∧
    Check.word (pc.poll x).2.2 = Check.word x.2 ++ u
  work : ∀ k x, Check.word (pc.work k x).2.2 = Check.word x.2 ++ [.work (pc.work k x).1.isOk]
  pause : ∀ k x, ∃ v, ((pc.pause k x).1, v) ∈ pauses ∧
    Check.word (pc.pause k x).2.2 = Check.word x.2 ++ v

/-- The word of one pass that goes on: the terminator not met, a look at the flag and a pause
that do not stop the loop, and a good call between them. -/
def IsPass (looks pauses : List (Bool × List Mark)) (w : List Mark) : Prop :=
  ∃ u v, (false, u) ∈ looks ∧ (false, v) ∈ pauses ∧ w = .met false :: u ++ .work true :: v

/-- The word of the pass that stops a loop with `stop`, and the good calls `k` it makes: the
terminator met; a look at the flag that stops the loop; a failed call; or a good call and a
pause that stops the loop. -/
def Ends (looks pauses : List (Bool × List Mark)) : Stop → List Mark → Nat → Prop
  | .terminated, w, k => w = [.met true] ∧ k = 0
  | .cancelled, w, k =>
    (∃ u, (true, u) ∈ looks ∧ w = .met false :: u ∧ k = 0) ∨
      ∃ u v, (false, u) ∈ looks ∧ (true, v) ∈ pauses ∧ w = .met false :: u ++ .work true :: v ∧
        k = 1
  | .failed _, w, k => ∃ u, (false, u) ∈ looks ∧ w = .met false :: u ++ [.work false] ∧ k = 0

namespace Marked

variable {pc : Pacing (σ × List (Check α × σ)) α} {looks pauses : List (Bool × List Mark)}

/-- **The check points of a run spell a word.** A loop that stops has added to the letters of
its trace some passes that go on and then one final block that fits its stop; it counted one
iteration for each pass, and the good calls of the final block. -/
theorem loop_word (marked : pc.Marked looks pauses) :
    ∀ fuel p x o x', pc.loop fuel p x = some (o, x') →
      ∃ (passes : List (List Mark)) (final : List Mark) (k : Nat),
        (∀ w ∈ passes, IsPass looks pauses w) ∧ Ends looks pauses o.stop final k ∧
        Check.word x'.2 = Check.word x.2 ++ (passes.flatten ++ final) ∧
        o.iterations = p.iterations + passes.length + k
  | 0, _, _, _, _, stopped => by cases stopped
  | fuel + 1, p, x, o, x', stopped => by
    -- one pass: each check point either stops the loop, with its final block, or adds its letters
    have metMarks := marked.met x
    rcases metAt : pc.met x with ⟨_ | _, x₁⟩ <;> rw [metAt] at metMarks
    case true =>
      simp only [loop, metAt, Option.some.injEq, Prod.mk.injEq] at stopped
      obtain ⟨rfl, rfl⟩ := stopped
      exact ⟨[], [.met true], 0, by simp, ⟨rfl, rfl⟩, by simpa using metMarks, rfl⟩
    obtain ⟨u, looked, pollMarks⟩ := marked.poll x₁
    rcases pollAt : pc.poll x₁ with ⟨_ | _, x₂⟩ <;> rw [pollAt] at looked pollMarks
    case true =>
      simp only [loop, metAt, pollAt, Option.some.injEq, Prod.mk.injEq] at stopped
      obtain ⟨rfl, rfl⟩ := stopped
      refine ⟨[], .met false :: u, 0, by simp, .inl ⟨u, looked, rfl, rfl⟩, ?_, rfl⟩
      simp [pollMarks, metMarks]
    have workMarks := marked.work (p.iterations + 1) x₂
    rcases workAt : pc.work (p.iterations + 1) x₂ with ⟨e | v, x₃⟩ <;> rw [workAt] at workMarks
    case error =>
      simp only [loop, metAt, pollAt, workAt, Option.some.injEq, Prod.mk.injEq] at stopped
      obtain ⟨rfl, rfl⟩ := stopped
      refine ⟨[], .met false :: u ++ [.work false], 0, by simp, ⟨u, looked, rfl, rfl⟩, ?_, rfl⟩
      simp [workMarks, pollMarks, metMarks, Except.isOk, Except.toBool]
    obtain ⟨w, paused, pauseMarks⟩ := marked.pause (p.iterations + 1) x₃
    rcases pauseAt : pc.pause (p.iterations + 1) x₃ with ⟨_ | _, x₄⟩ <;>
      rw [pauseAt] at paused pauseMarks
    case true =>
      simp only [loop, metAt, pollAt, workAt, pauseAt, Option.some.injEq, Prod.mk.injEq] at stopped
      obtain ⟨rfl, rfl⟩ := stopped
      refine ⟨[], .met false :: u ++ .work true :: w, 1, by simp,
        .inr ⟨u, w, looked, paused, rfl, rfl⟩, ?_, rfl⟩
      simp [pauseMarks, workMarks, pollMarks, metMarks, Except.isOk, Except.toBool]
    -- the pass went on: it is the first of the passes of the rest of the run
    simp only [loop, metAt, pollAt, workAt, pauseAt] at stopped
    obtain ⟨passes, final, k, allPass, ends, rest, counted⟩ :=
      loop_word marked fuel (p.record v) x₄ o x' stopped
    refine ⟨(.met false :: u ++ .work true :: w) :: passes, final, k, ?_, ends, ?_, ?_⟩
    · intro pass member
      rcases List.mem_cons.mp member with first | later
      · exact ⟨u, w, looked, paused, first⟩
      · exact allPass pass later
    · simp [rest, pauseMarks, workMarks, pollMarks, metMarks, Except.isOk, Except.toBool]
    · simp only [counted, Progress.record, List.length_cons]
      omega

end Marked

end Pacing

/-! ### The looks and pauses of each strategy -/

namespace Iteration

variable {σ α : Type}

/-- What looking at the flag before the work spells, by its answer: `busy` and `reinterrupt`
observe the flag, `throttled` does not look and goes on. -/
def looks : Iteration → List (Bool × List Mark)
  | .throttled _ => [(false, [])]
  | _ => [(false, [.observe false]), (true, [.observe true])]

/-- What the pause after a good call spells, by its answer: `busy` does not pause, `throttled`
waits and stops when the wait is cancelled, and `reinterrupt` waits and, when the wait is
cancelled, raises the flag again and goes on. -/
def pauses : Iteration → List (Bool × List Mark)
  | .busy => [(false, [])]
  | .throttled _ => [(false, [.suspend false]), (true, [.suspend true])]
  | .reinterrupt _ => [(false, [.suspend false]), (false, [.suspend true, .rearm])]

/-- The pacing of every strategy over a traced host spells its looks and pauses. -/
theorem marked_traced (it : Iteration) (host : Host σ α) :
    (it.pacing host.traced).Marked it.looks it.pauses where
  met x := by simp [Iteration.pacing_met, Host.traced, Check.keep, Check.word, Check.mark]
  poll x := by
    cases it <;>
      simp only [Iteration.pacing, Pacing.busy, Pacing.throttled, Pacing.reinterrupt, Host.traced,
        Check.keep, looks]
    -- only `busy` and `reinterrupt` look, and they observe
    case throttled => exact ⟨[], by simp, by simp⟩
    all_goals
      exact ⟨[.observe (host.observe x.1).1], by cases (host.observe x.1).1 <;> simp,
        by simp [Check.word, Check.mark]⟩
  work k x := by simp [Iteration.pacing_work, Host.traced, Check.keep, Check.word, Check.mark]
  pause k x := by
    cases it <;>
      simp only [Iteration.pacing, Pacing.busy, Pacing.throttled, Pacing.reinterrupt, pauses]
    case busy => exact ⟨[], by simp, by simp⟩
    -- a wait adds its letter; a cancelled wait of `reinterrupt` adds the raise after it
    all_goals
      rcases waited : host.traced.suspend _ x with ⟨_ | _, y⟩ <;>
        simp only [Host.traced, Check.keep, Prod.mk.injEq] at waited <;>
        obtain ⟨answer, rfl⟩ := waited <;>
        simp [answer, Host.traced, Check.word, Check.mark]

end Iteration

end Cadence
