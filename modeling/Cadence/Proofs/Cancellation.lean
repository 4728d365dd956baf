import Cadence.Proofs.Loop.Along
import Cadence.Proofs.Loop.Trace
import Cadence.Proofs.Scenario.Frame

/-!
# Cadence.Proofs.Cancellation

A cancellation is never lost, never used twice, and is acted on at once.

Only two check points clear the run's flag: looking at it and waiting on it. Every other check
point keeps a raised flag raised, since the conditions and the work only raise flags, and
`rearm` raises it. So once raised, the flag stays raised until a check point catches it, and
each strategy makes that catch end the run as cancelled: `busy` and `reinterrupt` look at the
flag before every call of the work, and `throttled` waits on it after every call. The one
exception is the wait of `reinterrupt`, which raises the flag again at once for the next look
to catch.

## Main result

`cancellation_kept_until_caught`: in the trace of a run of any strategy against a scripted
scene,
* a check point that catches the flag is the last one and the run ends cancelled, unless it is
  a wait of `reinterrupt`, followed at once by raising the flag again;
* a run that ends cancelled had its flag raised at some point, and ends with it clear;
* from any point where the flag is raised, every later world has it raised, but right after a
  check point that caught it; a run that does not end cancelled ends with it raised; and at most
  `Iteration.grace` calls of the work follow: none for `busy` and `reinterrupt`, one for
  `throttled`.

## Proof strategy

`Pacing.loop_rule`, with one assertion per point of a pass. The assertion `Watched s n` says of
a traced world that it is the world after the last check point of its trace, that every catch so
far was a wait raised again at once, and that from every point where the flag was raised it
stayed raised, but in such waits, with at most `n` calls of the work. Appending a check point
that keeps a raised flag keeps it (`Watched.keep`, `Watched.keep_calm`), and a catch at the end
settles the run (`Watched.caught`).
-/

namespace Cadence

/-- How many calls of the work a strategy may still start once its flag is raised: `throttled`
does not look before working, and finds the flag only in the wait after the call. -/
def Iteration.grace : Iteration → Nat
  | .busy => 0
  | .throttled _ => 1
  | .reinterrupt _ => 0

end Cadence

namespace Cadence.Scenario

variable {α : Type}

/-- Whether the run's flag is raised. -/
def Scene.signalled (s : Scene α) : Bool := s.tokens.isSignalled s.flag

/-! ### Raising flags keeps the run's flag raised -/

namespace Scene

variable {s : Scene α}

/-- An operation that only raises flags keeps the run's flag raised. -/
theorem Raises.signalled {s' : Scene α} (raises : Raises s s') (raised : s.signalled) :
    s'.signalled := by
  show s'.tokens.isSignalled s'.flag = true
  rw [raises.flag_eq]
  exact raises.raised _ raised

theorem signalled_work (raised : s.signalled) (steps : List (Step α)) :
    (work steps s).2.signalled :=
  (raises_work steps s).signalled raised

theorem observe_signalled (s : Scene α) :
    (runFlag.observe s).1 = s.signalled ∧ (runFlag.observe s).2.signalled = false :=
  ⟨rfl, Tokens.isSignalled_clear_self s.tokens s.flag⟩

theorem suspend_signalled (d : Duration) (s : Scene α) :
    (runFlag.suspend d s).1 = s.signalled ∧ (runFlag.suspend d s).2.signalled = false :=
  ⟨rfl, Tokens.isSignalled_clear_self s.tokens s.flag⟩

end Scene

theorem signalled_met {s : Scene α} (raised : s.signalled) (t : Terminator Probe) :
    (t.met Scene.ask Scene.now (fun _ s => s) s).2.signalled :=
  (raises_met t s).signalled raised

/-! ### Traces and the points where the flag is raised -/

/-- The world after the last check point of a trace, or `s` before the first. -/
def lastWorld (s : Scene α) (tr : List (Check α × Scene α)) : Scene α :=
  (tr.getLast?.map Prod.snd).getD s

@[simp] theorem lastWorld_nil (s : Scene α) : lastWorld s [] = s := rfl

@[simp] theorem lastWorld_snoc (s : Scene α) (tr : List (Check α × Scene α))
    (e : Check α × Scene α) : lastWorld s (tr ++ [e]) = e.2 := by
  simp [lastWorld]

/-- A trace split before its last entry, or after it. -/
theorem split_snoc {β : Type} {tr pre post : List β} {e : β} (split : tr ++ [e] = pre ++ post) :
    (pre = tr ++ [e] ∧ post = []) ∨ ∃ c, tr = pre ++ c ∧ post = c ++ [e] := by
  rcases List.append_eq_append_iff.mp split with ⟨as, inPre, rest⟩ | ⟨bs, inTr, tail⟩
  · rcases List.append_eq_singleton_iff.mp rest.symm with ⟨empty, whole⟩ | ⟨single, empty⟩
    · exact .inr ⟨[], by simp [inPre, empty], by simp [whole]⟩
    · exact .inl ⟨by rw [inPre, single], empty⟩
  · exact .inr ⟨bs, inTr, tail⟩

/-- An entry of a trace with one more entry is that entry, or one of the trace's. -/
theorem split_snoc_entry {β : Type} {tr pre post : List β} {e a : β}
    (split : tr ++ [e] = pre ++ a :: post) :
    (pre = tr ∧ a = e ∧ post = []) ∨ ∃ c, tr = pre ++ a :: c ∧ post = c ++ [e] := by
  rcases split_snoc split with ⟨-, impossible⟩ | ⟨c, inTr, tail⟩
  · cases impossible
  · rcases c with _ | ⟨b, c⟩
    · simp only [List.nil_append, List.cons.injEq] at tail
      exact .inl ⟨by simpa using inTr.symm, tail.1, tail.2⟩
    · simp only [List.cons_append, List.cons.injEq] at tail
      rw [← tail.1] at inTr
      exact .inr ⟨c, inTr, tail.2⟩

/-- Every catch of the flag in a trace is a wait followed at once by raising the flag again. -/
def Rearmed (tr : List (Check α × Scene α)) : Prop :=
  ∀ pre c w post, tr = pre ++ (c, w) :: post → c.catches →
    c = .suspend true ∧ ∃ w' rest, post = (.rearm, w') :: rest

/-- From every point of a trace from `s` where the flag is raised, every later world has it
raised but right after a wait that caught it, and at most `n` calls of the work follow. -/
def Raised (s : Scene α) (n : Nat) (tr : List (Check α × Scene α)) : Prop :=
  ∀ pre post, tr = pre ++ post → (lastWorld s pre).signalled →
    (∀ e ∈ post, e.2.signalled ∨ e.1 = .suspend true) ∧ post.countP (fun e => e.1.isWork) ≤ n

theorem Rearmed.snoc {tr : List (Check α × Scene α)} (rearmed : Rearmed tr)
    {e : Check α × Scene α} (kept : e.1.catches = false) : Rearmed (tr ++ [e]) := by
  intro pre c w post split caught
  rcases split_snoc_entry split with ⟨-, same, -⟩ | ⟨rest, inTr, tail⟩
  · rw [← same] at kept
    simp [kept] at caught
  · obtain ⟨wait, w', rest', after⟩ := rearmed pre c w rest inTr caught
    exact ⟨wait, w', rest' ++ [e], by rw [tail, after, List.cons_append]⟩

/-- Appending a check point whose world has the flag raised wherever some point before had it
raised keeps `Raised`, with one more call of the work if it is one. -/
theorem Raised.snoc {s : Scene α} {n : Nat} {tr : List (Check α × Scene α)}
    (raised : Raised s n tr) {e : Check α × Scene α}
    (kept : ∀ pre post, tr = pre ++ post → (lastWorld s pre).signalled →
      e.2.signalled ∨ e.1 = .suspend true) :
    Raised s (n + if e.1.isWork then 1 else 0) (tr ++ [e]) := by
  intro pre post split set
  rcases split_snoc split with ⟨-, empty⟩ | ⟨c, inTr, tail⟩
  · subst empty
    exact ⟨fun _ absent => absurd absent List.not_mem_nil, Nat.zero_le _⟩
  · obtain ⟨entries, count⟩ := raised pre c inTr set
    subst tail
    refine ⟨fun a member => ?_, ?_⟩
    · rcases List.mem_append.mp member with inC | isE
      · exact entries a inC
      · rw [List.mem_singleton.mp isE]
        exact kept pre c inTr set
    · rw [List.countP_append, List.countP_singleton]
      omega

/-- Appending a check point after a trace where the flag was never raised keeps `Raised` with
no call of the work. -/
theorem Raised.snoc_calm {s : Scene α} {tr : List (Check α × Scene α)}
    (calm : ∀ pre post, tr = pre ++ post → (lastWorld s pre).signalled = false)
    (e : Check α × Scene α) : Raised s 0 (tr ++ [e]) := by
  intro pre post split set
  rcases split_snoc split with ⟨-, empty⟩ | ⟨c, inTr, -⟩
  · subst empty
    exact ⟨fun _ absent => absurd absent List.not_mem_nil, Nat.zero_le _⟩
  · rw [calm pre c inTr] at set
    cases set

/-! ### What a run keeps while it goes on -/

/-- What a traced run from `s` keeps at every point where it may go on: its world is the one
after its last check point, every catch so far was a wait raised again at once, and from every
point where the flag was raised it stayed raised, with at most `n` calls of the work. -/
structure Watched (s : Scene α) (n : Nat) (x : Scene α × List (Check α × Scene α)) : Prop where
  current : x.1 = lastWorld s x.2
  rearmed : Rearmed x.2
  raised : Raised s n x.2

namespace Watched

variable {s : Scene α} {n : Nat} {x : Scene α × List (Check α × Scene α)}

theorem start (s : Scene α) : Watched s 0 (s, []) := by
  refine ⟨rfl, fun pre c w post split => ?_, fun pre post split _ => ?_⟩
  · exact absurd split.symm (by simp)
  · obtain ⟨-, empty⟩ := List.append_eq_nil_iff.mp split.symm
    subst empty
    exact ⟨fun _ absent => absurd absent List.not_mem_nil, Nat.zero_le _⟩

/-- Once the flag was raised at some point, the current world has it raised: the last check
point kept it, or was a wait, which is always raised again. -/
theorem signalled_of_raised (watched : Watched s n x) {pre post : List (Check α × Scene α)}
    (split : x.2 = pre ++ post) (set : (lastWorld s pre).signalled) : x.1.signalled := by
  rcases List.eq_nil_or_concat post with empty | ⟨post', e, whole⟩
  · rw [empty, List.append_nil] at split
    rw [watched.current, split]
    exact set
  · rw [List.concat_eq_append] at whole
    rw [whole, ← List.append_assoc] at split
    have entry := (watched.raised pre post (by rw [split, whole, List.append_assoc]) set).1 e
      (by simp [whole])
    rw [watched.current, split, lastWorld_snoc]
    rcases entry with raised | wait
    · exact raised
    · -- a wait is a catch, so it is not the last check point
      obtain ⟨-, w', rest, impossible⟩ :=
        watched.rearmed (pre ++ post') e.1 e.2 [] (by rw [split]) (by rw [wait]; rfl)
      cases impossible

/-- If the current world has the flag clear, no point of the run had it raised. -/
theorem calm (watched : Watched s n x) (clear : x.1.signalled = false) :
    ∀ pre post, x.2 = pre ++ post → (lastWorld s pre).signalled = false := by
  intro pre post split
  cases set : (lastWorld s pre).signalled
  · rfl
  · rw [watched.signalled_of_raised split set] at clear
    cases clear

/-- A check point that keeps a raised flag raised and does not catch it keeps the run watched,
with one more call of the work if it is one. -/
theorem keep (watched : Watched s n x) {e : Check α × Scene α} (kept : e.1.catches = false)
    (raises : x.1.signalled → e.2.signalled) :
    Watched s (n + if e.1.isWork then 1 else 0) (e.2, x.2 ++ [e]) :=
  ⟨(lastWorld_snoc s x.2 e).symm, watched.rearmed.snoc kept,
    watched.raised.snoc fun _ _ split set => .inl (raises (watched.signalled_of_raised split set))⟩

/-- After a world with the flag clear, a check point that does not catch it keeps the run
watched with no call of the work counted. -/
theorem keep_calm (watched : Watched s n x) (clear : x.1.signalled = false)
    {e : Check α × Scene α} (kept : e.1.catches = false) : Watched s 0 (e.2, x.2 ++ [e]) :=
  ⟨(lastWorld_snoc s x.2 e).symm, watched.rearmed.snoc kept,
    Raised.snoc_calm (watched.calm clear) e⟩

/-- A wait that caught the flag, followed at once by raising it again, keeps the run watched. -/
theorem rearm (watched : Watched s n x) (w : Scene α) {w' : Scene α} (raisedAgain : w'.signalled) :
    Watched s n (w', x.2 ++ [(.suspend true, w), (.rearm, w')]) := by
  have raised := (watched.raised.snoc (e := (.suspend true, w)) fun _ _ _ _ => .inr rfl).snoc
    (e := (.rearm, w')) fun _ _ _ _ => .inl raisedAgain
  simp only [Check.isWork, Bool.false_eq_true, if_false, Nat.add_zero, List.append_assoc,
    List.singleton_append] at raised
  refine ⟨by simp [lastWorld], fun pre c v post split caught => ?_, raised⟩
  -- the new catch is the wait, followed by the raise; older ones are followed as before
  rw [show x.2 ++ [(.suspend true, w), (.rearm, w')] =
    (x.2 ++ [(.suspend true, w)]) ++ [(.rearm, w')] by simp] at split
  rcases split_snoc_entry split with ⟨-, same, -⟩ | ⟨rest, inTr, tail⟩
  · simp only [Prod.mk.injEq] at same
    rw [same.1] at caught
    cases caught
  · rcases split_snoc_entry inTr with ⟨-, same, empty⟩ | ⟨rest', older, tail'⟩
    · rw [empty] at tail
      cases same
      exact ⟨rfl, w', [], tail⟩
    · obtain ⟨wait, v', rest'', after⟩ := watched.rearmed pre c v rest' older caught
      refine ⟨wait, v', rest'' ++ [(.suspend true, w), (.rearm, w')], ?_⟩
      rw [tail, tail', after]
      simp

end Watched

/-! ### How a run ends -/

/-- What a traced run from `s` that stopped with `stop` has done: every catch ended the run as
cancelled or was a wait raised again at once; a cancelled run had its flag raised and ends with
it clear; and from every point where the flag was raised it stayed raised but right after a
catch, the run ends with it raised unless cancelled, and at most `bound` calls of the work
follow. -/
structure Settled (s : Scene α) (bound : Nat) (stop : Stop)
    (x : Scene α × List (Check α × Scene α)) : Prop where
  caught : ∀ pre c w post, x.2 = pre ++ (c, w) :: post → c.catches →
    (post = [] ∧ stop = .cancelled) ∨ (c = .suspend true ∧ ∃ w' rest, post = (.rearm, w') :: rest)
  cancelled : stop = .cancelled →
    x.1.signalled = false ∧ ∃ pre post, x.2 = pre ++ post ∧ (lastWorld s pre).signalled
  raised : ∀ pre post, x.2 = pre ++ post → (lastWorld s pre).signalled →
    (∀ e ∈ post, e.2.signalled ∨ e.1.catches) ∧ (stop ≠ .cancelled → x.1.signalled) ∧
      post.countP (fun e => e.1.isWork) ≤ bound

namespace Watched

variable {s : Scene α} {n : Nat} {x : Scene α × List (Check α × Scene α)}

/-- A watched run that stops other than cancelled is settled. -/
theorem settle (watched : Watched s n x) {bound : Nat} (within : n ≤ bound) {stop : Stop}
    (uncancelled : stop ≠ .cancelled) : Settled s bound stop x := by
  refine ⟨fun pre c w post split caught => .inr (watched.rearmed pre c w post split caught),
    fun cancelled => absurd cancelled uncancelled, fun pre post split set => ?_⟩
  obtain ⟨entries, count⟩ := watched.raised pre post split set
  refine ⟨fun e member => ?_, fun _ => watched.signalled_of_raised split set, by omega⟩
  rcases entries e member with raised | wait
  · exact .inl raised
  · exact .inr (by rw [wait]; rfl)

/-- A catch of a raised flag at the end of a watched run settles it as cancelled. -/
theorem caught (watched : Watched s n x) {bound : Nat} (within : n ≤ bound)
    (set : x.1.signalled) {c : Check α} {w : Scene α} (catches : c.catches)
    (notWork : c.isWork = false) (cleared : w.signalled = false) :
    Settled s bound .cancelled (w, x.2 ++ [(c, w)]) := by
  refine ⟨fun pre c' w' post split caught => ?_, fun _ => ⟨cleared, x.2, [(c, w)], rfl, ?_⟩,
    fun pre post split raised => ?_⟩
  · rcases split_snoc_entry split with ⟨-, -, empty⟩ | ⟨rest, inTr, tail⟩
    · exact .inl ⟨empty, rfl⟩
    · obtain ⟨wait, v, rest', after⟩ := watched.rearmed pre c' w' rest inTr caught
      exact .inr ⟨wait, v, rest' ++ [(c, w)], by rw [tail, after, List.cons_append]⟩
  · rw [← watched.current]
    exact set
  · rcases split_snoc split with ⟨-, empty⟩ | ⟨rest, inTr, tail⟩
    · subst empty
      exact ⟨fun _ absent => absurd absent List.not_mem_nil,
        fun uncancelled => absurd rfl uncancelled, Nat.zero_le _⟩
    · obtain ⟨entries, count⟩ := watched.raised pre rest inTr raised
      subst tail
      refine ⟨fun e member => ?_, fun uncancelled => absurd rfl uncancelled, ?_⟩
      · rcases List.mem_append.mp member with inRest | isCatch
        · rcases entries e inRest with raisedE | wait
          · exact .inl raisedE
          · exact .inr (by rw [wait]; rfl)
        · rw [List.mem_singleton.mp isCatch]
          exact .inr catches
      · rw [List.countP_append, List.countP_singleton]
        simp only [notWork, Bool.false_eq_true, if_false]
        omega

end Watched

/-! ### The check points of a scene, traced -/

section Traced

variable (h : Handle Probe (Scene α) α) {s : Scene α} {n : Nat}
  {x : Scene α × List (Check α × Scene α)}

theorem Watched.met (watched : Watched s n x) :
    Watched s n ((h.host Scene.ask Scene.now Scene.runFlag fun _ s => s).traced.met x).2 := by
  have kept := watched.keep (e := (.met (h.terminator.met Scene.ask Scene.now (fun _ s => s)
    x.1).1, (h.terminator.met Scene.ask Scene.now (fun _ s => s) x.1).2)) rfl
    (fun raised => signalled_met raised h.terminator)
  simpa [Host.traced, Handle.host, Check.keep, Check.isWork] using kept

/-- Looking at a raised flag catches it, and settles the run as cancelled. -/
theorem Watched.observe_raised (watched : Watched s n x) {bound : Nat} (within : n ≤ bound)
    (set : x.1.signalled) :
    ((h.host Scene.ask Scene.now Scene.runFlag fun _ s => s).traced.observe x).1 = true ∧
      Settled s bound .cancelled
        ((h.host Scene.ask Scene.now Scene.runFlag fun _ s => s).traced.observe x).2 := by
  obtain ⟨answer, cleared⟩ := Scene.observe_signalled x.1
  rw [set] at answer
  have settled := watched.caught within set (c := .observe true) rfl rfl cleared
  simp only [Host.traced, Handle.host, Check.keep, answer]
  exact ⟨trivial, settled⟩

/-- Looking at a clear flag answers `false`, and keeps the run watched with the flag clear. -/
theorem Watched.observe_clear (watched : Watched s n x) (clear : x.1.signalled = false) :
    ((h.host Scene.ask Scene.now Scene.runFlag fun _ s => s).traced.observe x).1 = false ∧
      Watched s 0 ((h.host Scene.ask Scene.now Scene.runFlag fun _ s => s).traced.observe x).2 ∧
      ((h.host Scene.ask Scene.now Scene.runFlag fun _ s => s).traced.observe x).2.1.signalled =
        false := by
  obtain ⟨answer, cleared⟩ := Scene.observe_signalled x.1
  rw [clear] at answer
  have kept := watched.keep_calm clear (e := (.observe false, (Scene.runFlag.observe x.1).2)) rfl
  simp only [Host.traced, Handle.host, Check.keep, answer]
  exact ⟨trivial, kept, cleared⟩

/-- A wait on a clear flag runs its course: it answers `false` and keeps the run watched. -/
theorem Watched.suspend_clear (watched : Watched s n x) (clear : x.1.signalled = false)
    (d : Duration) :
    ∃ y, (h.host Scene.ask Scene.now Scene.runFlag fun _ s => s).traced.suspend d x = (false, y) ∧
      Watched s 0 y := by
  obtain ⟨answer, -⟩ := Scene.suspend_signalled d x.1
  rw [clear] at answer
  have kept := watched.keep_calm clear (e := (.suspend false, (Scene.runFlag.suspend d x.1).2)) rfl
  simp only [Host.traced, Handle.host, Check.keep, answer]
  exact ⟨_, rfl, kept⟩

variable {steps : List (Step α)}

/-- A call of the work keeps the run watched, counted as one more call. -/
theorem Watched.work (scripted : h.work = Scene.work steps) (watched : Watched s n x) :
    Watched s (n + 1)
      ((h.host Scene.ask Scene.now Scene.runFlag fun _ s => s).traced.work x).2 := by
  have kept := watched.keep (e := (.work (Scene.work steps x.1).1, (Scene.work steps x.1).2)) rfl
    (fun raised => Scene.signalled_work raised steps)
  simpa [Host.traced, Handle.host, Check.keep, Check.isWork, scripted] using kept

/-- A call of the work after a clear flag keeps the run watched with no call counted. -/
theorem Watched.work_calm (scripted : h.work = Scene.work steps) (watched : Watched s n x)
    (clear : x.1.signalled = false) :
    Watched s 0 ((h.host Scene.ask Scene.now Scene.runFlag fun _ s => s).traced.work x).2 := by
  have kept := watched.keep_calm clear
    (e := (.work (Scene.work steps x.1).1, (Scene.work steps x.1).2)) rfl
  simpa [Host.traced, Handle.host, Check.keep, scripted] using kept

end Traced

/-! ### Every strategy keeps the flag until it catches it -/

section Strategies

variable (h : Handle Probe (Scene α) α) {steps : List (Step α)} (s : Scene α)

/-- Asking the terminator keeps a run watched, and settles it if the terminator is met. -/
theorem met_settles {n bound : Nat} (within : n ≤ bound) (x : Scene α × List (Check α × Scene α))
    (watched : Watched s n x) (b : Bool) (x' : Scene α × List (Check α × Scene α))
    (metAt : (h.host Scene.ask Scene.now Scene.runFlag fun _ s => s).traced.met x = (b, x')) :
    if b then Settled s bound .terminated x' else Watched s n x' := by
  have next := watched.met h
  rw [metAt] at next
  cases b
  · simpa using next
  · have ended : Settled s bound .terminated x' := next.settle within Stop.noConfusion
    simpa using ended

/-- Looking at the flag settles a run as cancelled if it was raised, and otherwise keeps it
watched with the flag clear. -/
theorem observe_settles {n bound : Nat} (within : n ≤ bound)
    (x : Scene α × List (Check α × Scene α)) (watched : Watched s n x) (b : Bool)
    (x' : Scene α × List (Check α × Scene α))
    (pollAt : (h.host Scene.ask Scene.now Scene.runFlag fun _ s => s).traced.observe x = (b, x')) :
    if b then Settled s bound .cancelled x' else Watched s 0 x' ∧ x'.1.signalled = false := by
  cases set : x.1.signalled
  · obtain ⟨answer, next, clear⟩ := watched.observe_clear h set
    rw [pollAt] at answer next clear
    subst answer
    simpa using ⟨next, clear⟩
  · obtain ⟨answer, settled⟩ := watched.observe_raised h within set
    rw [pollAt] at answer settled
    subst answer
    simpa using settled

/-- A call of the work after a clear flag keeps a run watched, and settles it if it fails. -/
theorem work_calm_settles (scripted : h.work = Scene.work steps) {n bound : Nat}
    (x : Scene α × List (Check α × Scene α)) (watched : Watched s n x)
    (clear : x.1.signalled = false) (r : Except Fault α) (x' : Scene α × List (Check α × Scene α)) :
    (h.host Scene.ask Scene.now Scene.runFlag fun _ s => s).traced.work x = (r, x') →
    match r with
    | .ok _ => Watched s 0 x'
    | .error e => Settled s bound (.failed e) x' := by
  intro workAt
  have next := watched.work_calm h scripted clear
  rw [workAt] at next
  cases r with
  | ok v => exact next
  | error e => exact next.settle (Nat.zero_le bound) Stop.noConfusion

/-- A traced `busy` loop from a watched world settles with no call after a raised flag. -/
theorem busy_settles (scripted : h.work = Scene.work steps) (fuel : Nat) (p : Progress α)
    (x : Scene α × List (Check α × Scene α))
    (watched : Watched s 0 x) {o : Outcome α} {x' : Scene α × List (Check α × Scene α)}
    (stopped : (Pacing.busy (h.host Scene.ask Scene.now Scene.runFlag fun _ s => s).traced).loop
      fuel p x = some (o, x')) : Settled s 0 o.stop x' := by
  -- the flag is clear after a look that did not catch it, so the work is never counted
  refine Pacing.loop_rule _ (Watched s 0) (Watched s 0)
    (fun x => Watched s 0 x ∧ x.1.signalled = false) (Watched s 0) (Settled s 0)
    ?met ?poll ?work ?pause fuel p x watched o x' stopped
  case met => exact met_settles h s (Nat.le_refl _)
  case poll => exact observe_settles h s (Nat.le_refl _)
  case work =>
    intro k x calm r x' workAt
    simp only [Pacing.busy, Host.traced, Handle.host] at workAt
    exact work_calm_settles h s scripted x calm.1 calm.2 r x' workAt
  case pause =>
    intro k x watched b x' pauseAt
    simp only [Pacing.busy, Prod.mk.injEq] at pauseAt
    obtain ⟨rfl, rfl⟩ := pauseAt
    simpa using watched

/-- A traced `throttled` loop from a watched world settles with at most one call after a
raised flag. -/
theorem throttled_settles (scripted : h.work = Scene.work steps) (d : Duration) (fuel : Nat)
    (p : Progress α)
    (x : Scene α × List (Check α × Scene α)) (watched : Watched s 0 x) {o : Outcome α}
    {x' : Scene α × List (Check α × Scene α)}
    (stopped : (Pacing.throttled (h.host Scene.ask Scene.now Scene.runFlag fun _ s => s).traced
      d).loop fuel p x = some (o, x')) : Settled s 1 o.stop x' := by
  -- `throttled` does not look before working: one call may follow a raised flag, and the wait
  -- after it catches the flag
  refine Pacing.loop_rule _ (Watched s 0) (Watched s 0) (Watched s 0) (Watched s 1)
    (Settled s 1) ?met ?poll ?work ?pause fuel p x watched o x' stopped
  case met => exact met_settles h s (Nat.zero_le 1)
  case poll =>
    intro x watched b x' pollAt
    simp only [Pacing.throttled, Prod.mk.injEq] at pollAt
    obtain ⟨rfl, rfl⟩ := pollAt
    simpa using watched
  case work =>
    intro k x watched r x' workAt
    simp only [Pacing.throttled, Host.traced, Handle.host] at workAt
    have next := watched.work h scripted
    simp only [Host.traced, Handle.host, workAt] at next
    cases r with
    | ok v => exact next
    | error e => exact next.settle (Nat.le_refl _) Stop.noConfusion
  case pause =>
    intro k x watched b x' pauseAt
    cases set : x.1.signalled
    · -- the wait runs its course
      obtain ⟨y, suspendAt, next⟩ := watched.suspend_clear h set d
      simp only [Pacing.throttled, suspendAt, Prod.mk.injEq] at pauseAt
      obtain ⟨rfl, rfl⟩ := pauseAt
      simpa using next
    · -- the wait catches the flag
      obtain ⟨answer, cleared⟩ := Scene.suspend_signalled d x.1
      rw [set] at answer
      have settled := watched.caught (Nat.le_refl 1) set (c := .suspend true) rfl rfl cleared
      simp only [Pacing.throttled, Host.traced, Handle.host, Check.keep, answer,
        Prod.mk.injEq] at pauseAt
      obtain ⟨rfl, rfl⟩ := pauseAt
      simpa using settled

/-- A traced `reinterrupt` loop from a watched world settles with no call after a raised
flag. -/
theorem reinterrupt_settles (scripted : h.work = Scene.work steps) (d : Duration) (fuel : Nat)
    (p : Progress α)
    (x : Scene α × List (Check α × Scene α)) (watched : Watched s 0 x) {o : Outcome α}
    {x' : Scene α × List (Check α × Scene α)}
    (stopped : (Pacing.reinterrupt (h.host Scene.ask Scene.now Scene.runFlag fun _ s => s).traced
      d).loop fuel p x = some (o, x')) : Settled s 0 o.stop x' := by
  refine Pacing.loop_rule _ (Watched s 0) (Watched s 0)
    (fun x => Watched s 0 x ∧ x.1.signalled = false) (Watched s 0) (Settled s 0)
    ?met ?poll ?work ?pause fuel p x watched o x' stopped
  case met => exact met_settles h s (Nat.le_refl _)
  case poll => exact observe_settles h s (Nat.le_refl _)
  case work =>
    intro k x calm r x' workAt
    simp only [Pacing.reinterrupt, Host.traced, Handle.host] at workAt
    exact work_calm_settles h s scripted x calm.1 calm.2 r x' workAt
  case pause =>
    intro k x watched b x' pauseAt
    cases set : x.1.signalled
    · -- the wait runs its course
      obtain ⟨y, suspendAt, next⟩ := watched.suspend_clear h set d
      simp only [Pacing.reinterrupt, suspendAt, Prod.mk.injEq] at pauseAt
      obtain ⟨rfl, rfl⟩ := pauseAt
      simpa using next
    · -- the wait catches the flag, and raising it again gives back the world before the wait
      obtain ⟨answer, -⟩ := Scene.suspend_signalled d x.1
      rw [set] at answer
      have undone := Scene.rearm_suspend_of_cancelled (d := d) (s := x.1) answer
      have next := watched.rearm (Scene.runFlag.suspend d x.1).2 set
      simp only [Pacing.reinterrupt, Host.traced, Handle.host, Check.keep, answer, undone,
        Prod.mk.injEq, List.append_assoc, List.singleton_append] at pauseAt
      obtain ⟨rfl, rfl⟩ := pauseAt
      simpa using next

end Strategies

/-- A traced run of any strategy from `s` is settled, with at most `Iteration.grace` calls of the
work after a raised flag. -/
theorem drive_settled [Inhabited α] (h : Handle Probe (Scene α) α) (steps : List (Step α))
    (scripted : h.work = Scene.work steps) (it : Iteration) (fuel : Nat) (s : Scene α)
    {o : Outcome α} {s' : Scene α} {tr : List (Check α × Scene α)}
    (ran : it.drive (h.host Scene.ask Scene.now Scene.runFlag fun _ s => s).traced fuel (s, []) =
      some (o, (s', tr))) :
    Settled s it.grace o.stop (s', tr) := by
  rw [Iteration.drive_eq_loop] at ran
  cases it with
  | busy => exact busy_settles h s scripted fuel .start (s, []) (Watched.start s) ran
  | throttled d => exact throttled_settles h s scripted d fuel .start (s, []) (Watched.start s) ran
  | reinterrupt d =>
    exact reinterrupt_settles h s scripted d fuel .start (s, []) (Watched.start s) ran

/-- **A cancellation is kept until it is caught.** In the trace of a run of any strategy, a catch
of the flag ends the run as cancelled unless it is a wait raised again at once; a cancelled run
had its flag raised; and from any point with the flag raised it stays raised but right after a
catch, with at most `Iteration.grace` calls of the work. -/
theorem cancellation_kept_until_caught [Inhabited α] (h : Handle Probe (Scene α) α)
    (steps : List (Step α)) (scripted : h.work = Scene.work steps) (it : Iteration) (fuel : Nat)
    (s : Scene α)
    {o : Outcome α} {s' : Scene α} {tr : List (Check α × Scene α)}
    (ran : it.drive (h.host Scene.ask Scene.now Scene.runFlag fun _ s => s).traced fuel (s, []) =
      some (o, (s', tr))) :
    (∀ pre c w post, tr = pre ++ (c, w) :: post → c.catches →
      (post = [] ∧ o.stop = .cancelled) ∨
        (c = .suspend true ∧ ∃ w' rest, post = (.rearm, w') :: rest)) ∧
    (o.stop = .cancelled →
      s'.signalled = false ∧ ∃ pre post, tr = pre ++ post ∧ (lastWorld s pre).signalled) ∧
    ∀ pre post, tr = pre ++ post → (lastWorld s pre).signalled →
      (∀ e ∈ post, e.2.signalled ∨ e.1.catches) ∧ (o.stop ≠ .cancelled → s'.signalled) ∧
        post.countP (fun e => e.1.isWork) ≤ it.grace := by
  have settled := drive_settled h steps scripted it fuel s ran
  exact ⟨settled.caught, settled.cancelled, settled.raised⟩

/-- A `reinterrupt` run whose first call raises the run's own token: its wait catches the flag
and raises it again, and the look of the next pass catches it for good. -/
theorem cancellation_kept_through_rearmed_wait :
    let steps : List (Step Nat) := [.ok 1 [.own], .ok 2 []]
    let h : Handle Probe (Scene Nat) Nat :=
      { work := Scene.work steps, terminator := .never,
        iteration := .reinterrupt (Duration.ofMillis 10), hook := .none, policy := .contain }
    let s : Scene Nat := { tokens := Tokens.ofGroup 1, own := 0, flag := 0 }
    h.work = Scene.work steps ∧
    ∃ (o : Outcome Nat) (s' : Scene Nat) (tr : List (Check Nat × Scene Nat)),
      h.iteration.drive (h.host Scene.ask Scene.now Scene.runFlag fun _ s => s).traced 4
        (s, []) = some (o, (s', tr)) ∧
      (∀ pre c w post, tr = pre ++ (c, w) :: post → c.catches →
        (post = [] ∧ o.stop = .cancelled) ∨
          (c = .suspend true ∧ ∃ w' rest, post = (.rearm, w') :: rest)) ∧
      (o.stop = .cancelled →
        s'.signalled = false ∧ ∃ pre post, tr = pre ++ post ∧ (lastWorld s pre).signalled) ∧
      ∀ pre post, tr = pre ++ post → (lastWorld s pre).signalled →
        (∀ e ∈ post, e.2.signalled ∨ e.1.catches) ∧ (o.stop ≠ .cancelled → s'.signalled) ∧
          post.countP (fun e => e.1.isWork) ≤ h.iteration.grace := by
  intro steps h s
  obtain ⟨o, s', tr, ran⟩ :
      ∃ (o : Outcome Nat) (s' : Scene Nat) (tr : List (Check Nat × Scene Nat)),
      h.iteration.drive (h.host Scene.ask Scene.now Scene.runFlag fun _ s => s).traced 4
        (s, []) = some (o, (s', tr)) := ⟨_, _, _, rfl⟩
  exact ⟨rfl, o, s', tr, ran, cancellation_kept_until_caught h steps rfl h.iteration 4 s ran⟩

end Cadence.Scenario
