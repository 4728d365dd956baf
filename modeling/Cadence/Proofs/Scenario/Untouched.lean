import Cadence.Proofs.Scenario.Frame
import Cadence.Proofs.Loop.Along

/-!
# Cadence.Proofs.Scenario.Untouched

Runs whose flag no action reaches.

A signal names the run's own token, every token of the group, or one token by number. When the
run's token has a flag of its own (`Tokens.Fenced`), no action of the script or of the
terminator's conditions names it, and its flag is clear, then nothing in a `busy` run raises
it: the conditions and the work only perform such actions, and looking at the flag only clears
it. A detached run, on a fresh token, is such a run.

## Main results

* `busy_along_of_shielded`: a `busy` run from a shielded scene passes only through worlds where
  the flag is clear.
* `Detached.along`: so does a `busy` run on a fresh token that no action names.
-/

namespace Cadence

/-- The conditions a terminator checks. -/
def Terminator.conditions {γ : Type} : Terminator γ → List γ
  | .never | .timeout _ => []
  | .timeoutAnd c _ => c.conditions
  | .condition c => [c]

end Cadence

namespace Cadence.Scenario

variable {α : Type}

/-- Whether a signal leaves token `t` alone when `own` is the run's own token: it does not name
`t`, and cancelling the group counts as leaving it, since a token with a flag of its own is not
in the group. -/
def Signal.spares (own t : Nat) : Signal → Bool
  | .own => own != t
  | .everyToken => true
  | .token i => i != t

/-- The action a step performs. -/
def Step.act : Step α → Action
  | .ok _ act | .fail _ act => act

/-- Every action a scripted run can perform: those of its steps, and those of the conditions its
terminator checks. -/
def scriptActions (steps : List (Step α)) (t : Terminator Probe) : List Action :=
  steps.map Step.act ++ t.conditions.flatMap fun p => p.acts.map Prod.snd

/-- Whether the run's flag is clear. -/
def Scene.unsignalled (s : Scene α) : Bool := !s.tokens.isSignalled s.flag

/-- A scene whose own token is `own` and whose run's token `flag` has a flag of its own, clear. -/
structure Scene.Shielded (own flag : Nat) (s : Scene α) : Prop where
  ownEq : s.own = own
  flagEq : s.flag = flag
  fenced : s.tokens.Fenced flag
  clear : s.tokens.isSignalled flag = false

namespace Scene.Shielded

variable {own flag : Nat} {s : Scene α}

/-- A shielded scene changed only in its tokens, by a rewrite of the flags that keeps their
length and the run's flag, is shielded. -/
theorem withFlags (shielded : s.Shielded own flag) {fs : List Bool}
    (len : fs.length = s.tokens.flags.length)
    (kept : ({ s.tokens with flags := fs } : Tokens).isSignalled flag = false) :
    ({ s with tokens := { s.tokens with flags := fs } } : Scene α).Shielded own flag :=
  ⟨shielded.ownEq, shielded.flagEq, shielded.fenced.withFlags len, kept⟩

theorem signal (shielded : s.Shielded own flag) {sig : Signal} (spares : sig.spares own flag) :
    (s.signal sig).Shielded own flag := by
  obtain ⟨sameOwn, sameFlag, fenced, clear⟩ := shielded
  cases sig with
  | own =>
    have apart : s.tokens.flagOf own ≠ s.tokens.flagOf flag :=
      fenced.2 own (by simpa [Signal.spares] using spares)
    refine withFlags ⟨sameOwn, sameFlag, fenced, clear⟩ List.length_set ?_
    rw [← clear, ← Tokens.isSignalled_signal_of_ne apart, sameOwn]
    rfl
  | everyToken =>
    refine withFlags ⟨sameOwn, sameFlag, fenced, clear⟩
      (Tokens.length_foldl_set s.tokens.group s.tokens.flags) ?_
    rw [← clear, ← Tokens.isSignalled_cancelAll_of_not_mem fenced.1]
    rfl
  | token i =>
    have apart : s.tokens.flagOf i ≠ s.tokens.flagOf flag :=
      fenced.2 i (by simpa [Signal.spares] using spares)
    refine withFlags ⟨sameOwn, sameFlag, fenced, clear⟩ List.length_set ?_
    rw [← clear, ← Tokens.isSignalled_signal_of_ne apart]
    rfl

theorem perform (shielded : s.Shielded own flag) {act : Action}
    (spares : ∀ sig ∈ act, sig.spares own flag) : (s.perform act).Shielded own flag := by
  induction act generalizing s with
  | nil => exact shielded
  | cons sig act ih =>
    simp only [Scene.perform, List.foldl_cons]
    exact ih (shielded.signal (spares sig List.mem_cons_self))
      (fun sig' inRest => spares sig' (List.mem_cons_of_mem sig inRest))

theorem foldl_perform (shielded : s.Shielded own flag) {acts : List (Nat × Action)}
    (spares : ∀ a ∈ acts, ∀ sig ∈ a.2, sig.spares own flag) :
    (acts.foldl (fun s a => s.perform a.2) s).Shielded own flag := by
  induction acts generalizing s with
  | nil => exact shielded
  | cons a acts ih =>
    rw [List.foldl_cons]
    exact ih (shielded.perform (spares a List.mem_cons_self))
      (fun a' inRest => spares a' (List.mem_cons_of_mem a inRest))

/-- A check of a condition whose actions spare the flag keeps a scene shielded. -/
theorem ask (shielded : s.Shielded own flag) {p : Probe}
    (spares : ∀ a ∈ p.acts, ∀ sig ∈ a.2, sig.spares own flag) :
    (Scene.ask p s).2.Shielded own flag := by
  -- counting the check changes no token; the actions performed are some of the condition's
  have counted : ({ s with counters := s.counters.set p.id (s.counters.getD p.id 0 + 1) } :
      Scene α).Shielded own flag :=
    ⟨shielded.ownEq, shielded.flagEq, shielded.fenced, shielded.clear⟩
  exact counted.foldl_perform fun a chosen => spares a (List.mem_filter.mp chosen).1

/-- So does a terminator whose conditions' actions spare the flag. -/
theorem met (shielded : s.Shielded own flag) {t : Terminator Probe}
    (spares : ∀ p ∈ t.conditions, ∀ a ∈ p.acts, ∀ sig ∈ a.2, sig.spares own flag) :
    (t.met Scene.ask Scene.now (fun _ s => s) s).2.Shielded own flag := by
  induction t with
  | never => exact shielded
  | timeout d => exact shielded
  | timeoutAnd c d ih =>
    simp only [Terminator.met]
    split
    · exact ih spares
    · exact shielded
  | condition p => exact shielded.ask (spares p List.mem_cons_self)

/-- So does a call of a script whose steps' actions spare the flag. -/
theorem work (shielded : s.Shielded own flag) {steps : List (Step α)}
    (spares : ∀ st ∈ steps, ∀ sig ∈ st.act, sig.spares own flag) :
    (Scene.work steps s).2.Shielded own flag := by
  have counted : ({ s with calls := s.calls + 1 } : Scene α).Shielded own flag :=
    ⟨shielded.ownEq, shielded.flagEq, shielded.fenced, shielded.clear⟩
  unfold Scene.work
  -- the step called, if any, is one of the script's
  rcases called : steps[s.calls]? with _ | ⟨v, act⟩ | ⟨e, act⟩
  · exact counted
  · exact counted.perform (spares _ (List.mem_of_getElem? called))
  · exact counted.perform (spares _ (List.mem_of_getElem? called))

/-- Looking at the flag clears it, and keeps a scene shielded. -/
theorem observe (shielded : s.Shielded own flag) :
    (runFlag.observe s).2.Shielded own flag := by
  rw [runFlag_observe]
  refine ⟨shielded.ownEq, shielded.flagEq, shielded.fenced.withFlags List.length_set, ?_⟩
  rw [← shielded.flagEq]
  exact Tokens.isSignalled_clear_self s.tokens s.flag

end Scene.Shielded

/-! ### `busy` runs that never see the flag raised -/

section Busy

variable (h : Handle Probe (Scene α) α) (steps : List (Step α))

/-- A `busy` run of a scripted scene whose actions spare the run's token passes, from a shielded
scene, only through worlds where the flag is clear. -/
theorem busy_along_of_shielded (scripted : h.work = Scene.work steps) {own flag : Nat}
    (spares : ∀ a ∈ scriptActions steps h.terminator, ∀ sig ∈ a, sig.spares own flag)
    (fuel : Nat) (p : Progress α) (s : Scene α) (shielded : s.Shielded own flag) :
    (Pacing.busy (h.host Scene.ask Scene.now Scene.runFlag fun _ s => s)).along
      Scene.unsignalled fuel p s := by
  have stepSpares : ∀ st ∈ steps, ∀ sig ∈ st.act, sig.spares own flag :=
    fun st chosen => spares st.act (List.mem_append_left _ (List.mem_map_of_mem chosen))
  have conditionSpares :
      ∀ p ∈ h.terminator.conditions, ∀ a ∈ p.acts, ∀ sig ∈ a.2, sig.spares own flag :=
    fun p chosen a listed => spares a.2 (List.mem_append_right _
      (List.mem_flatMap.mpr ⟨p, chosen, List.mem_map_of_mem listed⟩))
  refine Pacing.along_of_invariant _ (Scene.Shielded own flag) _ ?good ?met ?poll ?work ?pause
    fuel p s shielded
  case good =>
    intro w shieldedW
    rw [Scene.unsignalled, shieldedW.flagEq, shieldedW.clear]
    rfl
  case met => exact fun w shieldedW => shieldedW.met conditionSpares
  case poll => exact fun w shieldedW => shieldedW.observe
  case work =>
    intro k w shieldedW
    simp only [Pacing.busy, Handle.host, scripted]
    exact shieldedW.work stepSpares
  case pause => exact fun k w shieldedW => shieldedW

end Busy

/-- A scene whose run's token is fresh: made after well-formed tokens, and named by no action the
script or the terminator's conditions can perform. -/
def Detached (steps : List (Step α)) (t : Terminator Probe) (s : Scene α) : Prop :=
  (∃ ts : Tokens, ts.WellFormed ∧ s.tokens = ts.fresh.1 ∧ s.flag = ts.fresh.2) ∧
    ∀ a ∈ scriptActions steps t, ∀ sig ∈ a, sig.spares s.own s.flag

/-- A `busy` run on a fresh token that no action names never sees its flag raised. -/
theorem Detached.along {h : Handle Probe (Scene α) α} {steps : List (Step α)}
    (scripted : h.work = Scene.work steps) {s : Scene α} (detached : Detached steps h.terminator s)
    (fuel : Nat) (p : Progress α) :
    (Pacing.busy (h.host Scene.ask Scene.now Scene.runFlag fun _ s => s)).along
      Scene.unsignalled fuel p s := by
  obtain ⟨⟨ts, wf, madeFresh, isFresh⟩, spares⟩ := detached
  have shielded : s.Shielded s.own s.flag := by
    refine ⟨rfl, rfl, ?_, ?_⟩
    · rw [madeFresh, isFresh]
      exact Tokens.fenced_fresh wf
    · rw [madeFresh, isFresh]
      exact Tokens.isSignalled_fresh ts
  exact busy_along_of_shielded h steps scripted spares fuel p s shielded

end Cadence.Scenario
