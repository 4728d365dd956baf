import Cadence.Cancel.Tokens

/-!
# Cadence.Proofs.Cancel.Flags

How the operations on tokens move one flag.

Every operation on a token reads or writes the flag at the token's position, and writing a flag
never moves a position. So clearing a flag that is not set changes nothing, and raising a flag
that was set right after clearing it gives back the tokens it started from: a wait that was
cancelled, followed by raising the flag again, leaves the tokens as they were. Raising a flag
clears none, clearing one clears no other, and a fresh token moves no token that has a raised
flag.
-/

namespace Cadence.Tokens

/-- Writing a flag moves no token's position. -/
@[simp] theorem flagOf_setFlags (ts : Tokens) (i : Nat) (b : Bool) (t : Nat) :
    ({ ts with flags := ts.flags.set i b } : Tokens).flagOf t = ts.flagOf t := by
  simp [flagOf]

/-- A raised flag exists. -/
theorem flagOf_lt_of_signalled {ts : Tokens} {t : Nat} (set : ts.isSignalled t = true) :
    ts.flagOf t < ts.flags.length := by
  refine Nat.lt_of_not_le fun past => ?_
  simp [isSignalled, List.getD_eq_getElem?_getD, List.getElem?_eq_none past] at set

theorem clear_of_not_signalled {ts : Tokens} {t : Nat} (unset : ts.isSignalled t = false) :
    ts.clear t = ts := by
  simp only [clear]
  by_cases inRange : ts.flagOf t < ts.flags.length
  · simp only [isSignalled, List.getD_eq_getElem?_getD, List.getElem?_eq_getElem inRange,
      Option.getD_some] at unset
    rw [← unset, List.set_getElem_self inRange]
  · rw [List.set_eq_of_length_le (Nat.le_of_not_lt inRange)]

/-- Clearing a set flag and raising it again gives back the tokens. -/
theorem signal_clear_of_signalled {ts : Tokens} {t : Nat} (set : ts.isSignalled t = true) :
    (ts.clear t).signal t = ts := by
  have inRange := flagOf_lt_of_signalled set
  simp only [isSignalled, List.getD_eq_getElem?_getD, List.getElem?_eq_getElem inRange,
    Option.getD_some] at set
  simp only [signal, clear, flagOf_setFlags, List.set_set]
  rw [← set, List.set_getElem_self inRange]

/-! ### Flags that other operations leave alone -/

/-- Rewriting the flags with a list of the same length moves no token's position. -/
theorem flagOf_withFlags (ts : Tokens) {fs : List Bool} (len : fs.length = ts.flags.length)
    (t : Nat) : ({ ts with flags := fs } : Tokens).flagOf t = ts.flagOf t := by
  simp [flagOf, len]

/-- Raising the flags at the positions of `ps` keeps the length of the flags. -/
theorem length_foldl_set (ps : List Nat) (fs : List Bool) :
    (ps.foldl (fun fs i => fs.set i true) fs).length = fs.length := by
  induction ps generalizing fs with
  | nil => rfl
  | cons p ps ih => rw [List.foldl_cons, ih, List.length_set]

/-- Raising every flag at the positions of `ps` keeps the flag at every other position. -/
theorem getElem?_foldl_set_of_not_mem {q : Nat} :
    ∀ (ps : List Nat) (fs : List Bool), q ∉ ps →
      (ps.foldl (fun fs i => fs.set i true) fs)[q]? = fs[q]?
  | [], _, _ => rfl
  | p :: ps, fs, outside => by
    have apart : p ≠ q := fun same => outside (same ▸ List.mem_cons_self)
    have kept := getElem?_foldl_set_of_not_mem ps (fs.set p true)
      (fun inRest => outside (List.mem_cons_of_mem p inRest))
    rw [List.getElem?_set_ne apart] at kept
    exact kept

theorem isSignalled_signal_of_ne {ts : Tokens} {i t : Nat} (apart : ts.flagOf i ≠ ts.flagOf t) :
    (ts.signal i).isSignalled t = ts.isSignalled t := by
  simp only [signal, isSignalled, flagOf_setFlags, List.getD_eq_getElem?_getD,
    List.getElem?_set_ne apart]

theorem isSignalled_cancelAll_of_not_mem {ts : Tokens} {t : Nat}
    (outside : ts.flagOf t ∉ ts.group) : ts.cancelAll.isSignalled t = ts.isSignalled t := by
  have kept := getElem?_foldl_set_of_not_mem ts.group ts.flags outside
  simp only [cancelAll, isSignalled, flagOf_withFlags ts (length_foldl_set ts.group ts.flags),
    List.getD_eq_getElem?_getD, kept]

@[simp] theorem isSignalled_clear_self (ts : Tokens) (t : Nat) :
    (ts.clear t).isSignalled t = false := by
  by_cases inRange : ts.flagOf t < ts.flags.length
  · simp [clear, isSignalled, List.getD_eq_getElem?_getD, inRange]
  · have past : ts.flags.length ≤ ts.flagOf t := Nat.le_of_not_lt inRange
    simp only [clear, isSignalled, List.set_eq_of_length_le past, List.getD_eq_getElem?_getD,
      List.getElem?_eq_none past, Option.getD_none]

/-! ### Raising flags never clears one -/

theorem getD_set_true_of_true {fs : List Bool} {q : Nat} (set : fs.getD q false = true)
    (i : Nat) : (fs.set i true).getD q false = true := by
  rw [List.getD_eq_getElem?_getD] at set ⊢
  by_cases same : i = q
  · -- the flag at `q` exists, since it reads as set
    have inRange : q < fs.length := by
      refine Nat.lt_of_not_le fun past => ?_
      simp [List.getElem?_eq_none past] at set
    simp [same, inRange]
  · rw [List.getElem?_set_ne same]
    exact set

theorem isSignalled_signal_of_signalled {ts : Tokens} {t : Nat} (set : ts.isSignalled t = true)
    (i : Nat) : (ts.signal i).isSignalled t = true := by
  simp only [signal, isSignalled, flagOf_setFlags] at set ⊢
  exact getD_set_true_of_true set _

theorem getD_foldl_set_true_of_true {q : Nat} :
    ∀ (ps : List Nat) {fs : List Bool}, fs.getD q false = true →
      (ps.foldl (fun fs i => fs.set i true) fs).getD q false = true
  | [], _, set => set
  | p :: ps, _, set => getD_foldl_set_true_of_true ps (getD_set_true_of_true set p)

theorem isSignalled_cancelAll_of_signalled {ts : Tokens} {t : Nat}
    (set : ts.isSignalled t = true) : ts.cancelAll.isSignalled t = true := by
  simp only [cancelAll, isSignalled, flagOf_withFlags ts (length_foldl_set ts.group ts.flags)]
  exact getD_foldl_set_true_of_true ts.group set

/-! ### A token with a flag of its own -/

/-- Every token refers to a flag that exists, and so does every member of the group. -/
def WellFormed (ts : Tokens) : Prop :=
  (∀ q ∈ ts.refs, q < ts.flags.length) ∧ ∀ q ∈ ts.group, q < ts.flags.length

/-- The group's first tokens are well formed. -/
theorem wellFormed_ofGroup (n : Nat) : (ofGroup n).WellFormed := by
  refine ⟨fun q listed => ?_, fun q listed => ?_⟩
  all_goals
    simp only [ofGroup, List.mem_range] at listed
    simpa [ofGroup] using listed

/-- Token `t` has a flag of its own: the group does not hold it and no other token refers to
it, so only a signal that names `t` itself reaches it. -/
def Fenced (ts : Tokens) (t : Nat) : Prop :=
  ts.flagOf t ∉ ts.group ∧ ∀ i, i ≠ t → ts.flagOf i ≠ ts.flagOf t

/-- Rewriting the flags with a list of the same length keeps a token fenced. -/
theorem Fenced.withFlags {ts : Tokens} {t : Nat} (fenced : ts.Fenced t) {fs : List Bool}
    (len : fs.length = ts.flags.length) : ({ ts with flags := fs } : Tokens).Fenced t := by
  obtain ⟨outside, apart⟩ := fenced
  refine ⟨?_, fun i other => ?_⟩
  · rw [flagOf_withFlags ts len]
    exact outside
  · rw [flagOf_withFlags ts len, flagOf_withFlags ts len]
    exact apart i other

/-- A fresh token's flag is the one added after all the others. -/
@[simp] theorem flagOf_fresh_self (ts : Tokens) : ts.fresh.1.flagOf ts.fresh.2 = ts.flags.length := by
  simp [fresh, flagOf, count]

/-- A fresh token, made after well-formed tokens, has a flag of its own. -/
theorem fenced_fresh {ts : Tokens} (wf : ts.WellFormed) : ts.fresh.1.Fenced ts.fresh.2 := by
  refine ⟨?_, fun i other => ?_⟩
  · rw [flagOf_fresh_self]
    exact fun inGroup => Nat.lt_irrefl _ (wf.2 _ inGroup)
  · rw [flagOf_fresh_self]
    simp only [fresh, count] at other
    rcases Nat.lt_or_gt_of_ne other with before | after
    · -- an older token refers to an existing flag
      have older := wf.1 _ (List.getElem_mem before)
      simp only [fresh, flagOf, List.getD_eq_getElem?_getD, List.getElem?_append_left before,
        List.getElem?_eq_getElem before, Option.getD_some]
      exact Nat.ne_of_lt older
    · -- a number past every token refers past the flags
      have past : (ts.refs ++ [ts.flags.length]).length ≤ i := by simp; omega
      simp [fresh, flagOf, List.getD_eq_getElem?_getD, List.getElem?_eq_none past]

@[simp] theorem isSignalled_fresh (ts : Tokens) : ts.fresh.1.isSignalled ts.fresh.2 = false := by
  simp [fresh, isSignalled, flagOf, count, List.getD_eq_getElem?_getD]

/-! ### Where each operation leaves the flags -/

section Kept

variable {ts : Tokens} {i t : Nat}

@[simp] theorem flagOf_signal (ts : Tokens) (i t : Nat) : (ts.signal i).flagOf t = ts.flagOf t :=
  flagOf_setFlags ts _ true t

@[simp] theorem flagOf_clear (ts : Tokens) (i t : Nat) : (ts.clear i).flagOf t = ts.flagOf t :=
  flagOf_setFlags ts _ false t

@[simp] theorem flagOf_cancelAll (ts : Tokens) (t : Nat) : ts.cancelAll.flagOf t = ts.flagOf t :=
  flagOf_withFlags ts (length_foldl_set ts.group ts.flags) t

/-- Tokens that share a flag read the same. -/
theorem isSignalled_of_flagOf_eq (shared : ts.flagOf i = ts.flagOf t) :
    ts.isSignalled i = ts.isSignalled t := by
  rw [isSignalled, isSignalled, shared]

theorem isSignalled_clear_of_ne (apart : ts.flagOf i ≠ ts.flagOf t) :
    (ts.clear i).isSignalled t = ts.isSignalled t := by
  simp only [clear, isSignalled, flagOf_setFlags, List.getD_eq_getElem?_getD,
    List.getElem?_set_ne apart]

/-- A fresh token moves no token whose flag is raised. -/
theorem flagOf_fresh_of_signalled (set : ts.isSignalled t = true) :
    ts.fresh.1.flagOf t = ts.flagOf t := by
  -- a number past every token reads past the flags, so a raised flag names a token made before
  have made : t < ts.refs.length := by
    refine Nat.lt_of_not_le fun past => ?_
    have inRange := flagOf_lt_of_signalled set
    simp [flagOf, List.getD_eq_getElem?_getD, List.getElem?_eq_none past] at inRange
  simp [fresh, flagOf, List.getD_eq_getElem?_getD, List.getElem?_append_left made,
    List.getElem?_eq_getElem made]

theorem isSignalled_fresh_of_signalled (set : ts.isSignalled t = true) :
    ts.fresh.1.isSignalled t = true := by
  rw [isSignalled, flagOf_fresh_of_signalled set]
  simp only [fresh, List.getD_eq_getElem?_getD,
    List.getElem?_append_left (flagOf_lt_of_signalled set)]
  exact set

/-- A fresh token shares no raised flag. -/
theorem flagOf_fresh_ne_of_signalled (set : ts.isSignalled t = true) :
    ts.fresh.1.flagOf ts.fresh.2 ≠ ts.fresh.1.flagOf t := by
  rw [flagOf_fresh_self, flagOf_fresh_of_signalled set]
  exact Nat.ne_of_gt (flagOf_lt_of_signalled set)

end Kept

end Cadence.Tokens
