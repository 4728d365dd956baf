import Cadence.Proofs.Cancel.Flags
import Cadence.Time.Duration

/-!
# Cadence.Proofs.Cancel.Shares

Tokens behave as share classes with one flag each.

The documented picture of cancellation tokens is simpler than their representation. Each token
belongs to a share class: a fresh token and a token the group issues each start a class of
their own, and a clone joins the class of its source. Each class has one flag. Signalling or
re-arming a token sets its class's flag, observing or waiting on it reads the flag and clears
it, whatever the length of the wait, and cancelling the group sets the flag of every class that
holds a token the group issued. The group's size counts the tokens it issued and not their
clones.

`Shares` is that picture as a state, and `Tokens` is the library's representation: a list of
flags, each token's position in it, and the positions of the tokens the group issued.

## Main results

* `Tokens.Implements.exec`: from tokens that implement a reference state, one operation on a
  token that exists answers as in the reference state, and leaves tokens that implement the
  reference state after it; `Tokens.Implements.session` does the same for a session.
* `Tokens.session_follows_shares`: every session of operations that names only tokens made
  before answers exactly as the reference model does, and afterwards every token reads the flag
  of its class.
-/

namespace Cadence

/-- An operation on tokens and their group; tokens are named by number. -/
inductive TokenOp where
  | fresh
  | issue
  | clone (t : Nat)
  | signal (t : Nat)
  | rearm (t : Nat)
  | cancelAll
  | isSignalled (t : Nat)
  | observe (t : Nat)
  | suspend (t : Nat) (d : Duration)
  | groupSize
  | groupEmpty

/-- What an operation answers: nothing, a new token, a flag or emptiness, whether a wait was
cancelled, or the size of the group. -/
inductive TokenAnswer where
  | unit
  | token (t : Nat)
  | bool (b : Bool)
  | waited (cancelled : Bool)
  | count (n : Nat)
  deriving DecidableEq

namespace TokenOp

/-- The token an operation names, if any. -/
def named? : TokenOp → Option Nat
  | .clone t | .signal t | .rearm t | .isSignalled t | .observe t | .suspend t _ => some t
  | _ => none

/-- Whether an operation makes a token. -/
def makes : TokenOp → Bool
  | .fresh | .issue | .clone _ => true
  | _ => false

/-- Whether each operation of a session names only a token made before it, when `made` tokens
exist at its start. -/
def wellScoped (made : Nat) : List TokenOp → Bool
  | [] => true
  | op :: ops => op.named?.all (· < made) && wellScoped (if op.makes then made + 1 else made) ops

end TokenOp

/-! ### The library's tokens -/

namespace Tokens

/-- One operation on tokens, with its answer. -/
def exec (ts : Tokens) : TokenOp → TokenAnswer × Tokens
  | .fresh => (.token ts.fresh.2, ts.fresh.1)
  | .issue => (.token ts.issue.2, ts.issue.1)
  | .clone t => (.token (ts.clone t).2, (ts.clone t).1)
  | .signal t => (.unit, ts.signal t)
  | .rearm t => (.unit, ts.rearm t)
  | .cancelAll => (.unit, ts.cancelAll)
  | .isSignalled t => (.bool (ts.isSignalled t), ts)
  | .observe t => (.bool (ts.observe t).1, (ts.observe t).2)
  | .suspend t _ => (.waited (ts.suspend t).1, (ts.suspend t).2)
  | .groupSize => (.count ts.groupSize, ts)
  | .groupEmpty => (.bool (ts.groupSize == 0), ts)

/-- A session of operations: their answers in order, and the tokens after them. -/
def session (ts : Tokens) : List TokenOp → List TokenAnswer × Tokens
  | [] => ([], ts)
  | op :: ops => ((ts.exec op).1 :: ((ts.exec op).2.session ops).1, ((ts.exec op).2.session ops).2)

end Tokens

/-! ### The reference model -/

/-- Tokens as share classes: the class of each token in the order the tokens were made, the
number of classes, one flag per class, and the tokens the group issued. -/
structure Shares where
  classOf : List Nat := []
  classes : Nat := 0
  flag : Nat → Bool := fun _ => false
  issued : List Nat := []

namespace Shares

/-- The class of token `t`. -/
def cls (m : Shares) (t : Nat) : Nat := m.classOf.getD t 0

/-- The state with the flag of class `c` set to `b`. -/
def setFlag (m : Shares) (c : Nat) (b : Bool) : Shares :=
  { m with flag := fun c' => if c' = c then b else m.flag c' }

/-- A token in a class of its own, with a clear flag. -/
def withFresh (m : Shares) : Shares :=
  { (m.setFlag m.classes false) with classOf := m.classOf ++ [m.classes], classes := m.classes + 1 }

/-- One operation in the reference model, with its answer. -/
def exec (m : Shares) : TokenOp → TokenAnswer × Shares
  | .fresh => (.token m.classOf.length, m.withFresh)
  | .issue =>
    (.token m.classOf.length, { m.withFresh with issued := m.issued ++ [m.classOf.length] })
  | .clone t => (.token m.classOf.length, { m with classOf := m.classOf ++ [m.cls t] })
  | .signal t | .rearm t => (.unit, m.setFlag (m.cls t) true)
  | .cancelAll => (.unit, { m with flag := fun c => m.flag c || m.issued.any (m.cls · == c) })
  | .isSignalled t => (.bool (m.flag (m.cls t)), m)
  | .observe t => (.bool (m.flag (m.cls t)), m.setFlag (m.cls t) false)
  | .suspend t _ => (.waited (m.flag (m.cls t)), m.setFlag (m.cls t) false)
  | .groupSize => (.count m.issued.length, m)
  | .groupEmpty => (.bool m.issued.isEmpty, m)

/-- A session of operations in the reference model. -/
def session (m : Shares) : List TokenOp → List TokenAnswer × Shares
  | [] => ([], m)
  | op :: ops => ((m.exec op).1 :: ((m.exec op).2.session ops).1, ((m.exec op).2.session ops).2)

/-- An operation makes one token exactly when it says so. -/
theorem length_exec (m : Shares) (op : TokenOp) :
    (m.exec op).2.classOf.length = if op.makes then m.classOf.length + 1 else m.classOf.length := by
  cases op <;> simp [exec, withFresh, setFlag, TokenOp.makes]

end Shares

/-! ### Tokens that implement a reference state -/

/-- Raising the flags at a list of positions leaves a flag raised exactly when it was raised
before or its position is listed. -/
theorem Tokens.getD_foldl_set_true :
    ∀ (ps : List Nat) (fs : List Bool) {c : Nat}, c < fs.length →
      (ps.foldl (fun fs i => fs.set i true) fs).getD c false = (fs.getD c false || ps.contains c)
  | [], fs, _, _ => by simp
  | p :: ps, fs, c, within => by
    have within' : c < (fs.set p true).length := by rw [List.length_set]; exact within
    rw [List.foldl_cons, getD_foldl_set_true ps _ within', List.contains_cons]
    by_cases same : p = c
    · subst same
      simp [List.getD_eq_getElem?_getD, within]
    · have apart : (c == p) = false := beq_false_of_ne (Ne.symm same)
      simp [List.getD_eq_getElem?_getD, List.getElem?_set_ne same, apart]

/-- Tokens implement a reference state when each token's flag sits at its class, there is one
flag per class holding the class's flag, and the group holds the classes of the tokens it issued;
every class of a token exists, and so does every token the group issued. -/
structure Tokens.Implements (ts : Tokens) (m : Shares) : Prop where
  refs : ts.refs = m.classOf
  length : ts.flags.length = m.classes
  flags : ∀ c, c < m.classes → ts.flags.getD c false = m.flag c
  group : ts.group = m.issued.map m.cls
  classOf_lt : ∀ c ∈ m.classOf, c < m.classes
  issued_lt : ∀ u ∈ m.issued, u < m.classOf.length

/-- No tokens implement the reference state with no tokens. -/
theorem Tokens.implements_empty : ({} : Tokens).Implements {} where
  refs := rfl
  length := rfl
  flags _ outside := absurd outside (Nat.not_lt_zero _)
  group := rfl
  classOf_lt _ member := absurd member List.not_mem_nil
  issued_lt _ member := absurd member List.not_mem_nil

namespace Tokens.Implements

variable {ts : Tokens} {m : Shares} {t : Nat}

/-- The flag of a token that exists sits at its class. -/
theorem flagOf_eq (impl : ts.Implements m) (made : t < m.classOf.length) :
    ts.flagOf t = m.cls t := by
  simp [Tokens.flagOf, Shares.cls, impl.refs, List.getD_eq_getElem?_getD,
    List.getElem?_eq_getElem made]

/-- The class of a token that exists exists. -/
theorem cls_lt (impl : ts.Implements m) (made : t < m.classOf.length) : m.cls t < m.classes := by
  apply impl.classOf_lt
  simp only [Shares.cls, List.getD_eq_getElem?_getD, List.getElem?_eq_getElem made,
    Option.getD_some]
  exact List.getElem_mem made

/-- A token that exists reads the flag of its class. -/
theorem isSignalled_eq (impl : ts.Implements m) (made : t < m.classOf.length) :
    ts.isSignalled t = m.flag (m.cls t) := by
  rw [Tokens.isSignalled, impl.flagOf_eq made, impl.flags _ (impl.cls_lt made)]

/-- Writing the flag at a position writes the flag of that class. -/
theorem setFlag (impl : ts.Implements m) (c : Nat) (b : Bool) :
    ({ ts with flags := ts.flags.set c b } : Tokens).Implements (m.setFlag c b) where
  refs := impl.refs
  length := by rw [List.length_set, impl.length]; rfl
  flags c' inside := by
    have within : c' < ts.flags.length := by rw [impl.length]; exact inside
    have kept := impl.flags c' inside
    rw [List.getD_eq_getElem?_getD] at kept ⊢
    by_cases same : c = c'
    · subst same
      simp [Shares.setFlag, within]
    · rw [List.getElem?_set_ne same, kept]
      simp [Shares.setFlag, Ne.symm same]
  group := impl.group
  classOf_lt := impl.classOf_lt
  issued_lt := impl.issued_lt

/-- Tokens made later leave the classes of the tokens the group issued as they were. -/
theorem issued_classes (impl : ts.Implements m) (extra : List Nat) :
    m.issued.map (fun u => (m.classOf ++ extra).getD u 0) = m.issued.map m.cls := by
  apply List.map_congr_left
  intro u issued
  have made := impl.issued_lt u issued
  simp [Shares.cls, List.getD_eq_getElem?_getD, List.getElem?_append_left made]

/-- A token with a flag of its own implements a token in a class of its own. -/
theorem withFresh (impl : ts.Implements m) :
    ({ ts with flags := ts.flags ++ [false], refs := ts.refs ++ [ts.flags.length] } :
      Tokens).Implements m.withFresh where
  refs := by simp [Shares.withFresh, Shares.setFlag, impl.refs, impl.length]
  length := by simp [Shares.withFresh, Shares.setFlag, impl.length]
  flags c inside := by
    simp only [Shares.withFresh, Shares.setFlag] at inside ⊢
    rcases Nat.lt_succ_iff_lt_or_eq.mp inside with old | new
    · -- an old class keeps its flag
      have kept := impl.flags c old
      have within : c < ts.flags.length := by rw [impl.length]; exact old
      rw [List.getD_eq_getElem?_getD] at kept ⊢
      rw [List.getElem?_append_left within, kept]
      simp [Nat.ne_of_lt old]
    · -- the new class starts clear
      subst new
      simp [List.getD_eq_getElem?_getD, ← impl.length]
  group := by
    rw [impl.group]
    exact (impl.issued_classes [m.classes]).symm
  classOf_lt c member := by
    simp only [Shares.withFresh, Shares.setFlag, List.mem_append, List.mem_singleton] at member ⊢
    rcases member with old | new
    · exact Nat.lt_succ_of_lt (impl.classOf_lt c old)
    · exact new ▸ Nat.lt_succ_self _
  issued_lt u issued := by
    simp only [Shares.withFresh, Shares.setFlag, List.length_append, List.length_singleton]
    exact Nat.lt_succ_of_lt (impl.issued_lt u issued)

/-- A token the group issues implements a token in a class of its own that the group issued. -/
theorem issue (impl : ts.Implements m) :
    ts.issue.1.Implements { m.withFresh with issued := m.issued ++ [m.classOf.length] } :=
  have fresh := impl.withFresh
  { refs := fresh.refs
    length := fresh.length
    flags := fresh.flags
    group := by
      have issued := impl.issued_classes [m.classes]
      simp only [Tokens.issue, List.map_append, List.map_singleton]
      rw [impl.group, ← issued, impl.length]
      simp [Shares.withFresh, Shares.setFlag, Shares.cls, List.getD_eq_getElem?_getD]
    classOf_lt := fresh.classOf_lt
    issued_lt := fun u issued => by
      rcases List.mem_append.mp issued with old | new
      · exact fresh.issued_lt u old
      · rw [List.mem_singleton.mp new]
        simp [Shares.withFresh] }

/-- A clone of a token that exists joins the token's class. -/
theorem clone (impl : ts.Implements m) (made : t < m.classOf.length) :
    (ts.clone t).1.Implements { m with classOf := m.classOf ++ [m.cls t] } where
  refs := by simp [Tokens.clone, impl.refs, impl.flagOf_eq made]
  length := impl.length
  flags := impl.flags
  group := by
    rw [Tokens.clone, impl.group]
    exact (impl.issued_classes [m.cls t]).symm
  classOf_lt c member := by
    rcases List.mem_append.mp member with old | joined
    · exact impl.classOf_lt c old
    · rw [List.mem_singleton.mp joined]
      exact impl.cls_lt made
  issued_lt u issued := by
    rw [List.length_append]
    exact Nat.lt_add_right 1 (impl.issued_lt u issued)

/-- Cancelling the group raises the flag of every class that holds a token the group issued. -/
theorem cancelAll (impl : ts.Implements m) :
    ts.cancelAll.Implements
      { m with flag := fun c => m.flag c || m.issued.any (m.cls · == c) } where
  refs := impl.refs
  length := by rw [Tokens.cancelAll, Tokens.length_foldl_set, impl.length]
  flags c inside := by
    have within : c < ts.flags.length := by rw [impl.length]; exact inside
    simp only [Tokens.cancelAll]
    rw [getD_foldl_set_true _ _ within, impl.flags c inside, impl.group, List.contains_map]
    simp only [Bool.beq_comm]
  group := impl.group
  classOf_lt := impl.classOf_lt
  issued_lt := impl.issued_lt

/-- **One operation.** From tokens that implement a reference state, an operation that names
only a token that exists answers as in the reference state, and leaves tokens that implement the
reference state after it. -/
theorem exec (impl : ts.Implements m) {op : TokenOp}
    (named : op.named?.all (· < m.classOf.length) = true) :
    (ts.exec op).1 = (m.exec op).1 ∧ (ts.exec op).2.Implements (m.exec op).2 := by
  have made : ∀ t, op.named? = some t → t < m.classOf.length := by
    intro t names
    simpa [names] using named
  cases op with
  | fresh =>
    exact ⟨by simp [Tokens.exec, Shares.exec, Tokens.fresh, Tokens.count, impl.refs],
      impl.withFresh⟩
  | issue =>
    exact ⟨by simp [Tokens.exec, Shares.exec, Tokens.issue, Tokens.count, impl.refs],
      impl.issue⟩
  | clone t =>
    exact ⟨by simp [Tokens.exec, Shares.exec, Tokens.clone, Tokens.count, impl.refs],
      impl.clone (made t rfl)⟩
  | signal t | rearm t =>
    refine ⟨rfl, ?_⟩
    simp only [Tokens.exec, Shares.exec, Tokens.rearm, Tokens.signal, impl.flagOf_eq (made t rfl)]
    exact impl.setFlag _ true
  | cancelAll => exact ⟨rfl, impl.cancelAll⟩
  | isSignalled t =>
    exact ⟨by simp [Tokens.exec, Shares.exec, impl.isSignalled_eq (made t rfl)], impl⟩
  | observe t | suspend t _ =>
    refine ⟨by simp [Tokens.exec, Shares.exec, Tokens.observe, Tokens.suspend,
      impl.isSignalled_eq (made t rfl)], ?_⟩
    simp only [Tokens.exec, Shares.exec, Tokens.observe, Tokens.suspend, Tokens.clear,
      impl.flagOf_eq (made t rfl)]
    exact impl.setFlag _ false
  | groupSize => exact ⟨by simp [Tokens.exec, Shares.exec, Tokens.groupSize, impl.group], impl⟩
  | groupEmpty =>
    refine ⟨?_, impl⟩
    simp only [Tokens.exec, Shares.exec, Tokens.groupSize, impl.group, List.length_map]
    cases m.issued <;> rfl

/-- **A session.** From tokens that implement a reference state, a session that names only
tokens made before each operation answers as in the reference state, and leaves tokens that
implement the reference state after it. -/
theorem session : ∀ (ops : List TokenOp) {ts : Tokens} {m : Shares}, ts.Implements m →
    TokenOp.wellScoped m.classOf.length ops = true →
    (ts.session ops).1 = (m.session ops).1 ∧ (ts.session ops).2.Implements (m.session ops).2
  | [], _, _, impl, _ => ⟨rfl, impl⟩
  | op :: ops, ts, m, impl, inScope => by
    simp only [TokenOp.wellScoped, Bool.and_eq_true] at inScope
    obtain ⟨named, rest⟩ := inScope
    obtain ⟨answered, after⟩ := impl.exec named
    -- the rest of the session is scoped by the tokens that exist after the operation
    rw [← Shares.length_exec] at rest
    obtain ⟨answers, implemented⟩ := session ops after rest
    simp only [Tokens.session, Shares.session]
    exact ⟨by rw [answered, answers], implemented⟩

end Tokens.Implements

/-- **Tokens follow the reference model.** Every session of operations on tokens and their
group, from none, in which each operation names only a token made before it, answers exactly as
the reference model of share classes does; afterwards each token reads the flag of its class,
so all tokens of one class read alike. -/
theorem Tokens.session_follows_shares (ops : List TokenOp)
    (inScope : TokenOp.wellScoped 0 ops = true) :
    (({} : Tokens).session ops).1 = (({} : Shares).session ops).1 ∧
    (∀ t, t < (({} : Shares).session ops).2.classOf.length →
      (({} : Tokens).session ops).2.isSignalled t =
        (({} : Shares).session ops).2.flag ((({} : Shares).session ops).2.cls t)) ∧
    (∀ t u, t < (({} : Shares).session ops).2.classOf.length →
      u < (({} : Shares).session ops).2.classOf.length →
      (({} : Shares).session ops).2.cls t = (({} : Shares).session ops).2.cls u →
      (({} : Tokens).session ops).2.isSignalled t =
        (({} : Tokens).session ops).2.isSignalled u) := by
  obtain ⟨answers, impl⟩ := Tokens.implements_empty.session ops inScope
  refine ⟨answers, fun t made => impl.isSignalled_eq made, fun t u madeT madeU same => ?_⟩
  rw [impl.isSignalled_eq madeT, impl.isSignalled_eq madeU, same]

/-- A group token, a clone of it and a fresh token: cancelling the group reaches the clone but
not the fresh token, observing the clone clears the group token's flag too, and a wait of no
length on the group token then runs its course. -/
theorem Tokens.session_follows_shares_with_clone :
    let ops := [TokenOp.issue, .clone 0, .fresh, .cancelAll, .isSignalled 1, .isSignalled 2,
      .observe 1, .isSignalled 0, .suspend 0 Duration.zero, .groupSize]
    TokenOp.wellScoped 0 ops = true ∧
    (({} : Tokens).session ops).1 = (({} : Shares).session ops).1 ∧
    (∀ t, t < (({} : Shares).session ops).2.classOf.length →
      (({} : Tokens).session ops).2.isSignalled t =
        (({} : Shares).session ops).2.flag ((({} : Shares).session ops).2.cls t)) ∧
    (∀ t u, t < (({} : Shares).session ops).2.classOf.length →
      u < (({} : Shares).session ops).2.classOf.length →
      (({} : Shares).session ops).2.cls t = (({} : Shares).session ops).2.cls u →
      (({} : Tokens).session ops).2.isSignalled t = (({} : Tokens).session ops).2.isSignalled u) :=
  ⟨by decide, Tokens.session_follows_shares _ (by decide)⟩

/-- The answers of that session. -/
example :
    (({} : Tokens).session [.issue, .clone 0, .fresh, .cancelAll, .isSignalled 1, .isSignalled 2,
      .observe 1, .isSignalled 0, .suspend 0 Duration.zero, .groupSize]).1 =
      [.token 0, .token 1, .token 2, .unit, .bool true, .bool false, .bool true, .bool false,
        .waited false, .count 1] := by
  decide

end Cadence
