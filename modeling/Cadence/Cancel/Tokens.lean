/-!
# Cancellation tokens

A token is a handle to a cancellation flag. Tokens made fresh, or issued by the cancel group,
each get a flag of their own; a clone refers to the flag of its source, so the two see each
other's signals. The group remembers the flag of every token it issued, and cancelling the
group sets all of those flags.

* `signal` and `rearm` set a token's flag, `isSignalled` reads it.
* `observe` reads the flag and clears it.
* `suspend` is a wait on the flag: if the flag is set it is cleared and the wait is cancelled
  at once, whatever its length; otherwise the wait runs its course and the flag stays clear.

Tokens are numbered in the order they are made; a number that names no token reads as an
unset flag and is not changed by any operation.
-/
namespace Cadence

/-- A set of tokens, their flags, and the group's members. -/
structure Tokens where
  /-- One flag per share class. -/
  flags : List Bool := []
  /-- For each token, the position of its flag. -/
  refs : List Nat := []
  /-- For each token the group issued, the position of its flag. -/
  group : List Nat := []
  deriving Repr

namespace Tokens

/-- The number of tokens made. -/
def count (ts : Tokens) : Nat := ts.refs.length

/-- A token with a fresh flag, not in the group; answers its number. -/
def fresh (ts : Tokens) : Tokens × Nat :=
  ({ ts with flags := ts.flags ++ [false], refs := ts.refs ++ [ts.flags.length] }, ts.count)

/-- A token with a fresh flag, issued by the group; answers its number. -/
def issue (ts : Tokens) : Tokens × Nat :=
  let issued : Tokens :=
    { flags := ts.flags ++ [false]
      refs := ts.refs ++ [ts.flags.length]
      group := ts.group ++ [ts.flags.length] }
  (issued, ts.count)

/-- The position of a token's flag; past the flags when there is no such token. -/
def flagOf (ts : Tokens) (t : Nat) : Nat := ts.refs.getD t ts.flags.length

/-- A clone of token `t`, sharing its flag; answers its number. -/
def clone (ts : Tokens) (t : Nat) : Tokens × Nat :=
  ({ ts with refs := ts.refs ++ [ts.flagOf t] }, ts.count)

/-- Whether token `t`'s flag is set. -/
def isSignalled (ts : Tokens) (t : Nat) : Bool := ts.flags.getD (ts.flagOf t) false

/-- Sets token `t`'s flag. -/
def signal (ts : Tokens) (t : Nat) : Tokens :=
  { ts with flags := ts.flags.set (ts.flagOf t) true }

/-- Sets token `t`'s flag again after a cancelled wait. -/
def rearm (ts : Tokens) (t : Nat) : Tokens := ts.signal t

/-- Clears token `t`'s flag. -/
def clear (ts : Tokens) (t : Nat) : Tokens :=
  { ts with flags := ts.flags.set (ts.flagOf t) false }

/-- Reads token `t`'s flag and clears it. -/
def observe (ts : Tokens) (t : Nat) : Bool × Tokens := (ts.isSignalled t, ts.clear t)

/-- A wait on token `t`: `true` when it was cancelled because the flag was set, which clears
it. -/
def suspend (ts : Tokens) (t : Nat) : Bool × Tokens := (ts.isSignalled t, ts.clear t)

/-- Sets the flag of every token the group issued. -/
def cancelAll (ts : Tokens) : Tokens :=
  { ts with flags := ts.group.foldl (fun fs i => fs.set i true) ts.flags }

/-- The number of tokens the group issued; clones are not counted. -/
def groupSize (ts : Tokens) : Nat := ts.group.length

/-- `n` tokens issued by the group, all clear. -/
def ofGroup (n : Nat) : Tokens :=
  { flags := List.replicate n false, refs := List.range n, group := List.range n }

end Tokens

end Cadence
