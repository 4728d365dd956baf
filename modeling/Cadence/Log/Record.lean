import Cadence.Log.Level

/-!
# Log records

A record has a level, a target naming the part of the program that wrote it, a message, and the
time it was written, in milliseconds on the program's clock. It is written as one line,
`[LEVEL target] message`, with the level's name padded to five characters and, when one is
given, a time stamp before it.
-/
namespace Cadence.Log

/-- One log record. -/
structure Record where
  level : Level
  target : String
  message : String
  /-- When it was written, in milliseconds. -/
  time : Nat := 0
  deriving Repr, BEq, Inhabited

/-- A text padded with blanks on the right to `width` characters. -/
def padRight (s : String) (width : Nat) : String :=
  s ++ String.ofList (List.replicate (width - s.length) ' ')

/-- The line a record is written as, after the time stamp `stamp` (empty for none). -/
def Record.line (r : Record) (stamp : String) : String :=
  "[" ++ (if stamp.isEmpty then "" else stamp ++ " ") ++ padRight r.level.name 5 ++ " " ++
    r.target ++ "] " ++ r.message

/-- Records of several writers in the order they were written: by time, and in the order
given among records of the same time. -/
def interleave (records : List Record) : List Record :=
  records.mergeSort fun a b => a.time ≤ b.time

end Cadence.Log
