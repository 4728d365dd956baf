import Cadence.Number.Binary64

/-!
# JSON values

A JSON document as data. Objects keep their members in the order they were written, and a
number keeps the form of its literal: typed readers decide by that form which numbers they
accept, so an integer written as `5` and one written as `5.0` are different values here. Every
other number is the double its literal reads as.

Two views of an object are provided. `Json.field?` answers the member a key names, the last
one when a key is repeated, which is how a map built from the document behaves. `Json.entries`
lists the members sorted by key with repeats removed, which is the order in which a typed reader
that works from such a map meets them.
-/
namespace Cadence

/-- The number forms a typed reader tells apart. -/
inductive Json.Number where
  /-- A non-negative integer literal below 2^64. -/
  | natural (n : Nat)
  /-- A negative integer literal at or above -2^63. -/
  | negative (n : Int)
  /-- Any other literal (a fraction, an exponent, or an integer out of the two ranges above), as
  the double it reads as. -/
  | real (value : Binary64)
  deriving Repr, BEq, Inhabited

/-- A JSON value; object members are in document order and may repeat a key. -/
inductive Json where
  | null
  | bool (b : Bool)
  | number (n : Json.Number)
  | string (s : String)
  | array (items : List Json)
  | object (members : List (String × Json))
  deriving Repr, Inhabited

namespace Json

/-- A non-negative integer as a JSON value. -/
def nat (n : Nat) : Json := .number (.natural n)

/-- An integer as a JSON value. -/
def int (n : Int) : Json :=
  if n < 0 then .number (.negative n) else .number (.natural n.toNat)

/-- An optional value, `null` when absent. -/
def opt (f : α → Json) : Option α → Json
  | some a => f a
  | none => .null

/-- The last member named `key`, if the value is an object that has one. -/
def field? (j : Json) (key : String) : Option Json :=
  match j with
  | .object members => (members.reverse.find? (·.1 == key)).map (·.2)
  | _ => none

/-- Drops every member whose key is written again later on. -/
def lastWins : List (String × Json) → List (String × Json)
  | [] => []
  | (k, v) :: rest =>
    if rest.any (·.1 == k) then lastWins rest else (k, v) :: lastWins rest

/-- The members of an object as a map holds them: sorted by key, one per key. -/
def entries (members : List (String × Json)) : List (String × Json) :=
  (lastWins members).mergeSort (fun a b => decide (a.1 ≤ b.1))

/-- The natural number a value holds, if it is a non-negative integer literal below 2^64. -/
def natural? : Json → Option Nat
  | .number (.natural n) => some n
  | _ => none

/-- The text a value holds, if it is a string. -/
def string? : Json → Option String
  | .string s => some s
  | _ => none

/-- The flag a value holds, if it is a boolean. -/
def bool? : Json → Option Bool
  | .bool b => some b
  | _ => none

/-- The items of a value, if it is an array. -/
def array? : Json → Option (List Json)
  | .array items => some items
  | _ => none

end Json

end Cadence
