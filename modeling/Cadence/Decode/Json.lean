import Cadence.Decode.Error
import Cadence.Json.Basic
import Cadence.Number.Shortest
import Cadence.Config.Basic
import Cadence.Loop.Exit

/-!
# Typed values from JSON

Reading a configuration and an ending out of a JSON value. An object is read as a map: its
members sorted by key, one per key (`Json.entries`), members of unknown keys ignored. Numbers
are read by the form of their literal: a negative integer is a value a count cannot take, a
real is a value of another type.

* A configuration is an object (missing members take their defaults) or an array of at most
  three items in field order: log level, interval, policy. The items are read before the length
  is checked, so a bad item is reported before an extra one.
* A policy is `contain` or `propagate`, or an object whose one member names it with `null`
  under it.
* An ending is an object with the tag under `cause`, written as a policy is, and, for a
  failure, the text under `message`; an ending without a text accepts `null` there. It may
  also be an array of the tag's name and the content.
-/
namespace Cadence.Decode

open Cadence.Json (Number)

/-- What a JSON value is, to a reader that cannot use it. -/
def found : Json → Found
  | .null => .unit
  | .bool b => .bool b
  | .number (.natural n) => .unsigned n
  | .number (.negative n) => .signed n
  | .number (.real v) => .float v.scientificText
  | .string s => .str s
  | .array _ => .seq
  | .object _ => .map

/-- A count below 2^64. -/
def u64OfJson : Json → Except Error Nat
  | .number (.natural n) => .ok n
  | .number (.negative n) => .error (.invalidValue (.signed n) "u64")
  | j => .error (.invalidType (found j) "u64")

/-- A text that may be absent (`null`). -/
def optionalTextOfJson : Json → Except Error (Option String)
  | .null => .ok none
  | .string s => .ok (some s)
  | j => .error (.invalidType (found j) "a string")

/-- The names of the failure policies. -/
def policyNames : List String := ["contain", "propagate"]

/-- A policy by name. -/
def policyOfName (name : String) : Except Error FailurePolicy :=
  if name == "contain" then .ok .contain
  else if name == "propagate" then .ok .propagate
  else .error (.unknownVariant name policyNames)

/-- The name of a variant without content, written as the name itself or as an object whose
one member is the name with `null` under it. -/
def unitVariantOfJson (names : List String) : Json → Except Error String
  | .string name => if names.contains name then .ok name else .error (.unknownVariant name names)
  | .object members =>
    match Json.entries members with
    | [(name, content)] =>
      if !names.contains name then .error (.unknownVariant name names)
      else match content with
        | .null => pure name
        | j => throw (.invalidType (found j) "unit")
    | _ => .error (.invalidValue .map "map with a single key")
  | j => .error (.invalidType (found j) "string or map")

/-- A failure policy. -/
def policyOfJson (j : Json) : Except Error FailurePolicy := do
  policyOfName (← unitVariantOfJson policyNames j)

/-- Reads one configuration member into `c`; unknown keys leave it unchanged. -/
def configMember (c : Config) : String × Json → Except Error Config
  | ("log_level", j) => return { c with logLevel := ← optionalTextOfJson j }
  | ("default_interval_ms", j) => return { c with defaultIntervalMs := ← u64OfJson j }
  | ("failure_policy", j) => return { c with failurePolicy := ← policyOfJson j }
  | _ => pure c

/-- A configuration. -/
def configOfJson : Json → Except Error Config
  | .object members => (Json.entries members).foldlM configMember {}
  | .array items => do
    let c ← (List.zip ["log_level", "default_interval_ms", "failure_policy"] items).foldlM
      configMember {}
    if items.length > 3 then throw (.invalidLength items.length "fewer elements in array")
    pure c
  | j => .error (.invalidType (found j) "struct LoopConfig")

/-- The tags of the endings. -/
def exitNames : List String := ["terminated", "cancelled", "failed"]

/-- The ending a tag names, from its content: none for the endings without one (`null` is
accepted as no content), a text for a failure. -/
def exitWith (tag : String) (content : Option Json) : Except Error Exit :=
  if tag == "failed" then
    match content with
    | none => .error (.missingField "message")
    | some (.string m) => .ok (.failed m)
    | some j => .error (.invalidType (found j) "a string")
  else
    let (ending, name) : Exit × String :=
      if tag == "terminated" then (.terminated, "Terminated") else (.cancelled, "Cancelled")
    match content with
    | none | some .null => .ok ending
    | some j => .error (.invalidType (found j) ("unit variant Exit::" ++ name))

/-- The description of an ending's reader, for a sequence of the wrong length. -/
def exitExpected : String := "adjacently tagged enum Exit"

/-- An ending: an object with the tag under `cause` (a name, or an object naming it) and the
content under `message`, or an array of the tag's name and the content. -/
def exitOfJson : Json → Except Error Exit
  | .object members =>
    let entries := Json.entries members
    match entries.lookup "cause" with
    | none => .error (.missingField "cause")
    | some tag => do exitWith (← unitVariantOfJson exitNames tag) (entries.lookup "message")
  | .array [] => .error (.invalidLength 0 exitExpected)
  | .array (.string tag :: rest) =>
    if !exitNames.contains tag then .error (.unknownVariant tag exitNames)
    else match rest with
      | [] => .error (.invalidLength 1 exitExpected)
      | content :: more => do
        let e ← exitWith tag (some content)
        if more.isEmpty then pure e
        else throw (.invalidLength (more.length + 2) "fewer elements in array")
  | .array (j :: _) => .error (.invalidType (found j) "variant identifier")
  | j => .error (.invalidType (found j) exitExpected)

end Cadence.Decode
