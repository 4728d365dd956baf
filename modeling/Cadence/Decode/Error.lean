import Cadence.Text.Quoted

/-!
# Errors of typed readers

When a reader of typed data (a configuration, an ending) meets a value it cannot use, it says
what it found and what it expected. The wording is shared by the JSON and YAML readers, which
differ only in how they name the empty value (`null` or `unit value`).
-/
namespace Cadence.Decode

/-- What a reader found. -/
inductive Found where
  | bool (b : Bool)
  | unsigned (n : Nat)
  | signed (n : Int)
  /-- A real number, already written as the reader writes reals. -/
  | float (text : String)
  | str (s : String)
  | unit
  | seq
  | map
  /-- A description given as is. -/
  | other (text : String)
  deriving Repr, BEq

/-- How a data format names what a reader found. -/
structure Wording where
  /-- The name of the empty value. -/
  unit : String

/-- The wording of JSON readers. -/
def Wording.json : Wording := ⟨"null"⟩

/-- The wording of YAML readers. -/
def Wording.yaml : Wording := ⟨"unit value"⟩

/-- The description of what was found. -/
def Found.describe (w : Wording) : Found → String
  | .bool b => "boolean `" ++ (if b then "true" else "false") ++ "`"
  | .unsigned n => "integer `" ++ toString n ++ "`"
  | .signed n => "integer `" ++ toString n ++ "`"
  | .float t => "floating point `" ++ t ++ "`"
  | .str s => "string " ++ Text.quoted s
  | .unit => w.unit
  | .seq => "sequence"
  | .map => "map"
  | .other t => t

/-- Why a typed reader failed. -/
inductive Error where
  | invalidType (found : Found) (expected : String)
  | invalidValue (found : Found) (expected : String)
  | invalidLength (length : Nat) (expected : String)
  | unknownVariant (name : String) (expected : List String)
  | missingField (name : String)
  | duplicateField (name : String)
  | custom (text : String)
  deriving Repr, BEq

/-- The names of the variants a reader accepts, as its messages list them. -/
def expectedVariants : List String → String
  | [] => "there are no variants"
  | [a] => "expected `" ++ a ++ "`"
  | [a, b] => "expected `" ++ a ++ "` or `" ++ b ++ "`"
  | names => "expected one of " ++ ", ".intercalate (names.map fun n => "`" ++ n ++ "`")

/-- The message of a reader's error. -/
def Error.message (w : Wording) : Error → String
  | .invalidType f e => "invalid type: " ++ f.describe w ++ ", expected " ++ e
  | .invalidValue f e => "invalid value: " ++ f.describe w ++ ", expected " ++ e
  | .invalidLength n e => "invalid length " ++ toString n ++ ", expected " ++ e
  | .unknownVariant v names => "unknown variant `" ++ v ++ "`, " ++ expectedVariants names
  | .missingField f => "missing field `" ++ f ++ "`"
  | .duplicateField f => "duplicate field `" ++ f ++ "`"
  | .custom t => t

end Cadence.Decode
