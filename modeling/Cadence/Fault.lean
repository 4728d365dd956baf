import Cadence.Text.Quoted

/-!
# Faults

Why an operation failed, as a value. An input/output failure is either one the operating system
reported by number, or one made by a program with a kind and a message. A unit of work fails
either with a plain message or with such an input/output failure; in both cases the failure's
text is its message, and they differ only in their diagnostic form.
-/
namespace Cadence

/-- The kinds of input/output failure that are told apart. -/
inductive IoKind where
  | notFound
  | notADirectory
  | isADirectory
  | alreadyExists
  | other
  deriving Repr, BEq, DecidableEq, Inhabited

/-- The diagnostic name of a kind. -/
def IoKind.name : IoKind → String
  | .notFound => "NotFound"
  | .notADirectory => "NotADirectory"
  | .isADirectory => "IsADirectory"
  | .alreadyExists => "AlreadyExists"
  | .other => "Other"

/-- An input/output failure. -/
inductive IoError where
  /-- A failure the operating system reported, by its number. -/
  | os (kind : IoKind)
  /-- A failure a program made, with its kind and message. -/
  | custom (kind : IoKind) (message : String)
  deriving Repr, BEq, Inhabited

namespace IoError

/-- The operating system's number and description of a kind of failure. -/
def osCode : IoKind → Nat × String
  | .notFound => (2, "No such file or directory")
  | .notADirectory => (20, "Not a directory")
  | .isADirectory => (21, "Is a directory")
  | .alreadyExists => (17, "File exists")
  | .other => (5, "Input/output error")

/-- The text of a failure. -/
def message : IoError → String
  | .os kind => let (code, text) := osCode kind; text ++ " (os error " ++ toString code ++ ")"
  | .custom _ m => m

/-- The diagnostic form of a failure. -/
def debugText : IoError → String
  | .os kind =>
    let (code, text) := osCode kind
    "Os \x7b code: " ++ toString code ++ ", kind: " ++ kind.name ++ ", message: " ++
      Text.quoted text ++ " \x7d"
  | .custom kind m => "Custom \x7b kind: " ++ kind.name ++ ", error: " ++ Text.quoted m ++ " \x7d"

end IoError

/-- Why a unit of work failed. -/
inductive Fault where
  | message (text : String)
  | io (e : IoError)
  deriving Repr, BEq, Inhabited

namespace Fault

/-- The text of a fault. -/
def text : Fault → String
  | .message t => t
  | .io e => e.message

/-- The diagnostic form of a fault. -/
def debugText : Fault → String
  | .message t => Text.quoted t
  | .io e => e.debugText

end Fault

end Cadence
