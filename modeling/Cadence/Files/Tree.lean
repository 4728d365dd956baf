import Cadence.Fault

/-!
# File trees

The files a program can see, as a value: each path, written as its list of names, with what
stands there, a file and its text or a directory. A directory also stands above every entry.

A path in text is read against a working directory: a leading `/` starts from the root, empty
names and `.` stay, and `..` goes up one level. `resolve` does that on the names alone, to say
where a file is placed. `Tree.locate` does it as the operating system does when it opens the
path: every name but the last must lead to a directory that stands in the tree, so a missing
one is not found and a file on the way (`loopkit.yml/`, `loopkit.yml/..`) is not a directory,
even where `..` would come back out of it.

Reading a path answers the text of the file there, or the failure the operating system
reports: no such file, or a directory where a file was wanted.
-/
namespace Cadence.Files

/-- A path, as the names from the root. -/
abbrev Path := List String

/-- What stands at a path. -/
inductive Entry where
  | file (text : String)
  | directory
  deriving Repr, BEq, Inhabited

/-- A file tree. -/
structure Tree where
  entries : List (Path × Entry) := []
  deriving Repr, Inhabited

/-- Applies the names of a path in text to a directory: `.` stays, `..` goes up. -/
def walk (base : Path) (names : List String) : Path :=
  names.foldl (fun p n => if n == "" || n == "." then p else if n == ".." then p.dropLast else p ++ [n])
    base

/-- A path in text, resolved against the working directory `cwd`; an empty path names
nothing. -/
def resolve (cwd : Path) (text : String) : Option Path :=
  if text.isEmpty then none
  else
    let names := text.splitOn "/"
    some (if text.startsWith "/" then walk [] names else walk cwd names)

/-- The directories and files a walk through names passes from `base`, in order. -/
def passes (base : Path) : List String → List Path
  | [] => []
  | n :: rest =>
    let next := if n == "" || n == "." then base else if n == ".." then base.dropLast else base ++ [n]
    next :: passes next rest

namespace Tree

/-- What stands exactly at a path, as given. -/
def entry? (t : Tree) (p : Path) : Option Entry := (t.entries.find? (·.1 == p)).map (·.2)

/-- Whether a path is a directory because something stands below it. -/
def holds (t : Tree) (p : Path) : Bool := t.entries.any fun e => e.1.length > p.length && e.1.take p.length == p

/-- Whether anything stands at a path. -/
def has (t : Tree) (p : Path) : Bool := (t.entry? p).isSome || t.holds p

/-- Whether a file stands at a proper prefix of the path. -/
def fileAbove (t : Tree) (p : Path) : Bool :=
  (List.range p.length).any fun k => t.entry? (p.take k) matches some (.file _)

/-- Follows names from the directory `here`: an empty name and `.` stay, `..` goes up (the
root is its own parent), and any other name goes down into what stands there. Every name but
the last must lead to a directory; the last may name anything, or nothing. -/
def descend (t : Tree) : Path → List String → Except IoError Path
  | here, [] => .ok here
  | here, n :: rest =>
    if n == "" || n == "." then descend t here rest
    else if n == ".." then descend t here.dropLast rest
    else
      let next := here ++ [n]
      if rest.isEmpty then .ok next
      else match t.entry? next with
        | some (.file _) => .error (.os .notADirectory)
        | some .directory => descend t next rest
        | none => if t.holds next then descend t next rest else .error (.os .notFound)

/-- Where a path in text leads from the working directory `cwd`, or why it leads nowhere; the
empty path is not found. -/
def locate (t : Tree) (cwd : Path) (text : String) : Except IoError Path :=
  if text.isEmpty then .error (.os .notFound)
  else descend t (if text.startsWith "/" then [] else cwd) (text.splitOn "/")

/-- The text of the file at a path, or why it cannot be read. -/
def read (t : Tree) (p : Path) : Except IoError String :=
  if t.fileAbove p then .error (.os .notADirectory)
  else match t.entry? p with
    | some (.file text) => .ok text
    | some .directory => .error (.os .isADirectory)
    | none => if t.holds p then .error (.os .isADirectory) else .error (.os .notFound)

/-- Makes a directory and every missing one above it. A file on the way fails as not a
directory; a file at the path itself fails as already existing. -/
def makeDirectories (t : Tree) (p : Path) : Except IoError Tree :=
  if t.fileAbove p then .error (.os .notADirectory)
  else match t.entry? p with
    | some (.file _) => .error (.os .alreadyExists)
    | _ =>
      let missing := ((List.range p.length).map fun k => p.take (k + 1)).filter (!t.has ·)
      .ok { entries := t.entries ++ missing.map fun q => (q, .directory) }

/-- Opens the file at a path for appending, making it if it is missing. A directory there
fails. -/
def openToAppend (t : Tree) (p : Path) : Except IoError Tree :=
  if t.fileAbove p then .error (.os .notADirectory)
  else match t.entry? p with
    | some (.file _) => .ok t
    | some .directory => .error (.os .isADirectory)
    | none =>
      if t.holds p then .error (.os .isADirectory)
      else .ok { entries := t.entries ++ [(p, .file "")] }

end Tree

/-- A path as text, from the root. -/
def display (p : Path) : String := "/" ++ "/".intercalate p

end Cadence.Files
