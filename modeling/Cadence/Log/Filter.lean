import Cadence.Log.Level
import Cadence.Text.Regex

/-!
# Log filters

A filter is written as directives separated by commas, optionally followed by `/` and a
regular expression that some part of an admitted message must match. Blanks around a directive
are dropped, and empty directives are skipped. An expression that does not parse is reported
as a warning and ignored.

* `level` admits records of that level or a more severe one, whatever their target;
* `name` (not a level) and `name=` admit every record whose target starts with `name`;
* `name=level` admits records whose target starts with `name` up to that level.

Levels are `off`, `error`, `warn`, `info`, `debug` and `trace`, in any case. A directive that
cannot be read is reported as a warning and ignored. A directive for a name given before is
replaced in place. A filter without directives admits errors only.

A record is judged by the directive with the longest name that starts its target, the later of
directives with names of equal length; a record that no directive concerns is not admitted.
-/
namespace Cadence.Log

/-- The most verbose level a directive admits; `none` admits nothing. -/
abbrev Threshold := Option Level

/-- The threshold a level name stands for, in any case. -/
def thresholdOf? (s : String) : Option Threshold :=
  match s.toLower with
  | "off" => some none
  | "error" => some (some .error)
  | "warn" => some (some .warn)
  | "info" => some (some .info)
  | "debug" => some (some .debug)
  | "trace" => some (some .trace)
  | _ => none

/-- Whether a threshold admits a level. -/
def Threshold.admits (t : Threshold) (l : Level) : Bool :=
  match t with
  | none => false
  | some m => l.rank ≤ m.rank

/-- One directive: the targets it concerns (all when unnamed) and its threshold. -/
structure Directive where
  name : Option String
  threshold : Threshold
  deriving Repr, BEq, Inhabited

/-- The length of the name a directive concerns. -/
def Directive.reach (d : Directive) : Nat := (d.name.map String.length).getD 0

/-- A log filter: directives, shortest name first, and a pattern messages must match. -/
structure Filter where
  directives : List Directive
  pattern : Option Text.Regex := none
  deriving Repr, Inhabited

/-- The characters trimmed from the ends of a directive: the Unicode white space. -/
def isBlank (c : Char) : Bool :=
  let n := c.toNat
  n == 32 || (9 ≤ n && n ≤ 13) || n == 0x85 || n == 0xA0 || n == 0x1680 ||
    (0x2000 ≤ n && n ≤ 0x200A) || n == 0x2028 || n == 0x2029 || n == 0x202F || n == 0x205F ||
    n == 0x3000

/-- A text without blanks at its ends. -/
def trimBlanks (s : String) : String :=
  String.ofList ((s.toList.dropWhile isBlank).reverse.dropWhile isBlank).reverse

/-- Adds a directive, replacing one for the same name in place. -/
def addDirective (ds : List Directive) (d : Directive) : List Directive :=
  if ds.any (·.name == d.name) then ds.map fun e => if e.name == d.name then d else e
  else ds ++ [d]

/-- Reads one directive: the directive, or the warning it gives. -/
def readDirective (s : String) : Except String Directive :=
  match s.splitOn "=" with
  | [p] =>
    match thresholdOf? p with
    | some t => .ok ⟨none, t⟩
    | none => .ok ⟨some p, some .trace⟩
  | [p, q] =>
    let q := trimBlanks q
    if q.isEmpty then .ok ⟨some p, some .trace⟩
    else
      match thresholdOf? q with
      | some t => .ok ⟨some p, t⟩
      | none => .error ("invalid logging spec '" ++ q ++ "'")
  | _ => .error ("invalid logging spec '" ++ s ++ "'")

/-- The warning printed for a part of a filter that is ignored. -/
def warning (problem : String) : String := "warning: " ++ problem ++ ", ignoring it\n"

/-- Reads a filter, with the warnings its ignored parts give. -/
def Filter.parse (spec : String) : Filter × List String :=
  let finish (ds : List Directive) (pattern : Option Text.Regex) : Filter :=
    if ds.isEmpty then { directives := [⟨none, some .error⟩], pattern }
    else { directives := ds.mergeSort (fun a b => a.reach ≤ b.reach), pattern }
  match spec.splitOn "/" with
  | [mods] | [mods, _] =>
    let (ds, warnings) := ((mods.splitOn ",").map trimBlanks).foldl
      (fun (ds, ws) s =>
        if s.isEmpty then (ds, ws)
        else match readDirective s with
          | .ok d => (addDirective ds d, ws)
          | .error w => (ds, ws ++ [warning w])) ([], [])
    let (pattern, warnings) := match spec.splitOn "/" with
      | [_, text] =>
        match Text.Regex.compile text with
        | .ok r => (some r, warnings)
        | .error e => (none, warnings ++ [warning ("invalid regex filter - " ++ e)])
      | _ => (none, warnings)
    (finish ds pattern, warnings)
  | _ => (finish [] none, [warning ("invalid logging spec '" ++ spec ++ "' (too many '/'s)")])

/-- Whether a filter admits a record of this level, target and message. -/
def Filter.admits (f : Filter) (level : Level) (target message : String) : Bool :=
  let concerned := f.directives.reverse.find? fun d =>
    match d.name with
    | some n => target.startsWith n
    | none => true
  match concerned with
  | some d =>
    d.threshold.admits level && (f.pattern.map (·.isMatch message)).getD true
  | none => false

end Cadence.Log
