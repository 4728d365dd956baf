import Cadence.Files.Tree
import Cadence.Decode.Yaml
import Cadence.Error

/-!
# Loading a configuration

A configuration comes from the first of these that loads:

1. a path the user names: it must load, and its error is the answer;
2. `loopkit/loopkit.yml` in the user's configuration directory, if something stands there;
3. `loopkit.yml` in the working directory, if something stands there;
4. the defaults.

Loading a file reads it, reads its text as YAML, and checks the result; a file found in steps 2
and 3 that fails any of the three is passed over.
-/
namespace Cadence.Config

/-- The name of configuration files and of their directory. -/
def fileName : String := "loopkit.yml"

/-- Reads, parses and checks the configuration file at a path. -/
def loadFile (t : Files.Tree) (p : Files.Path) : Except LoopError Config := do
  let text ← match t.read p with
    | .ok s => pure s
    | .error e => throw (.io e)
  let cfg ← match Decode.configOfYaml text with
    | .ok c => pure c
    | .error e => throw (.yaml e)
  match cfg.validate with
  | .ok () => pure cfg
  | .error r => throw (.invalidConfig r)

/-- Where a program looks for its configuration. -/
structure Places where
  /-- The working directory. -/
  cwd : Files.Path
  /-- The user's configuration directory, if there is one. -/
  configDir : Option Files.Path
  deriving Repr, Inhabited

/-- The configuration: from the path given, else from the first file found that loads, else
the defaults. -/
def load (t : Files.Tree) (places : Places) (explicit : Option String) : Except LoopError Config :=
  match explicit with
  | some path =>
    match t.locate places.cwd path with
    | .ok p => loadFile t p
    | .error e => .error (.io e)
  | none =>
    let attempt (p : Files.Path) : Option Config :=
      if t.has p then (loadFile t p).toOption else none
    match places.configDir.bind fun d => attempt (d ++ ["loopkit", fileName]) with
    | some c => .ok c
    | none => .ok ((attempt (places.cwd ++ [fileName])).getD {})

end Cadence.Config
