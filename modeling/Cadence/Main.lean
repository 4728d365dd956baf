import Cadence.App.Program

/-!
# The executable

Reads the command line and the environment, shows the program the files it may read, runs it,
prints what it printed, appends its log records to the log file, and exits with its status.
-/
namespace Cadence.Main

/-- What stands at a path on disk, as far as reading it tells. -/
def probe (path : String) : IO (Option Files.Entry) := do
  try
    let text ← IO.FS.readFile path
    pure (some (.file text))
  catch e =>
    match e with
    | .noFileOrDirectory .. => pure none
    | _ => pure (some .directory)

/-- The entries at a path and at the directories above it, up to the first that is missing or
is a file. -/
def probeDown (p : Files.Path) : IO (List (Files.Path × Files.Entry)) := do
  let mut found := []
  for k in List.range p.length do
    let q := p.take (k + 1)
    match ← probe (Files.display q) with
    | none => return found
    | some e =>
      found := found ++ [(q, e)]
      if e matches .file _ then return found
  return found

/-- A path from the environment, or the fallback below the home directory. -/
def envPath (name : String) (home : Files.Path) (fallback : List String) : IO Files.Path := do
  match ← IO.getEnv name with
  | some v => pure ((Files.resolve [] v).getD (home ++ fallback))
  | none => pure (home ++ fallback)

end Cadence.Main

open Cadence in
/-- Runs the program on the real machine. -/
def main (args : List String) : IO UInt32 := do
  let cwd := (Files.resolve [] (← IO.currentDir).toString).getD []
  let home := ((← IO.getEnv "HOME").bind (Files.resolve [])).getD []
  let configDir ← Main.envPath "XDG_CONFIG_HOME" home [".config"]
  let dataDir ← Main.envPath "XDG_DATA_HOME" home [".local", "share"]
  let explicit := match App.invocationOf args with
    | .ok inv => inv.config
    | .error _ => none
  let candidates : List Files.Path :=
    [configDir ++ ["loopkit", "loopkit.yml"], cwd ++ ["loopkit.yml"],
      dataDir ++ ["loopkit", "logs", "loopkit.log"]] ++
    (match explicit with
      | some text => Files.passes (if text.startsWith "/" then [] else cwd) (text.splitOn "/")
      | none => [])
  let mut entries : List (Files.Path × Files.Entry) := [(cwd, .directory)]
  for c in candidates do
    entries := entries ++ (← Main.probeDown c)
  let force := (← IO.getEnv "CLICOLOR_FORCE").any (· != "0")
  let plain := (← IO.getEnv "NO_COLOR").isSome || (← IO.getEnv "CLICOLOR") == some "0"
  let color := force || (!plain && (← (← IO.getStdout).isTty))
  let machine : App.Machine :=
    { args, files := { entries }, places := { cwd, configDir := some configDir }, dataDir, color }
  let t := App.execute machine
  IO.print t.stdout
  IO.eprint t.stderr
  if !t.log.isEmpty then
    let logDir := dataDir ++ ["loopkit", "logs"]
    IO.FS.createDirAll (Files.display logDir)
    let h ← IO.FS.Handle.mk (Files.display (logDir ++ ["loopkit.log"])) .append
    for r in t.log do
      h.putStrLn (r.line "")
  pure t.status.toUInt32
