import KeyCluster.Command.Run
import Std.Time.DateTime

/-! The program: looks up what a run needs to know about its system, carries the run out, and writes what it
shows. -/

namespace KeyCluster.Needs

/-- The names of the variables to which the configuration in the content of a file refers. -/
def names (content : List UInt8) : List Text :=
  match Config.readDocument "" content with
  | .ok document => document.references.map Reference.name
  | .error _ => []

/-- The paths of the files that a configuration names. -/
def files (config : Config) : List Text :=
  [config.server.tls.authorities, config.server.tls.certificate, config.server.tls.key].filterMap
    fun value => value.toPath.toOption.map fun path => (Path.ofText path).text

/-- The files of a system of which only some paths were looked up; nothing is found elsewhere. -/
def lookedUp (found : List (Text × Found)) : Files :=
  fun path => (found.lookup path).getD .noFile

end KeyCluster.Needs

namespace KeyCluster.Program

/-- Servers that nobody can reach, for no connections are part of this program. -/
def unreachable : Network Unit where
  answer request _ :=
    let failure := .reported (.transport .connection) ("no route to " ++ request.url) {}
    ({ advance := 0, cancels := false, outcome := .error failure }, ())

/-- What is found under each of some paths. -/
def lookUp (paths : List Text) : IO (List (Text × Found)) :=
  paths.mapM fun path => do
    match ← (IO.FS.readBinFile path.shown).toBaseIO with
    | .ok content => return (path, .file content.toList)
    | .error _ => return (path, .noFile)

/-- The variables of some names that are set. -/
def environmentOf (names : List Text) : IO Environment := do
  let entries ← names.filterMapM fun name => do
    return (← IO.getEnv name.shown).map fun text => (name, Text.ofString text)
  return Environment.ofList entries

/-- The files and the environment that a run needs. -/
def lookAround (arguments : List Text) : IO (Files × Environment) := do
  match Options.read arguments with
  | .error _ => return (Needs.lookedUp [], Environment.ofList [])
  | .ok options =>
    -- The path that is looked up is the one that messages show.
    let path := (Path.ofText ((options.config.toPath.toOption).getD [])).text
    let found ← lookUp [path]
    -- Which variables are needed is only known when the file is read.
    let names := match Needs.lookedUp found path with
      | .file content => Needs.names content
      | _ => []
    let environment ← environmentOf names
    match Config.load (Needs.lookedUp found) environment (.text path) with
    | .error _ => return (Needs.lookedUp found, environment)
    -- A configuration names more files, which are looked up after it is accepted.
    | .ok config => return (Needs.lookedUp (found ++ (← lookUp (Needs.files config))), environment)

/-- What the clocks show now. -/
def clock : IO Clock := do
  let start ← IO.monoMsNow
  let epoch ← Std.Time.Timestamp.now
  return { start := Float.ofNat start / 1000,
           epoch := Float.ofInt epoch.toMillisecondsSinceUnixEpoch.toInt / 1000 }

/-- The exit code of a run that may have ended in a failure that nobody expects, which is then shown. -/
def finish {σ : Type} (run : Run σ) : IO UInt32 := do
  match run.ending with
  | .escaped failure => IO.eprintln failure.summary.shown
  | _ => pure ()
  return UInt32.ofNat (run.ending.code.getD 1)

end KeyCluster.Program

/-- Runs the program. -/
def main (arguments : List String) : IO UInt32 := do
  let arguments := arguments.map KeyCluster.Text.ofString
  let (files, environment) ← KeyCluster.Program.lookAround arguments
  let world := { clock := ← KeyCluster.Program.clock, servers := () }
  let run := KeyCluster.Run.ofArguments arguments files environment KeyCluster.Program.unreachable world
  IO.print run.output.shown
  IO.eprint run.errors.shown
  KeyCluster.Program.finish run
