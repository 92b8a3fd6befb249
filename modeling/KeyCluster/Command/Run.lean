import KeyCluster.Cluster.Join
import KeyCluster.Command.Options
import KeyCluster.Config.Load
import KeyCluster.Http.Client
import KeyCluster.Log.Setup

/-! A run of the program, from its command line to its exit code, and what the log is told about it. -/

namespace KeyCluster.Notice

/-- The name under which these messages are logged. -/
def logger : Text :=
  "kms_cluster.cli"

/-- The configuration is accepted. -/
def valid : Entry :=
  { level := Level.info, logger, message := "Configuration is valid", fields := [] }

/-- A failure ended the run. -/
def fatal (failure : Failure) : Entry :=
  { level := Level.error, logger, message := "Fatal error: " ++ failure.message, fields := [] }

/-- The user interrupted the run. -/
def interrupted : Entry :=
  { level := Level.info, logger, message := "Interrupted", fields := [] }

/-- All servers are part of one cluster, after some seconds. -/
def united (servers : Nat) (seconds : Float) : Entry :=
  { level := Level.info, logger,
    message := "All " ++ Value.intText servers ++ " servers are part of one cluster",
    fields := [("elapsed_seconds", .float (Double.roundTo 2 seconds))] }

end KeyCluster.Notice

namespace KeyCluster

/-- How a run ends. -/
inductive Ending where
  | help
  | misuse (fault : Misuse)
  | rejected (failure : Failure)
  | done (code : Nat)
  /-- A failure that nobody expects ended it. -/
  | escaped (failure : Failure)

/-- The exit code of a run; none where an unexpected failure ended it. -/
def Ending.code : Ending → Option Nat
  | help => some 0
  | misuse _ => some 2
  | rejected _ => some 1
  | done code => some code
  | escaped _ => none

/-- A run of the program. -/
structure Run (σ : Type) where
  ending : Ending
  log : LogSetup := {}
  world : World σ

namespace Run

variable {σ : Type}

/-- How many servers a configuration names. -/
def serverCount (config : Config) : Nat :=
  match config.server.endpoints.size with
  | .ok count => count
  | .error _ => 0

/-- Writes a line. -/
def write (line : Text) : Action (World σ) Unit :=
  modify (World.record (.printed line))

/-- Brings the servers of a configuration together, or only shows their clusters. -/
def serve (options : Options Value) (config : Config) (files : Files) (network : Network σ) :
    Action (World σ) Unit := do
  match Client.ofSettings files config.server with
  | .error failure => throw failure
  | .ok client =>
    let plane := client.plane network
    if options.status then
      Listing.list plane write true (← Action.ofValue config.server.endpoints.parts)
    else Join.join plane config.server.endpoints true

/-- How a run ends with a last notice, unless the log cannot take it, and the world after that. -/
def close (ending : Ending) (notice : Entry) (world : World σ) : Ending × World σ :=
  match (World.note notice).outcome world with
  | (.ok (), after) => (ending, after)
  | (.error failure, after) => (.escaped failure, after)

/-- How a run with an accepted configuration ends that is carried out from now on, and the world after it.
Failures of the cluster tooling itself and interrupts are expected. -/
def carryOut (options : Options Value) (config : Config) (files : Files) (network : Network σ)
    (world : World σ) : Ending × World σ :=
  match (serve options config files network).outcome world with
  -- What was joined is announced, with the time that it took. A listing has been shown already.
  | (.ok (), after) =>
    if options.status then (.done 0, after)
    else close (.done 0) (Notice.united (serverCount config) (after.now - world.now)) after
  | (.error failure, after) =>
    if failure.kind.isClusterFailure then close (.done 1) (Notice.fatal failure) after
    else if failure.kind == .interrupt then close (.done 130) Notice.interrupted after
    else (.escaped failure, after)

/-- How a run with an accepted configuration ends, and the world after it. -/
def begin (options : Options Value) (config : Config) (files : Files) (network : Network σ)
    (world : World σ) : Ending × World σ :=
  if options.validate then close (.done 0) Notice.valid world
  -- The deadline runs from here on.
  else match world.begin options.timeout with
    | .ok world => carryOut options config files network world
    | .error failure => (.escaped failure, world)

/-- The run that a usable command line asks for. -/
def perform (options : Options Value) (files : Files) (environment : Environment)
    (network : Network σ) (world : World σ) : Run σ :=
  match Config.load files environment options.config with
  | .error failure =>
    { ending := if failure.kind == .config then .rejected failure else .escaped failure, world }
  | .ok config => match LogSetup.ofSettings config.logging with
    | .error failure => { ending := .escaped failure, world }
    | .ok log =>
      -- From now on the log hears what its threshold lets through.
      let (ending, after) := begin options config files network { world with hears := log.lets }
      { ending, log, world := after }

/-- The run that a command line asks for. -/
def ofArguments (arguments : List Text) (files : Files) (environment : Environment)
    (network : Network σ) (world : World σ) : Run σ :=
  match Options.read arguments with
  | .error .help => { ending := .help, world }
  | .error (.misuse fault) => { ending := .misuse fault, world }
  | .ok options => perform options files environment network world

/-- What a run writes about one of its acts to the standard output. -/
def shown : Act → Text
  | .printed line => line ++ "\n"
  | _ => ""

/-- What a log writes about one of the acts of a run. -/
def told (log : LogSetup) : Act → Text
  | .logged time entry => log.entryText time entry
  | _ => ""

/-- What a run writes to the standard output. -/
def output (run : Run σ) : Text :=
  match run.ending with
  | .help => Usage.help
  | _ => run.world.acts.flatMap shown

/-- What a run writes to the standard error output. -/
def errors (run : Run σ) : Text :=
  match run.ending with
  | .misuse fault => Usage.complaint fault.message
  | .rejected failure => "Configuration error: " ++ failure.message ++ "\n"
  | _ => run.world.acts.flatMap (told run.log)

end Run

end KeyCluster
