import KeyCluster.Cluster.ControlPlane
import KeyCluster.Context
import KeyCluster.Log.Record
import KeyCluster.Value.Convert

/-! What a run of the program sees and leaves behind: time, servers, and a trace of what it does. -/

namespace KeyCluster

/-- Whom connections trust. -/
inductive Trust where
  | anyone
  | system
  | authorities (path : Text)
  deriving DecidableEq, Repr

/-- How requests are secured and authorised. -/
structure Credentials where
  trust : Trust
  /-- The files with the certificate of this client and its key. -/
  certificate : Option (Text × Text)
  authorization : Option Text
  deriving DecidableEq, Repr

/-- A request to a server. -/
structure Request where
  method : Text
  url : Text
  timeout : Value
  body : Option Value
  credentials : Credentials

/-- The answer of a server. -/
structure Response where
  status : Int
  body : Text
  deriving DecidableEq, Repr

/-- What comes of a request. -/
structure Reply where
  /-- How many seconds pass. -/
  advance : Float
  /-- Whether the operation is cancelled meanwhile. -/
  cancels : Bool
  outcome : Except Failure Response

/-- Servers that can be reached; what they answer may depend on all that happened to them before. A request is
one call of the library for requests, and its answer is what comes of that call: redirects are followed inside
it, and no part of the program sees or bounds them one by one. -/
structure Network (σ : Type) where
  /-- What comes of a request, and what becomes of the servers. -/
  answer : Request → σ → Reply × σ

/-- Something that a run does. -/
inductive Act where
  | sent (request : Request)
  /-- The log is told something at a time of day. -/
  | logged (time : Float) (entry : Entry)
  | printed (line : Text)

/-- How clocks tell the time, both in seconds. -/
structure Clock where
  /-- What the clock for durations shows at the beginning. -/
  start : Float
  /-- What the clock for the time of day shows at the beginning. -/
  epoch : Float

/-- The state of a run. -/
structure World (σ : Type) where
  clock : Clock
  servers : σ
  /-- How many seconds have passed. -/
  elapsed : Float := 0
  /-- Which messages of a part of the program are heard. Only what is heard is made a record of. -/
  hears : (logger : Text) → Level → Bool := fun _ _ => true
  context : Option (Context Float) := none
  /-- What was done so far, in order. -/
  acts : List Act := []

namespace World

variable {σ : Type}

/-- What the clock for durations shows. -/
def now (world : World σ) : Float :=
  world.clock.start + world.elapsed

/-- What the clock for the time of day shows. -/
def timeOfDay (world : World σ) : Float :=
  world.clock.epoch + world.elapsed

/-- The world in which one thing more was done. -/
def record (act : Act) (world : World σ) : World σ :=
  { world with acts := world.acts ++ [act] }

/-- Tells the log something. A message that is heard needs a time that a record can have. -/
def note (entry : Entry) : Action (World σ) Unit := do
  let world ← get
  if world.hears entry.logger entry.level then
    discard (Action.ofLog (Record.ofEntry world.timeOfDay entry).accept)
  set (world.record (.logged world.timeOfDay entry))

/-- The world some seconds later. -/
def advance (seconds : Float) (world : World σ) : World σ :=
  { world with elapsed := world.elapsed + seconds }

/-- The world in which the operation is cancelled. -/
def cancel (world : World σ) : World σ :=
  { world with context := world.context.map Context.cancel }

/-- The world in which a new operation begins, which lasts as long as is given, or without end. -/
def start (duration : Option Float) (world : World σ) : World σ :=
  { world with context := some (Context.start world.now duration) }

/-- The world in which a new operation begins, which lasts as long as a value says. -/
def begin (timeout : Value) (world : World σ) : Except Failure (World σ) :=
  match timeout.toDuration with
  | .ok duration => .ok (world.start duration)
  | .error fault => .error (.value fault)

/-- What comes of sending a request, which is one call of the library for requests, and the world after it. -/
def send (network : Network σ) (request : Request) (world : World σ) :
    Except Failure Response × World σ :=
  let (reply, servers) := network.answer request world.servers
  let after := ({ world.record (.sent request) with servers } : World σ).advance reply.advance
  (reply.outcome, if reply.cancels then after.cancel else after)

end World

end KeyCluster
