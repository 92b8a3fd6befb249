import KeyCluster.Config.Settings
import KeyCluster.Files.Basic
import KeyCluster.Http.World
import KeyCluster.Json.Reader

/-! Talking to servers. Hosts are tried in order, and one that cannot be reached is skipped. -/

namespace KeyCluster

/-- What requests of one configuration have in common. -/
structure Client where
  credentials : Credentials
  timeout : Value

namespace Client

/-- The name under which requests are logged. -/
def logger : Text :=
  "kms_cluster.kms.client"

/-- The resource that reports the status of a cluster. -/
def statusPath : Text :=
  "/v1/cluster/status"

/-- The resource that takes in a host. -/
def addPath : Text :=
  "/v1/cluster/add"

/-- What requests are authorised with, if there is a key. -/
def authorizationOf (apiKey : Value) : Except ValueFault (Option Text) :=
  if apiKey.isGiven then (apiKey.write Value.plain).map fun key => some ("Bearer " ++ key) else .ok none

/-- The path that a value is, if there is a file under it. -/
def demandFile (files : Files) (fault : Text → ConfigFault) (value : Value) :
    Except Failure Text := do
  if ← files.isFile value then return value.plain
  throw (.config (fault value.plain))

/-- Whom connections trust. -/
def trustOf (files : Files) (tls : TlsSettings) : Except Failure Trust := do
  -- What else could stand for yes or no is not told apart: whatever does not count as given turns the check
  -- off.
  if !tls.verify.isGiven then return .anyone
  if !tls.authorities.isGiven then return .system
  return .authorities (← demandFile files .authorityFile tls.authorities)

/-- The files with the certificate of this client and its key, if it has a certificate. -/
def certificateOf (files : Files) (tls : TlsSettings) : Except Failure (Option (Text × Text)) := do
  if !tls.certificate.isGiven then return none
  -- The key is asked for before any file is looked at.
  if !tls.key.isGiven then throw (.config .certificateAlone)
  let certificate ← demandFile files .credentialFile tls.certificate
  let key ← demandFile files .credentialFile tls.key
  return some (certificate, key)

/-- The client of a configuration. -/
def ofSettings (files : Files) (settings : ServerSettings TlsSettings) : Except Failure Client := do
  let authorization ← (authorizationOf settings.apiKey).mapError .value
  let trust ← trustOf files settings.tls
  let certificate ← certificateOf files settings.tls
  return { credentials := { trust, certificate, authorization }, timeout := settings.timeout }

section

variable {σ : Type}

/-- The context of the operation, if calls are watched. -/
def contextOf (watched : Bool) (world : World σ) : Option (Context Float) :=
  if watched then world.context else none

/-- Fails if the operation has to stop. -/
def check (watched : Bool) : Action (World σ) Unit := do
  let world ← get
  match (contextOf watched world).bind fun context => context.lapse? world.now with
  | some .cancelled => throw .cancelled
  | some .deadline => throw .deadline
  | none => return ()

/-- The time limit of a request that is sent now. -/
def limit (client : Client) (watched : Bool) : Action (World σ) Value := do
  let world ← get
  match contextOf watched world with
  | none => return client.timeout
  | some context =>
    Action.ofValue (context.limitWith Value.exceeds .float world.now client.timeout)

/-- Tells the log the details of a request. -/
def note (message : Text) : Action (World σ) Unit :=
  World.note { level := Level.debug, logger, message, fields := [] }

/-- Sends a request. -/
def send (network : Network σ) (request : Request) : Action (World σ) (Except Failure Response) :=
  fun world =>
    let (outcome, after) := world.send network request
    (.ok outcome, after)

/-- Why a failure says that there is no answer: whether the host was not reached at all, if it was only
the exchange with it that broke down. -/
def breakdown? (failure : Failure) : Option Bool :=
  match failure.kind with
  | .transport kind => some kind.isUnreachable
  | _ => none

/-- An answer that is no error. -/
def accept (method path host : Text) (response : Response) : Action (World σ) Response := do
  if 400 ≤ response.status then
    throw (.api (.rejected response.status method path host response.body))
  return response

/-- The answer of the first host that can be reached. The last one before them that could not be, and the
reason, stand in front of the hosts. -/
def askFrom (client : Client) (network : Network σ) (method path : Text) (body : Option Value)
    (watched : Bool) : (last : Text × Text) → List Value → Action (World σ) Response
  | (host, reason), [] => throw (.api (.unanswered host reason))
  | _, endpoint :: rest => do
    let host ← Action.ofValue (Endpoint.hostOf endpoint)
    -- The operation is looked at before every host, since those in front may have taken long.
    check watched
    let timeout ← client.limit watched
    let url := Endpoint.scheme ++ host ++ path
    note (method ++ " " ++ url)
    match ← send network { method, url, timeout, body, credentials := client.credentials } with
    | .ok response => accept method path host response
    | .error failure =>
      match breakdown? failure with
      -- A failure of another kind is not about the host.
      | none => throw failure
      | some unreachable =>
        -- What breaks down after the end of the operation is laid to that end.
        check watched
        if unreachable then
          note ("Host " ++ host ++ " unreachable: " ++ failure.message)
          askFrom client network method path body watched (host, failure.message) rest
        else throw (.api (.unanswered host failure.message))

/-- The answer of the first of some hosts that can be reached. -/
def ask (client : Client) (network : Network σ) (method path : Text) (body : Option Value)
    (hosts : Value) (watched : Bool) : Action (World σ) Response := do
  if !hosts.isGiven then throw .noHosts
  askFrom client network method path body watched ("", "None") (← Action.ofValue hosts.parts)

/-- Whether a fault in a body makes its report malformed. A number that is too large does not. -/
def isMalformed (fault : ValueFault) : Bool :=
  fault.kind != .overflow

/-- The report in an answer. -/
def reportOf (response : Response) : Except Failure Report :=
  match Json.read response.body.chars with
  | .error (.tooDeep container) => .error (.tooDeepBody container)
  | .error fault => .error (.api (.malformed response.status response.body (.json fault)))
  | .ok value => match Report.ofValue value with
    | .ok report => .ok report
    | .error fault =>
      if isMalformed fault then
        .error (.api (.malformed response.status response.body (.value fault)))
      else .error (.value fault)

/-- Asks for the cluster of the first of some hosts that can be reached. -/
def status (client : Client) (network : Network σ) (hosts : Value) (watched : Bool) :
    Action (World σ) Report := do
  let response ← client.ask network "GET" statusPath none hosts watched
  -- A fault of the program itself stays what it is; only what the body says makes an answer malformed.
  match reportOf response with
  | .ok report => return report
  | .error failure => throw failure

/-- Asks the cluster of some hosts to take in another one. -/
def add (client : Client) (network : Network σ) (host hosts : Value) (watched : Bool) :
    Action (World σ) Unit := do
  let host ← Action.ofValue (Endpoint.hostOf host)
  let body := Value.record [("host", .text host)]
  discard (client.ask network "POST" addPath (some body) hosts watched)

/-- The control plane that a client reaches. -/
def plane (client : Client) (network : Network σ) : ControlPlane (World σ) where
  status hosts watched := client.status network (.texts hosts) watched
  add host hosts watched := client.add network (.text host) (.texts hosts) watched
  note := World.note

end

end Client

end KeyCluster
