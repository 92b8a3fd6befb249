import KeyCluster.Config.Environment
import KeyCluster.Config.Settings
import KeyCluster.Failure.Basic
import KeyCluster.Number.Numeral
import KeyCluster.Value.Convert

/-! Which documents are accepted as a configuration. -/

namespace KeyCluster

/-- Settings in which every section is what it should be. -/
abbrev Config := Settings (ServerSettings TlsSettings) LogSettings

namespace Config

/-- Whether a code point stands between the endpoints of one text. -/
def isSeparator : CodePoint → Bool :=
  CodePoint.isIn fun c => c == ',' || Blank.isBlank c

/-- The endpoints that a text names. -/
def splitEndpoints (text : Text) : List Text :=
  Blank.words isSeparator text

/-- The time limit that a text names. -/
def readTimeout (text : Text) : Except ConfigFault Value :=
  match Numeral.readFloat? text with
  | some x => .ok (.float x)
  | none => .error (.timeoutText text)

/-- An entry of the server section with a text for endpoints or time limit put into its proper form. -/
def normalizeEntry (entry : Value × Value) : Except ConfigFault (Value × Value) :=
  match entry with
  | (key, .text s) =>
    if key.isText "endpoints" then .ok (key, .texts (splitEndpoints s))
    else if key.isText "timeout" then (readTimeout s).map (key, ·)
    else .ok (key, .text s)
  | entry => .ok entry

/-- A server section with texts for endpoints and time limit put into their proper form. -/
def normalizeServer : Value → Except ConfigFault Value
  | .map entries => (entries.mapM normalizeEntry).map .map
  | v => .ok v

/-- The entries of a document with the server section put into its proper form. -/
def normalize (entries : List (Value × Value)) : Except ConfigFault (List (Value × Value)) :=
  entries.mapM fun (key, value) =>
    if key.isText "server" then (normalizeServer value).map (key, ·) else .ok (key, value)

/-- Whether a value is a usable endpoint: a text that is not blank. -/
def isEndpoint : Value → Bool
  | .text s => !Blank.isAllBlank s
  | _ => false

/-- The failure that an unusable endpoint is: one that is to be shown, as far as it can be written. -/
def endpointFailure (item : Value) : Failure :=
  match item.write Value.literal with
  | .ok shown => .config (.endpoint shown)
  | .error fault => .value fault

/-- The endpoints of a configuration: a list that is not empty and holds usable endpoints only. -/
def checkEndpoints : Value → Except Failure Unit
  | .list [] => .error (.config .noEndpoints)
  | .list items => match items.find? fun item => !isEndpoint item with
    | some item => .error (endpointFailure item)
    | none => .ok ()
  | _ => .error (.config .noEndpoints)

/-- Whether a value is a number that is not known to be zero or less. -/
def isTimeout (value : Value) : Bool :=
  match value with
  -- An undefined number compares with nothing, so it passes.
  | .bool _ | .int _ | .float _ => match Value.compareNumbers value (.int 0) with
    | some .lt | some .eq => false
    | _ => true
  | _ => false

/-- A section that has to be a mapping. What else stands there lacks the member asked for. -/
def demand {α : Type} (member : Text) : Section α → Except Failure α
  | .built settings => .ok settings
  | .raw value => .error (.value (.noMember value.kind member))

/-- The log settings. A text in their place knows a way to format, though not one that logs. -/
def demandLogging : Section LogSettings → Except Failure LogSettings
  | .raw (.text _) => .error (.config .logFormat)
  | part => demand "format" part

/-- The configuration that settings amount to, or why they are not accepted. -/
def accept (draft : Draft) : Except Failure Config := do
  let server ← demand "endpoints" draft.server
  checkEndpoints server.endpoints
  if !isTimeout server.timeout then throw (.config .timeout)
  let tls ← demand "client_cert" server.tls
  if tls.certificate.isGiven && !tls.key.isGiven then throw (.config .keyRequired)
  let logging ← demandLogging draft.logging
  if !logging.format.isText "json" && !logging.format.isText "text" then throw (.config .logFormat)
  return { server := { server with tls }, logging }

/-- The configuration that a document describes in an environment. -/
def ofDocument (environment : Environment) (document : Value) : Except Failure Config :=
  match document with
  | .map entries => do
    let entries ← environment.expandEntries entries
    accept (Settings.ofEntries (← (normalize entries).mapError .config))
  | _ => .error (.config .notMapping)

/-- A configuration as a value. -/
def toValue (config : Config) : Value :=
  Settings.toValue (ServerSettings.toValue TlsSettings.toValue) LogSettings.toValue config

end Config

end KeyCluster
