import KeyCluster.Command.Run
import KeyCluster.Proofs.Config.Replacement
import Mathlib.Tactic.Common

/-! Which documents that are not accepted are reported as such, and which fail in another way. -/

namespace KeyCluster

/-- A value that is used as something that it is not is no configuration that is not accepted. -/
theorem ValueFault.kind_ne_config (fault : ValueFault) : fault.kind ≠ .config := by
  cases fault <;> simp [ValueFault.kind]

namespace Config

/-- How settings fail in another way than by not being accepted: a section that is no mapping is asked for
one of its members, or an endpoint cannot be shown. What is checked before has to be in order. -/
inductive Escapes (draft : Draft) : ValueFault → Prop
  /-- The section of the servers is no mapping. -/
  | server {value : Value} (raw : draft.server = .raw value) :
      Escapes draft (.noMember value.kind "endpoints")
  /-- The first endpoint that cannot be used holds an integer with too many digits. -/
  | endpoint {server : ServerDraft} {items : List Value} {item : Value}
      (built : draft.server = .built server) (listed : server.endpoints = .list items)
      (unusable : items.find? (fun item => !isEndpoint item) = some item)
      (unwritable : item.isWritable = false) : Escapes draft .tooLongToWrite
  /-- The section about the security of connections is no mapping. -/
  | tls {server : ServerDraft} {value : Value} (built : draft.server = .built server)
      (usable : checkEndpoints server.endpoints = .ok ()) (timely : isTimeout server.timeout = true)
      (raw : server.tls = .raw value) : Escapes draft (.noMember value.kind "client_cert")
  /-- The section of the log is neither a mapping nor a text. -/
  | logging {server : ServerDraft} {tls : TlsSettings} {value : Value}
      (built : draft.server = .built server) (usable : checkEndpoints server.endpoints = .ok ())
      (timely : isTimeout server.timeout = true) (secured : server.tls = .built tls)
      (keyed : tls.certificate.isGiven = true → tls.key.isGiven = true)
      (raw : draft.logging = .raw value) (wordless : ∀ text, value ≠ .text text) :
      Escapes draft (.noMember value.kind "format")

/-- Endpoints fail the check as such, or because the first one that cannot be used cannot be shown. -/
theorem checkEndpoints_eq_error {endpoints : Value} {failure : Failure}
    (failed : checkEndpoints endpoints = .error failure) :
    (∃ fault, failure = .config fault) ∨
      failure = .value .tooLongToWrite ∧ ∃ items item, endpoints = .list items ∧
        items.find? (fun item => !isEndpoint item) = some item ∧ item.isWritable = false := by
  -- The check may find no list, an item that is no endpoint, or nothing to complain about.
  unfold checkEndpoints at failed
  split at failed
  · cases failed
    exact .inl ⟨_, rfl⟩
  · rename_i items _
    split at failed
    · rename_i item found
      cases failed
      -- The item is shown in the message, which fails if it holds an integer with too many digits.
      unfold endpointFailure Value.write
      cases writable : item.isWritable with
      | true => exact .inl ⟨_, rfl⟩
      | false => exact .inr ⟨rfl, items, item, rfl, found, writable⟩
    · cases failed
  · cases failed
    exact .inl ⟨_, rfl⟩

/-- A condition without which settings are not accepted. -/
def require (condition : Bool) (fault : ConfigFault) : Except Failure Unit :=
  if condition then .ok () else .error (.config fault)

/-- A condition that does not hold is reported. -/
theorem require_eq_error {condition : Bool} {fault : ConfigFault} {failure : Failure}
    (failed : require condition fault = .error failure) : failure = .config fault := by
  cases condition <;> cases failed
  rfl

/-- A condition is passed when it holds. -/
theorem require_eq_ok {condition : Bool} {fault : ConfigFault} {done : Unit} :
    require condition fault = .ok done ↔ condition = true := by
  cases condition <;> simp [require]

/-- Settings are accepted when they pass the checks of their parts, in this order. -/
theorem accept_eq (draft : Draft) : accept draft = (do
    let server ← demand "endpoints" draft.server
    checkEndpoints server.endpoints
    require (isTimeout server.timeout) .timeout
    let tls ← demand "client_cert" server.tls
    require (!(tls.certificate.isGiven && !tls.key.isGiven)) .keyRequired
    let logging ← demandLogging draft.logging
    require (logging.format.isText "json" || logging.format.isText "text") .logFormat
    return { server := { server with tls }, logging }) := by
  -- The program tests its conditions in nested branches. Each of them is passed or ends the check here, too.
  refine bind_congr fun server => bind_congr fun _ => ?_
  cases isTimeout server.timeout with
  | false => rfl
  | true =>
    refine bind_congr (x := demand "client_cert" server.tls) fun tls => ?_
    cases tls.certificate.isGiven && !tls.key.isGiven with
    | true => rfl
    | false =>
      refine bind_congr (x := demandLogging draft.logging) fun logging => ?_
      cases logging.format.isText "json" <;> cases logging.format.isText "text" <;> rfl

/-- A certificate needs a key. -/
theorem isKeyed_iff {tls : TlsSettings} : (!(tls.certificate.isGiven && !tls.key.isGiven)) = true ↔
    (tls.certificate.isGiven = true → tls.key.isGiven = true) := by
  cases tls.certificate.isGiven <;> simp

/-- A section that has to be a mapping is asked for a member that it lacks if it is none. -/
theorem demand_eq_error {α : Type} {member : Text} {part : Section α} {failure : Failure} :
    demand member part = .error failure ↔
      ∃ value, part = .raw value ∧ failure = .value (.noMember value.kind member) := by
  cases part <;> simp [demand, eq_comm]

/-- A section that is a mapping is taken as it is. -/
theorem demand_eq_ok {α : Type} {member : Text} {part : Section α} {settings : α} :
    demand member part = .ok settings ↔ part = .built settings := by
  cases part <;> simp [demand]

/-- The section of the log is reported if it is a text, and lacks a member if it is no mapping either. -/
theorem demandLogging_eq_error {part : Section LogSettings} {failure : Failure}
    (failed : demandLogging part = .error failure) :
    (∃ fault, failure = .config fault) ∨ ∃ value, part = .raw value ∧
      (∀ text, value ≠ .text text) ∧ failure = .value (.noMember value.kind "format") := by
  -- A text has no format, and this is reported. What is neither a text nor a mapping has no such member.
  unfold demandLogging at failed
  split at failed
  · cases failed
    exact .inl ⟨_, rfl⟩
  · rename_i other
    obtain ⟨value, raw, same⟩ := demand_eq_error.mp failed
    exact .inr ⟨value, raw, fun text isText => other text (by rw [raw, isText]), same⟩

/-- A section of the log that is neither a mapping nor a text lacks a member. -/
theorem demandLogging_of_wordless {value : Value} (wordless : ∀ text, value ≠ .text text) :
    demandLogging (.raw value) = .error (.value (.noMember value.kind "format")) := by
  unfold demandLogging
  split
  · rename_i text same
    cases same
    exact absurd rfl (wordless text)
  · rfl

/-- Settings that are not accepted are reported as such, or they escape. -/
theorem accept_eq_error {draft : Draft} {failure : Failure} (failed : accept draft = .error failure) :
    (∃ fault, failure = .config fault) ∨ ∃ fault, failure = .value fault ∧ Escapes draft fault := by
  -- Each of the checks may be the one that fails, after those in front have passed.
  rw [accept_eq] at failed
  rcases Result.bind_eq_error.mp failed with failed | ⟨server, demanded, failed⟩
  · obtain ⟨value, raw, rfl⟩ := demand_eq_error.mp failed
    exact .inr ⟨_, rfl, .server raw⟩
  have built := demand_eq_ok.mp demanded
  rcases Result.bind_eq_error.mp failed with failed | ⟨_, usable, failed⟩
  · rcases checkEndpoints_eq_error failed with reported | ⟨rfl, items, item, listed, unusable, unwritable⟩
    · exact .inl reported
    · exact .inr ⟨_, rfl, .endpoint built listed unusable unwritable⟩
  rcases Result.bind_eq_error.mp failed with failed | ⟨_, timely, failed⟩
  · exact .inl ⟨_, require_eq_error failed⟩
  rcases Result.bind_eq_error.mp failed with failed | ⟨tls, secured, failed⟩
  · obtain ⟨value, raw, rfl⟩ := demand_eq_error.mp failed
    exact .inr ⟨_, rfl, .tls built usable (require_eq_ok.mp timely) raw⟩
  rcases Result.bind_eq_error.mp failed with failed | ⟨_, keyed, failed⟩
  · exact .inl ⟨_, require_eq_error failed⟩
  rcases Result.bind_eq_error.mp failed with failed | ⟨logging, _, failed⟩
  · rcases demandLogging_eq_error failed with reported | ⟨value, raw, wordless, rfl⟩
    · exact .inl reported
    · exact .inr ⟨_, rfl, .logging built usable (require_eq_ok.mp timely) (demand_eq_ok.mp secured)
        (isKeyed_iff.mp (require_eq_ok.mp keyed)) raw wordless⟩
  exact .inl ⟨_, require_eq_error (Result.bind_pure_eq_error.mp failed)⟩

/-- Endpoints of which the first unusable one cannot be shown fail the check in this way. -/
theorem checkEndpoints_of_unwritable {items : List Value} {item : Value}
    (unusable : items.find? (fun item => !isEndpoint item) = some item)
    (unwritable : item.isWritable = false) :
    checkEndpoints (.list items) = .error (.value .tooLongToWrite) := by
  cases items with
  | nil => cases unusable
  | cons head tail =>
    simp only [checkEndpoints, unusable, endpointFailure, Value.write, unwritable]
    rfl

/-- Settings that escape fail so. -/
theorem Escapes.accept_eq {draft : Draft} {fault : ValueFault} (escapes : Escapes draft fault) :
    accept draft = .error (.value fault) := by
  -- The checks in front of the one that fails are passed.
  rw [Config.accept_eq, Result.bind_eq_error]
  cases escapes with
  | server raw => exact .inl (demand_eq_error.mpr ⟨_, raw, rfl⟩)
  | @endpoint server items item built listed unusable unwritable =>
    refine .inr ⟨server, demand_eq_ok.mpr built, Result.bind_eq_error.mpr (.inl ?_)⟩
    rw [listed, checkEndpoints_of_unwritable unusable unwritable]
  | @tls server value built usable timely raw =>
    refine .inr ⟨server, demand_eq_ok.mpr built, Result.bind_eq_error.mpr (.inr ⟨_, usable, ?_⟩)⟩
    refine Result.bind_eq_error.mpr (.inr ⟨(), require_eq_ok.mpr timely, ?_⟩)
    exact Result.bind_eq_error.mpr (.inl (demand_eq_error.mpr ⟨value, raw, rfl⟩))
  | @logging server tls value built usable timely secured keyed raw wordless =>
    refine .inr ⟨server, demand_eq_ok.mpr built, Result.bind_eq_error.mpr (.inr ⟨_, usable, ?_⟩)⟩
    refine Result.bind_eq_error.mpr (.inr ⟨(), require_eq_ok.mpr timely, ?_⟩)
    refine Result.bind_eq_error.mpr (.inr ⟨tls, demand_eq_ok.mpr secured, ?_⟩)
    refine Result.bind_eq_error.mpr (.inr ⟨(), require_eq_ok.mpr (isKeyed_iff.mpr keyed), ?_⟩)
    refine Result.bind_eq_error.mpr (.inl ?_)
    rw [raw, demandLogging_of_wordless wordless]

/-- The settings that the entries of a document describe in an environment, before they are checked. -/
def describe (environment : Environment) (entries : List (Value × Value)) : Except Failure Draft := do
  let entries ← environment.expandEntries entries
  return Settings.ofEntries (← (normalize entries).mapError .config)

/-- A document is accepted when its settings are. -/
theorem ofDocument_map (environment : Environment) (entries : List (Value × Value)) :
    ofDocument environment (.map entries) = describe environment entries >>= accept := by
  simp only [ofDocument, describe, bind_assoc, pure_bind]

/-- The settings of a document can be told, unless it is reported why not or the document is too deep. -/
theorem describe_eq_error {environment : Environment} {entries : List (Value × Value)} {failure : Failure}
    (failed : describe environment entries = .error failure) : (∃ fault, failure = .config fault) ∨
      failure = .tooDeep ∧ environment.expandEntries entries = .error .tooDeep := by
  -- Either the replacing of references fails, or the normalizing, which only reports.
  rcases Result.bind_eq_error.mp failed with failed | ⟨expanded, _, failed⟩
  · rcases Environment.expandEntriesWithin_eq_error failed with ⟨_, _, _, reported⟩ | rfl
    · exact .inl ⟨_, reported⟩
    · exact .inr ⟨rfl, failed⟩
  · obtain ⟨fault, _, rfl⟩ := Result.mapError_eq_error.mp (Result.bind_pure_eq_error.mp failed)
    exact .inl ⟨fault, rfl⟩

/-- A configuration is found, or it is reported why there is none. -/
def IsContained (result : Except Failure Config) : Prop :=
  (∃ config, result = .ok config) ∨ ∃ fault, result = .error (.config fault)

/-- The entries of a document are too deep, or they describe settings that escape. -/
def IsEscaping (environment : Environment) (entries : List (Value × Value)) : Prop :=
  environment.expandEntries entries = .error .tooDeep ∨
    ∃ settings fault, describe environment entries = .ok settings ∧ Escapes settings fault

/-- A document that goes wrong so fails, and is not reported as a configuration that is not accepted. -/
theorem IsEscaping.ofDocument_eq {environment : Environment} {entries : List (Value × Value)}
    (escaping : IsEscaping environment entries) :
    ∃ failure, ofDocument environment (.map entries) = .error failure ∧ failure.kind ≠ .config := by
  rw [ofDocument_map]
  -- Either there is no end to the nesting, or one of the checks fails on a value.
  rcases escaping with deep | ⟨settings, fault, described, escapes⟩
  · exact ⟨.tooDeep, by rw [describe, deep]; rfl, by decide⟩
  · refine ⟨.value fault, ?_, fault.kind_ne_config⟩
    rw [described]
    exact escapes.accept_eq

/-- A document is accepted or reported, unless it goes wrong in another way. -/
theorem ofDocument_isContained_iff (environment : Environment) (entries : List (Value × Value)) :
    IsContained (ofDocument environment (.map entries)) ↔ ¬ IsEscaping environment entries := by
  constructor
  · -- Whatever escapes is no configuration error, so it contradicts both ways of being contained.
    rintro contained escaping
    obtain ⟨failure, failed, other⟩ := escaping.ofDocument_eq
    rcases contained with ⟨_, accepted⟩ | ⟨_, reported⟩
    · cases failed.symm.trans accepted
    · cases failed.symm.trans reported
      exact other rfl
  · rw [ofDocument_map]
    -- In the other direction each step that can fail is looked at.
    intro staying
    cases result : describe environment entries >>= accept with
    | ok config => exact .inl ⟨config, rfl⟩
    | error failure =>
      right
      rcases Result.bind_eq_error.mp result with failed | ⟨settings, described, failed⟩
      · rcases describe_eq_error failed with ⟨fault, rfl⟩ | ⟨_, deep⟩
        · exact ⟨fault, rfl⟩
        · exact absurd (.inl deep) staying
      · rcases accept_eq_error failed with ⟨fault, rfl⟩ | ⟨fault, _, escapes⟩
        · exact ⟨fault, rfl⟩
        · exact absurd (.inr ⟨settings, fault, described, escapes⟩) staying

/-- Entries through which one comes to an end are not too deep if there is room for their levels. -/
theorem expandEntries_ne_tooDeep {environment : Environment} {entries : List (Value × Value)}
    (ends : Value.areEntriesTraversable entries = true)
    (fits : (Value.map entries).levels ≤ Environment.levelLimit) :
    environment.expandEntries entries ≠ .error .tooDeep := by
  intro failed
  obtain ⟨_, _, same⟩ :=
    (Environment.expandEntriesWithin_eq_error_iff ends (Nat.le_of_succ_le_succ fits)).mp failed
  cases same

/-- The configuration in a file is that of its document. -/
theorem load_of_document {files : Files} {environment : Environment} {path document : Value} {name : Text}
    {content : List UInt8} (named : path.toPath = .ok name) (found : files.find path = .ok (.file content))
    (read : readDocument (Path.ofText name).text content = .ok document) :
    load files environment path = ofDocument environment document := by
  rw [load, named, found]
  change (readDocument (Path.ofText name).text content >>= ofDocument environment) = _
  rw [read]
  rfl

/-- A single file with some content. -/
def onlyFile (content : List UInt8) : Files := fun path =>
  if path = "kms.yaml" then .file content else .noFile

/-- Where a document takes nothing from the environment, its entries are accepted as they are written. -/
theorem load_onlyFile {content : List UInt8} {entries : List (Value × Value)}
    (read : readDocument (Path.ofText "kms.yaml").text content = .ok (.map entries))
    (plain : (Environment.ofList []).expandEntries entries = .ok entries) :
    load (onlyFile content) (.ofList []) (.text "kms.yaml") =
      (normalize entries).mapError .config >>= fun entries => accept (Settings.ofEntries entries) := by
  have found : (onlyFile content).find (.text "kms.yaml") = .ok (.file content) := rfl
  rw [load_of_document rfl found read, ofDocument, plain]
  rfl

end Config

namespace Run

variable {σ : Type} {options : Options Value} {files : Files} {environment : Environment}
  {network : Network σ} {world : World σ}

/-- A configuration that is reported as not accepted ends a run before anything is done. -/
theorem perform_of_config {fault : ConfigFault}
    (failed : Config.load files environment options.config = .error (.config fault)) :
    perform options files environment network world =
      { ending := .rejected (.config fault), world } := by
  rw [perform, failed]
  rfl

/-- A configuration that fails in another way ends a run with that failure. -/
theorem perform_of_other {failure : Failure} (other : failure.kind ≠ .config)
    (failed : Config.load files environment options.config = .error failure) :
    perform options files environment network world = { ending := .escaped failure, world } := by
  rw [perform, failed]
  simp [other]

/--
What becomes of a file whose document is a mapping.

The configuration in it is found or reported as not accepted, unless the document is too deep or its settings
escape. A run for which it is reported writes why, and has the exit code one. A run for which it is not has
no exit code. No document is too deep through which one comes to an end within the levels that there is room
for.
-/
theorem perform_contains (options : Options Value) (environment : Environment) {name : Text}
    {content : List UInt8} {entries : List (Value × Value)} (named : options.config.toPath = .ok name)
    (found : files.find options.config = .ok (.file content))
    (read : Config.readDocument (Path.ofText name).text content = .ok (.map entries))
    (network : Network σ) (world : World σ) :
    (Config.IsContained (Config.load files environment options.config) ↔
        ¬ Config.IsEscaping environment entries) ∧
      (¬ Config.IsEscaping environment entries →
        (∃ config, Config.load files environment options.config = .ok config) ∨
          ∃ fault, Config.load files environment options.config = .error (.config fault) ∧
            (perform options files environment network world).ending.code = some 1 ∧
            (perform options files environment network world).errors =
              "Configuration error: " ++ fault.message ++ "\n") ∧
      (Config.IsEscaping environment entries →
        (perform options files environment network world).ending.code = none) ∧
      (Value.areEntriesTraversable entries = true →
        (Value.map entries).levels ≤ Environment.levelLimit →
        environment.expandEntries entries ≠ .error .tooDeep) := by
  have same : Config.load files environment options.config = _ :=
    Config.load_of_document named found read
  have contained := Config.ofDocument_isContained_iff environment entries
  rw [← same] at contained
  refine ⟨contained, fun staying => ?_, fun escaping => ?_, Config.expandEntries_ne_tooDeep⟩
  · -- A run whose configuration is contained goes on or reports.
    rcases contained.mpr staying with accepted | ⟨fault, failed⟩
    · exact .inl accepted
    · rw [perform_of_config failed]
      exact .inr ⟨fault, failed, rfl, rfl⟩
  · obtain ⟨failure, failed, other⟩ := escaping.ofDocument_eq
    rw [perform_of_other other (same.trans failed)]
    rfl

/-- A network without servers. -/
def deserted : Network Unit where
  answer _ _ := ({ advance := 0, cancels := false, outcome := .error .noHosts }, ())

/-- The run on a configuration file with this content. -/
def runOn (content : List UInt8) : Run Unit :=
  perform { config := .text "kms.yaml" } (Config.onlyFile content) (.ofList []) deserted
    { clock := { start := 0, epoch := 0 }, servers := () }

/-- A document with a list among its endpoints. -/
def mistypedContent : List UInt8 :=
  "\x7b\"server\":\x7b\"endpoints\":[\"a\",[]]\x7d\x7d".toUTF8.toList

/-- Its entries. -/
def mistypedEntries : List (Value × Value) :=
  [(.text "server", .map [(.text "endpoints", .list [.text "a", .list []])])]

/-- A document in which the server section has no value. -/
def valuelessContent : List UInt8 :=
  "\x7b\"server\":\x7d".toUTF8.toList

/-- The list is reported. The section without a value is not. -/
theorem perform_contains_mistyped :
    (runOn mistypedContent).ending.code = some 1 ∧
      (runOn mistypedContent).errors =
        "Configuration error: server.endpoints contains an invalid entry: []\n" ∧
      (runOn valuelessContent).ending.code = none := by
  have mistyped : Config.readDocument (Path.ofText "kms.yaml").text mistypedContent =
      .ok (.map mistypedEntries) := Value.eq_ok_of_isSurely (by decide +kernel)
  have valueless : Config.readDocument (Path.ofText "kms.yaml").text valuelessContent =
      .ok (.map [(.text "server", .null)]) := Value.eq_ok_of_isSurely (by decide +kernel)
  have plain : (Environment.ofList []).expandEntries mistypedEntries = .ok mistypedEntries :=
    Value.eq_ok_of_entriesAreSurely (by decide +kernel)
  have failed : Config.load (Config.onlyFile mistypedContent) (.ofList []) (.text "kms.yaml") =
      .error (.config (.endpoint "[]")) := by
    rw [Config.load_onlyFile mistyped plain]
    rfl
  have described : Config.describe (.ofList []) [(.text "server", .null)] =
      .ok { server := .raw .null, logging := .built {} } := rfl
  have found (content : List UInt8) :
      (Config.onlyFile content).find (.text "kms.yaml") = .ok (.file content) := rfl
  obtain ⟨contained, reports, _⟩ := perform_contains { config := .text "kms.yaml" } (.ofList []) rfl
    (found mistypedContent) mistyped deserted { clock := { start := 0, epoch := 0 }, servers := () }
  obtain ⟨_, _, escapes, _⟩ := perform_contains { config := .text "kms.yaml" } (.ofList []) rfl
    (found valuelessContent) valueless deserted { clock := { start := 0, epoch := 0 }, servers := () }
  rcases reports (contained.mp (.inr ⟨_, failed⟩)) with ⟨_, accepted⟩ | ⟨fault, reported, code, errors⟩
  · cases failed.symm.trans accepted
  · cases failed.symm.trans reported
    exact ⟨code, errors, escapes (.inr ⟨_, _, described, .server rfl⟩)⟩

end Run

namespace Config

/-- A section of servers without a value is asked for its endpoints. -/
theorem ofDocument_null_server :
    ofDocument (fun _ => none) (.map [(.text "server", .null)]) =
        .error (.value (.noMember .null "endpoints")) ∧
      Value.areEntriesTraversable [(.text "server", .null)] = true ∧
      ¬ IsContained (ofDocument (fun _ => none) (.map [(.text "server", .null)])) := by
  refine ⟨rfl, rfl, ?_⟩
  rintro (⟨config, accepted⟩ | ⟨fault, reported⟩)
  · cases accepted
  · cases reported

end Config

end KeyCluster
