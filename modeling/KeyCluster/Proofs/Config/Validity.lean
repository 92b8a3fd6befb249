import KeyCluster.Proofs.Config.Containment
import KeyCluster.Proofs.Value.Order
import Mathlib.Data.Set.List

/-! What is known of a configuration once it is accepted. -/

namespace KeyCluster.Config

variable {config : Config}

/-- Endpoints pass the check when they are a list of texts, at least one, and none of them is blank. -/
theorem checkEndpoints_eq_ok {v : Value} : checkEndpoints v = .ok () ↔
    ∃ items, v = .texts items ∧ items ≠ [] ∧ ∀ item ∈ items, Blank.isAllBlank item = false := by
  -- The check fails unless there is a list, and then at the first item that is no endpoint.
  constructor
  · intro usable
    unfold checkEndpoints at usable
    split at usable
    · cases usable
    · rename_i items some
      split at usable
      · cases usable
      · rename_i none
        have endpoints : ∀ item ∈ items, isEndpoint item = true := by
          simpa using List.find?_eq_none.mp none
        have named : items ∈ Set.range (List.map Value.text) := by
          rw [Set.range_list_map]
          intro item inside
          -- What is not a text is no endpoint, and would have been found.
          have endpoint := endpoints item inside
          cases item with
          | text s => exact ⟨s, rfl⟩
          | _ => cases endpoint
        obtain ⟨texts, rfl⟩ := named
        refine ⟨texts, rfl, by rintro rfl; exact some rfl, fun item inside => ?_⟩
        simpa [isEndpoint] using endpoints _ (List.mem_map_of_mem inside)
    · cases usable
  · -- A list of texts that are not blank has no item to complain about.
    rintro ⟨items, rfl, some, full⟩
    have none : (items.map Value.text).find? (fun item => !isEndpoint item) = none := by
      simpa [isEndpoint] using full
    obtain ⟨first, rest, rfl⟩ := List.exists_cons_of_ne_nil some
    rw [List.map_cons] at none
    simp only [Value.texts, List.map_cons, checkEndpoints, none]

/-- A time limit passes the check when it is a number that is not zero or less. -/
theorem isTimeout_iff {v : Value} : isTimeout v = true ↔ v.isNumber = true ∧ ¬ v.IsAtMost (.int 0) := by
  cases v with
  | bool _ | int _ | float _ =>
    dsimp only [isTimeout, Value.IsAtMost, Value.IsLess, Value.isNumber]
    split <;> simp_all
  | _ => simp [isTimeout, Value.isNumber]

/-- What the checks of a configuration establish. -/
structure IsValid (config : Config) : Prop where
  /-- There are endpoints, and none of them is blank. -/
  endpoints : checkEndpoints config.server.endpoints = .ok ()
  /-- The time limit of requests is a number that is not known to be zero or less. -/
  timeout : isTimeout config.server.timeout = true
  keyed : config.server.tls.certificate.isGiven = true → config.server.tls.key.isGiven = true
  format : config.logging.format.isText "json" = true ∨ config.logging.format.isText "text" = true

/-- The section of the log is taken if it is a mapping, and then as it is. -/
theorem demandLogging_eq_ok {part : Section LogSettings} {settings : LogSettings} :
    demandLogging part = .ok settings ↔ part = .built settings := by
  unfold demandLogging
  split
  · simp
  · exact demand_eq_ok

/-- Settings are accepted when every section is a mapping and every check is passed. -/
theorem accept_eq_ok {draft : Draft} : accept draft = .ok config ↔
    ∃ server tls logging, draft.server = .built server ∧ server.tls = .built tls ∧
      draft.logging = .built logging ∧ config = { server := { server with tls }, logging } ∧
      config.IsValid := by
  rw [accept_eq]
  constructor
  · intro accepted
    -- The checks are made one after another, and each of them has to be passed.
    obtain ⟨server, built, accepted⟩ := Result.bind_eq_ok.mp accepted
    obtain ⟨_, usable, accepted⟩ := Result.bind_eq_ok.mp accepted
    obtain ⟨_, timely, accepted⟩ := Result.bind_eq_ok.mp accepted
    obtain ⟨tls, secured, accepted⟩ := Result.bind_eq_ok.mp accepted
    obtain ⟨_, keyed, accepted⟩ := Result.bind_eq_ok.mp accepted
    obtain ⟨logging, logged, accepted⟩ := Result.bind_eq_ok.mp accepted
    obtain ⟨_, formatted, accepted⟩ := Result.bind_eq_ok.mp accepted
    cases accepted
    exact ⟨server, tls, logging, demand_eq_ok.mp built, demand_eq_ok.mp secured,
      demandLogging_eq_ok.mp logged, rfl, usable, require_eq_ok.mp timely,
      isKeyed_iff.mp (require_eq_ok.mp keyed), by simpa using require_eq_ok.mp formatted⟩
  · -- The values that make the configuration valid are those that pass, check by check.
    rintro ⟨server, tls, logging, built, secured, logged, rfl, usable, timely, keyed, formatted⟩
    refine Result.bind_eq_ok.mpr ⟨server, demand_eq_ok.mpr built, ?_⟩
    refine Result.bind_eq_ok.mpr ⟨(), usable, ?_⟩
    refine Result.bind_eq_ok.mpr ⟨(), require_eq_ok.mpr timely, ?_⟩
    refine Result.bind_eq_ok.mpr ⟨tls, demand_eq_ok.mpr secured, ?_⟩
    refine Result.bind_eq_ok.mpr ⟨(), require_eq_ok.mpr (isKeyed_iff.mpr keyed), ?_⟩
    refine Result.bind_eq_ok.mpr ⟨logging, demandLogging_eq_ok.mpr logged, ?_⟩
    exact Result.bind_eq_ok.mpr ⟨(), require_eq_ok.mpr (by simpa using formatted), rfl⟩

/-- Settings that are accepted have passed every check. -/
theorem accept_valid {draft : Draft} (accepted : accept draft = .ok config) : config.IsValid := by
  obtain ⟨_, _, _, _, _, _, _, valid⟩ := accept_eq_ok.mp accepted
  exact valid

/-- A configuration comes from a file in which there is a mapping. -/
theorem exists_document_of_load {files : Files} {environment : Environment} {path : Value}
    (loaded : load files environment path = .ok config) :
    ∃ name content entries, path.toPath = .ok name ∧ files.find path = .ok (.file content) ∧
      readDocument (Path.ofText name).text content = .ok (.map entries) ∧
      ofDocument environment (.map entries) = .ok config := by
  obtain ⟨name, named, loaded⟩ := Result.bind_eq_ok.mp loaded
  obtain ⟨found, isFound, loaded⟩ := Result.bind_eq_ok.mp loaded
  -- Without a file there is no configuration, nor without a mapping in it.
  cases found with
  | file content =>
    obtain ⟨document, read, loaded⟩ := Result.bind_eq_ok.mp loaded
    cases document with
    | map entries => exact ⟨name, content, entries, Result.mapError_eq_ok.mp named, isFound, read, loaded⟩
    | _ => cases loaded
  | _ => cases loaded

/-- It has passed every check, too. -/
theorem load_valid {files : Files} {environment : Environment} {path : Value}
    (loaded : load files environment path = .ok config) : config.IsValid := by
  obtain ⟨_, _, entries, _, _, _, described⟩ := exists_document_of_load loaded
  rw [ofDocument_map] at described
  obtain ⟨draft, _, accepted⟩ := Result.bind_eq_ok.mp described
  exact accept_valid accepted

/-- The endpoints that pass the check are texts. -/
theorem IsValid.exists_texts (valid : config.IsValid) :
    ∃ endpoints, endpoints ≠ [] ∧ config.server.endpoints = .texts endpoints := by
  obtain ⟨endpoints, listed, some, _⟩ := checkEndpoints_eq_ok.mp valid.endpoints
  exact ⟨endpoints, some, listed⟩

/-- A document that names two servers and a time limit. -/
def pairContent : List UInt8 :=
  "\x7b\"server\": \x7b\"endpoints\": \"a c\", \"timeout\": \"5\"\x7d\x7d".toUTF8.toList

/-- The entries of this document. -/
def pairEntries : List (Value × Value) :=
  [(.text "server", .map [(.text "endpoints", .text "a c"), (.text "timeout", .text "5")])]

/-- The configuration of two servers with a time limit. -/
def pairOf (limit : Float) : Config where
  server := { endpoints := .texts ["a", "c"], apiKey := .text "", timeout := .float limit, tls := {} }
  logging := {}

/-- The document has these entries. -/
theorem read_pair : readDocument (Path.ofText "kms.yaml").text pairContent = .ok (.map pairEntries) :=
  Value.eq_ok_of_isSurely (by decide +kernel)

/-- The two servers and the time limit are read. -/
theorem load_pair : load (onlyFile pairContent) (.ofList []) (.text "kms.yaml") = .ok (pairOf 5) := by
  have plain : (Environment.ofList []).expandEntries pairEntries = .ok pairEntries :=
    Value.eq_ok_of_entriesAreSurely (by decide +kernel)
  rw [load_onlyFile read_pair plain]
  rfl

end KeyCluster.Config
