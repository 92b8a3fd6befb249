import KeyCluster.Proofs.Config.Validity
import KeyCluster.Proofs.Text.Words
import KeyCluster.Proofs.Value.Fields
import KeyCluster.Proofs.Value.Order

/-! What the sections of a document have to hold, and the configuration that they describe. -/

namespace KeyCluster.Config

variable {name : Text} {entries server tls logging : List (Value × Value)} {config : Config}

/-- A value names endpoints: it is a text with something between its separators, or a list of texts none of
which is blank. -/
def NamesEndpoints : Value → Prop
  | .text s => ∃ c ∈ s, isSeparator c = false
  | v => ∃ items, v = .texts items ∧ items ≠ [] ∧ ∀ item ∈ items, Blank.isAllBlank item = false

/-- A value limits time: it is a number that is not zero or less, or a text that stands for such a double. -/
def LimitsTime : Value → Prop
  | .text s => ∃ x, Numeral.readFloat? s = some x ∧ ¬ Value.IsAtMost (.float x) (.int 0)
  | v => v.isNumber = true ∧ ¬ v.IsAtMost (.int 0)

/-- The entries of a section: those of the mapping under its name, or none if nothing stands there. -/
def IsSection (name : Text) (entries part : List (Value × Value)) : Prop :=
  Value.field? name entries = some (.map part) ∨ Value.field? name entries = none ∧ part = []

/-- The sections of a document. There has to be one about the servers. -/
structure AreSections (entries server tls logging : List (Value × Value)) : Prop where
  servers : Value.field? "server" entries = some (.map server)
  /-- The section about the security of connections, which stands in that about the servers. -/
  security : IsSection "tls" server tls
  log : IsSection "logging" entries logging

/-- The sections of a document hold what they should. -/
structure AreAcceptable (server tls logging : List (Value × Value)) : Prop where
  /-- There are endpoints. -/
  endpoints : ∃ given, Value.field? "endpoints" server = some given ∧ NamesEndpoints given
  /-- If there is a time limit, it is one. -/
  timeout : ∀ given, Value.field? "timeout" server = some given → LimitsTime given
  /-- If there is a certificate, its key is there, too. -/
  keyed : ∀ certificate, Value.field? "client_cert" tls = some certificate → certificate.isGiven = true →
    ∃ key, Value.field? "client_key" tls = some key ∧ key.isGiven = true
  /-- If there is a format, it is one of the two. -/
  format : ∀ format, Value.field? "format" logging = some format →
    format = .text "json" ∨ format = .text "text"

/-- Endpoints as a configuration holds them, in a list. -/
def endpointsOf : Value → Value
  | .text s => .texts (splitEndpoints s)
  | v => v

/-- A time limit as a configuration holds it, as a number. -/
def timeoutOf : Value → Value
  | .text s => ((Numeral.readFloat? s).map Value.float).getD (.text s)
  | v => v

/-- The configuration that sections describe. -/
def ofSections (server tls logging : List (Value × Value)) : Config where
  server :=
    { endpoints := endpointsOf (setting "endpoints" (.list []) server)
      apiKey := setting "api_key" (.text "") server
      timeout := timeoutOf (setting "timeout" (.int 10) server)
      tls := TlsSettings.ofEntries tls }
  logging := LogSettings.ofEntries logging

/-- What lies between separators is not blank. -/
theorem isAllBlank_of_word {word : Text} (some : word ≠ []) (whole : ∀ c ∈ word, isSeparator c = false) :
    Blank.isAllBlank word = false := by
  obtain ⟨c, rest, rfl⟩ := List.exists_cons_of_ne_nil some
  -- Every blank is a separator.
  have clear : c.isIn Blank.isBlank = false := by
    have here := whole c (by simp)
    cases c with
    | char c =>
      change (c == ',' || Blank.isBlank c) = false at here
      exact (Bool.or_eq_false_iff.mp here).2
    | surrogate => rfl
  simp [Blank.isAllBlank, clear]

/-- Endpoints pass the check when what is given names some. -/
theorem checkEndpoints_endpointsOf {given : Value} :
    checkEndpoints (endpointsOf given) = .ok () ↔ NamesEndpoints given := by
  cases given with
  -- A text is split, and there are endpoints if there is a word in it.
  | text s =>
    rw [endpointsOf, NamesEndpoints, checkEndpoints_eq_ok, ← Blank.words_ne_nil_iff]
    constructor
    · rintro ⟨items, same, some, _⟩
      have listed : splitEndpoints s = items :=
        List.map_injective_iff.mpr (fun _ _ => Value.text.inj) (Value.list.inj same)
      rwa [← listed] at some
    · intro some
      refine ⟨_, rfl, some, fun item inside => ?_⟩
      obtain ⟨given, whole⟩ := Blank.mem_words inside
      exact isAllBlank_of_word given whole
  | _ => exact checkEndpoints_eq_ok

/-- A time limit passes the check when what is given limits time. -/
theorem isTimeout_timeoutOf {given : Value} : isTimeout (timeoutOf given) = true ↔ LimitsTime given := by
  cases given with
  -- The text of a time limit counts as the number that it writes.
  | text s =>
    rw [timeoutOf, LimitsTime]
    cases Numeral.readFloat? s with
    | none => simp [isTimeout]
    | some x => simp [isTimeout_iff, Value.isNumber]
  | _ => exact isTimeout_iff

/-- A section is a mapping when its entries are those of one, or nothing stands there. -/
theorem named_eq_built {α : Type} {build : List (Value × Value) → α} {settings : α} :
    Section.named build name entries = .built settings ↔
      ∃ part, IsSection name entries part ∧ settings = build part := by
  unfold Section.named IsSection
  cases Value.field? name entries with
  | none => simp [eq_comm]
  | some v => cases v <;> simp [Section.ofValue, eq_comm]

/-- What a setting is known for holds of the default if nothing is given, and of what is given otherwise. -/
theorem setting_iff {P : Value → Prop} {default : Value} : P (setting name default entries) ↔
    (Value.field? name entries = none → P default) ∧
      ∀ given, Value.field? name entries = some given → P given := by
  rw [setting]
  cases Value.field? name entries <;> simp

/-- The endpoints of sections pass the check when some are given, and those are named. -/
theorem checkEndpoints_ofSections :
    checkEndpoints (ofSections server tls logging).server.endpoints = .ok () ↔
      ∃ given, Value.field? "endpoints" server = some given ∧ NamesEndpoints given := by
  change checkEndpoints (endpointsOf (setting "endpoints" (.list []) server)) = .ok () ↔ _
  rw [checkEndpoints_endpointsOf, setting]
  cases Value.field? "endpoints" server with
  | none =>
    -- An empty list names no endpoints.
    simp [NamesEndpoints, Value.texts]
  | some given => simp

/-- The time limit of sections passes the check when none is given, or what is given limits time. -/
theorem isTimeout_ofSections :
    isTimeout (ofSections server tls logging).server.timeout = true ↔
      ∀ given, Value.field? "timeout" server = some given → LimitsTime given := by
  change isTimeout (timeoutOf (setting "timeout" (.int 10) server)) = true ↔ _
  rw [isTimeout_timeoutOf, setting_iff (P := LimitsTime)]
  have default : LimitsTime (.int 10) := isTimeout_timeoutOf.mp rfl
  simp [default]

/-- A setting that counts as given is there, if its default does not count so. -/
theorem isGiven_setting {default : Value} (absent : default.isGiven = false) :
    (setting name default entries).isGiven = true ↔
      ∃ given, Value.field? name entries = some given ∧ given.isGiven = true := by
  rw [setting]
  cases Value.field? name entries <;> simp [absent]

/-- The configuration of sections passes the checks when the sections hold what they should. -/
theorem isValid_ofSections : (ofSections server tls logging).IsValid ↔ AreAcceptable server tls logging := by
  -- The conditions on the key and on the format speak of settings, which are read from entries or are defaults.
  have keyed : ((ofSections server tls logging).server.tls.certificate.isGiven = true →
      (ofSections server tls logging).server.tls.key.isGiven = true) ↔
      ∀ certificate, Value.field? "client_cert" tls = some certificate → certificate.isGiven = true →
        ∃ key, Value.field? "client_key" tls = some key ∧ key.isGiven = true := by
    change ((setting "client_cert" (.text "") tls).isGiven = true →
      (setting "client_key" (.text "") tls).isGiven = true) ↔ _
    rw [isGiven_setting rfl, isGiven_setting rfl]
    constructor
    · exact fun keyed certificate found given => keyed ⟨certificate, found, given⟩
    · rintro keyed ⟨certificate, found, given⟩
      exact keyed certificate found given
  have format : ((ofSections server tls logging).logging.format.isText "json" = true ∨
      (ofSections server tls logging).logging.format.isText "text" = true) ↔
      ∀ format, Value.field? "format" logging = some format →
        format = .text "json" ∨ format = .text "text" := by
    rw [Value.isText_iff, Value.isText_iff]
    change (setting "format" (.text "json") logging = .text "json" ∨
      setting "format" (.text "json") logging = .text "text") ↔ _
    rw [setting_iff (P := fun v => v = .text "json" ∨ v = .text "text")]
    simp
  constructor
  · intro valid
    exact ⟨checkEndpoints_ofSections.mp valid.endpoints, isTimeout_ofSections.mp valid.timeout,
      keyed.mp valid.keyed, format.mp valid.format⟩
  · intro acceptable
    exact ⟨checkEndpoints_ofSections.mpr acceptable.endpoints, isTimeout_ofSections.mpr acceptable.timeout,
      keyed.mpr acceptable.keyed, format.mpr acceptable.format⟩

/-- Entries are accepted when they have sections that pass the checks. -/
theorem accept_ofEntries : accept (Settings.ofEntries entries) = .ok config ↔
    ∃ server tls logging, IsSection "server" entries server ∧ IsSection "tls" server tls ∧
      IsSection "logging" entries logging ∧
      config = { server := { ServerSettings.ofEntries server with tls := TlsSettings.ofEntries tls }
                 logging := LogSettings.ofEntries logging } ∧
      config.IsValid := by
  rw [accept_eq_ok]
  constructor
  · -- Each of the sections is the mapping under its name, or nothing, which makes it the default.
    rintro ⟨_, _, _, built, secured, logged, rfl, valid⟩
    obtain ⟨server, isServer, rfl⟩ := named_eq_built.mp built
    obtain ⟨tls, isTls, rfl⟩ := named_eq_built.mp secured
    obtain ⟨logging, isLogging, rfl⟩ := named_eq_built.mp logged
    exact ⟨server, tls, logging, isServer, isTls, isLogging, rfl, valid⟩
  · rintro ⟨server, tls, logging, isServer, isTls, isLogging, rfl, valid⟩
    exact ⟨_, _, _, named_eq_built.mpr ⟨server, isServer, rfl⟩, named_eq_built.mpr ⟨tls, isTls, rfl⟩,
      named_eq_built.mpr ⟨logging, isLogging, rfl⟩, rfl, valid⟩

end KeyCluster.Config
