import KeyCluster.Config.Acceptance
import KeyCluster.Proofs.Value.Fields

/-! Settings that are written as nested mappings are read back, however the entries of these mappings are
arranged and whatever else stands among them. -/

namespace KeyCluster.Config

/-- One of the fields of settings, as mappings can hold it. -/
structure Field where
  name : Text
  /-- Which values say what it is. -/
  Tells : Value → Prop
  /-- It is what it is where nothing is said. -/
  IsDefault : Prop

/-- A field that is written as it is. -/
def Field.plain (name : Text) (default value : Value) : Field :=
  ⟨name, (· = value), value = default⟩

/-- A field that is written as a mapping, of the entries for which `Describes` holds. -/
def Field.part (name : Text) (Describes : List (Value × Value) → Prop) (IsDefault : Prop) : Field :=
  ⟨name, fun v => ∃ entries, v = .map entries ∧ Describes entries, IsDefault⟩

/-- Entries hold some fields: each of them is said by an entry or dropped where it is the default, entries
are added under any keys but `names`, and all of them are permuted. -/
inductive Arranged (names : List Text) : List Field → List (Value × Value) → Prop where
  | nil : Arranged names [] []
  | keep {field : Field} {fields : List Field} {value : Value} {entries : List (Value × Value)}
      (tells : field.Tells value) (others : Arranged names fields entries) :
      Arranged names (field :: fields) ((.text field.name, value) :: entries)
  /-- A field that is the default is dropped. -/
  | drop {field : Field} {fields : List Field} {entries : List (Value × Value)}
      (isDefault : field.IsDefault) (others : Arranged names fields entries) :
      Arranged names (field :: fields) entries
  /-- An entry is added that tells nothing about any field. -/
  | add {fields : List Field} {key value : Value} {entries : List (Value × Value)}
      (foreign : ∀ name ∈ names, key ≠ .text name) (others : Arranged names fields entries) :
      Arranged names fields ((key, value) :: entries)
  | permute {fields : List Field} {entries others : List (Value × Value)}
      (before : Arranged names fields entries) (permuted : entries.Perm others) :
      Arranged names fields others

/-- The mapping of some fields, with any of the changes that leave them what they are. -/
def Holds (fields : List Field) (entries : List (Value × Value)) : Prop :=
  Arranged (fields.map Field.name) fields entries

/-- The fields of the security of connections. -/
def tlsFields (tls : TlsSettings) : List Field :=
  [.plain "verify" (.bool true) tls.verify, .plain "ca_file" (.text "") tls.authorities,
    .plain "client_cert" (.text "") tls.certificate, .plain "client_key" (.text "") tls.key]

/-- The fields of a server section. -/
def serverFields (server : ServerSettings TlsSettings) : List Field :=
  [.plain "endpoints" (.list []) server.endpoints, .plain "api_key" (.text "") server.apiKey,
    .plain "timeout" (.int 10) server.timeout, .part "tls" (Holds (tlsFields server.tls)) (server.tls = {})]

/-- The fields of a log section. -/
def logFields (logging : LogSettings) : List Field :=
  [.plain "level" (.text "INFO") logging.level, .plain "format" (.text "json") logging.format]

/-- A server section where nothing is said. -/
def defaultServer : ServerSettings TlsSettings where
  endpoints := .list []
  apiKey := .text ""
  timeout := .int 10
  tls := {}

/-- The fields of a configuration. -/
def configFields (config : Config) : List Field :=
  [.part "server" (Holds (serverFields config.server)) (config.server = defaultServer),
    .part "logging" (Holds (logFields config.logging)) (config.logging = {})]

/-- A server section as it is read, with all of it known. -/
def serverDraft (server : ServerSettings TlsSettings) : ServerDraft :=
  { server with tls := .built server.tls }

/-- A configuration as it is read, with all of it known. -/
def toDraft (config : Config) : Draft where
  server := .built (serverDraft config.server)
  logging := .built config.logging

variable {names : List Text} {fields : List Field} {entries : List (Value × Value)} {name : Text}

/-- What is arranged of some fields tells nothing under names that are none of theirs. -/
theorem Arranged.not_mem (arranged : Arranged names fields entries) (known : name ∈ names)
    (other : name ∉ fields.map Field.name) (value : Value) : (.text name, value) ∉ entries := by
  -- Every rule either leaves the name alone or adds an entry under another one.
  induction arranged with
  | nil => simp
  | keep tells others ih =>
    rw [List.map_cons, List.mem_cons, not_or] at other
    rintro (_ | ⟨_, inside⟩)
    · exact other.1 rfl
    · exact ih other.2 inside
  | drop _ others ih =>
    rw [List.map_cons, List.mem_cons, not_or] at other
    exact ih other.2
  | add foreign others ih =>
    rintro (_ | ⟨_, inside⟩)
    · exact foreign name known rfl
    · exact ih other inside
  | permute before permuted ih =>
    intro inside
    exact ih other (permuted.mem_iff.mpr inside)

/-- What is arranged of some fields with different names tells each of them, or drops it. -/
theorem Arranged.tells (arranged : Arranged names fields entries)
    (differ : (fields.map Field.name).Nodup) (known : ∀ field ∈ fields, field.name ∈ names)
    {field : Field} (isField : field ∈ fields) :
    (∀ value, (.text field.name, value) ∈ entries → field.Tells value) ∧
      ((∀ value, (.text field.name, value) ∉ entries) → field.IsDefault) := by
  -- What was done last to the entries decides, and each change says something about one field at most.
  induction arranged with
  | nil => cases isField
  | @keep head fields value entries tells others ih =>
    obtain ⟨isNew, differ⟩ := List.nodup_cons.mp differ
    obtain ⟨knownHead, known⟩ := List.forall_mem_cons.mp known
    rcases List.mem_cons.mp isField with rfl | isField
    · -- The entry in front is the only one under this name.
      refine ⟨fun found inside => ?_, fun absent => absurd (List.mem_cons_self ..) (absent value)⟩
      rcases List.mem_cons.mp inside with same | inside
      · cases same
        exact tells
      · exact absurd inside (others.not_mem knownHead isNew found)
    · -- The entry in front has the name of another field.
      obtain ⟨telling, dropping⟩ := ih differ known isField
      refine ⟨fun found inside => ?_, fun absent => dropping fun found inside =>
        absent found (List.mem_cons_of_mem _ inside)⟩
      rcases List.mem_cons.mp inside with same | inside
      · have sameName : field.name = head.name := Value.text.inj (congrArg Prod.fst same)
        exact absurd (sameName ▸ List.mem_map_of_mem isField) isNew
      · exact telling found inside
  | drop isDefault others ih =>
    obtain ⟨isNew, differ⟩ := List.nodup_cons.mp differ
    obtain ⟨knownHead, known⟩ := List.forall_mem_cons.mp known
    rcases List.mem_cons.mp isField with rfl | isField
    · -- No other field has this name, so no entry has it.
      exact ⟨fun found inside => absurd inside (others.not_mem knownHead isNew found), fun _ => isDefault⟩
    · exact ih differ known isField
  | add foreign others ih =>
    obtain ⟨telling, dropping⟩ := ih differ known isField
    refine ⟨fun found inside => ?_, fun absent => dropping fun found inside =>
      absent found (List.mem_cons_of_mem _ inside)⟩
    rcases List.mem_cons.mp inside with same | inside
    · exact absurd (congrArg Prod.fst same).symm (foreign _ (known field isField))
    · exact telling found inside
  | permute before permuted ih =>
    obtain ⟨telling, dropping⟩ := ih differ known isField
    exact ⟨fun found inside => telling found (permuted.mem_iff.mpr inside), fun absent =>
      dropping fun found inside => absent found (permuted.mem_iff.mp inside)⟩

/-- What is found under the name of a field tells it, and it is the default where nothing is found. -/
theorem Holds.found (holds : Holds fields entries) (differ : (fields.map Field.name).Nodup)
    {field : Field} (isField : field ∈ fields) :
    (∀ value, Value.field? field.name entries = some value → field.Tells value) ∧
      (Value.field? field.name entries = none → field.IsDefault) := by
  -- Names of the fields differ, so what is found under one of them is what the arrangement says.
  obtain ⟨telling, dropping⟩ :=
    Arranged.tells holds differ (fun _ inside => List.mem_map_of_mem inside) isField
  refine ⟨fun value found => telling value (Value.mem_of_field? found), fun absent => dropping ?_⟩
  intro value inside
  have missing := Value.field?_eq_none.mp absent
  exact missing value inside

/-- A field that is written as it is has the value that it holds. -/
theorem Holds.setting_eq {default value : Value} (holds : Holds fields entries)
    (differ : (fields.map Field.name).Nodup) (isField : .plain name default value ∈ fields) :
    setting name default entries = value := by
  obtain ⟨given, absent⟩ := holds.found differ isField
  rw [setting]
  cases found : Value.field? name entries with
  | some given' => exact given given' found
  | none => exact (absent found).symm

/-- A field that is written as a mapping becomes the settings that are made of this mapping. -/
theorem Holds.named_eq {α : Type} {build : List (Value × Value) → α} {settings : α}
    (Describes : List (Value × Value) → Prop) (IsDefault : Prop) (holds : Holds fields entries)
    (differ : (fields.map Field.name).Nodup) (isField : .part name Describes IsDefault ∈ fields)
    (built : ∀ part, Describes part → build part = settings) (absent : IsDefault → build [] = settings) :
    Section.named build name entries = .built settings := by
  obtain ⟨given, dropped⟩ := holds.found differ isField
  rw [Section.named]
  -- What is found is the mapping of the section, which settings are built from.
  cases found : Value.field? name entries with
  | some v =>
    obtain ⟨part, rfl, describes⟩ := given v found
    exact congrArg Section.built (built part describes)
  | none => exact congrArg Section.built (absent (dropped found))

/-- The security of connections is read back. -/
theorem tls_of_holds {tls : TlsSettings} (holds : Holds (tlsFields tls) entries) :
    TlsSettings.ofEntries entries = tls := by
  -- Each of the four settings is read from the entry of its name, or is the default.
  have differ : (["verify", "ca_file", "client_cert", "client_key"] : List Text).Nodup := by decide
  have verify : setting "verify" (.bool true) entries = tls.verify :=
    holds.setting_eq differ (by simp [tlsFields])
  have authorities : setting "ca_file" (.text "") entries = tls.authorities :=
    holds.setting_eq differ (by simp [tlsFields])
  have certificate : setting "client_cert" (.text "") entries = tls.certificate :=
    holds.setting_eq differ (by simp [tlsFields])
  have key : setting "client_key" (.text "") entries = tls.key :=
    holds.setting_eq differ (by simp [tlsFields])
  rw [TlsSettings.ofEntries, verify, authorities, certificate, key]

/-- A server section is read back. -/
theorem server_of_holds {server : ServerSettings TlsSettings} (holds : Holds (serverFields server) entries) :
    ServerSettings.ofEntries entries = serverDraft server := by
  have differ : (["endpoints", "api_key", "timeout", "tls"] : List Text).Nodup := by decide
  have endpoints : setting "endpoints" (.list []) entries = server.endpoints :=
    -- The three plain settings come first, and then the section inside.
    holds.setting_eq differ (by simp [serverFields])
  have apiKey : setting "api_key" (.text "") entries = server.apiKey :=
    holds.setting_eq differ (by simp [serverFields])
  have timeout : setting "timeout" (.int 10) entries = server.timeout :=
    holds.setting_eq differ (by simp [serverFields])
  have tls : Section.named TlsSettings.ofEntries "tls" entries = .built server.tls :=
    Holds.named_eq (Holds (tlsFields server.tls)) (server.tls = {}) holds differ (by simp [serverFields])
      (fun _ part => tls_of_holds part) fun same => same.symm
  rw [ServerSettings.ofEntries, endpoints, apiKey, timeout, tls, serverDraft]

/-- A log section is read back. -/
theorem logging_of_holds {logging : LogSettings} (holds : Holds (logFields logging) entries) :
    LogSettings.ofEntries entries = logging := by
  have differ : (["level", "format"] : List Text).Nodup := by decide
  have level : setting "level" (.text "INFO") entries = logging.level :=
    holds.setting_eq differ (by simp [logFields])
  have format : setting "format" (.text "json") entries = logging.format :=
    holds.setting_eq differ (by simp [logFields])
  rw [LogSettings.ofEntries, level, format]

/-- A configuration is read back. -/
theorem ofEntries_of_holds {config : Config} (holds : Holds (configFields config) entries) :
    Settings.ofEntries entries = toDraft config := by
  have differ : (["server", "logging"] : List Text).Nodup := by decide
  -- Both sections are mappings, or are left out where they are the default.
  have server : Section.named ServerSettings.ofEntries "server" entries =
      .built (serverDraft config.server) :=
    Holds.named_eq (Holds (serverFields config.server)) (config.server = defaultServer) holds differ
      (by simp [configFields]) (fun _ part => server_of_holds part) fun same => by rw [same]; rfl
  have logging : Section.named LogSettings.ofEntries "logging" entries = .built config.logging :=
    Holds.named_eq (Holds (logFields config.logging)) (config.logging = {}) holds differ
      (by simp [configFields]) (fun _ part => logging_of_holds part) fun same => same.symm
  rw [Settings.ofEntries, server, logging, toDraft]

/-- What is written of a configuration holds its fields. -/
theorem exists_toValue_holds (config : Config) :
    ∃ entries, toValue config = .map entries ∧ Holds (configFields config) entries := by
  -- Every field is kept, at each of the three levels.
  have tls : Holds (tlsFields config.server.tls) _ := .keep rfl (.keep rfl (.keep rfl (.keep rfl .nil)))
  have server : Holds (serverFields config.server) _ :=
    .keep rfl (.keep rfl (.keep rfl (.keep ⟨_, rfl, tls⟩ .nil)))
  have logging : Holds (logFields config.logging) _ := .keep rfl (.keep rfl .nil)
  exact ⟨_, rfl, .keep ⟨_, rfl, server⟩ (.keep ⟨_, rfl, logging⟩ .nil)⟩

/-- A plain field is what stands under its name, unchanged, or the default where nothing stands there. -/
def IsPlain (name : Text) (default : Value) (entries : List (Value × Value)) (value : Value) : Prop :=
  (.text name, value) ∈ entries ∨ (∀ other, (.text name, other) ∉ entries) ∧ value = default

/-- A section is made of what stands under its name; `Reads` tells how settings are made of entries. -/
inductive IsPart {α : Type} (name : Text) (Reads : List (Value × Value) → α → Prop) (default : α)
    (entries : List (Value × Value)) : Section α → Prop where
  | built {part : List (Value × Value)} {settings : α} (given : (.text name, .map part) ∈ entries)
      (reads : Reads part settings) : IsPart name Reads default entries (.built settings)
  /-- What is no mapping stays as it is. -/
  | raw {value : Value} (given : (.text name, value) ∈ entries) (other : ∀ part, value ≠ .map part) :
      IsPart name Reads default entries (.raw value)
  /-- Where nothing stands, the settings are the default ones. -/
  | absent (missing : ∀ value, (.text name, value) ∉ entries) :
      IsPart name Reads default entries (.built default)

/-- The security of connections is made of entries. -/
structure ReadsTls (entries : List (Value × Value)) (tls : TlsSettings) : Prop where
  verify : IsPlain "verify" (.bool true) entries tls.verify
  authorities : IsPlain "ca_file" (.text "") entries tls.authorities
  certificate : IsPlain "client_cert" (.text "") entries tls.certificate
  key : IsPlain "client_key" (.text "") entries tls.key

/-- A server section is made of entries. -/
structure ReadsServer (entries : List (Value × Value)) (server : ServerDraft) : Prop where
  endpoints : IsPlain "endpoints" (.list []) entries server.endpoints
  apiKey : IsPlain "api_key" (.text "") entries server.apiKey
  timeout : IsPlain "timeout" (.int 10) entries server.timeout
  tls : IsPart "tls" ReadsTls {} entries server.tls

/-- A log section is made of entries. -/
structure ReadsLog (entries : List (Value × Value)) (logging : LogSettings) : Prop where
  level : IsPlain "level" (.text "INFO") entries logging.level
  format : IsPlain "format" (.text "json") entries logging.format

/-- Settings are made of the entries of a document. -/
structure Reads (entries : List (Value × Value)) (draft : Draft) : Prop where
  server : IsPart "server" ReadsServer (serverDraft defaultServer) entries draft.server
  logging : IsPart "logging" ReadsLog {} entries draft.logging

/-- Plain fields are read so. -/
theorem isPlain_setting (name : Text) (default : Value) (entries : List (Value × Value)) :
    IsPlain name default entries (setting name default entries) := by
  rw [setting]
  cases found : Value.field? name entries with
  | some value => exact .inl (Value.mem_of_field? found)
  | none => exact .inr ⟨Value.field?_eq_none.mp found, rfl⟩

/-- Sections are read so. -/
theorem isPart_named {α : Type} {Reads : List (Value × Value) → α → Prop} {default : α}
    {build : List (Value × Value) → α} (name : Text) (entries : List (Value × Value))
    (reads : ∀ part, Reads part (build part)) (absent : build [] = default) :
    IsPart name Reads default entries (Section.named build name entries) := by
  rw [Section.named]
  cases found : Value.field? name entries with
  | none =>
    rw [absent]
    exact .absent (Value.field?_eq_none.mp found)
  | some value =>
    have given := Value.mem_of_field? found
    -- Only a mapping has entries to build from.
    cases value with
    | map part => exact .built given (reads part)
    | _ => exact .raw given nofun

/-- Whatever the entries of a document are, its settings are made of them field by field. -/
theorem reads_ofEntries (entries : List (Value × Value)) : Reads entries (Settings.ofEntries entries) := by
  -- The sections inside are read first.
  have tls (entries : List (Value × Value)) : ReadsTls entries (TlsSettings.ofEntries entries) :=
    ⟨isPlain_setting .., isPlain_setting .., isPlain_setting .., isPlain_setting ..⟩
  have server (entries : List (Value × Value)) : ReadsServer entries (ServerSettings.ofEntries entries) :=
    ⟨isPlain_setting .., isPlain_setting .., isPlain_setting .., isPart_named _ _ tls rfl⟩
  have logging (entries : List (Value × Value)) : ReadsLog entries (LogSettings.ofEntries entries) :=
    ⟨isPlain_setting .., isPlain_setting ..⟩
  exact ⟨isPart_named _ _ server rfl, isPart_named _ _ logging rfl⟩

/--
Making settings of entries undoes writing them.

A configuration whose sections are all known is written as nested mappings, and is made again of these.
It is made as well of every mapping that comes from these by dropping entries with defaults, by permuting
entries, and by adding entries under other keys, at any level.
The entries of any document at all are read field by field: a mapping in the place of a section becomes this
section, every other value is kept, and where nothing stands there is the default.
-/
theorem ofEntries_undoes_toValue :
    (∀ config, ∃ entries, toValue config = .map entries ∧ Holds (configFields config) entries) ∧
      (∀ config entries, Holds (configFields config) entries →
        Settings.ofEntries entries = toDraft config) ∧
      ∀ entries, Reads entries (Settings.ofEntries entries) :=
  ⟨exists_toValue_holds, fun _ _ => ofEntries_of_holds, reads_ofEntries⟩

/-- A configuration that differs from the default one in its endpoints and in `verify`. -/
def uncheckedConfig : Config where
  server := { defaultServer with endpoints := .texts ["a"], tls := { verify := .bool false } }
  logging := {}

/-- Entries of it, with defaults dropped, in another order, and with others among them. -/
def uncheckedEntries : List (Value × Value) :=
  [(.int 7, .null), (.text "server", .map
    [(.text "tls", .map [(.text "level", .text "DEBUG"), (.text "verify", .bool false)]),
      (.text "endpoints", .texts ["a"])])]

/-- It is made of these entries. -/
theorem ofEntries_undoes_toValue_unchecked :
    Holds (configFields uncheckedConfig) uncheckedEntries ∧
      Settings.ofEntries uncheckedEntries = toDraft uncheckedConfig := by
  -- The mapping inside is arranged first: an entry that nobody knows, and one that is not the default.
  have tls : Holds (tlsFields uncheckedConfig.server.tls)
      [(.text "level", .text "DEBUG"), (.text "verify", .bool false)] :=
    .add (by simp [tlsFields, Field.plain]; decide) (.keep rfl (.drop rfl (.drop rfl (.drop rfl .nil))))
  have server : Holds (serverFields uncheckedConfig.server)
      [(.text "tls", .map [(.text "level", .text "DEBUG"), (.text "verify", .bool false)]),
        (.text "endpoints", .texts ["a"])] :=
    .permute (.keep rfl (.drop rfl (.drop rfl (.keep ⟨_, rfl, tls⟩ .nil)))) (.swap ..)
  have holds : Holds (configFields uncheckedConfig) uncheckedEntries :=
    .add (by simp) (.keep ⟨_, rfl, server⟩ (.drop rfl .nil))
  exact ⟨holds, ofEntries_undoes_toValue.2.1 uncheckedConfig uncheckedEntries holds⟩

end KeyCluster.Config
