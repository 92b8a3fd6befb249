import KeyCluster.Http.Client
import KeyCluster.Proofs.Config.Acceptance
import KeyCluster.Proofs.Http.TimeLimits

/-! Whom connections trust, and when their other end is not checked at all. -/

namespace KeyCluster

namespace Files

/-- There is a file under a path. -/
def Holds (files : Files) (path : Text) : Prop :=
  ∃ content, files (Path.ofText path).text = .file content

variable {files : Files} {path : Text} {content : List UInt8}

theorem find_text_eq_file :
    files.find (.text path) = .ok (.file content) ↔ files (Path.ofText path).text = .file content := by
  simp only [find, Value.toPath]
  cases files (Path.ofText path).text <;> simp

/-- Only texts name files. -/
theorem isFile_eq_true_iff {value : Value} :
    files.isFile value = .ok true ↔ ∃ path, value = .text path ∧ files.Holds path := by
  simp only [isFile, Result.map_eq_ok]
  constructor
  · -- Only a text names a file, and of what can be found under it only a file counts.
    rintro ⟨found, there, isFile⟩
    cases value with
    | text path =>
      cases found with
      | file content => exact ⟨path, rfl, content, find_text_eq_file.mp there⟩
      | noFile | nameTooLong => cases isFile
    | _ => cases there
  · rintro ⟨path, rfl, content, there⟩
    exact ⟨_, find_text_eq_file.mpr there, rfl⟩

end Files

namespace Client

variable {files : Files} {tls : TlsSettings} {trust : Trust}

/-- A file that is demanded is one that is there, under a path that is a text. -/
theorem demandFile_eq_ok_iff {fault : Text → ConfigFault} {value : Value} {path : Text} :
    demandFile files fault value = .ok path ↔ value = .text path ∧ files.Holds path := by
  rw [demandFile, Result.bind_eq_ok]
  constructor
  · -- The demand is met by a file, and names it as the settings do.
    rintro ⟨_ | _, looked, demanded⟩
    · cases demanded
    · obtain ⟨path, rfl, there⟩ := Files.isFile_eq_true_iff.mp looked
      cases demanded
      exact ⟨rfl, there⟩
  · rintro ⟨rfl, there⟩
    exact ⟨true, Files.isFile_eq_true_iff.mpr ⟨path, rfl, there⟩, rfl⟩

/-- Whom connections trust follows from two settings and a file. -/
theorem trustOf_eq_ok_iff : trustOf files tls = .ok trust ↔
    tls.verify.isGiven = false ∧ trust = .anyone ∨
      tls.verify.isGiven = true ∧
        (tls.authorities.isGiven = false ∧ trust = .system ∨
          tls.authorities.isGiven = true ∧ ∃ file, tls.authorities = .text file ∧ files.Holds file ∧
            trust = .authorities file) := by
  -- Two questions decide: whether connections are checked, and whether a file is given.
  unfold trustOf
  cases tls.verify.isGiven with
  | false => simp [Result.pure_eq_ok]
  | true =>
    cases tls.authorities.isGiven with
    | false => simp [Result.pure_eq_ok]
    | true =>
      simp only [Bool.not_true, Bool.false_eq_true, Bool.true_eq_false, if_false, false_and, true_and, false_or,
        Result.bind_eq_ok, demandFile_eq_ok_iff, Result.pure_eq_ok, and_assoc]

/-- The trust of a client is that of its settings. -/
theorem trustOf_of_ofSettings {settings : ServerSettings TlsSettings} {client : Client}
    (built : ofSettings files settings = .ok client) :
    trustOf files settings.tls = .ok client.credentials.trust := by
  obtain ⟨_, _, built⟩ := Result.bind_eq_ok.mp built
  obtain ⟨trust, trusted, built⟩ := Result.bind_eq_ok.mp built
  obtain ⟨_, _, built⟩ := Result.bind_eq_ok.mp built
  cases built
  exact trusted

/-- Whom connections trust where the section about their security has some entries. -/
inductive Trusts (files : Files) (entries : List (Value × Value)) : Trust → Prop
  /-- There is an entry that takes the check away. -/
  | anyone {verify : Value} (found : Value.field? "verify" entries = some verify)
      (off : verify.isGiven = false) : Trusts files entries .anyone
  /-- There is a check, and no file is given for it. -/
  | system (checked : ∀ verify, Value.field? "verify" entries = some verify → verify.isGiven = true)
      (none : ∀ given, Value.field? "ca_file" entries = some given → given.isGiven = false) :
      Trusts files entries .system
  /-- There is a check, and the file that is given for it is there. -/
  | authorities {file : Text} {content : List UInt8}
      (checked : ∀ verify, Value.field? "verify" entries = some verify → verify.isGiven = true)
      (given : Value.field? "ca_file" entries = some (.text file)) (some : file ≠ [])
      (found : files.find (.text file) = .ok (.file content)) :
      Trusts files entries (.authorities file)

/-- Settings that entries describe lead to this trust. -/
theorem trusts_of_ofEntries {entries : List (Value × Value)}
    (trusted : trustOf files (TlsSettings.ofEntries entries) = .ok trust) : Trusts files entries trust := by
  rcases trustOf_eq_ok_iff.mp trusted with
    ⟨off, rfl⟩ | ⟨checked, ⟨none, rfl⟩ | ⟨given, file, isFile, ⟨content, there⟩, rfl⟩⟩
  · -- Without an entry there is a check.
    change (setting "verify" (.bool true) entries).isGiven = false at off
    unfold setting at off
    cases isVerify : Value.field? "verify" entries with
    | none =>
      rw [isVerify] at off
      cases off
    | some verify =>
      rw [isVerify] at off
      exact .anyone isVerify off
  · -- A check without a file trusts the system. The entry for the file may be left out or empty.
    exact .system ((Config.setting_iff (P := fun v => v.isGiven = true)).mp checked).2
      ((Config.setting_iff (P := fun v => v.isGiven = false)).mp none).2
  · obtain ⟨v, isGiven, some⟩ := (Config.isGiven_setting rfl).mp given
    have same : v = .text file := by
      change (Value.field? "ca_file" entries).getD _ = _ at isFile
      rwa [isGiven] at isFile
    rw [same] at isGiven some
    exact .authorities ((Config.setting_iff (P := fun v => v.isGiven = true)).mp checked).2 isGiven
      (by simpa [Value.isGiven] using some) (Files.find_text_eq_file.mpr there)

/-- Anyone is trusted exactly where an entry takes the check away. -/
theorem Trusts.eq_anyone_iff {entries : List (Value × Value)} (trusts : Trusts files entries trust) :
    trust = .anyone ↔ ∃ verify, Value.field? "verify" entries = some verify ∧ verify.isGiven = false := by
  cases trusts with
  | anyone found off => exact ⟨fun _ => ⟨_, found, off⟩, fun _ => rfl⟩
  | system checked | authorities checked =>
    -- A check that is there cannot be away.
    refine ⟨nofun, ?_⟩
    rintro ⟨verify, found, off⟩
    cases (checked verify found).symm.trans off

/--
Whom the client of an accepted configuration trusts. The sections are those of the document after its
references have been replaced.

Connections are checked against the file that is given for this, which is there, or else against the
authorities of the system. They are not checked at all exactly where the entry for the check holds something
that does not count as given. This is the value for false, but nothing at all does not count either, nor
does zero or what is empty. So only who writes false gives up the check exactly when no such other value
stands there.
-/
theorem load_trusts {files later : Files} {environment : Environment} {path : Value} {config : Config}
    {client : Client} (loaded : Config.load files environment path = .ok config)
    (built : ofSettings later config.server = .ok client) :
    ∃ name content entries expanded server tls logging,
      path.toPath = .ok name ∧ files.find path = .ok (.file content) ∧
      Config.readDocument (Path.ofText name).text content = .ok (.map entries) ∧
      environment.expandEntries entries = .ok expanded ∧
      Config.AreSections expanded server tls logging ∧
      Trusts later tls client.credentials.trust ∧
      ((client.credentials.trust = .anyone → Value.field? "verify" tls = some (.bool false)) ↔
        ∀ verify, Value.field? "verify" tls = some verify → verify.isGiven = false →
          verify = .bool false) := by
  -- The sections of the configuration are known, and the client is made of its settings.
  obtain ⟨name, content, entries, named, found, read, described⟩ := Config.exists_document_of_load loaded
  obtain ⟨differ, inner⟩ := Config.namesDiffer_of_readDocument read
  obtain ⟨expanded, server, tls, logging, walked, sections, _, rfl⟩ :=
    (Config.ofDocument_eq_ok environment config differ inner).mp described
  have trusts : Trusts later tls client.credentials.trust := trusts_of_ofEntries (trustOf_of_ofSettings built)
  refine ⟨name, content, entries, expanded, server, tls, logging, named, found, read, walked, sections,
    trusts, ?_⟩
  rw [trusts.eq_anyone_iff]
  constructor
  · intro written verify isVerify off
    exact Option.some.inj (isVerify.symm.trans (written ⟨verify, isVerify, off⟩))
  · rintro plain ⟨verify, isVerify, off⟩
    rw [isVerify, plain verify isVerify off]

/-- A document with a file of authorities, in which a text says no to the check. -/
def checkedContent : List UInt8 :=
  "\x7b\"server\":\x7b\"endpoints\":\"a\",\"tls\":\x7b\"verify\":\"no\",\"ca_file\":\"ca\"\x7d\x7d\x7d".toUTF8.toList

/-- Its entries. -/
def checkedEntries : List (Value × Value) :=
  [(.text "server", .map [(.text "endpoints", .text "a"),
    (.text "tls", .map [(.text "verify", .text "no"), (.text "ca_file", .text "ca")])])]

/-- What is read from it. -/
def checkedConfig : Config where
  server := {
    endpoints := .texts ["a"], apiKey := .text "", timeout := .int 10
    tls := { verify := .text "no", authorities := .text "ca" } }
  logging := {}

/-- The file of authorities. -/
def checkedFiles : Files := fun path =>
  if path = "ca" then .file [] else .noFile

/-- The client trusts the authorities in the file, since a text is no reason not to check anything. -/
theorem load_trusts_checked : ∃ client,
    Config.load (Config.onlyFile checkedContent) (.ofList []) (.text "kms.yaml") = .ok checkedConfig ∧
      ofSettings checkedFiles checkedConfig.server = .ok client ∧
      client.credentials.trust = .authorities "ca" ∧
      ∃ expanded server tls logging, Config.AreSections expanded server tls logging ∧
        Trusts checkedFiles tls client.credentials.trust := by
  have read : Config.readDocument (Path.ofText "kms.yaml").text checkedContent =
      .ok (.map checkedEntries) := Value.eq_ok_of_isSurely (by decide +kernel)
  have plain : (Environment.ofList []).expandEntries checkedEntries = .ok checkedEntries :=
    Value.eq_ok_of_entriesAreSurely (by decide +kernel)
  have loaded : Config.load (Config.onlyFile checkedContent) (.ofList []) (.text "kms.yaml") =
      .ok checkedConfig := by
    rw [Config.load_onlyFile read plain]
    rfl
  obtain ⟨client, built, trust⟩ : ∃ client, ofSettings checkedFiles checkedConfig.server = .ok client ∧
      client.credentials.trust = .authorities "ca" := ⟨_, rfl, rfl⟩
  obtain ⟨_, _, _, expanded, server, tls, logging, _, _, _, _, sections, trusts, _⟩ :=
    load_trusts loaded built
  exact ⟨client, loaded, built, trust, expanded, server, tls, logging, sections, trusts⟩

/-- A document that names the check, but says nothing about it. -/
def uncheckedContent : List UInt8 :=
  "\x7b\"server\":\x7b\"endpoints\":\"a\",\"tls\":\x7b\"verify\":\x7d\x7d\x7d".toUTF8.toList

/-- Its entries. -/
def uncheckedEntries : List (Value × Value) :=
  [(.text "server", .map [(.text "endpoints", .text "a"), (.text "tls", .map [(.text "verify", .null)])])]

/-- The document has these entries. -/
theorem read_unchecked : Config.readDocument (Path.ofText "kms.yaml").text uncheckedContent =
    .ok (.map uncheckedEntries) :=
  Value.eq_ok_of_isSurely (by decide +kernel)

/-- What is read from it. -/
def uncheckedConfig : Config where
  server := { endpoints := .texts ["a"], apiKey := .text "", timeout := .int 10, tls := { verify := .null } }
  logging := {}

/-- The document is accepted, and the client that is made for it trusts anyone, though nobody wrote false. -/
theorem anyone_unchecked : ∃ client tls,
    Config.readDocument (Path.ofText "kms.yaml").text uncheckedContent = .ok (.map uncheckedEntries) ∧
      (Environment.ofList []).expandEntries uncheckedEntries = .ok uncheckedEntries ∧
      (∃ server, Config.AreSections uncheckedEntries server tls []) ∧
      Value.field? "verify" tls = some .null ∧
      Config.load (Config.onlyFile uncheckedContent) (.ofList []) (.text "kms.yaml") = .ok uncheckedConfig ∧
      ofSettings (fun _ => .noFile) uncheckedConfig.server = .ok client ∧
      client.credentials.trust = .anyone := by
  have plain : (Environment.ofList []).expandEntries uncheckedEntries = .ok uncheckedEntries :=
    Value.eq_ok_of_entriesAreSurely (by decide +kernel)
  refine ⟨_, [(.text "verify", .null)], read_unchecked, plain, ⟨_, rfl, .inl rfl, .inr ⟨rfl, rfl⟩⟩, rfl,
    ?_, rfl, rfl⟩
  rw [Config.load_onlyFile read_unchecked plain]
  rfl

end Client

end KeyCluster
