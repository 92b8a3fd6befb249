import KeyCluster.Proofs.Command.Ending
import KeyCluster.Proofs.Http.Opening
import KeyCluster.Proofs.Http.Readiness
import KeyCluster.Proofs.Log.Setup

/-! What an accepted configuration says about the start of a run: up to its first request. -/

namespace KeyCluster

variable {σ : Type}

/-- The settings of a log name something else than a level, or nothing that can be a name. -/
def LogSettings.IsMisleading (settings : LogSettings) : Prop :=
  ∀ text, settings.level = .text text → Upper.capitals text ∈ Level.misleading

namespace LogSetup

variable {settings : LogSettings}

/-- A log can be set up exactly when its settings do not mislead. -/
theorem exists_ofSettings_iff : (∃ log, ofSettings settings = .ok log) ↔ ¬ settings.IsMisleading := by
  constructor
  · -- A log is set up exactly if the name of its level stands for a standard one.
    rintro ⟨log, made⟩ misleading
    obtain ⟨text, named, plain, _⟩ := Level.ofValue_eq_ok.mp (exists_ofSettings.mp ⟨log, made, rfl⟩)
    exact plain (misleading text named)
  · intro fine
    simp only [LogSettings.IsMisleading, not_forall] at fine
    obtain ⟨text, named, plain⟩ := fine
    obtain ⟨log, made, _⟩ := exists_ofSettings.mpr (Level.ofValue_eq_ok.mpr ⟨text, named, plain, rfl⟩)
    exact ⟨log, made⟩

/-- The log that is set up has the level that is named. -/
theorem threshold_of_ofSettings {log : LogSetup} {text : Text} (made : ofSettings settings = .ok log)
    (named : settings.level = .text text) : log.threshold = Level.standardOf text := by
  obtain ⟨other, same, _, level⟩ := Level.ofValue_eq_ok.mp (exists_ofSettings.mp ⟨log, made, rfl⟩)
  cases named.symm.trans same
  exact level

end LogSetup

namespace Run

variable {options : Options Value} {config : Config} {files : Files} {network : Network σ}
  {world after : World σ} {result : Except Failure Unit} {failure : Failure}

/-- What begins with a request fails only behind it, unless the operation has to stop. -/
theorem sends_of_opens {client : Client} {operation : Action (World σ) Unit}
    (asked : client.Operation network true operation)
    (opens : world.Timed → Client.Opens operation world) (timed : after.Timed)
    (foreign : failure.kind.isClusterFailure = false)
    (ran : operation.outcome world = (.error failure, after)) : world.sent.length < after.sent.length := by
  obtain ⟨dispatches, passed, _⟩ := asked.punctual.after ran
  -- Whatever was sent is known by its dispatches, so it is enough that there is one.
  cases dispatches with
  | nil =>
    -- Without a request the time has not passed, so the log could take its messages from the beginning.
    cases passed with
    | idle idle =>
      have opens := opens (idle.timed timed)
      rw [Client.Opens, ran] at opens
      rcases opens with ⟨lapse, same⟩ | sent
      · cases same
        cases lapse <;> cases foreign
      · exact sent
  | cons dispatch rest =>
    rw [passed.sent, List.length_append, List.map_cons, List.length_cons]
    omega

/-- Where settings are ready, only requests can end in a failure that nobody expects. -/
theorem Serves.sends (valid : config.IsValid) (ready : ∀ failure, ¬ Client.Unready files config.server failure)
    (timed : after.Timed) (foreign : failure.kind.isClusterFailure = false)
    (serves : Serves options config files network world (.error failure) after) :
    world.sent.length < after.sent.length := by
  have number := Config.isNumber_of_isTimeout valid.timeout
  obtain ⟨names, some, called⟩ := valid.exists_texts
  cases serves with
  | unmade failed =>
    -- Without a client the failure is a reported one, and with a client there is a first request.
    rcases Client.ofSettings_eq_error failed with ⟨_, rfl⟩ | unready
    · cases foreign
    · exact absurd unready (ready failure)
  | @listing client endpoints _ _ made _ named ran =>
    -- The endpoints of a valid configuration are texts, and there is at least one of them.
    rw [← Client.timeout_of_ofSettings made] at number
    refine sends_of_opens (.list _) (fun timed => ?_) timed foreign ran
    cases endpoints with
    | nil =>
      cases List.map_injective_iff.mpr (fun _ _ => Value.text.inj)
        (Value.list.inj (called.symm.trans named))
      exact absurd rfl some
    | cons endpoint rest => exact Listing.opens_list number timed endpoint rest true
  | @joining client _ _ made _ ran =>
    -- With fewer than two endpoints nothing could fail.
    rw [← Client.timeout_of_ofSettings made] at number
    rw [called] at ran
    by_cases several : 2 ≤ names.length
    · exact sends_of_opens (.join _) (fun timed => Join.opens_join number timed several true) timed foreign ran
    · rw [Join.join_of_length_lt (by omega)] at ran
      cases ran

variable {environment : Environment} {path : Value}

/--
What an accepted configuration says about the start of a run.

* Its log can be set up exactly when its level is a text, and in capitals not one of the two names that stand
  for something else. Then the log lets through what has at least the standard level of that name, or that of
  the normal course if the text names none.
* A client is made of it, or it is reported what is wrong, exactly when its settings are ready: the key can be
  written, and the files that are asked for can be looked for.
* A later run that finds the same configuration and deals with the servers ends before its first request in a
  failure that nobody expects exactly when one of these conditions does not hold.

The clock has to show a time that the log can count, and the command line has to give a time for the run, if
it gives any.
-/
theorem perform_starts (loaded : Config.load files environment path = .ok config) :
    ((∃ log, LogSetup.ofSettings config.logging = .ok log) ↔ ¬ config.logging.IsMisleading) ∧
      (∀ log text, LogSetup.ofSettings config.logging = .ok log → config.logging.level = .text text →
        log.threshold = Level.standardOf text) ∧
      (∀ later, ((∃ client, Client.ofSettings later config.server = .ok client) ∨
          ∃ fault, Client.ofSettings later config.server = .error (.config fault)) ↔
        ∀ failure, ¬ Client.Unready later config.server failure) ∧
      ∀ (options : Options Value) (later : Files) (place : Environment) (network : Network σ)
        (world : World σ) (run : Run σ),
        Config.load later place options.config = .ok config → options.validate = false →
        (∃ duration, options.timeout.toDuration = .ok duration) →
        perform options later place network world = run → run.world.Timed →
        ((∃ failure, run.ending = .escaped failure) ∧ run.world.sent = world.sent ↔
          config.logging.IsMisleading ∨ ∃ failure, Client.Unready later config.server failure) := by
  have valid := Config.load_valid loaded
  refine ⟨LogSetup.exists_ofSettings_iff, fun log text => LogSetup.threshold_of_ofSettings,
    fun later => Client.ofSettings_contained_iff, ?_⟩
  rintro options later place network world run found asked ⟨duration, given⟩ ran timed
  -- The configuration is accepted, so the run ends for want of a log or goes on to the servers.
  rcases perform_cases ran with ⟨failure, failed, _⟩ | ⟨_, failure, same, failed, rfl⟩ |
    ⟨_, log, same, logged, course⟩
  · cases failed.symm.trans found
  · -- Without a log the run has ended.
    cases found.symm.trans same
    have misleading : config.logging.IsMisleading := by
      by_contra fine
      obtain ⟨log, logged⟩ := LogSetup.exists_ofSettings_iff.mpr fine
      cases failed.symm.trans logged
    exact ⟨fun _ => .inl misleading, fun _ => ⟨⟨failure, rfl⟩, rfl⟩⟩
  · cases found.symm.trans same
    have fine := LogSetup.exists_ofSettings_iff.mp ⟨log, logged⟩
    have begins : ({ world with hears := log.lets } : World σ).begin options.timeout =
        .ok (({ world with hears := log.lets } : World σ).start duration) := by
      rw [World.begin, given]
    obtain ⟨result, met, serves, sent, tells⟩ := course.of_begin_ok asked begins
    obtain ⟨counted, verdict⟩ := tells timed
    constructor
    · -- If nothing was sent and there was a client, the first request would be missing.
      rintro ⟨⟨failure, escaped⟩, quiet⟩
      right
      by_contra ready
      obtain ⟨rfl, foreign, _⟩ := (verdict.other failure).mp escaped
      have more := serves.sends valid (not_exists.mp ready) counted foreign
      rw [← sent, quiet] at more
      exact absurd more (lt_irrefl _)
    · rintro (misleading | ⟨failure, unready⟩)
      · exact absurd misleading fine
      · -- There is no client, so nothing is sent.
        have quiet := serves.sent_of_unmade unready.ofSettings_eq
        cases serves with
        | unmade failed =>
          cases failed.symm.trans unready.ofSettings_eq
          exact ⟨⟨failure, (verdict.other failure).mpr ⟨rfl, unready.foreign⟩⟩, sent.trans quiet⟩
        | listing made | joining made => cases unready.ofSettings_eq.symm.trans made

/-- A document with a key for requests and a level for the log. -/
def keyedContent : List UInt8 :=
  ("\x7b\"server\":\x7b\"endpoints\":\"a c\",\"api_key\":\"k\"\x7d," ++
    "\"logging\":\x7b\"level\":\"warn\"\x7d\x7d").toUTF8.toList

/-- The entries of this document. -/
def keyedEntries : List (Value × Value) :=
  [(.text "server", .map [(.text "endpoints", .text "a c"), (.text "api_key", .text "k")]),
    (.text "logging", .map [(.text "level", .text "warn")])]

/-- The configuration that it describes. -/
def keyedConfig : Config where
  server := { endpoints := .texts ["a", "c"], apiKey := .text "k", timeout := .int 10, tls := {} }
  logging := { level := .text "warn" }

/-- The document is accepted. -/
theorem load_keyed : Config.load (Config.onlyFile keyedContent) (.ofList []) (.text "kms.yaml") =
    .ok keyedConfig := by
  have read : Config.readDocument (Path.ofText "kms.yaml").text keyedContent = .ok (.map keyedEntries) :=
    Value.eq_ok_of_isSurely (by decide +kernel)
  have plain : (Environment.ofList []).expandEntries keyedEntries = .ok keyedEntries :=
    Value.eq_ok_of_entriesAreSurely (by decide +kernel)
  rw [Config.load_onlyFile read plain]
  rfl

/-- A run of the program on it, with servers that answer with errors. -/
def keyed : Run Unit :=
  perform { config := .text "kms.yaml" } (Config.onlyFile keyedContent) (.ofList []) refusing fresh

/-- The log starts at the level that the document names, and a server has been asked before the run ends. -/
theorem perform_starts_keyed :
    (∃ log, LogSetup.ofSettings keyedConfig.logging = .ok log ∧ log.threshold = 30) ∧
      (∀ failure, ¬ Client.Unready (Config.onlyFile keyedContent) keyedConfig.server failure) ∧
      ¬ ((∃ failure, keyed.ending = .escaped failure) ∧ keyed.world.sent = fresh.sent) := by
  obtain ⟨usable, levels, ready, starts⟩ := perform_starts (σ := Unit) load_keyed
  -- The level is a standard name in small letters, so it misleads nobody.
  have fine : ¬ keyedConfig.logging.IsMisleading := fun misleading =>
    absurd (misleading "warn" rfl) (by decide)
  have ready := (ready (Config.onlyFile keyedContent)).mp (.inl ⟨_, rfl⟩)
  have timed : keyed.world.Timed := by
    simp only [keyed, perform, load_keyed]
    exact fun _ _ _ => ⟨_, rfl⟩
  obtain ⟨log, logged⟩ := usable.mpr fine
  refine ⟨⟨log, logged, levels log "warn" logged rfl⟩, ready, fun crashed => ?_⟩
  have bad := (starts { config := .text "kms.yaml" } _ _ refusing fresh keyed load_keyed rfl ⟨_, rfl⟩ rfl
    timed).mp crashed
  -- Neither reason for a crash is there.
  rcases bad with misleading | ⟨failure, unready⟩
  · exact fine misleading
  · exact ready failure unready

/-- A document with the name of a pattern in place of that of a level. -/
def misleadingContent : List UInt8 :=
  "\x7b\"server\": \x7b\"endpoints\": \"a c\"\x7d, \"logging\": \x7b\"level\": \"basic_format\"\x7d\x7d".toUTF8.toList

/-- The entries of this document. -/
def misleadingEntries : List (Value × Value) :=
  [(.text "server", .map [(.text "endpoints", .text "a c")]),
    (.text "logging", .map [(.text "level", .text "basic_format")])]

/-- The configuration that it describes. -/
def misleadingConfig : Config where
  server := { endpoints := .texts ["a", "c"], apiKey := .text "", timeout := .int 10, tls := {} }
  logging := { level := .text "basic_format" }

/-- The document is accepted, and then even a run that only checks it ends in a failure that nobody
expects. -/
theorem perform_misled :
    Config.load (Config.onlyFile misleadingContent) (.ofList []) (.text "kms.yaml") = .ok misleadingConfig ∧
      LogSetup.ofSettings misleadingConfig.logging = .error (.log (.unknownLevel LevelName.basicPattern)) ∧
      (perform { config := .text "kms.yaml", validate := true } (Config.onlyFile misleadingContent)
        (.ofList []) refusing fresh).ending = .escaped (.log (.unknownLevel LevelName.basicPattern)) := by
  -- The document is read and expanded apart from the checks, which are only computed.
  have plain : (Environment.ofList []).expandEntries misleadingEntries = .ok misleadingEntries :=
    Value.eq_ok_of_entriesAreSurely (by decide +kernel)
  have read : Config.readDocument (Path.ofText "kms.yaml").text misleadingContent =
      .ok (.map misleadingEntries) := Value.eq_ok_of_isSurely (by decide +kernel)
  have loaded : Config.load (Config.onlyFile misleadingContent) (.ofList []) (.text "kms.yaml") =
      .ok misleadingConfig := by
    rw [Config.load_onlyFile read plain]
    rfl
  refine ⟨loaded, rfl, ?_⟩
  simp only [perform, loaded]
  rfl

end Run

end KeyCluster
