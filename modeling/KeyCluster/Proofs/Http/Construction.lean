import KeyCluster.Files.Tree
import KeyCluster.Proofs.Config.Validity
import KeyCluster.Proofs.Http.Readiness
import KeyCluster.Proofs.Http.Trust

/-! Clients of settings in which files are named by texts, and what more files do to them. -/

namespace KeyCluster

/-- How connections are secured, where all files are named by texts. -/
structure TlsPaths where
  verify : Value
  authorities : Text
  certificate : Text
  key : Text

/-- Settings with such names, as they are read off a document. -/
def ServerSettings.named (settings : ServerSettings TlsPaths) : ServerSettings TlsSettings :=
  { settings with
    tls := {
      verify := settings.tls.verify
      authorities := .text settings.tls.authorities
      certificate := .text settings.tls.certificate
      key := .text settings.tls.key } }

namespace Value

theorem isGiven_text {text : Text} : (Value.text text).isGiven = true ↔ text ≠ [] := by
  simp [isGiven]

@[simp] theorem isGiven_text_nil : (Value.text []).isGiven = false :=
  rfl

end Value

namespace Files

/-- A name on a path is too long, so that nothing can be looked for under it. -/
def Rejects (files : Files) (path : Text) : Prop :=
  files (Path.ofText path).text = .nameTooLong

/-- Files are still there among others. What is in them may have changed. -/
def Within (files more : Files) : Prop :=
  ∀ path content, files path = .file content → ∃ other, more path = .file other

variable {files more : Files} {path : Text}

theorem Within.holds (within : files.Within more) (there : files.Holds path) : more.Holds path := by
  obtain ⟨content, found⟩ := there
  exact within _ content found

theorem find_text_eq_error {failure : Failure} : files.find (.text path) = .error failure ↔
    files.Rejects path ∧ failure = .nameTooLong (Path.ofText path).text := by
  simp only [find, Value.toPath, Rejects]
  -- Looking fails for one reason only.
  cases files (Path.ofText path).text with
  | nameTooLong => simp [eq_comm]
  | _ => simp

end Files

namespace FileTree

variable {tree more : FileTree}

/-- A directory is still there when entries are added. -/
theorem isDirectory_append {names : List Text} (there : tree.isDirectory names = true) :
    (tree ++ more).isDirectory names = true := by
  simp only [isDirectory, List.any_append, Bool.or_eq_true]
  exact .inl there

/-- Nothing outside the tree is a file. -/
theorem outside_ne_file {names : List Text} {content : List UInt8} : outside names ≠ .file content := by
  -- Every name on a path that leads outside is followed to nothing, or is too long.
  induction names with
  | nil => nofun
  | cons name rest ih =>
    unfold outside
    split
    · exact ih
    · split <;> nofun

/-- A file that is found on the way along names is found there still, unless an entry takes the place of a
directory. -/
theorem follow_append (free : ∀ entry ∈ more, tree.isDirectory entry.1 = false) {names here : List Text}
    {content : List UInt8} (found : tree.follow here names = .file content) :
    (tree ++ more).follow here names = .file content := by
  -- The walk goes down by one name in each step, or back up by one.
  induction names generalizing here with
  | nil => cases found
  | cons name rest ih =>
    unfold follow at found ⊢
    by_cases back : name == Path.back
    · simp only [back, if_true] at found ⊢
      by_cases top : here.isEmpty
      · simp only [top, if_true] at found
        exact absurd found outside_ne_file
      · simp only [top, Bool.false_eq_true, if_false] at found ⊢
        exact ih found
    · by_cases long : isLongName name
      · simp [back, long] at found
      · simp only [back, long, Bool.false_eq_true, if_false] at found ⊢
        -- What stands in the tree itself is found before all that is added.
        rw [List.lookup_append]
        rcases entered : tree.lookup (here ++ [name]) with _ | _ | inside
        · rw [entered] at found
          by_cases there : tree.isDirectory (here ++ [name])
          · simp only [there, if_true] at found
            have unfilled : ∀ inside, more.lookup (here ++ [name]) ≠ some (some inside) := by
              intro inside added
              obtain ⟨front, behind, rfl, _⟩ := List.lookup_eq_some_iff.mp added
              have taken := free (here ++ [name], some inside) (by simp)
              rw [there] at taken
              cases taken
            simp [isDirectory_append there, ih found]
          · simp [there] at found
        · rw [entered] at found
          by_cases there : tree.isDirectory (here ++ [name])
          · simp only [there, if_true] at found
            simpa [isDirectory_append there] using ih found
          · simp [there] at found
        · simpa [entered] using found

/-- Files of a tree are still there when entries are added where there is no directory. -/
theorem within_append (free : ∀ entry ∈ more, tree.isDirectory entry.1 = false) :
    tree.files.Within (tree ++ more).files := by
  -- Names that cannot be written and absolute paths are looked up in neither tree.
  intro path content found
  refine ⟨content, ?_⟩
  unfold files at found ⊢
  by_cases odd : path.any fun c => (widthOf c).isNone
  · simp [odd] at found
  · by_cases long : 4095 < sizeOf path
    · simp [odd, long] at found
    · by_cases rooted : ((Path.ofText path).root != "") = true
      · simp only [odd, long, rooted] at found
        exact absurd found outside_ne_file
      · simp only [odd, long, rooted] at found ⊢
        exact follow_append free found

end FileTree

namespace TlsPaths

/-- Whom connections trust. -/
def trust (tls : TlsPaths) : Trust :=
  if tls.verify.isGiven = false then .anyone
  else if tls.authorities = [] then .system
  else .authorities tls.authorities

/-- The certificate with its key, if there is one. -/
def pair (tls : TlsPaths) : Option (Text × Text) :=
  if tls.certificate = [] then none else some (tls.certificate, tls.key)

end TlsPaths

namespace Client

variable {files more : Files} {settings : ServerSettings TlsPaths} {client : Client} {path : Text}

/-- The client that settings describe. -/
def described (settings : ServerSettings TlsPaths) : Client where
  credentials := {
    trust := settings.tls.trust
    certificate := settings.tls.pair
    authorization := if settings.apiKey.isGiven then some ("Bearer " ++ settings.apiKey.plain) else none }
  timeout := settings.timeout

/-- All that settings have to fulfil for the client that they describe. -/
structure Usable (files : Files) (settings : ServerSettings TlsPaths) : Prop where
  /-- The key can be written. -/
  key : settings.apiKey.isGiven = true → settings.apiKey.isWritable = true
  /-- There is the file of the authorities, if connections are checked against one. -/
  authorities : settings.tls.verify.isGiven = true → settings.tls.authorities ≠ [] →
    files.Holds settings.tls.authorities
  /-- A certificate comes with its key, and there are the files of both. -/
  certificate : settings.tls.certificate ≠ [] →
    settings.tls.key ≠ [] ∧ files.Holds settings.tls.certificate ∧ files.Holds settings.tls.key

/-- What is usable is so with more files, too. -/
theorem Usable.mono (usable : Usable files settings) (within : files.Within more) : Usable more settings where
  key := usable.key
  authorities checked some := within.holds (usable.authorities checked some)
  certificate some :=
    have ⟨keyed, there, beside⟩ := usable.certificate some
    ⟨keyed, within.holds there, within.holds beside⟩

theorem authorizationOf_eq_ok_iff {apiKey : Value} {authorization : Option Text} :
    authorizationOf apiKey = .ok authorization ↔ (apiKey.isGiven = true → apiKey.isWritable = true) ∧
      authorization = if apiKey.isGiven then some ("Bearer " ++ apiKey.plain) else none := by
  unfold authorizationOf Value.write
  -- A key that is not given is not written either.
  cases apiKey.isGiven with
  | false =>
    simp only [Bool.false_eq_true, if_false, Except.ok.injEq, false_implies, true_and]
    exact eq_comm
  | true =>
    cases apiKey.isWritable with
    | false => simp [Except.map]
    | true =>
      simp only [if_true, Except.map, Except.ok.injEq, true_implies, true_and]
      exact eq_comm

theorem demandFile_text_eq_ok_iff {fault : Text → ConfigFault} {found : Text} :
    demandFile files fault (.text path) = .ok found ↔ files.Holds path ∧ found = path := by
  -- The two statements differ in the order of their parts and in the direction of an equation.
  rw [demandFile_eq_ok_iff, Value.text.injEq]
  constructor
  · rintro ⟨rfl, there⟩
    exact ⟨there, rfl⟩
  · rintro ⟨there, rfl⟩
    exact ⟨rfl, there⟩

theorem trustOf_named_eq_ok_iff {trust : Trust} : trustOf files settings.named.tls = .ok trust ↔
    (settings.tls.verify.isGiven = true → settings.tls.authorities ≠ [] →
      files.Holds settings.tls.authorities) ∧ trust = settings.tls.trust := by
  rw [trustOf_eq_ok_iff]
  simp only [ServerSettings.named, TlsPaths.trust, Value.isGiven_text]
  -- Connections are checked or not, and if they are, there is a file or there is none.
  by_cases checked : settings.tls.verify.isGiven = true
  · by_cases none : settings.tls.authorities = []
    · simp [checked, none]
    · simp [checked, none, Value.isGiven_text.mpr none, eq_comm]
  · simp [checked]

theorem certificateOf_eq_ok_iff {pair : Option (Text × Text)} :
    certificateOf files settings.named.tls = .ok pair ↔
      (settings.tls.certificate ≠ [] → settings.tls.key ≠ [] ∧ files.Holds settings.tls.certificate ∧
        files.Holds settings.tls.key) ∧ pair = settings.tls.pair := by
  simp only [certificateOf, ServerSettings.named, TlsPaths.pair]
  -- Without a certificate there is nothing to look for, and with one there has to be a key.
  by_cases none : settings.tls.certificate = []
  · simp [none, Result.pure_eq_ok]
  · by_cases alone : settings.tls.key = []
    · simp [Value.isGiven_text.mpr none, none, alone, throw, throwThe, MonadExceptOf.throw, Bind.bind,
        Except.bind]
    · simp only [Value.isGiven_text.mpr none, Value.isGiven_text.mpr alone, Bool.not_true, Bool.false_eq_true,
        if_false]
      constructor
      · intro certified
        obtain ⟨certificate, found, certified⟩ := Result.bind_eq_ok.mp certified
        obtain ⟨key, beside, same⟩ := Result.bind_eq_ok.mp certified
        cases same
        obtain ⟨there, rfl⟩ := demandFile_text_eq_ok_iff.mp found
        obtain ⟨kept, rfl⟩ := demandFile_text_eq_ok_iff.mp beside
        exact ⟨fun _ => ⟨alone, there, kept⟩, by rw [if_neg none]⟩
      · rintro ⟨usable, rfl⟩
        obtain ⟨_, there, kept⟩ := usable none
        refine Result.bind_eq_ok.mpr ⟨_, demandFile_text_eq_ok_iff.mpr ⟨there, rfl⟩, ?_⟩
        refine Result.bind_eq_ok.mpr ⟨_, demandFile_text_eq_ok_iff.mpr ⟨kept, rfl⟩, ?_⟩
        rw [if_neg none]
        rfl

/-- A client is made of settings exactly when they are usable, and then it is the one that they describe. -/
theorem ofSettings_eq_ok_iff : ofSettings files settings.named = .ok client ↔
    Usable files settings ∧ client = described settings := by
  -- The three steps are those of the program: the key, the authorities, the certificate.
  constructor
  · intro made
    obtain ⟨authorization, authorized, made⟩ := Result.bind_eq_ok.mp made
    obtain ⟨trust, trusted, made⟩ := Result.bind_eq_ok.mp made
    obtain ⟨pair, certified, made⟩ := Result.bind_eq_ok.mp made
    cases made
    obtain ⟨writable, rfl⟩ := authorizationOf_eq_ok_iff.mp (Result.mapError_eq_ok.mp authorized)
    obtain ⟨checked, rfl⟩ := trustOf_named_eq_ok_iff.mp trusted
    obtain ⟨keyed, rfl⟩ := certificateOf_eq_ok_iff.mp certified
    exact ⟨⟨writable, checked, keyed⟩, rfl⟩
  · rintro ⟨usable, rfl⟩
    refine Result.bind_eq_ok.mpr ⟨_, Result.mapError_eq_ok.mpr
      (authorizationOf_eq_ok_iff.mpr ⟨usable.key, rfl⟩), ?_⟩
    refine Result.bind_eq_ok.mpr ⟨_, trustOf_named_eq_ok_iff.mpr ⟨usable.authorities, rfl⟩, ?_⟩
    exact Result.bind_eq_ok.mpr ⟨_, certificateOf_eq_ok_iff.mpr ⟨usable.certificate, rfl⟩, rfl⟩

/-- Why no client is made of settings, and nothing is reported about them either. -/
inductive Blocked (files : Files) (settings : ServerSettings TlsPaths) : Prop
  /-- The key holds an integer with too many digits. -/
  | key (given : settings.apiKey.isGiven = true) (unwritable : settings.apiKey.isWritable = false)
  /-- The name of the file of the authorities is too long. -/
  | authorities (checked : settings.tls.verify.isGiven = true) (some : settings.tls.authorities ≠ [])
      (long : files.Rejects settings.tls.authorities)
  /-- That of the certificate is, and there is nothing to report before it is looked for. -/
  | certificate (trusted : settings.tls.verify.isGiven = true → settings.tls.authorities ≠ [] →
        files.Holds settings.tls.authorities)
      (some : settings.tls.certificate ≠ []) (keyed : settings.tls.key ≠ [])
      (long : files.Rejects settings.tls.certificate)
  /-- That of its key is. -/
  | certificateKey (trusted : settings.tls.verify.isGiven = true → settings.tls.authorities ≠ [] →
        files.Holds settings.tls.authorities)
      (some : settings.tls.certificate ≠ []) (keyed : settings.tls.key ≠ [])
      (there : files.Holds settings.tls.certificate) (long : files.Rejects settings.tls.key)

/-- That is how settings are not ready in which files are named by texts. -/
theorem exists_unready_iff : (∃ failure, Unready files settings.named failure) ↔ Blocked files settings := by
  constructor
  · -- Each rule says the same of values and of texts, so they correspond.
    rintro ⟨failure, unready⟩
    cases unready with
    | key given unwritable => exact .key given unwritable
    | authorities _ checked given lost =>
      exact .authorities checked (Value.isGiven_text.mp given) (Files.find_text_eq_error.mp lost).1
    | certificate _ trusted given keyed lost =>
      exact .certificate (trustOf_named_eq_ok_iff.mp trusted).1 (Value.isGiven_text.mp given)
        (Value.isGiven_text.mp keyed) (Files.find_text_eq_error.mp lost).1
    | certificateKey _ trusted given keyed found lost =>
      exact .certificateKey (trustOf_named_eq_ok_iff.mp trusted).1 (Value.isGiven_text.mp given)
        (Value.isGiven_text.mp keyed) (demandFile_text_eq_ok_iff.mp found).1 (Files.find_text_eq_error.mp lost).1
  · intro blocked
    -- The key comes first, so whoever is blocked by a file has a key that can be written.
    by_cases writable : settings.apiKey.isGiven = true → settings.apiKey.isWritable = true
    · have authorized := authorizationOf_eq_ok_iff.mpr ⟨writable, rfl⟩
      cases blocked with
      | key given unwritable => simp [writable given] at unwritable
      | authorities checked some long =>
        exact ⟨_, .authorities authorized checked (Value.isGiven_text.mpr some)
          (Files.find_text_eq_error.mpr ⟨long, rfl⟩)⟩
      | certificate trusted some keyed long =>
        exact ⟨_, .certificate authorized (trustOf_named_eq_ok_iff.mpr ⟨trusted, rfl⟩) (Value.isGiven_text.mpr some)
          (Value.isGiven_text.mpr keyed) (Files.find_text_eq_error.mpr ⟨long, rfl⟩)⟩
      | certificateKey trusted some keyed there long =>
        exact ⟨_, .certificateKey authorized (trustOf_named_eq_ok_iff.mpr ⟨trusted, rfl⟩) (Value.isGiven_text.mpr some)
          (Value.isGiven_text.mpr keyed) (demandFile_text_eq_ok_iff.mpr ⟨there, rfl⟩)
          (Files.find_text_eq_error.mpr ⟨long, rfl⟩)⟩
    · simp only [Classical.not_imp, Bool.not_eq_true] at writable
      exact ⟨_, .key writable.1 writable.2⟩

/-- What is reported about settings is that they are not usable. -/
theorem exists_reported_iff (free : ¬ Blocked files settings) :
    (∃ fault, ofSettings files settings.named = .error (.config fault)) ↔ ¬ Usable files settings := by
  -- Where nothing blocks, a client that cannot be made is reported.
  constructor
  · rintro ⟨fault, failed⟩ usable
    cases failed.symm.trans (ofSettings_eq_ok_iff.mpr ⟨usable, rfl⟩)
  · intro unusable
    have ready := not_exists.mp (mt exists_unready_iff.mp free)
    rcases ofSettings_contained_iff.mpr ready with ⟨client, made⟩ | reported
    · exact absurd (ofSettings_eq_ok_iff.mp made).1 unusable
    · exact reported

section Alone

variable {settings : ServerSettings TlsSettings}

/-- Of a file that is asked for it is reported that it is missing, and nothing else. -/
theorem demandFile_eq_config {fault : Text → ConfigFault} {value : Value} {reported : ConfigFault}
    (failed : demandFile files fault value = .error (.config reported)) : reported = fault value.plain := by
  rcases Result.bind_eq_error.mp failed with failed | ⟨there, _, failed⟩
  · cases (Files.find_foreign (Result.map_eq_error.mp failed)).1
  · cases there <;> cases failed
    rfl

/-- It is reported that a key is missing only where there is a certificate without one. -/
theorem alone_of_ofSettings (failed : ofSettings files settings = .error (.config .certificateAlone)) :
    settings.tls.certificate.isGiven = true ∧ settings.tls.key.isGiven = false := by
  -- The key and the authorities are never blamed on the certificate.
  rcases Result.bind_eq_error.mp failed with failed | ⟨authorization, _, failed⟩
  · obtain ⟨fault, _, same⟩ := Result.mapError_eq_error.mp failed
    cases same
  rcases Result.bind_eq_error.mp failed with failed | ⟨trust, _, failed⟩
  · unfold trustOf at failed
    split at failed
    · cases failed
    · split at failed
      · cases failed
      · cases demandFile_eq_config (Result.bind_pure_eq_error.mp failed)
  · have failed := Result.bind_pure_eq_error.mp failed
    unfold certificateOf at failed
    split at failed
    · cases failed
    · rename_i given
      split at failed
      · rename_i alone
        exact ⟨by simpa using given, by simpa using alone⟩
      · -- Of the two files it is reported that they are missing.
        rcases Result.bind_eq_error.mp failed with failed | ⟨certificate, _, failed⟩
        · cases demandFile_eq_config failed
        · cases demandFile_eq_config (Result.bind_pure_eq_error.mp failed)

end Alone

/--
What is made of settings in which files are named by texts, whatever files there are.

* A client is made, or it is reported what is wrong with the settings, exactly when the settings are not blocked:
  when the key can be written, and when no name is too long among the files that are looked for.
* Then something is reported exactly when connections are checked against a file that is not there, or when there
  is a certificate but no name for its key, or one of the two files is not there.
* A client that is made is the one that the settings describe.
* More files never keep a client from being made, and it is the same client.
* No accepted configuration has a certificate without its key.
-/
theorem ofSettings_named (files : Files) (settings : ServerSettings TlsPaths) :
    ((∃ client, ofSettings files settings.named = .ok client) ∨
        (∃ fault, ofSettings files settings.named = .error (.config fault)) ↔ ¬ Blocked files settings) ∧
      (¬ Blocked files settings → ((∃ fault, ofSettings files settings.named = .error (.config fault)) ↔
        settings.tls.verify.isGiven = true ∧ settings.tls.authorities ≠ [] ∧
            ¬ files.Holds settings.tls.authorities ∨
          settings.tls.certificate ≠ [] ∧ (settings.tls.key = [] ∨ ¬ files.Holds settings.tls.certificate ∨
            ¬ files.Holds settings.tls.key))) ∧
      (∀ client, ofSettings files settings.named = .ok client → client = described settings) ∧
      (∀ more client, files.Within more → ofSettings files settings.named = .ok client →
        ofSettings more settings.named = .ok client) ∧
      ∀ earlier environment path config, Config.load earlier environment path = .ok config →
        ofSettings files config.server ≠ .error (.config .certificateAlone) := by
  refine ⟨?_, fun free => ?_, fun client made => (ofSettings_eq_ok_iff.mp made).2, ?_, ?_⟩
  · rw [ofSettings_contained_iff, ← exists_unready_iff, not_exists]
  · rw [exists_reported_iff free]
    have writable : settings.apiKey.isGiven = true → settings.apiKey.isWritable = true := by
      intro given
      by_contra unwritable
      exact free (.key given (by simpa using unwritable))
    constructor
    · intro unusable
      by_contra fine
      simp only [not_or, not_and, not_not] at fine
      exact unusable ⟨writable, fine.1, fun some =>
        ⟨(fine.2 some).1, (fine.2 some).2.1, (fine.2 some).2.2⟩⟩
    · rintro (⟨checked, some, missing⟩ | ⟨some, alone | missing | missing⟩) usable
      · exact missing (usable.authorities checked some)
      · exact (usable.certificate some).1 alone
      · exact missing (usable.certificate some).2.1
      · exact missing (usable.certificate some).2.2
  · -- More files leave everything usable that was usable before.
    intro more client within made
    obtain ⟨usable, rfl⟩ := ofSettings_eq_ok_iff.mp made
    exact ofSettings_eq_ok_iff.mpr ⟨usable.mono within, rfl⟩
  · -- A configuration that was accepted has a key for its certificate.
    intro earlier environment path config loaded failed
    obtain ⟨given, alone⟩ := alone_of_ofSettings failed
    cases ((Config.load_valid loaded).keyed given).symm.trans alone

/-- Settings in which these files are named. -/
def secured (authorities certificate key : Text) : ServerSettings TlsPaths where
  endpoints := .texts ["https://a:7373"]
  apiKey := .text "secret"
  timeout := .int 10
  tls := { verify := .bool true, authorities, certificate, key }

/-- A certificate whose key is missing is reported. There is a client with both once the key is added, and still
when more is. -/
theorem ofSettings_named_added :
    (∃ fault, ofSettings (FileTree.ofList [("c", some [])]).files (secured "" "c" "k").named =
        .error (.config fault)) ∧
      ofSettings (FileTree.ofList [("c", some []), ("k", some [])]).files (secured "" "c" "k").named =
        .ok (described (secured "" "c" "k")) ∧
      ofSettings (.ofList [("c", some []), ("k", some [])] ++ .ofList [("d/k", some [])] : FileTree).files
        (secured "" "c" "k").named = .ok (described (secured "" "c" "k")) := by
  have made : ofSettings (FileTree.ofList [("c", some []), ("k", some [])]).files (secured "" "c" "k").named =
      .ok (described (secured "" "c" "k")) := rfl
  obtain ⟨contained, reported, _⟩ :=
    ofSettings_named (FileTree.ofList [("c", some [])]).files (secured "" "c" "k")
  obtain ⟨_, _, _, grows, _⟩ :=
    ofSettings_named (FileTree.ofList [("c", some []), ("k", some [])]).files (secured "" "c" "k")
  refine ⟨?_, made, grows _ _ (FileTree.within_append (by decide)) made⟩
  -- There is a certificate and a name for its key, but no file under that name.
  refine (reported (contained.mp (.inr ⟨_, rfl⟩))).mpr (.inr ⟨by decide, .inr (.inr ?_)⟩)
  rintro ⟨content, found⟩
  cases found

/-- A file of the authorities whose name is too long is not there, but that is not what is reported. -/
theorem ofSettings_unreported :
    (secured (.replicate 256 (.char 'a')) "" "").tls.verify.isGiven = true ∧
      (secured (.replicate 256 (.char 'a')) "" "").tls.authorities ≠ [] ∧
      ¬ (FileTree.ofList []).files.Holds (secured (.replicate 256 (.char 'a')) "" "").tls.authorities ∧
      ofSettings (FileTree.ofList []).files (secured (.replicate 256 (.char 'a')) "" "").named =
        .error (.nameTooLong (.replicate 256 (.char 'a'))) := by
  have shown : (Path.ofText (.replicate 256 (.char 'a'))).text = .replicate 256 (.char 'a') := by decide +kernel
  have rejected : (FileTree.ofList []).files.Rejects (.replicate 256 (.char 'a')) := by
    unfold Files.Rejects
    decide +kernel
  -- The name is one letter too long, and this is found before anything is looked for.
  refine ⟨rfl, by decide, ?_, ?_⟩
  · rintro ⟨content, found⟩
    cases rejected.symm.trans found
  · exact Unready.ofSettings_eq (.authorities rfl rfl rfl
      (Files.find_text_eq_error.mpr ⟨rejected, congrArg _ shown.symm⟩))

end Client

end KeyCluster
