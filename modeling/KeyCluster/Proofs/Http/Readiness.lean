import KeyCluster.Http.Client
import KeyCluster.Proofs.Failure.Result

/-! Which settings a client can be made of, and how the making fails. -/

namespace KeyCluster

/-- A value that is used as something that it is not is no failure of the cluster tooling itself, and no
interrupt. -/
theorem ValueFault.kind_foreign (fault : ValueFault) :
    fault.kind.isClusterFailure = false ∧ fault.kind ≠ .interrupt := by
  cases fault <;> exact ⟨rfl, by simp [kind]⟩

/-- Looking for a file fails only in ways that are no failures of the cluster tooling itself. -/
theorem Files.find_foreign {files : Files} {value : Value} {failure : Failure}
    (failed : files.find value = .error failure) :
    failure.kind.isClusterFailure = false ∧ failure.kind ≠ .interrupt := by
  unfold find at failed
  -- A file is looked for under a path, which has to be made of the value first.
  split at failed
  · rename_i fault _
    cases failed
    exact fault.kind_foreign
  · dsimp only at failed
    split at failed <;> cases failed
    exact ⟨rfl, by simp [Failure.kind]⟩

namespace Client

variable {files : Files} {tls : TlsSettings} {settings : ServerSettings TlsSettings} {failure : Failure}
  {value : Value} {fault : Text → ConfigFault}

/-- A file that is asked for is there, or it is reported that it is not, or it cannot be looked for. -/
theorem demandFile_eq_error (failed : demandFile files fault value = .error failure) :
    (∃ fault, failure = .config fault) ∨ files.find value = .error failure := by
  -- Either the looking fails, or it has an answer and the answer is no.
  rcases Result.bind_eq_error.mp failed with failed | ⟨there, _, failed⟩
  · exact .inr (Result.map_eq_error.mp failed)
  · cases there with
    | true => cases failed
    | false =>
      cases failed
      exact .inl ⟨_, rfl⟩

/-- What cannot be looked for is asked for in vain. -/
theorem demandFile_of_find (lost : files.find value = .error failure) :
    demandFile files fault value = .error failure :=
  Result.bind_eq_error.mpr (.inl (Result.map_eq_error.mpr lost))

/-- How the making of a client fails in another way than by reporting what is wrong with the settings. What is
done before has to succeed. -/
inductive Unready (files : Files) (settings : ServerSettings TlsSettings) : Failure → Prop
  /-- The key holds an integer with too many digits. -/
  | key (given : settings.apiKey.isGiven = true) (unwritable : settings.apiKey.isWritable = false) :
      Unready files settings (.value .tooLongToWrite)
  /-- What is given for the file of the authorities cannot be looked for. -/
  | authorities {failure : Failure} {authorization : Option Text}
      (authorized : authorizationOf settings.apiKey = .ok authorization)
      (checked : settings.tls.verify.isGiven = true) (given : settings.tls.authorities.isGiven = true)
      (lost : files.find settings.tls.authorities = .error failure) : Unready files settings failure
  /-- What is given for the file of the certificate cannot be. -/
  | certificate {failure : Failure} {authorization : Option Text} {trust : Trust}
      (authorized : authorizationOf settings.apiKey = .ok authorization)
      (trusted : trustOf files settings.tls = .ok trust)
      (given : settings.tls.certificate.isGiven = true) (keyed : settings.tls.key.isGiven = true)
      (lost : files.find settings.tls.certificate = .error failure) : Unready files settings failure
  /-- What is given for the file of its key cannot be. -/
  | certificateKey {failure : Failure} {authorization : Option Text} {trust : Trust} {certificate : Text}
      (authorized : authorizationOf settings.apiKey = .ok authorization)
      (trusted : trustOf files settings.tls = .ok trust)
      (given : settings.tls.certificate.isGiven = true) (keyed : settings.tls.key.isGiven = true)
      (found : demandFile files .credentialFile settings.tls.certificate = .ok certificate)
      (lost : files.find settings.tls.key = .error failure) : Unready files settings failure

/-- The key is written, unless it holds an integer with too many digits. -/
theorem authorizationOf_eq_error {v : Value} {fault : ValueFault}
    (failed : authorizationOf v = .error fault) :
    v.isGiven = true ∧ v.isWritable = false ∧ fault = .tooLongToWrite := by
  -- A key is written only where one is given.
  unfold authorizationOf Value.write at failed
  split at failed
  · rename_i given
    split at failed
    · cases failed
    · rename_i unwritable
      cases failed
      exact ⟨given, by simpa using unwritable, rfl⟩
  · cases failed

/-- It is known whom connections trust, unless the file of the authorities is missing or cannot be looked
for. -/
theorem trustOf_eq_error (failed : trustOf files tls = .error failure) :
    (∃ fault, failure = .config fault) ∨ tls.verify.isGiven = true ∧ tls.authorities.isGiven = true ∧
      files.find tls.authorities = .error failure := by
  unfold trustOf at failed
  -- Nothing is looked for unless connections are checked and a file is given.
  cases checked : tls.verify.isGiven with
  | false =>
    simp only [checked] at failed
    cases failed
  | true =>
    cases given : tls.authorities.isGiven with
    | false =>
      simp only [checked, given] at failed
      cases failed
    | true =>
      simp only [checked, given] at failed
      rcases demandFile_eq_error (Result.bind_pure_eq_error.mp failed) with reported | lost
      · exact .inl reported
      · exact .inr ⟨rfl, rfl, lost⟩

/-- It is known which certificate to use, unless something is missing or cannot be looked for. -/
theorem certificateOf_eq_error (failed : certificateOf files tls = .error failure) :
    (∃ fault, failure = .config fault) ∨ tls.certificate.isGiven = true ∧ tls.key.isGiven = true ∧
      (files.find tls.certificate = .error failure ∨
        (∃ certificate, demandFile files .credentialFile tls.certificate = .ok certificate) ∧
          files.find tls.key = .error failure) := by
  unfold certificateOf at failed
  -- Both files are looked for in turn, once there are both a certificate and a key.
  cases given : tls.certificate.isGiven with
  | false =>
    simp only [given] at failed
    cases failed
  | true =>
    cases keyed : tls.key.isGiven with
    | false =>
      simp only [given, keyed] at failed
      cases failed
      exact .inl ⟨_, rfl⟩
    | true =>
      simp only [given, keyed] at failed
      rcases Result.bind_eq_error.mp failed with failed | ⟨certificate, found, failed⟩
      · rcases demandFile_eq_error failed with reported | lost
        · exact .inl reported
        · exact .inr ⟨rfl, rfl, .inl lost⟩
      · rcases demandFile_eq_error (Result.bind_pure_eq_error.mp failed) with reported | lost
        · exact .inl reported
        · exact .inr ⟨rfl, rfl, .inr ⟨⟨certificate, found⟩, lost⟩⟩

/-- Settings of which no client is made are reported, or they are not ready to be used. -/
theorem ofSettings_eq_error (failed : ofSettings files settings = .error failure) :
    (∃ fault, failure = .config fault) ∨ Unready files settings failure := by
  -- A client is made in three steps, and the first one that fails decides.
  rcases Result.bind_eq_error.mp failed with failed | ⟨authorization, written, failed⟩
  · obtain ⟨fault, unwritten, rfl⟩ := Result.mapError_eq_error.mp failed
    obtain ⟨given, unwritable, rfl⟩ := authorizationOf_eq_error unwritten
    exact .inr (.key given unwritable)
  -- The authorization that was found is that of the key.
  have authorized : authorizationOf settings.apiKey = .ok authorization := by
    cases result : authorizationOf settings.apiKey with
    | ok found =>
      rw [result] at written
      exact congrArg _ (Except.ok.inj written)
    | error fault =>
      rw [result] at written
      cases written
  rcases Result.bind_eq_error.mp failed with failed | ⟨trust, trusted, failed⟩
  · rcases trustOf_eq_error failed with reported | ⟨checked, given, lost⟩
    · exact .inl reported
    · exact .inr (.authorities authorized checked given lost)
  · rcases certificateOf_eq_error (Result.bind_pure_eq_error.mp failed) with reported | ⟨given, keyed, lost⟩
    · exact .inl reported
    · rcases lost with lost | ⟨⟨certificate, found⟩, lost⟩
      · exact .inr (.certificate authorized trusted given keyed lost)
      · exact .inr (.certificateKey authorized trusted given keyed found lost)

/-- Settings that are not ready fail so. -/
theorem Unready.ofSettings_eq (unready : Unready files settings failure) :
    ofSettings files settings = .error failure := by
  unfold ofSettings
  -- The steps in front of the one that fails are known to succeed.
  cases unready with
  | key given unwritable =>
    refine Result.bind_eq_error.mpr (.inl ?_)
    rw [authorizationOf, if_pos given, Value.write, unwritable]
    rfl
  | authorities authorized checked given lost =>
    rw [authorized]
    refine Result.bind_eq_error.mpr (.inr ⟨_, rfl, Result.bind_eq_error.mpr (.inl ?_)⟩)
    simp only [trustOf, checked, given]
    exact Result.bind_pure_eq_error.mpr (demandFile_of_find lost)
  | certificate authorized trusted given keyed lost =>
    rw [authorized, trusted]
    refine Result.bind_eq_error.mpr (.inr ⟨_, rfl, Result.bind_eq_error.mpr (.inr ⟨_, rfl, ?_⟩)⟩)
    refine Result.bind_pure_eq_error.mpr ?_
    simp only [certificateOf, given, keyed]
    exact Result.bind_eq_error.mpr (.inl (demandFile_of_find lost))
  | certificateKey authorized trusted given keyed found lost =>
    rw [authorized, trusted]
    refine Result.bind_eq_error.mpr (.inr ⟨_, rfl, Result.bind_eq_error.mpr (.inr ⟨_, rfl, ?_⟩)⟩)
    refine Result.bind_pure_eq_error.mpr ?_
    simp only [certificateOf, given, keyed]
    refine Result.bind_eq_error.mpr (.inr ⟨_, found, ?_⟩)
    exact Result.bind_pure_eq_error.mpr (demandFile_of_find lost)

/-- Settings that are not ready fail in a way that is no failure of the cluster tooling itself. -/
theorem Unready.foreign (unready : Unready files settings failure) :
    failure.kind.isClusterFailure = false ∧ failure.kind ≠ .interrupt := by
  cases unready with
  | key => exact ValueFault.tooLongToWrite.kind_foreign
  | authorities _ _ _ lost | certificate _ _ _ _ lost | certificateKey _ _ _ _ _ lost =>
    exact Files.find_foreign lost

/-- A client is made of settings, or it is reported what is wrong with them, exactly when they are ready. -/
theorem ofSettings_contained_iff :
    ((∃ client, ofSettings files settings = .ok client) ∨
        ∃ fault, ofSettings files settings = .error (.config fault)) ↔
      ∀ failure, ¬ Unready files settings failure := by
  constructor
  -- A failure that is reported is one of the cluster tooling, which the others are not.
  · -- Whoever is not ready fails with something that is not reported.
    rintro contained failure unready
    have failed := unready.ofSettings_eq
    rcases contained with ⟨_, made⟩ | ⟨_, reported⟩
    · cases failed.symm.trans made
    · cases failed.symm.trans reported
      cases unready.foreign.1
  · intro ready
    cases result : ofSettings files settings with
    | ok client => exact .inl ⟨client, rfl⟩
    | error failure =>
      rcases ofSettings_eq_error result with ⟨fault, rfl⟩ | unready
      · exact .inr ⟨fault, rfl⟩
      · exact absurd unready (ready failure)

end Client

end KeyCluster
