import KeyCluster.Proofs.Config.Acceptance
import KeyCluster.Proofs.Text.Runs

/-! A text for endpoints falls apart into its maximal runs without a comma or a blank, and none of these is
refused. -/

namespace KeyCluster.Config

variable {entries : List (Value × Value)} {draft : Draft} {server : ServerDraft}

/-- Behind endpoints that pass their check, only the other checks report anything. -/
theorem accept_eq_error_config {fault : ConfigFault} (built : draft.server = .built server)
    (usable : checkEndpoints server.endpoints = .ok ()) (failed : accept draft = .error (.config fault)) :
    fault = .timeout ∨ fault = .keyRequired ∨ fault = .logFormat := by
  rw [accept_eq, built] at failed
  -- The first two checks are passed, and each of the others may be the one that fails.
  rcases Result.bind_eq_error.mp failed with failed | ⟨_, demanded, failed⟩
  · cases failed
  cases demanded
  rcases Result.bind_eq_error.mp failed with failed | ⟨_, _, failed⟩
  · cases usable.symm.trans failed
  rcases Result.bind_eq_error.mp failed with failed | ⟨_, _, failed⟩
  · exact .inl (Failure.config.inj (require_eq_error failed))
  rcases Result.bind_eq_error.mp failed with failed | ⟨tls, _, failed⟩
  · obtain ⟨_, _, same⟩ := demand_eq_error.mp failed
    cases same
  rcases Result.bind_eq_error.mp failed with failed | ⟨_, _, failed⟩
  · exact .inr (.inl (Failure.config.inj (require_eq_error failed)))
  rcases Result.bind_eq_error.mp failed with failed | ⟨logging, _, failed⟩
  · -- A text in the place of the log settings has no format; other values lack a member.
    unfold demandLogging at failed
    split at failed
    · cases failed
      exact .inr (.inr rfl)
    · obtain ⟨_, _, same⟩ := demand_eq_error.mp failed
      cases same
  · exact .inr (.inr (Failure.config.inj (require_eq_error (Result.bind_pure_eq_error.mp failed))))

/-- Endpoints that fail their check are reported before anything else is looked at. -/
theorem accept_of_checkEndpoints {failure : Failure} (built : draft.server = .built server)
    (failed : checkEndpoints server.endpoints = .error failure) : accept draft = .error failure := by
  rw [accept_eq, built]
  exact Result.bind_eq_error.mpr (.inr ⟨server, rfl, Result.bind_eq_error.mpr (.inl failed)⟩)

/-- The endpoints that a text names pass the check, unless there are none of them. -/
theorem checkEndpoints_splitEndpoints (text : Text) :
    checkEndpoints (.texts (splitEndpoints text)) = .ok () ∧ (∃ c ∈ text, isSeparator c = false) ∨
      checkEndpoints (.texts (splitEndpoints text)) = .error (.config .noEndpoints) ∧
        ∀ c ∈ text, isSeparator c = true := by
  by_cases named : ∃ c ∈ text, isSeparator c = false
  · -- A word passes the check, since a blank is a separator.
    have usable : checkEndpoints (endpointsOf (.text text)) = .ok () := checkEndpoints_endpointsOf.mpr named
    exact .inl ⟨usable, named⟩
  · -- Without anything between the separators there is no word.
    have none : splitEndpoints text = [] := by
      by_contra some
      exact named (Blank.words_ne_nil_iff.mp some)
    rw [none]
    refine .inr ⟨rfl, fun c inside => ?_⟩
    by_contra clear
    exact named ⟨c, inside, Bool.eq_false_iff.mpr clear⟩

/-- A server section can be put into its proper form unless a text for the time limit is no number. -/
theorem normalizeServer_cases (entries : List (Value × Value)) :
    (∃ limit, (.text "timeout", .text limit) ∈ entries ∧ Numeral.readFloat? limit = none ∧
        normalizeServer (.map entries) = .error (.timeoutText limit)) ∨
      ∃ results, normalizeServer (.map entries) = .ok (.map results) ∧
        entries.mapM normalizeEntry = .ok results := by
  cases walked : entries.mapM normalizeEntry with
  | ok results => exact .inr ⟨results, by rw [normalizeServer, walked]; rfl, rfl⟩
  | error fault =>
    -- The walk ends at an entry that fails, which only a text for the time limit does.
    obtain ⟨_, ⟨key, v⟩, _, rfl, _, failed⟩ := Result.mapM_eq_error.mp walked
    have readable : ¬ ∀ s, (key, v) = (.text "timeout", .text s) → ∃ x, Numeral.readFloat? s = some x := by
      intro readable
      obtain ⟨_, fine⟩ := exists_normalizeEntry_eq_ok readable
      cases fine.symm.trans failed
    simp only [not_forall] at readable
    obtain ⟨limit, same, unreadable⟩ := readable
    obtain ⟨rfl, rfl⟩ := Prod.mk.inj same
    have none : Numeral.readFloat? limit = none := by
      cases read : Numeral.readFloat? limit with
      | none => rfl
      | some x => exact absurd ⟨x, read⟩ unreadable
    have fails : normalizeEntry (.text "timeout", .text limit) = .error (.timeoutText limit) := by
      change (readTimeout limit).map _ = _
      rw [readTimeout, none]
      rfl
    cases fails.symm.trans failed
    exact .inl ⟨limit, by simp, none, by rw [normalizeServer, walked]; rfl⟩

/--
The endpoints that a text in a server section names.

They are the maximal runs of the text without a comma or a blank.
Where the section can be put into its proper form at all, which only a time limit that is no number prevents,
it lists just these.
A configuration with this section is never refused for an endpoint that is no usable one.
It is refused for the lack of endpoints exactly when the text holds commas and blanks only.
-/
theorem normalizeServer_splits {text : Text} (given : Value.field? "endpoints" entries = some (.text text)) :
    AreRuns isSeparator text (splitEndpoints text) ∧
      ((∃ limit, (.text "timeout", .text limit) ∈ entries ∧ Numeral.readFloat? limit = none ∧
          normalizeServer (.map entries) = .error (.timeoutText limit)) ∨
        ∃ results, normalizeServer (.map entries) = .ok (.map results) ∧
          Value.field? "endpoints" results = some (.texts (splitEndpoints text)) ∧
          ∀ draft : Draft, draft.server = .built (ServerSettings.ofEntries results) →
            (∀ shown, accept draft ≠ .error (.config (.endpoint shown))) ∧
              (accept draft = .error (.config .noEndpoints) ↔ ∀ c ∈ text, isSeparator c = true)) := by
  refine ⟨Blank.areRuns_words isSeparator text, ?_⟩
  rcases normalizeServer_cases entries with failed | ⟨results, normalized, walked⟩
  · exact .inl failed
  have listed : Value.field? "endpoints" results = some (.texts (splitEndpoints text)) := by
    rw [field?_of_normalized walked, given]
    rfl
  refine .inr ⟨results, normalized, listed, fun draft built => ?_⟩
  -- The settings take the list over as it is.
  have same : (ServerSettings.ofEntries results).endpoints = .texts (splitEndpoints text) := by
    rw [ServerSettings.ofEntries, setting, listed]
    rfl
  -- What the check of the endpoints says decides, since it comes before all others.
  rcases checkEndpoints_splitEndpoints text with ⟨usable, c, inside, clear⟩ | ⟨failed, separates⟩
  · rw [← same] at usable
    refine ⟨fun shown failed => ?_, fun failed => ?_, fun separates => ?_⟩
    · rcases accept_eq_error_config built usable failed with same | same | same <;> cases same
    · rcases accept_eq_error_config built usable failed with same | same | same <;> cases same
    · cases clear.symm.trans (separates c inside)
  · rw [← same] at failed
    have refused := accept_of_checkEndpoints built failed
    refine ⟨fun shown reported => ?_, fun _ => separates, fun _ => refused⟩
    cases refused.symm.trans reported

/-- A text with commas and several kinds of blanks around two endpoints. -/
def mixed : Text :=
  "\u2003a,\tbc ,, "

/-- A server section with this text. -/
def mixedEntries : List (Value × Value) :=
  [(.text "endpoints", .text mixed)]

/-- The two endpoints are found, and they are not refused. -/
theorem normalizeServer_splits_mixed :
    Value.field? "endpoints" mixedEntries = some (.text mixed) ∧
      splitEndpoints mixed = (["a", "bc"] : List Text) ∧
      ∃ results, normalizeServer (.map mixedEntries) = .ok (.map results) ∧
        ∀ draft : Draft, draft.server = .built (ServerSettings.ofEntries results) →
          accept draft ≠ .error (.config .noEndpoints) := by
  have given : Value.field? "endpoints" mixedEntries = some (.text mixed) := rfl
  refine ⟨given, by decide, ?_⟩
  rcases (normalizeServer_splits given).2 with ⟨limit, inside, _⟩ | ⟨results, normalized, _, passes⟩
  · -- No time limit is given.
    cases inside with
    | tail _ inside => cases inside
  · refine ⟨results, normalized, fun draft built refused => ?_⟩
    have separates := (passes draft built).2.mp refused
    exact absurd (separates (.char 'a') (by decide)) (by decide)

end KeyCluster.Config
