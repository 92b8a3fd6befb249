import KeyCluster.Proofs.Config.Replacement
import KeyCluster.Proofs.Config.Sections
import KeyCluster.Proofs.Yaml.Keys

/-! Exactly which documents are accepted, and what configuration comes of them. -/

namespace KeyCluster.Config

variable {name : Text} {entries server tls logging : List (Value × Value)} {config : Config}

/-- A value of the server section as a configuration holds it. -/
def properOf (name : Text) (v : Value) : Value :=
  if name = "endpoints" then endpointsOf v else if name = "timeout" then timeoutOf v else v

/-- What is no text is held as it is. -/
theorem properOf_of_wordless {v : Value} (wordless : ∀ s, v ≠ .text s) : properOf name v = v := by
  -- Neither of the two readings changes what is not a text, so it makes no difference which name there is.
  have listed : endpointsOf v = v := by
    cases v with
    | text s => exact absurd rfl (wordless s)
    | _ => rfl
  have timed : timeoutOf v = v := by
    cases v with
    | text s => exact absurd rfl (wordless s)
    | _ => rfl
  rw [properOf, listed, timed, ite_self, ite_self]

/-- A text is read as a time limit when it is a number. -/
theorem readTimeout_eq_ok {s : Text} {v : Value} :
    readTimeout s = .ok v ↔ ∃ x, Numeral.readFloat? s = some x ∧ v = .float x := by
  unfold readTimeout
  cases Numeral.readFloat? s <;> simp [eq_comm]

/-- An entry of the server section keeps its key and gets the value that a configuration holds. -/
theorem normalizeEntry_eq_ok {entry result : Value × Value}
    (normalized : normalizeEntry entry = .ok result) :
    result.1 = entry.1 ∧ ∀ name, entry.1 = .text name → result.2 = properOf name entry.2 := by
  unfold normalizeEntry at normalized
  split at normalized
  · rename_i key s
    -- Only texts under two names are changed.
    split at normalized
    · rename_i isEndpoints
      cases normalized
      refine ⟨rfl, fun name same => ?_⟩
      obtain rfl : "endpoints" = name := Value.text.inj ((Value.isText_iff.mp isEndpoints).symm.trans same)
      rfl
    · rename_i notEndpoints
      split at normalized
      · rename_i isTimeout
        obtain ⟨_, read, rfl⟩ := Result.map_eq_ok.mp normalized
        obtain ⟨x, same, rfl⟩ := readTimeout_eq_ok.mp read
        refine ⟨rfl, fun name isName => ?_⟩
        obtain rfl : "timeout" = name := Value.text.inj ((Value.isText_iff.mp isTimeout).symm.trans isName)
        have other : (Text.ofString "timeout") ≠ Text.ofString "endpoints" := by decide
        rw [properOf, if_neg other, if_pos rfl, timeoutOf, same]
        rfl
      · rename_i notTimeout
        cases normalized
        refine ⟨rfl, fun name same => ?_⟩
        have first : name ≠ "endpoints" := by
          rintro rfl
          exact notEndpoints (Value.isText_iff.mpr same)
        have second : name ≠ "timeout" := by
          rintro rfl
          exact notTimeout (Value.isText_iff.mpr same)
        rw [properOf, if_neg first, if_neg second]
  · rename_i wordless
    cases normalized
    exact ⟨rfl, fun name _ => (properOf_of_wordless fun s same => wordless _ s (Prod.ext rfl same)).symm⟩

/-- It can be put into this form unless it is a time limit that is no number. -/
theorem exists_normalizeEntry_eq_ok {entry : Value × Value}
    (readable : ∀ s, entry = (.text "timeout", .text s) → ∃ x, Numeral.readFloat? s = some x) :
    ∃ result, normalizeEntry entry = .ok result := by
  unfold normalizeEntry
  -- Only the text of a time limit can fail to be read.
  split
  · rename_i key s
    split
    · exact ⟨_, rfl⟩
    · split
      · rename_i isTimeout
        obtain ⟨x, read⟩ := readable s (by rw [Value.isText_iff.mp isTimeout])
        exact ⟨_, Result.map_eq_ok.mpr ⟨_, readTimeout_eq_ok.mpr ⟨x, read, rfl⟩, rfl⟩⟩
      · exact ⟨_, rfl⟩
  · exact ⟨_, rfl⟩

/-- The values of a server section are those that a configuration holds. -/
theorem field?_of_normalized {normalized : List (Value × Value)}
    (walked : server.mapM normalizeEntry = .ok normalized) (name : Text) :
    Value.field? name normalized = (Value.field? name server).map (properOf name) :=
  Value.field?_map ((forall₂_of_mapM_ok walked).imp fun _ _ here => normalizeEntry_eq_ok here) name

/-- So are its settings, where what is meant if nothing is given is held as it is. -/
theorem setting_of_normalized {normalized : List (Value × Value)} {default : Value}
    (walked : server.mapM normalizeEntry = .ok normalized) (name : Text)
    (kept : properOf name default = default) :
    setting name default normalized = properOf name (setting name default server) := by
  rw [setting, setting, field?_of_normalized walked name]
  cases Value.field? name server with
  | none => exact kept.symm
  | some v => rfl

/-- The server section of a configuration is described by its entries in their proper form. -/
theorem ofSections_of_normalized {normalized : List (Value × Value)}
    (walked : server.mapM normalizeEntry = .ok normalized) :
    ofSections server tls logging =
      { server := { ServerSettings.ofEntries normalized with tls := TlsSettings.ofEntries tls }
        logging := LogSettings.ofEntries logging } := by
  simp only [ofSections, ServerSettings.ofEntries]
  rw [setting_of_normalized walked "endpoints" rfl, setting_of_normalized walked "timeout" rfl,
    setting_of_normalized walked "api_key" rfl]
  rfl

/-- The section about the security of connections stays as it is. -/
theorem isSection_of_normalized {normalized : List (Value × Value)}
    (walked : server.mapM normalizeEntry = .ok normalized) :
    IsSection "tls" normalized tls ↔ IsSection "tls" server tls := by
  have kept : properOf "tls" = id := by
    funext v
    rfl
  rw [IsSection, IsSection, field?_of_normalized walked "tls", kept, Option.map_id_fun, id]

section Normalized

variable {expanded normalized : List (Value × Value)}

/-- A value stands where another one stood under a name in the document, in its proper form. -/
def IsProper (key given proper : Value) : Prop :=
  (key = .text "server" → normalizeServer given = .ok proper) ∧ (key ≠ .text "server" → proper = given)

/-- The entries of a document are put into their proper form one by one. -/
theorem forall₂_of_normalize (walked : normalize expanded = .ok normalized) :
    List.Forall₂ (fun entry result => result.1 = entry.1 ∧ IsProper entry.1 entry.2 result.2)
      expanded normalized := by
  -- What is done to an entry depends on its name alone, so the entries correspond one by one.
  refine (forall₂_of_mapM_ok walked).imp fun entry result here => ?_
  dsimp only at here
  split at here
  · rename_i isServer
    obtain ⟨proper, same, rfl⟩ := Result.map_eq_ok.mp here
    exact ⟨rfl, fun _ => same, fun other => absurd (Value.isText_iff.mp isServer) other⟩
  · rename_i other
    cases here
    exact ⟨rfl, fun isServer => absurd (Value.isText_iff.mpr isServer) other, fun _ => rfl⟩

/-- A server section in its proper form is a mapping when it was one before. -/
theorem normalizeServer_eq_map {v : Value} :
    normalizeServer v = .ok (.map normalized) ↔
      ∃ server, v = .map server ∧ server.mapM normalizeEntry = .ok normalized := by
  cases v <;> simp [normalizeServer, Result.map_eq_ok]

/-- The server section of a document in its proper form comes from one of the document. -/
theorem server_of_normalize (walked : normalize expanded = .ok normalized) {proper : List (Value × Value)}
    (found : Value.field? "server" normalized = some (.map proper)) :
    ∃ server, Value.field? "server" expanded = some (.map server) ∧
      server.mapM normalizeEntry = .ok proper := by
  -- The names stay, so what is found under this one afterwards stems from what was found before.
  have related := Value.field?_rel (forall₂_of_normalize walked) "server"
  rw [found] at related
  generalize Value.field? "server" expanded = given at related ⊢
  cases related with
  | some here =>
    obtain ⟨server, rfl, walked⟩ := normalizeServer_eq_map.mp (here.1 rfl)
    exact ⟨server, rfl, walked⟩

/-- The section about the log stays as it is. -/
theorem logging_of_normalize (walked : normalize expanded = .ok normalized) :
    Value.field? "logging" normalized = Value.field? "logging" expanded := by
  have related := Value.field?_rel (forall₂_of_normalize walked) "logging"
  generalize Value.field? "logging" expanded = given at related ⊢
  generalize Value.field? "logging" normalized = proper at related ⊢
  cases related with
  | none => rfl
  | some here => rw [here.2 fun same => absurd (Value.text.inj same) (by decide)]

/-- Entries can be put into their proper form when their server section can. -/
theorem exists_normalize_eq_ok (differ : Value.NamesDiffer expanded)
    (found : Value.field? "server" expanded = some (.map server)) {proper : List (Value × Value)}
    (walked : server.mapM normalizeEntry = .ok proper) :
    ∃ normalized, normalize expanded = .ok normalized ∧
      Value.field? "server" normalized = some (.map proper) := by
  -- The section about the servers has a normal form by assumption. The other entries never fail.
  have here : normalizeServer (.map server) = .ok (.map proper) :=
    normalizeServer_eq_map.mpr ⟨server, rfl, walked⟩
  obtain ⟨normalized, walked⟩ : ∃ normalized, normalize expanded = .ok normalized := by
    refine Result.exists_mapM_eq_ok.mpr fun entry inside => ?_
    obtain ⟨key, v⟩ := entry
    dsimp only
    split
    · -- What stands under this name is the server section, since no other entry has the name.
      rename_i isServer
      obtain rfl := Value.isText_iff.mp isServer
      have same := (Value.field?_of_mem differ inside).symm.trans found
      obtain rfl := Option.some.inj same
      exact ⟨_, Result.map_eq_ok.mpr ⟨_, here, rfl⟩⟩
    · exact ⟨_, rfl⟩
  refine ⟨normalized, walked, ?_⟩
  -- The entry found before corresponds to the one found now, and both are that section.
  have related := Value.field?_rel (forall₂_of_normalize walked) "server"
  rw [found] at related
  generalize Value.field? "server" normalized = result at related ⊢
  cases related with
  | some there =>
    cases here.symm.trans (there.1 rfl)
    rfl

/-- A server section that is acceptable can be put into its proper form. -/
theorem exists_mapM_normalizeEntry (differ : Value.NamesDiffer server)
    (acceptable : AreAcceptable server tls logging) :
    ∃ proper, server.mapM normalizeEntry = .ok proper := by
  refine Result.exists_mapM_eq_ok.mpr fun entry inside => exists_normalizeEntry_eq_ok fun s same => ?_
  rw [same] at inside
  obtain ⟨x, read, _⟩ := acceptable.timeout _ (Value.field?_of_mem differ inside)
  exact ⟨x, read⟩

/-- Entries in their proper form are accepted when they come from sections that hold what they should. -/
theorem accept_of_normalize (walked : normalize expanded = .ok normalized)
    (accepted : accept (Settings.ofEntries normalized) = .ok config) :
    ∃ server tls logging, AreSections expanded server tls logging ∧ AreAcceptable server tls logging ∧
      config = ofSections server tls logging := by
  obtain ⟨proper, tls, logging, isServer, isTls, isLogging, same, valid⟩ := accept_ofEntries.mp accepted
  -- Where the section about the servers comes from a mapping, so do the entries that made its settings.
  rcases isServer with found | ⟨_, rfl⟩
  · obtain ⟨server, given, walkedServer⟩ := server_of_normalize walked found
    rw [← ofSections_of_normalized walkedServer] at same
    subst same
    rw [IsSection, logging_of_normalize walked] at isLogging
    exact ⟨server, tls, logging, ⟨given, (isSection_of_normalized walkedServer).mp isTls, isLogging⟩,
      isValid_ofSections.mp valid, rfl⟩
  · -- Without a section about the servers there are no endpoints.
    subst same
    cases valid.endpoints

/-- Sections that hold what they should are accepted. -/
theorem exists_accept_of_sections (differ : Value.NamesDiffer expanded) (differServer : Value.NamesDiffer server)
    (sections : AreSections expanded server tls logging) (acceptable : AreAcceptable server tls logging) :
    ∃ normalized, normalize expanded = .ok normalized ∧
      accept (Settings.ofEntries normalized) = .ok (ofSections server tls logging) := by
  -- Sections are looked up by name, so each of the names must stand once only.
  obtain ⟨proper, walkedServer⟩ := exists_mapM_normalizeEntry differServer acceptable
  obtain ⟨normalized, walked, found⟩ := exists_normalize_eq_ok differ sections.servers walkedServer
  refine ⟨normalized, walked, accept_ofEntries.mpr ⟨proper, tls, logging, .inl found,
    (isSection_of_normalized walkedServer).mpr sections.security, ?_, ofSections_of_normalized walkedServer,
    isValid_ofSections.mpr acceptable⟩⟩
  rw [IsSection, logging_of_normalize walked]
  exact sections.log

end Normalized

section Document

variable {environment : Environment} {expanded : List (Value × Value)}

variable {room : Nat}

/-- Replacing references keeps the keys. -/
theorem forall₂_of_expandEntriesWithin (walked : environment.expandEntriesWithin room entries = .ok expanded) :
    List.Forall₂
      (fun entry result => result.1 = entry.1 ∧ environment.expandWithin room entry.2 = .ok result.2)
      entries expanded := by
  rw [Environment.expandEntriesWithin_eq_mapM] at walked
  refine (forall₂_of_mapM_ok walked).imp fun entry result here => ?_
  obtain ⟨v, same, paired⟩ := Result.bind_eq_ok.mp here
  cases paired
  exact ⟨rfl, same⟩

/-- What is a mapping after replacing references was one before. -/
theorem expandWithin_eq_map {v : Value} (walked : environment.expandWithin room v = .ok (.map expanded)) :
    ∃ below inner, v = .map inner ∧ environment.expandEntriesWithin below inner = .ok expanded := by
  obtain ⟨_, replaces⟩ := Environment.expandWithin_eq_ok.mp walked
  cases replaces with
  | map inside => exact ⟨_, _, rfl, Environment.expandEntriesWithin_eq_ok.mpr ⟨le_rfl, inside⟩⟩
  | leaf isLeaf => cases isLeaf

/-- Where names differ, they still do after replacing references. -/
theorem namesDiffer_of_expandEntriesWithin (differ : Value.NamesDiffer entries)
    (walked : environment.expandEntriesWithin room entries = .ok expanded) : Value.NamesDiffer expanded :=
  Value.namesDiffer_of_forall₂ (forall₂_of_expandEntriesWithin walked) (fun _ _ here => here.1) differ

/-- A document is accepted when its references can be replaced, and the sections that it has then hold what
they should. -/
theorem ofDocument_eq_ok (environment : Environment) (config : Config) (differ : Value.NamesDiffer entries)
    (inner : ∀ key inner, (key, .map inner) ∈ entries → Value.NamesDiffer inner) :
    ofDocument environment (.map entries) = .ok config ↔
      ∃ expanded server tls logging, environment.expandEntries entries = .ok expanded ∧
        AreSections expanded server tls logging ∧ AreAcceptable server tls logging ∧
        config = ofSections server tls logging := by
  rw [ofDocument_map]
  constructor
  · -- Replacing references, normalizing and accepting each have to succeed. They are taken one by one.
    intro accepted
    obtain ⟨draft, described, accepted⟩ := Result.bind_eq_ok.mp accepted
    obtain ⟨expanded, walked, described⟩ := Result.bind_eq_ok.mp described
    obtain ⟨normalized, proper, same⟩ := Result.bind_eq_ok.mp described
    cases same
    obtain ⟨server, tls, logging, sections, acceptable, same⟩ :=
      accept_of_normalize (Result.mapError_eq_ok.mp proper) accepted
    exact ⟨expanded, server, tls, logging, walked, sections, acceptable, same⟩
  · rintro ⟨expanded, server, tls, logging, walked, sections, acceptable, rfl⟩
    -- The names in the server section differ, since they did so before references were replaced.
    have differServer : Value.NamesDiffer server := by
      obtain ⟨entry, inside, same, expands⟩ := exists_left_of_mem (forall₂_of_expandEntriesWithin walked)
        (Value.mem_of_field? sections.servers)
      obtain ⟨_, before, isMap, walkedServer⟩ := expandWithin_eq_map expands
      refine namesDiffer_of_expandEntriesWithin (inner entry.1 before ?_) walkedServer
      rwa [← isMap]
    obtain ⟨normalized, proper, accepted⟩ := exists_accept_of_sections
      (namesDiffer_of_expandEntriesWithin differ walked) differServer sections acceptable
    refine Result.bind_eq_ok.mpr ⟨Settings.ofEntries normalized, ?_, accepted⟩
    refine Result.bind_eq_ok.mpr ⟨expanded, walked, ?_⟩
    exact Result.bind_eq_ok.mpr ⟨normalized, Result.mapError_eq_ok.mpr proper, rfl⟩

/-- Names in a mapping that is read from a file differ, and so do those in the mappings in it. -/
theorem namesDiffer_of_readDocument {path : Text} {content : List UInt8}
    (parsed : readDocument path content = .ok (.map entries)) :
    Value.NamesDiffer entries ∧ ∀ key inner, (key, .map inner) ∈ entries → Value.NamesDiffer inner := by
  unfold readDocument at parsed
  split at parsed
  · cases parsed
  · split at parsed
    · rename_i document read
      cases parsed
      exact Yaml.namesDiffer_of_read read
    all_goals cases parsed

end Document

end KeyCluster.Config
