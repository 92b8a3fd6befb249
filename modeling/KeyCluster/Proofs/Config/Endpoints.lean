import KeyCluster.Proofs.Config.Expansion
import KeyCluster.Proofs.Config.Validity
import KeyCluster.Proofs.Text.Words

/-! Endpoints that a variable names in one text are those that a document names in a list. -/

namespace KeyCluster.Config

/-- A document without its endpoints: the entries around the server section, and those around the endpoints
in this section. -/
structure Frame where
  /-- The entries in front of the server section. -/
  front : List (Value × Value)
  /-- The entries of the server section in front of the endpoints. -/
  before : List (Value × Value)
  /-- The entries of the server section behind the endpoints. -/
  behind : List (Value × Value)
  /-- The entries behind the server section. -/
  rest : List (Value × Value)

namespace Frame

variable {environment : Environment}

/-- The entries of the document with some endpoints. -/
def entries (frame : Frame) (endpoints : Value) : List (Value × Value) :=
  frame.front ++
    (.text "server", .map (frame.before ++ (.text "endpoints", endpoints) :: frame.behind)) :: frame.rest

/-- What stands around the endpoints, with the references in it replaced. In the server section there is
room for one level less. -/
def expandWithin (environment : Environment) (room : Nat) (frame : Frame) : Except Failure Frame := do
  let front ← environment.expandEntriesWithin (room + 1) frame.front
  let before ← environment.expandEntriesWithin room frame.before
  let behind ← environment.expandEntriesWithin room frame.behind
  let rest ← environment.expandEntriesWithin (room + 1) frame.rest
  return { front, before, behind, rest }

/-- Replacing the references in a document is doing so around its endpoints, if it succeeds in these. -/
theorem expandEntriesWithin_entries {room : Nat} {endpoints expanded : Value} (frame : Frame)
    (expands : environment.expandWithin room endpoints = .ok expanded) :
    environment.expandEntriesWithin (room + 1) (frame.entries endpoints) =
      (frame.expandWithin environment room).map fun frame => frame.entries expanded := by
  simp only [entries, Environment.expandEntriesWithin_append, Environment.expandEntriesWithin,
    Environment.expandWithin, expands, expandWithin]
  -- Both sides treat the same four stretches of entries, and fail at the first one that does.
  cases environment.expandEntriesWithin (room + 1) frame.front with
  | error => rfl
  | ok =>
  cases environment.expandEntriesWithin room frame.before with
  | error => rfl
  | ok =>
  cases environment.expandEntriesWithin room frame.behind with
  | error => rfl
  | ok => cases environment.expandEntriesWithin (room + 1) frame.rest <;> rfl

/-- A text for endpoints is put into the form of the list of those that it names. -/
theorem normalize_entries (frame : Frame) (text : Text) :
    normalize (frame.entries (.text text)) = normalize (frame.entries (.texts (splitEndpoints text))) := by
  -- The text and the list have one normal form, so the sections around them have, too.
  have same : normalizeEntry (.text "endpoints", .text text) =
      normalizeEntry (.text "endpoints", .texts (splitEndpoints text)) := rfl
  have server : normalizeServer (.map (frame.before ++ (.text "endpoints", .text text) :: frame.behind)) =
      normalizeServer (.map (frame.before ++
        (.text "endpoints", .texts (splitEndpoints text)) :: frame.behind)) := by
    simp only [normalizeServer, List.mapM_append, List.mapM_cons, same]
  simp only [normalize, entries, List.mapM_append, List.mapM_cons, Value.isText, beq_self_eq_true, if_true,
    server]

/-- How many levels there is room for in the endpoints of a document, which are two levels inside. -/
def endpointRoom : Nat :=
  Environment.levelLimit - 2

/-- A document whose endpoints become a text comes to the same as one whose endpoints become the list of
those that the text names. -/
theorem ofDocument_entries {endpoints listed : Value} {text : Text} (frame : Frame)
    (named : environment.expandWithin endpointRoom endpoints = .ok (.text text))
    (given : environment.expandWithin endpointRoom listed = .ok (.texts (splitEndpoints text))) :
    ofDocument environment (.map (frame.entries endpoints)) =
      ofDocument environment (.map (frame.entries listed)) := by
  -- The entries around the endpoints are replaced alike, whatever stands in their middle.
  have around {endpoints expanded : Value} (expands : environment.expandWithin endpointRoom endpoints =
      .ok expanded) : environment.expandEntries (frame.entries endpoints) =
        (frame.expandWithin environment endpointRoom).map fun frame => frame.entries expanded :=
    frame.expandEntriesWithin_entries expands
  simp only [ofDocument, around named, around given]
  cases frame.expandWithin environment endpointRoom with
  | error => rfl
  | ok expanded =>
    simp only [Except.map, Bind.bind, Except.bind, expanded.normalize_entries text]

end Frame

/--
A file that takes its endpoints from a variable, and one that lists them.

The variable holds the endpoints with commas and blanks between them, and perhaps around them. None of the
endpoints holds the beginning of a reference. Whatever else the two files hold, as long as it is the same,
they come to the same configuration, or fail in the same way.
-/
theorem load_listed {files others : Files} (environment : Environment) {path other : Value}
    {name otherName variableName : Text} {content listing : List UInt8} (frame : Frame)
    (endpoints : Spacing isSeparator) (isName : Reference.IsName variableName)
    (set : environment variableName = some endpoints.text)
    (plain : ∀ endpoint ∈ endpoints.words, ¬ Reference.opening <:+: endpoint)
    (named : path.toPath = .ok name) (found : files.find path = .ok (.file content))
    (read : readDocument (Path.ofText name).text content =
      .ok (.map (frame.entries (.text (Reference.written variableName)))))
    (otherNamed : other.toPath = .ok otherName) (otherFound : others.find other = .ok (.file listing))
    (otherRead : readDocument (Path.ofText otherName).text listing =
      .ok (.map (frame.entries (.texts endpoints.words)))) :
    load files environment path = load others environment other := by
  rw [load_of_document named found read, load_of_document otherNamed otherFound otherRead]
  -- What the variable holds falls apart into the endpoints, which expansion leaves alone.
  refine frame.ofDocument_entries (Environment.expandWithin_written isName set) ?_
  rw [splitEndpoints, endpoints.words_text]
  exact Environment.expandWithin_texts_of_plain plain

/-- Two endpoints, with separators around them. -/
def scattered : Spacing isSeparator where
  front := ", "
  parts := [⟨"a", " ,", by decide, by decide, by decide⟩, ⟨"c", "", by decide, by decide, by decide⟩]
  clear := by decide
  apart := by decide

/-- The environment in which a variable holds them. -/
def scatteredEnvironment : Environment :=
  .ofList [("KMS", scattered.text)]

/-- A document that takes its endpoints from this variable. -/
def referringContent : List UInt8 :=
  "\x7b\"server\":\x7b\"endpoints\":\"$\x7bKMS\x7d\"\x7d\x7d".toUTF8.toList

/-- The same document with the endpoints in a list. -/
def listingContent : List UInt8 :=
  "\x7b\"server\":\x7b\"endpoints\":[\"a\",\"c\"]\x7d\x7d".toUTF8.toList

/-- Nothing else stands in either of them. -/
def emptyFrame : Frame where
  front := []
  before := []
  behind := []
  rest := []

/-- Both documents name the two endpoints. -/
theorem load_listed_scattered :
    load (onlyFile referringContent) scatteredEnvironment (.text "kms.yaml") =
        load (onlyFile listingContent) scatteredEnvironment (.text "kms.yaml") ∧
      scattered.words = (["a", "c"] : List Text) := by
  -- Both files are read, and then the general statement applies to what was read.
  have read : readDocument (Path.ofText "kms.yaml").text referringContent =
      .ok (.map (emptyFrame.entries (.text (Reference.written "KMS")))) :=
    Value.eq_ok_of_isSurely (by decide +kernel)
  have listed : readDocument (Path.ofText "kms.yaml").text listingContent =
      .ok (.map (emptyFrame.entries (.texts scattered.words))) := Value.eq_ok_of_isSurely (by decide +kernel)
  have isName : Reference.IsName "KMS" := ⟨.char 'K', "MS", rfl, by decide, by decide⟩
  exact ⟨load_listed scatteredEnvironment emptyFrame scattered isName rfl (by decide) rfl rfl read rfl rfl
    listed, rfl⟩

end KeyCluster.Config
