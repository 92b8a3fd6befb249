import KeyCluster.Proofs.Config.Endpoints
import KeyCluster.Proofs.Config.Replacement

/-! What a configuration takes from the environment: the variables to which its document refers. -/

namespace KeyCluster

namespace Environment

variable {environment other : Environment}

/-- Where two environments agree about its variable, a reference stands for the same. -/
theorem resolve_congr {r : Reference} (agree : environment r.name = other r.name) :
    environment.resolve r = other.resolve r := by
  rw [resolve, resolve, agree]

/-- So do pieces, where they agree about every reference among them. -/
theorem expandPieces_congr {pieces : List Piece}
    (agree : ∀ r, .reference r ∈ pieces → environment r.name = other r.name) :
    environment.expandPieces pieces = other.expandPieces pieces := by
  -- Piece by piece, since a piece looks up one name at most.
  induction pieces with
  | nil => rfl
  | cons piece rest ih =>
    have behind := ih fun r inside => agree r (List.mem_cons_of_mem _ inside)
    have here : environment.expandPiece piece = other.expandPiece piece := by
      cases piece with
      | point c => rfl
      | reference r => exact resolve_congr (agree r List.mem_cons_self)
    rw [expandPieces, expandPieces, here, behind]

/-- So does a text. -/
theorem expandText_congr {text : Text}
    (agree : ∀ r ∈ Value.textReferences text, environment r.name = other r.name) :
    environment.expandText text = other.expandText text :=
  expandPieces_congr fun r inside => agree r (Value.mem_textReferences.mpr inside)

mutual

/-- A value is expanded alike, where the environments agree about every reference in it. -/
theorem expandWithin_congr {room : Nat} {v : Value}
    (agree : ∀ r ∈ v.references, environment r.name = other r.name) :
    environment.expandWithin room v = other.expandWithin room v := by
  cases v with
  | text s => rw [expandWithin, expandWithin, expandText_congr agree]
  | list items =>
    cases room with
    | zero => rw [expandWithin, expandWithin]
    | succ room => rw [expandWithin, expandWithin, expandItemsWithin_congr agree]
  | map entries =>
    cases room with
    | zero => rw [expandWithin, expandWithin]
    | succ room => rw [expandWithin, expandWithin, expandEntriesWithin_congr agree]
  -- Nothing is looked up anywhere else.
  | again kind => cases kind <;> simp [expandWithin]
  | _ => simp [expandWithin]

/-- So are items. -/
theorem expandItemsWithin_congr {room : Nat} {items : List Value}
    (agree : ∀ r ∈ Value.itemReferences items, environment r.name = other r.name) :
    environment.expandItemsWithin room items = other.expandItemsWithin room items := by
  match items with
  -- The references of a list are those of its items.
  | [] => rfl
  | item :: rest =>
    rw [Value.itemReferences, List.forall_mem_append] at agree
    rw [expandItemsWithin, expandItemsWithin, expandWithin_congr agree.1,
      expandItemsWithin_congr agree.2]

/-- So are entries. -/
theorem expandEntriesWithin_congr {room : Nat} {entries : List (Value × Value)}
    (agree : ∀ r ∈ Value.entryReferences entries, environment r.name = other r.name) :
    environment.expandEntriesWithin room entries = other.expandEntriesWithin room entries := by
  match entries with
  | [] => rfl
  | (key, value) :: rest =>
    rw [Value.entryReferences, List.forall_mem_append] at agree
    rw [expandEntriesWithin, expandEntriesWithin, expandWithin_congr agree.1,
      expandEntriesWithin_congr agree.2]

end

/-- A variable is looked up among the first ones, and then among the others. -/
theorem ofList_append (front rest : List (Text × Text)) (name : Text) :
    ofList (front ++ rest) name = (ofList front name).or (ofList rest name) :=
  List.lookup_append

/-- What resolves in an environment also does in one where no variable is missing that is set here. -/
theorem Resolves.mono {r : Reference} (resolves : environment.Resolves r)
    (set : ∀ name, (environment name).isSome = true → (other name).isSome = true) : other.Resolves r :=
  resolves.imp_left (set r.name)

/-- What can be expanded in an environment also can be in such a one. -/
theorem exists_expand_mono {v : Value} (expands : ∃ expanded, environment.expand v = .ok expanded)
    (set : ∀ name, (environment name).isSome = true → (other name).isSome = true) :
    ∃ expanded, other.expand v = .ok expanded := by
  obtain ⟨ends, fits, resolves⟩ := (exists_expandWithin_eq_ok levelLimit v).mp expands
  exact (exists_expandWithin_eq_ok levelLimit v).mpr
    ⟨ends, fits, fun r inside => (resolves r inside).mono set⟩

end Environment

namespace Config

/--
What a configuration takes from the environment, for a file in which there is a mapping.

Variables to which none of the texts in the mapping refers do not matter, and neither does what the other ones
hold, if they hold the same in both environments: the same configuration is read, or reading fails with the
same failure. A text in which a reference is replaced refers to nothing new by that.

Whether references can be replaced at all depends on nothing but which variables are set, and setting more of
them, or setting them to something else, is never in the way.
-/
theorem load_depends (files : Files) (path : Value) {name : Text} {content : List UInt8}
    {entries : List (Value × Value)} (named : path.toPath = .ok name)
    (found : files.find path = .ok (.file content))
    (read : readDocument (Path.ofText name).text content = .ok (.map entries))
    (environment other : Environment) :
    ((∀ r, (Value.map entries).Refers r → environment r.name = other r.name) →
        load files environment path = load files other path) ∧
      ((∃ expanded, environment.expand (.map entries) = .ok expanded) →
        (∀ name, (environment name).isSome = true → (other name).isSome = true) →
          ∃ expanded, other.expand (.map entries) = .ok expanded) := by
  refine ⟨fun agree => ?_, Environment.exists_expand_mono⟩
  rw [load_of_document named found read, load_of_document named found read, ofDocument, ofDocument]
  -- Only replacing the references looks at the environment.
  have same : environment.expandEntries entries = other.expandEntries entries :=
    Environment.expandEntriesWithin_congr fun r inside => agree r ((Value.mem_references (.map entries)).mp inside)
  rw [same]

/-- A document that takes its endpoints from a variable. The fallback looks like the beginning of another
reference, but is none. -/
def fallbackContent : List UInt8 :=
  "\x7b\"server\":\x7b\"endpoints\":\"$\x7bKMS:-$\x7bHOST\x7d\"\x7d\x7d".toUTF8.toList

/-- Its entries. -/
def fallbackEntries : List (Value × Value) :=
  [(.text "server", .map [(.text "endpoints", .text "$\x7bKMS:-$\x7bHOST\x7d")])]

/-- The variable that seems to be named in the fallback may be set without changing anything. -/
theorem load_depends_fallback :
    load (onlyFile fallbackContent) (.ofList [("KMS", "a")]) (.text "kms.yaml") =
        load (onlyFile fallbackContent) (.ofList [("KMS", "a"), ("HOST", "c")]) (.text "kms.yaml") ∧
      ∃ expanded, (Environment.ofList [("KMS", "a"), ("HOST", "c")]).expand (.map fallbackEntries) =
        .ok expanded := by
  have read : readDocument (Path.ofText "kms.yaml").text fallbackContent = .ok (.map fallbackEntries) :=
    Value.eq_ok_of_isSurely (by decide +kernel)
  have only : (Value.map fallbackEntries).references = [{ name := "KMS", fallback := some "$\x7bHOST" }] := by
    decide +kernel
  obtain ⟨same, expands⟩ := load_depends (onlyFile fallbackContent) (.text "kms.yaml") rfl rfl read
    (.ofList [("KMS", "a")]) (.ofList [("KMS", "a"), ("HOST", "c")])
  refine ⟨same fun r refers => ?_, expands ?_ ?_⟩
  · -- The two environments hold the same under the only name that counts.
    have inside := (Value.mem_references _).mpr refers
    rw [only, List.mem_singleton] at inside
    rw [inside]
    rfl
  · refine (Environment.exists_expandWithin_eq_ok _ _).mpr ⟨rfl, by decide, fun r inside => ?_⟩
    rw [only, List.mem_singleton] at inside
    rw [inside]
    exact .inl rfl
  · intro name set
    -- What is found among fewer variables is found among more.
    have more := Environment.ofList_append [("KMS", "a")] [("HOST", "c")] name
    rw [List.singleton_append] at more
    rw [more, Option.isSome_or, set, Bool.true_or]

end Config

end KeyCluster
