import KeyCluster.Proofs.Failure.Result
import KeyCluster.Proofs.Value.Fields
import KeyCluster.Yaml.Document

/-! Mappings that are read off a document have no text as the key of two entries. -/

namespace KeyCluster.Yaml

/-- A part is no mapping by itself; the mapping of a node is another thing. -/
def Part.IsFlat : Part → Prop
  | .value v => ∀ entries, v ≠ .map entries
  | .node _ => True

namespace Holding

/-- The keys of a mapping differ. -/
def KeysDiffer (entries : List (Key × Part)) : Prop :=
  (entries.map Prod.fst).Pairwise fun a b => a.isSame b = false

/-- If a mapping is held, then its keys differ, and no entry holds a mapping by itself. -/
def IsRegular : Holding → Prop
  | .map entries => KeysDiffer entries ∧ ∀ entry ∈ entries, entry.2.IsFlat
  | _ => True

variable {key other : Key} {part : Part} {entries : List (Key × Part)}

/-- Putting a value under a key adds no other key. -/
theorem mem_keys_put (inside : other ∈ (put key part entries).map Prod.fst) :
    other ∈ entries.map Prod.fst ∨ other = key := by
  induction entries with
  | nil => simpa [put] using inside
  | cons entry rest ih =>
    -- An entry is replaced under its key, or the new one goes behind all others.
    rw [put] at inside
    split at inside
    · exact .inl inside
    · rw [List.map_cons, List.mem_cons] at inside ⊢
      rcases inside with same | behind
      · exact .inl (.inl same)
      · exact (ih behind).imp_left .inr

/-- Keys that differ still do when a value is put under one. -/
theorem keysDiffer_put (differ : KeysDiffer entries) : KeysDiffer (put key part entries) := by
  induction entries with
  | nil => exact List.pairwise_singleton _ _
  | cons entry rest ih =>
    obtain ⟨others, behind⟩ := List.pairwise_cons.mp differ
    -- Where no key is the same, the new entry comes last and its key is new.
    rw [put]
    split
    · exact differ
    · rename_i other
      refine List.pairwise_cons.mpr ⟨fun later inside => ?_, ih behind⟩
      rcases mem_keys_put inside with inside | rfl
      · exact others later inside
      · simpa using other

/-- No entry holds a mapping by itself after another value is put there. -/
theorem isFlat_put (flat : ∀ entry ∈ entries, entry.2.IsFlat) (here : part.IsFlat) :
    ∀ entry ∈ put key part entries, entry.2.IsFlat := by
  induction entries with
  | nil => simpa [put] using here
  | cons entry rest ih =>
    obtain ⟨first, behind⟩ := List.forall_mem_cons.mp flat
    -- Whether an entry is replaced or added, its part is flat.
    rw [put]
    split
    · exact List.forall_mem_cons.mpr ⟨here, behind⟩
    · exact List.forall_mem_cons.mpr ⟨first, ih behind⟩

end Holding

/-- What a text stands for is no mapping. -/
theorem Scalar.build_ne_map {tag : Tag} {text : Text} {value : Value}
    (built : build tag text = .ok value) (entries : List (Value × Value)) : value ≠ .map entries := by
  rintro rfl
  -- Each tag that texts can have makes values of one shape.
  cases tag with
  | bool =>
    have read := Result.mapError_eq_ok.mp built
    unfold truth at read
    dsimp only at read
    split at read <;> cases read
  | int =>
    obtain ⟨_, _, rest⟩ := Result.bind_eq_ok.mp (Result.mapError_eq_ok.mp built)
    obtain ⟨_, _, read⟩ := Result.bind_eq_ok.mp rest
    cases read
  | float =>
    obtain ⟨_, _, rest⟩ := Result.bind_eq_ok.mp (Result.mapError_eq_ok.mp built)
    obtain ⟨_, _, read⟩ := Result.bind_eq_ok.mp rest
    cases read
  | binary =>
    change binary text = _ at built
    unfold binary at built
    split at built
    · cases built
    · split at built <;> cases built
  | timestamp =>
    have read := Result.mapError_eq_ok.mp built
    unfold moment at read
    split at read
    · cases read
    · split at read
      · rename_i stamped
        cases read
        unfold Timestamp.toValue at stamped
        split at stamped
        · obtain ⟨_, _, same⟩ := Result.map_eq_ok.mp stamped
          cases same
        · obtain ⟨_, _, same⟩ := Result.map_eq_ok.mp stamped
          cases same
      · cases read
  | _ => cases built

namespace Builder

variable {α β : Type}

/-- Whenever building succeeds, what is built is good, and nothing was filled. -/
def Gives (build : Builder α) (good : α → Prop) : Prop :=
  ∀ before a after, build.run before = .ok (a, after) → good a ∧ after.filled = before.filled

namespace Gives

variable {good : α → Prop} {fine : β → Prop} {build : Builder α} {next : α → Builder β}

/-- Returning something good builds it. -/
theorem pure {a : α} (holds : good a) : Gives (Pure.pure a) good := by
  intro before b after ran
  cases ran
  exact ⟨holds, rfl⟩

/-- Failing builds nothing. -/
theorem throw (fault : Fault) : Gives (MonadExcept.throw fault) good :=
  fun _ _ _ ran => nomatch ran

/-- Looking at the state fills nothing. -/
theorem get : Gives MonadState.get fun _ => True := by
  intro before b after ran
  cases ran
  exact ⟨trivial, rfl⟩

/-- What is worked out apart from the state is built as it is. -/
theorem lift {result : Except Fault α} (holds : ∀ a, result = .ok a → good a) :
    Gives (liftM result) good := by
  intro before b after ran
  -- What fails gives nothing, and what succeeds leaves the state alone.
  cases result with
  | error => cases ran
  | ok a =>
    cases ran
    exact ⟨holds _ rfl, rfl⟩

/-- Two steps fill nothing when neither of them does. -/
theorem bind (first : Gives build good) (goesOn : ∀ a, good a → Gives (next a) fine) :
    Gives (build >>= next) fine := by
  -- The second step begins in the state that the first one leaves.
  intro before b after ran
  rw [StateT.run_bind] at ran
  obtain ⟨⟨a, middle⟩, ranFirst, ranNext⟩ := Result.bind_eq_ok.mp ran
  obtain ⟨holds, same⟩ := first _ _ _ ranFirst
  obtain ⟨done, rest⟩ := goesOn a holds _ _ _ ranNext
  exact ⟨done, rest.trans same⟩

/-- Of what is built, less may be said. -/
theorem mono {other : α → Prop} (gives : Gives build good) (weaker : ∀ a, good a → other a) :
    Gives build other := by
  intro before a after ran
  obtain ⟨holds, same⟩ := gives _ _ _ ran
  exact ⟨weaker a holds, same⟩

/-- Building something for each item fills nothing when no step does. -/
theorem mapM {step : α → Builder β} (each : ∀ a, Gives (step a) fun _ => True) (items : List α) :
    Gives (items.mapM step) fun _ => True := by
  induction items with
  | nil => exact .pure trivial
  | cons item rest ih =>
    rw [List.mapM_cons]
    exact (each item).bind fun _ _ => ih.bind fun _ _ => .pure trivial

/-- What is built item by item is good when every step keeps it so. -/
theorem foldlM {step : β → α → Builder β} (each : ∀ b, fine b → ∀ a, Gives (step b a) fine)
    (items : List α) {start : β} (begins : fine start) : Gives (items.foldlM step start) fine := by
  induction items generalizing start with
  | nil => exact .pure begins
  | cons item rest ih =>
    rw [List.foldlM_cons]
    exact (each start begins item).bind fun _ holds => ih holds

end Gives

/-- Looking at a node fills nothing. -/
theorem gives_node (number : Nat) : Gives (node number) fun _ => True :=
  Gives.get.bind fun _ _ => .pure trivial

/-- Reading the text of a node fills nothing. -/
theorem gives_textOf (fuel number : Nat) : Gives (textOf fuel number) fun _ => True := by
  induction fuel generalizing number with
  | zero => exact .throw _
  | succ fuel ih =>
    -- A reference to another node takes one off the fuel, and whatever has no text fails.
    refine Gives.get.bind fun assembly _ => ?_
    dsimp only
    split
    · exact .pure trivial
    · exact .throw _
    · split
      · exact ih _
      · exact .throw _

/-- Reading the text of something without parts fills nothing. -/
theorem gives_scalarText (number : Nat) : Gives (scalarText number) fun _ => True :=
  Gives.get.bind fun _ _ => gives_textOf _ _

/-- Building something without parts fills nothing, and what is built is no mapping. -/
theorem gives_scalar (number : Nat) (tag : Tag) :
    Gives (scalar number tag) fun value => ∀ entries, value ≠ .map entries := by
  refine (gives_scalarText number).bind fun text _ => ?_
  refine (gives_node number).bind fun node _ => ?_
  split
  · exact .throw _
  · exact .lift fun value built => Scalar.build_ne_map built

/-- Beginning a list, set or mapping fills nothing yet. -/
theorem gives_begin (number : Nat) : Gives (begin number) fun _ => True := by
  intro before _ after ran
  obtain ⟨_, rfl⟩ := Prod.mk.inj (Except.ok.inj ran)
  refine ⟨trivial, ?_⟩
  dsimp only
  split <;> rfl

/-- Building a node fills nothing yet, and what is built is no mapping by itself. -/
theorem gives_construct (number : Nat) : Gives (construct number) Part.IsFlat := by
  -- A list or a mapping is only begun here, so a part that is built is a scalar or a number.
  refine (gives_node number).bind fun node _ => ?_
  dsimp only
  split
  · exact (gives_begin number).bind fun _ _ => .pure trivial
  · split
    · exact (gives_scalar number node.tag).bind fun value flat => .pure flat
    · exact .throw _

/-- Building a key fills nothing. -/
theorem gives_key (number : Nat) : Gives (key number) fun _ => True := by
  refine (gives_construct number).bind fun part _ => ?_
  split
  · exact .throw _
  · exact (gives_node number).bind fun node _ => (gives_scalarText number).bind fun text _ => .pure trivial

/-- Merging mappings fills nothing. -/
theorem gives_merge (number : Nat) : Gives (merge number) fun _ => True := by
  intro before done after ran
  have opened : (merge number).run before =
      ((Editing.flatten (before.graph.entryCount + 1) number).run before.graph >>= fun edited =>
        .ok ((), { before with graph := edited.2 })) := by
    simp only [merge, StateT.run_bind, StateT.run_get, StateT.run_monadLift, monadLift_self,
      bind_pure_comp, StateT.run_set, Functor.map_map, pure_bind]
    rfl
  rw [opened] at ran
  -- Merging changes the nodes and nothing else.
  obtain ⟨_, _, same⟩ := Result.bind_eq_ok.mp ran
  cases same
  exact ⟨trivial, rfl⟩

/-- Building the entries of a mapping fills nothing by itself, and their keys differ. -/
theorem gives_entries (number : Nat) : Gives (entries number) fun entries =>
    Holding.KeysDiffer entries ∧ ∀ entry ∈ entries, entry.2.IsFlat := by
  refine (gives_node number).bind fun node _ => ?_
  split
  · refine (gives_merge number).bind fun _ _ => Gives.get.bind fun assembly _ => ?_
    -- The entries are put one by one, which keeps their keys apart.
    refine Gives.foldlM (fun done regular entry => ?_) _ ⟨List.Pairwise.nil, by simp⟩
    refine (gives_key entry.1).bind fun key _ => (gives_construct entry.2).bind fun part flat => ?_
    exact .pure ⟨Holding.keysDiffer_put regular.1, Holding.isFlat_put regular.2 flat⟩
  · exact .throw _

/-- Building a pair of a list fills nothing. -/
theorem gives_pair (number : Nat) : Gives (pair number) fun _ => True := by
  refine (gives_node number).bind fun node _ => ?_
  split
  · exact (gives_construct _).bind fun _ _ => (gives_construct _).bind fun _ _ => .pure trivial
  · exact .throw _

/-- Building what is in a list, set or mapping fills nothing by itself, and what is built is regular. -/
theorem gives_holding (number : Nat) : Gives (holding number) Holding.IsRegular := by
  -- Pairs and items are built node by node.
  have pairs : Gives (pairs number) fun _ => True := by
    refine (gives_node number).bind fun node _ => ?_
    split
    · exact .mapM gives_pair _
    · exact .throw _
  have items : Gives (items number) fun _ => True := by
    refine (gives_node number).bind fun node _ => ?_
    split
    · exact .mapM (fun item => (gives_construct item).mono fun _ _ => trivial) _
    · exact .throw _
  refine (gives_node number).bind fun node _ => ?_
  split
  · exact pairs.bind fun _ _ => .pure trivial
  · exact pairs.bind fun _ _ => .pure trivial
  · exact (gives_entries number).bind fun _ _ => .pure trivial
  · exact (gives_entries number).bind fun _ regular => .pure regular
  · exact items.bind fun _ _ => .pure trivial

end Builder

namespace Holdings

/-- Whatever is filled is regular. -/
def AreRegular (holdings : Holdings) : Prop :=
  ∀ (number : Nat) (holding : Holding), holdings[number]?.join = some holding → holding.IsRegular

/-- Holdings stay regular when something regular is filled in. -/
theorem AreRegular.fill {holdings : Holdings} {holding : Holding} (regular : holdings.AreRegular)
    (here : holding.IsRegular) (number : Nat) :
    AreRegular (holdings.setIfInBounds number (some holding)) := by
  -- Only one of the holdings is new.
  intro other found there
  rw [Array.getElem?_setIfInBounds] at there
  split at there
  · split at there
    · cases there
      exact here
    · cases there
  · exact regular other found there

end Holdings

namespace Builder

variable {before after : Assembly} {done : Unit}

/-- Filling a list, set or mapping keeps everything regular. -/
theorem regular_fill {number : Nat} (regular : Holdings.AreRegular before.filled)
    (ran : (fill number).run before = .ok (done, after)) : Holdings.AreRegular after.filled := by
  rw [fill, StateT.run_bind] at ran
  obtain ⟨⟨holding, middle⟩, built, filled⟩ := Result.bind_eq_ok.mp ran
  obtain ⟨here, same⟩ := gives_holding number _ _ _ built
  cases filled
  exact (same ▸ regular).fill here number

/-- Filling some lists, sets and mappings keeps everything regular. -/
theorem regular_forM {level : List Nat} (regular : Holdings.AreRegular before.filled)
    (ran : (level.forM fill).run before = .ok (done, after)) : Holdings.AreRegular after.filled := by
  induction level generalizing before with
  | nil =>
    cases ran
    exact regular
  -- Filling one node leaves regular holdings for the next one.
  | cons number rest ih =>
    change (fill number >>= fun _ => rest.forM fill).run before = _ at ran
    rw [StateT.run_bind] at ran
    obtain ⟨⟨_, middle⟩, filled, ran⟩ := Result.bind_eq_ok.mp ran
    exact ih (regular_fill regular filled) ran

/-- Filling all of them keeps everything regular. -/
theorem regular_fillAll {fuel : Nat} (regular : Holdings.AreRegular before.filled)
    (ran : (fillAll fuel).run before = .ok (done, after)) : Holdings.AreRegular after.filled := by
  induction fuel generalizing before with
  | zero =>
    cases ran
    exact regular
  | succ fuel ih =>
    -- Each round fills what was begun in the round before.
    rw [fillAll, StateT.run_bind] at ran
    obtain ⟨⟨assembly, _⟩, looked, ran⟩ := Result.bind_eq_ok.mp ran
    cases looked
    dsimp only at ran
    split at ran
    · cases ran
      exact regular
    · rw [StateT.run_bind] at ran
      obtain ⟨⟨_, cleared⟩, clearing, ran⟩ := Result.bind_eq_ok.mp ran
      cases clearing
      rw [StateT.run_bind] at ran
      obtain ⟨⟨_, middle⟩, filled, ran⟩ := Result.bind_eq_ok.mp ran
      refine ih (regular_forM ?_ filled) ran
      exact regular

end Builder

/-- What the nodes of a document are built into is no mapping by itself, and everything in it is regular. -/
theorem Graph.assemble_regular {graph : Graph} {root : Nat} {part : Part} {holdings : Holdings}
    (assembled : graph.assemble root = .ok (part, holdings)) : part.IsFlat ∧ holdings.AreRegular := by
  obtain ⟨⟨_, assembly⟩, built, same⟩ := Result.bind_eq_ok.mp assembled
  cases same
  rw [StateT.run_bind] at built
  obtain ⟨⟨_, begun⟩, constructed, built⟩ := Result.bind_eq_ok.mp built
  rw [StateT.run_bind] at built
  obtain ⟨⟨_, all⟩, filled, same⟩ := Result.bind_eq_ok.mp built
  cases same
  obtain ⟨flat, empty⟩ := Builder.gives_construct root _ _ _ constructed
  -- Nothing is filled in the beginning.
  refine ⟨flat, Builder.regular_fillAll (fun number holding there => ?_) filled⟩
  rw [empty, Array.getElem?_replicate] at there
  split at there <;> cases there

namespace Holdings

variable {holdings : Holdings} {inPair : Bool} {path : List Place} {part : Part}
  {entries : List (Value × Value)}

/-- Keys that differ are at most once the same text. -/
theorem namesDiffer_of_keysDiffer {entries : List (Key × Part)} (differ : Holding.KeysDiffer entries)
    (write : Part → Value) :
    Value.NamesDiffer (entries.map fun entry => (entry.1.value, write entry.2)) := by
  refine List.pairwise_map.mpr (List.pairwise_map.mpr ((List.pairwise_map.mp differ).imp ?_))
  intro a b other name here there
  dsimp only at here there
  simp [Key.isSame, here, there, Value.isSameKey] at other

/-- A mapping that a part is followed to has different names, and its values are those of parts. -/
theorem value_eq_map (regular : holdings.AreRegular) (flat : part.IsFlat)
    (same : holdings.value inPair path part = .map entries) :
    Value.NamesDiffer entries ∧ ∀ entry ∈ entries, ∃ inPair path part,
      Part.IsFlat part ∧ entry.2 = holdings.value inPair path part := by
  -- A part that is no node is flat, so it is no mapping; of the nodes only that of a mapping has entries.
  cases part with
  | value v =>
    rw [value] at same
    exact absurd same (flat entries)
  | node number =>
    rw [value.eq_def] at same
    dsimp only at same
    split at same
    · split at same
      · cases same
      · cases same
      · cases same
      · rename_i held there
        cases same
        obtain ⟨differ, flat⟩ := regular number _ there
        refine ⟨namesDiffer_of_keysDiffer differ _, fun entry inside => ?_⟩
        obtain ⟨held, isHeld, rfl⟩ := List.mem_map.mp inside
        exact ⟨_, _, _, flat held isHeld, rfl⟩
      · cases same
    · cases same

end Holdings

/-- A mapping that is read off a document has different names, and so has each mapping that stands in it. -/
theorem namesDiffer_of_read {text : List Char} {entries : List (Value × Value)}
    (parsed : read text = .ok (.map entries)) :
    Value.NamesDiffer entries ∧ ∀ key inner, (key, .map inner) ∈ entries → Value.NamesDiffer inner := by
  -- A document that has a value has a root, and everything in it was filled.
  obtain ⟨⟨graph, root⟩, _, parsed⟩ := Result.bind_eq_ok.mp parsed
  cases root with
  | none => cases parsed
  | some root =>
    obtain ⟨⟨part, holdings⟩, assembled, valued⟩ := Result.bind_eq_ok.mp parsed
    obtain ⟨flat, regular⟩ := Graph.assemble_regular assembled
    obtain ⟨differ, parts⟩ := Holdings.value_eq_map regular flat (Except.ok.inj valued)
    refine ⟨differ, fun key inner inside => ?_⟩
    obtain ⟨inPair, path, part, flat, same⟩ := parts _ inside
    exact (Holdings.value_eq_map regular flat same.symm).1

end KeyCluster.Yaml
