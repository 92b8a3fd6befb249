import KeyCluster.Yaml.Assembly
import KeyCluster.Yaml.Stream

/-! The value of a document. What holds itself is followed until it comes back to itself. -/

namespace KeyCluster.Yaml

/-- A place on the way into a value. -/
inductive Place where
  /-- A list, set or mapping, by the number of its node. -/
  | node (number : Nat)
  /-- One of the pairs of a list, which are things of their own. -/
  | pair (number index : Nat)
  deriving DecidableEq, Repr

namespace Holdings

/-- The shape of what a node is built into. -/
def kindOf : Option Holding → Value.Kind
  | some (.map _) => .map
  | some (.set _) => .set
  | _ => .list

/-- The places on the way into a pair of a list. Who goes through a value leaves pairs alone, so at a pair
that is reached so another way begins. -/
def wayInto (number index : Nat) (inPair : Bool) (path : List Place) : List Place :=
  if inPair then .pair number index :: path else [.pair number index]

/-- Whether a node is not on the way yet. -/
def isNew (path : List Place) (number : Nat) : Bool :=
  !path.contains (.node number)

/-- How many nodes are not on the way yet. -/
def ahead (holdings : Holdings) (path : List Place) : Nat :=
  (List.range holdings.size).countP (isNew path)

/-- What is filled has the number of a node. -/
theorem lt_size {holdings : Holdings} {number : Nat} {holding : Holding}
    (filled : holdings[number]?.join = some holding) : number < holdings.size := by
  obtain ⟨inside, _⟩ := Array.getElem?_eq_some_iff.mp (Option.join_eq_some_iff.mp filled)
  exact inside

/-- Fewer are ahead of a way that takes in one more node. -/
theorem ahead_lt {holdings : Holdings} {path : List Place} {number : Nat} (inside : number < holdings.size)
    (new : isNew path number = true) : ahead holdings (.node number :: path) < ahead holdings path := by
  obtain ⟨front, rest, split⟩ := List.append_of_mem (List.mem_range.mpr inside)
  have here : isNew (.node number :: path) number = false := by simp [isNew]
  have fewer (numbers : List Nat) :
      numbers.countP (isNew (.node number :: path)) ≤ numbers.countP (isNew path) :=
    List.countP_mono_left fun other _ => by simp [isNew]
  have before := fewer front
  have behind := fewer rest
  simp only [ahead, split, List.countP_append, List.countP_cons, here, new, if_true, Bool.false_eq_true,
    if_false]
  omega

/-- Pairs are no nodes. -/
theorem ahead_pair (holdings : Holdings) (path : List Place) (number index : Nat) :
    ahead holdings (.pair number index :: path) = ahead holdings path := by
  have same : isNew (.pair number index :: path) = isNew path := by
    funext other
    simp [isNew]
  rw [ahead, ahead, same]

/-- How many nodes can be taken in from here on, in this way and in another one that begins at a pair. -/
def reach (holdings : Holdings) (inPair : Bool) (path : List Place) : Nat :=
  if inPair then ahead holdings path else holdings.size + 1 + ahead holdings path

/-- One can go less far after one more node is taken in. -/
theorem reach_lt {holdings : Holdings} {inPair : Bool} {path : List Place} {number : Nat}
    (inside : number < holdings.size) (new : isNew path number = true) :
    reach holdings inPair (.node number :: path) < reach holdings inPair path := by
  have fewer := ahead_lt inside new
  unfold reach
  split <;> omega

/-- One can go no farther from inside a pair than from the pair. -/
theorem reach_wayInto_le (holdings : Holdings) (inPair : Bool) (path : List Place) (number index : Nat) :
    reach holdings true (wayInto number index inPair path) ≤ reach holdings inPair path := by
  cases inPair with
  | true => exact Nat.le_of_eq (ahead_pair holdings path number index)
  | false =>
    -- The way begins anew, and no way takes in more nodes than there are.
    have most : ahead holdings [.pair number index] ≤ holdings.size :=
      Nat.le_trans List.countP_le_length (Nat.le_of_eq List.length_range)
    simp only [reach, wayInto, if_true, Bool.false_eq_true, if_false]
    omega

mutual

/-- The value of a part, which is followed until it comes back to a place on the way. `inPair` says whether
the way leads through a pair. -/
def value (holdings : Holdings) (inPair : Bool) (path : List Place) : Part → Value
  | .value v => v
  | .node number =>
    if _ : isNew path number then
      match _ : holdings[number]?.join with
      | some (.list items) =>
        .list (items.map fun item => value holdings inPair (.node number :: path) item)
      | some (.pairs items) => .list (items.mapIdx fun index item =>
          pairValue holdings inPair number index (.node number :: path) item)
      | some (.set keys) => .set (keys.map (·.value))
      | some (.map entries) => .map (entries.map fun entry =>
          (entry.1.value, value holdings inPair (.node number :: path) entry.2))
      | none => .list []
    else .again (kindOf holdings[number]?.join)
  termination_by 2 * reach holdings inPair path
  decreasing_by
    -- Every level takes in a node that was not on the way.
    all_goals
      have less : reach holdings inPair (.node number :: path) < reach holdings inPair path :=
        reach_lt (lt_size ‹_›) ‹_›
      omega

/-- The value of a pair of a list. -/
def pairValue (holdings : Holdings) (inPair : Bool) (number index : Nat) (path : List Place)
    (pair : Part × Part) : Value :=
  -- A pair is no node, so its place on the way is told by its list and its number in there.
  if inPair && path.contains (.pair number index) then .again .tuple
  else
    let way := wayInto number index inPair path
    .tuple [value holdings true way pair.1, value holdings true way pair.2]
  termination_by 2 * reach holdings inPair path + 1
  decreasing_by
    all_goals
      have most := reach_wayInto_le holdings inPair path number index
      omega

end

end Holdings

/-- The value of the document in a text; a text without one stands for no value. -/
def read (text : List Char) : Except Fault Value := do
  match ← Graph.ofText text with
  | (_, none) => return .null
  | (graph, some root) =>
    let (part, holdings) ← graph.assemble root
    return holdings.value false [] part

end KeyCluster.Yaml
