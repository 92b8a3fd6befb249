import KeyCluster.Calendar.Moment
import KeyCluster.Number.Double
import KeyCluster.Text.Basic

/-! Values whose shape is not known beforehand: what documents, messages and log fields hold. -/

namespace KeyCluster

/-- The shapes of values. -/
inductive Value.Kind where
  | null
  | bool
  | int
  | float
  | text
  | bytes
  | date
  | moment
  | list
  | tuple
  | set
  | map
  deriving DecidableEq, Repr

/-- A value of any shape. Mappings keep the order in which their keys came. -/
inductive Value where
  | null
  | bool (b : Bool)
  | int (i : Int)
  | float (x : Float)
  | text (s : Text)
  | bytes (data : List UInt8)
  | date (d : Date)
  | moment (m : Moment)
  | list (items : List Value)
  | tuple (items : List Value)
  /-- Distinct values without an order. -/
  | set (items : List Value)
  | map (entries : List (Value × Value))
  /-- A list, tuple or mapping that is not followed further, since it stands inside itself. -/
  | again (kind : Value.Kind)
  deriving Inhabited

namespace Value

/-- The shape of a value. -/
def kind : Value → Kind
  | null => .null
  | bool _ => .bool
  | int _ => .int
  | float _ => .float
  | text _ => .text
  | bytes _ => .bytes
  | date _ => .date
  | moment _ => .moment
  | list _ => .list
  | tuple _ => .tuple
  | set _ => .set
  | map _ => .map
  | again kind => kind

/-- The name under which messages speak of a shape. -/
def Kind.name : Kind → String
  | null => "NoneType"
  | bool => "bool"
  | int => "int"
  | float => "float"
  | text => "str"
  | bytes => "bytes"
  | date => "datetime.date"
  | moment => "datetime.datetime"
  | list => "list"
  | tuple => "tuple"
  | set => "set"
  | map => "dict"

/-- Whether a value counts as given: neither absent, false, zero nor empty. -/
def isGiven : Value → Bool
  | null => false
  | bool b => b
  | int i => i != 0
  | float x => !(x == 0)
  | text s => !s.isEmpty
  | bytes data => !data.isEmpty
  | date _ | moment _ | again _ => true
  | list items | tuple items | set items => !items.isEmpty
  | map entries => !entries.isEmpty

/-- The number that a value is, truth values being zero and one. -/
def integer? : Value → Option Int
  | bool b => some (if b then 1 else 0)
  | int i => some i
  | _ => none

/-- How two values compare as numbers, if both are numbers and neither is undefined. -/
def compareNumbers (a b : Value) : Option Ordering :=
  match a, b with
  | float x, float y => Double.compareDouble x y
  -- A double and an integer are compared as they are, without rounding the integer.
  | float x, b => b.integer?.bind fun j => Double.compareInt x j
  | a, float y => a.integer?.bind fun i => (Double.compareInt y i).map Ordering.swap
  | a, b => do return compare (← a.integer?) (← b.integer?)

mutual

/-- Whether two values are the same key: numbers by value, everything else by shape and content. -/
def isSameKey : Value → Value → Bool
  | null, null => true
  | text s, text t => s == t
  | bytes a, bytes b => a == b
  | date a, date b => a == b
  | moment a, moment b => a.isSame b
  | tuple a, tuple b => areSameKeys a b
  -- A truth value, an integer and a double of the same size are one key.
  | a, b => compareNumbers a b == some .eq

/-- Whether two lists hold the same keys in the same order. -/
def areSameKeys : List Value → List Value → Bool
  | [], [] => true
  | a :: as, b :: bs => isSameKey a b && areSameKeys as bs
  | _, _ => false

end

/-- The mapping with a value under a key. A key that is there already keeps its place. -/
def put (key value : Value) : List (Value × Value) → List (Value × Value)
  | [] => [(key, value)]
  | (k, v) :: rest => if isSameKey k key then (k, value) :: rest else (k, v) :: put key value rest

/-- The mapping with these entries, the last one deciding among those of one key. -/
def mapping (entries : List (Value × Value)) : List (Value × Value) :=
  entries.foldl (fun done entry => put entry.1 entry.2 done) []

/-- Whether a value is a given text. -/
def isText (name : Text) : Value → Bool
  | text s => s == name
  | _ => false

/-- The value under a text key. -/
def field? (name : Text) (entries : List (Value × Value)) : Option Value :=
  (entries.find? fun entry => entry.1.isText name).map (·.2)

/-- The set of these values, the first of each kept. -/
def distinct (items : List Value) : List Value :=
  items.foldl (fun done item => if done.any (isSameKey item) then done else done ++ [item]) []

/-- A mapping whose keys are texts. -/
def record (fields : List (Text × Value)) : Value :=
  map (fields.map fun field => (text field.1, field.2))

/-- A list of texts. -/
def texts (items : List Text) : Value :=
  list (items.map text)

end Value

end KeyCluster
