import KeyCluster.Template.Conversion

/-! Filling templates with values. -/

namespace KeyCluster.Template

/-- Values for a template. -/
structure Feed where
  /-- The values that have names, if the values have. -/
  named : Option (List (Value × Value))
  queue : List Value

namespace Feed

/-- The values of a list, one after the other. A mapping alone gives its values by name too. -/
def ofList : List Value → Feed
  | [.map (entry :: rest)] => { named := some (entry :: rest), queue := [.map (entry :: rest)] }
  | values => { named := none, queue := values }

/-- The next value in line, and the values after it. -/
def next (feed : Feed) : Except TemplateFault (Value × Feed) :=
  match feed.queue with
  | value :: rest => .ok (value, { feed with queue := rest })
  | [] => .error .tooFew

/-- The values after a directive says where its own comes from. A value under a key is then alone in
line. -/
def turn (feed : Feed) (source : Directive.Source) : Except TemplateFault Feed :=
  match source, feed.named with
  | .next, _ => .ok feed
  | _, none => .error .needsMapping
  | .unclosed, some _ => .error .incompleteKey
  | .key name, some entries => match Value.field? name entries with
    | some value => .ok { feed with queue := [value] }
    | none => .error (.missingKey name)

/-- The number of an amount, which may be the next value in line, and the values after it. Above `limit`
it is `huge`, or `hugeValue` if it is a value. -/
def amount (feed : Feed) (limit : Nat) (huge hugeValue : TemplateFault) :
    Directive.Amount → Except TemplateFault (Option Int × Feed)
  | .absent => .ok (none, feed)
  | .fixed n => if limit < n then .error huge else .ok (some n, feed)
  | .star => do
    let (value, rest) ← feed.next
    match value.integer? with
    | none => throw .starNotInteger
    | some i => if limit < i.natAbs then throw hugeValue else return (some i, rest)

end Feed

/-- The largest width. -/
def widthLimit : Nat :=
  Nat.pow 2 63 - 1

/-- The largest precision. -/
def precisionLimit : Nat :=
  Nat.pow 2 31 - 1

/-- The largest width that there is room for. -/
def roomLimit : Nat :=
  Nat.pow 2 40

/-- The layout that a directive demands with a width and a precision. A negative width puts the value at
the left, and a negative precision counts as zero. -/
def shapeOf (flags : Directive.Flags) (width precision : Option Int) : Directive.Shape where
  flags := { flags with left := flags.left || width.getD 0 < 0 }
  width := (width.getD 0).natAbs
  precision := precision.map Int.toNat

/-- What a directive stands for, and the values after it; `place` is where its letter stands. -/
def fillDirective (feed : Feed) (d : Directive) (place : Nat) :
    Except TemplateFault (Text × Feed) := do
  let feed ← feed.turn d.source
  let (width, feed) ← feed.amount widthLimit .hugeWidth .hugeWidthValue d.width
  let (precision, feed) ← feed.amount precisionLimit .hugePrecision .hugePrecisionValue d.precision
  match d.letter with
  | none => throw .incomplete
  | some letter =>
    let (value, feed) ← feed.next
    let shape := shapeOf d.flags width precision
    if roomLimit < shape.width then
      -- What is wrong with the value itself comes first.
      discard (Directive.convert { shape with width := 0 } letter place value)
      throw .noRoom
    return (← Directive.convert shape letter place value, feed)

/-- What parts stand for; `total` is the length of the whole template. Without names, every value has to
be used. -/
def fillParts (total : Nat) : Feed → List TemplatePart → Except TemplateFault Text
  | feed, [] => if feed.named.isNone && !feed.queue.isEmpty then .error .tooMany else .ok []
  | feed, .point c :: rest => (fillParts total feed rest).map (c :: ·)
  | feed, .directive d remaining :: rest => do
    let (here, feed) ← fillDirective feed d (total - remaining - 1)
    return here ++ (← fillParts total feed rest)

/-- A template filled with values. -/
def fill (template : Text) (values : List Value) : Except TemplateFault Text :=
  fillParts template.length (Feed.ofList values) (TemplatePart.ofText 0 template)

end KeyCluster.Template
