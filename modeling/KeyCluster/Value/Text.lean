import KeyCluster.Number.Numeral
import KeyCluster.Number.Shortest
import KeyCluster.Text.Quoted
import KeyCluster.Value.Basic

/-! How values are written in messages: plainly, or as literals that show their shape. -/

namespace KeyCluster.Value

/-- Doubles are written in positions from a ten-thousandth up to ten thousand million millions. -/
def floatLayout : Shortest.Layout :=
  { least := -4, limit := 16, nan := "nan", infinity := "inf" }

/-- An integer in decimal digits. -/
def intText (i : Int) : Text :=
  Shortest.withSign (i < 0) (Text.ofChars (Nat.toDigits 10 i.natAbs))

/-- Numbers with commas between them. -/
def numberList (numbers : List Nat) : Text :=
  List.intercalate ", " (numbers.map fun (n : Nat) => intText n)

/-- A span of seconds, as whole days and the seconds that remain. -/
def spanLiteral (seconds : Int) : Text :=
  let days := seconds.fdiv 86400
  let rest := seconds - days * 86400
  let parts : List Text := (if days == 0 then [] else ["days=" ++ intText days])
    ++ (if rest == 0 then [] else ["seconds=" ++ intText rest])
  "datetime.timedelta(" ++ (if parts.isEmpty then (↑"0" : Text) else List.intercalate ", " parts) ++ ")"

/-- A day as a literal. -/
def dateLiteral (d : Date) : Text :=
  "datetime.date(" ++ numberList [d.year, d.month, d.day] ++ ")"

/-- A moment as a literal; seconds and millionths are left out while nothing follows them. -/
def momentLiteral (m : Moment) : Text :=
  let clock := if m.micros != 0 then [m.second, m.micros] else if m.second != 0 then [m.second] else []
  let zone : Text := match m.offset with
    | none => ""
    | some 0 => ", tzinfo=datetime.timezone.utc"
    | some seconds => ", tzinfo=datetime.timezone(" ++ spanLiteral seconds ++ ")"
  "datetime.datetime("
    ++ numberList ([m.date.year, m.date.month, m.date.day, m.hour, m.minute] ++ clock) ++ zone ++ ")"

/-- Literals between two brackets. -/
def enclosed (opening closing : Text) (parts : List Text) : Text :=
  opening ++ List.intercalate ", " parts ++ closing

mutual

/-- A value as a literal, its texts quoted so that only characters for which `shown` holds stand for
themselves. -/
def literalWith (shown : Char → Bool) : Value → Text
  | null => "None"
  | bool b => if b then "True" else "False"
  | int i => intText i
  | float x => Shortest.text floatLayout x
  | text s => Quoted.quoteWith shown s
  | bytes data => Quoted.quoteBytes data
  | date d => dateLiteral d
  | moment m => momentLiteral m
  | list items => enclosed "[" "]" (literalsWith shown items)
  -- A comma tells a tuple of one value from a value in parentheses.
  | tuple [item] => "(" ++ literalWith shown item ++ ",)"
  | tuple items => enclosed "(" ")" (literalsWith shown items)
  | set [] => "set()"
  | set items => enclosed "\x7b" "\x7d" (literalsWith shown items)
  | map entries => enclosed "\x7b" "\x7d" (entryLiteralsWith shown entries)
  | again .map => "\x7b...\x7d"
  | again .tuple => "(...)"
  | again _ => "[...]"

/-- Values as literals. -/
def literalsWith (shown : Char → Bool) : List Value → List Text
  | [] => []
  | item :: rest => literalWith shown item :: literalsWith shown rest

/-- Entries of a mapping as literals. -/
def entryLiteralsWith (shown : Char → Bool) : List (Value × Value) → List Text
  | [] => []
  | (key, value) :: rest =>
    (literalWith shown key ++ ": " ++ literalWith shown value) :: entryLiteralsWith shown rest

end

mutual

/-- Whether every integer in a value has few enough digits to be written. -/
def isWritable : Value → Bool
  | int i => i.natAbs < Nat.pow 10 Numeral.digitLimit
  | list items | tuple items | set items => areWritable items
  | map entries => areEntriesWritable entries
  | _ => true

/-- Whether every integer in some values has few enough digits to be written. -/
def areWritable : List Value → Bool
  | [] => true
  | item :: rest => item.isWritable && areWritable rest

/-- Whether every integer in some entries has few enough digits to be written. -/
def areEntriesWritable : List (Value × Value) → Bool
  | [] => true
  | (key, value) :: rest => key.isWritable && value.isWritable && areEntriesWritable rest

end

/-- A value as a literal. -/
def literal (v : Value) : Text :=
  literalWith Printable.isPrintable v

/-- A value written plainly: texts, days and moments as themselves, everything else as a literal. -/
def plain : Value → Text
  | text s => s
  | date d => Text.ofChars d.text
  | moment m => Text.ofChars (m.text ' ')
  | v => v.literal

end KeyCluster.Value
