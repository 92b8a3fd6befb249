import KeyCluster.Number.Numeral

/-! Message templates: texts with directives, each of which stands for a value. -/

namespace KeyCluster

/-- Where the value of a directive comes from. -/
inductive Directive.Source where
  | next
  | key (name : Text)
  /-- From nowhere, for the key has no end. -/
  | unclosed
  deriving DecidableEq, Repr

/-- A width or a precision. -/
inductive Directive.Amount where
  | absent
  | fixed (n : Nat)
  /-- The next value in line. -/
  | star
  deriving DecidableEq, Repr

/-- How a value is laid out. -/
structure Directive.Flags where
  left : Bool
  /-- Whether numbers that are not negative carry a sign too. -/
  plus : Bool
  /-- Whether numbers that are not negative have a blank in the place of a sign. -/
  blank : Bool
  /-- Whether numbers show their base and their point. -/
  alternate : Bool
  zero : Bool
  deriving DecidableEq, Repr

/-- What stands for a value in a template. -/
structure Directive where
  source : Directive.Source
  flags : Directive.Flags
  /-- The least number of characters. -/
  width : Directive.Amount
  /-- The number of digits, or the largest number of characters. -/
  precision : Directive.Amount
  /-- The letter of the conversion; nothing if the template ends before it. -/
  letter : Option CodePoint
  deriving DecidableEq, Repr

namespace Directive

/-- The key before the parenthesis that closes it, and what follows; parentheses inside are in pairs. The
argument counts those that are open. -/
def closeKey? : (opened : Nat) → Text → Option (Text × Text)
  | _, [] => none
  | opened, c :: rest =>
    if c == .char ')' && opened == 0 then some ([], rest)
    else
      let opened :=
        if c == .char '(' then opened + 1 else if c == .char ')' then opened - 1 else opened
      (closeKey? opened rest).map fun (key, left) => (c :: key, left)

/-- The source of a directive, and what follows it. -/
def readSource : Text → Source × Text
  | .char '(' :: rest => match closeKey? 0 rest with
    | some (key, left) => (.key key, left)
    | none => (.unclosed, [])
  | rest => (.next, rest)

/-- Whether a code point is a flag. -/
def isFlag : CodePoint → Bool :=
  CodePoint.isIn fun c => c == '-' || c == '+' || c == ' ' || c == '#' || c == '0'

/-- The flags that marks set. -/
def flagsOf (marks : Text) : Flags where
  left := marks.contains (.char '-')
  plus := marks.contains (.char '+')
  blank := marks.contains (.char ' ')
  alternate := marks.contains (.char '#')
  zero := marks.contains (.char '0')

/-- Whether a code point is one of the ten digits of ASCII. -/
def isDigit : CodePoint → Bool :=
  CodePoint.isIn Char.isDigit

/-- A width or the digits of a precision, and what follows. -/
def readAmount : Text → Amount × Text
  | .char '*' :: rest => (.star, rest)
  | text =>
    match text.takeWhile isDigit with
    | [] => (.absent, text)
    | digits => (.fixed (Numeral.ofDigits 10 (Text.chars digits)), text.dropWhile isDigit)

/-- A precision, and what follows; a point alone means none at all, that is zero. -/
def readPrecision : Text → Amount × Text
  | .char '.' :: rest => match readAmount rest with
    | (.absent, left) => (.fixed 0, left)
    | read => read
  | text => (.absent, text)

/-- What follows a letter for the size of numbers, which means nothing. -/
def dropSize : Text → Text
  | .char 'h' :: rest | .char 'l' :: rest | .char 'L' :: rest => rest
  | rest => rest

/-- The directive that a text after a percent sign begins with, and what follows it. -/
def read (text : Text) : Directive × Text :=
  let (source, rest) := readSource text
  let (width, afterWidth) := readAmount (rest.dropWhile isFlag)
  let (precision, afterPrecision) := readPrecision afterWidth
  let ending := dropSize afterPrecision
  ({ source, flags := flagsOf (rest.takeWhile isFlag), width, precision, letter := ending.head? },
    ending.drop 1)

end Directive

/-- A part of a template. -/
inductive TemplatePart where
  | point (c : CodePoint)
  /-- A directive, with the number of code points that follow it. -/
  | directive (d : Directive) (remaining : Nat)
  deriving DecidableEq, Repr

/-- The parts of a text without its first `skip` characters. Two percent signs stand for one. -/
def TemplatePart.ofText : (skip : Nat) → Text → List TemplatePart
  | _, [] => []
  | skip + 1, _ :: rest => ofText skip rest
  | 0, c :: rest =>
    if c != .char '%' then .point c :: ofText 0 rest
    else if rest.head? == some (.char '%') then .point c :: ofText 1 rest
    else
      let (found, left) := Directive.read rest
      .directive found left.length :: ofText (rest.length - left.length) rest

end KeyCluster
