set_option autoImplicit false

namespace ReversePolish.Decimal

-- The size of a number before rounding: a named one, or `digits · 10 ^ exponent`.
inductive Magnitude where
  | infinite
  | undefined
  | scaled (digits : Nat) (exponent : Int)
  deriving DecidableEq, Repr

structure Numeral where
  negative : Bool
  magnitude : Magnitude
  deriving DecidableEq, Repr

def readSign : List Char → Bool × List Char
  | '-' :: rest => (true, rest)
  | '+' :: rest => (false, rest)
  | rest => (false, rest)

def digitValue (c : Char) : Nat := c.toNat - '0'.toNat

def readDigits (digits : List Char) : Nat :=
  digits.foldl (fun total c => 10 * total + digitValue c) 0

def readExponent? : List Char → Option Int
  | [] => some 0
  | c :: rest =>
      let (negative, digits) := readSign rest
      if (c = 'e' ∨ c = 'E') ∧ digits ≠ [] ∧ digits.all Char.isDigit then
        some (if negative then -(readDigits digits : Int) else readDigits digits)
      else none

def readScaled? (text : List Char) : Option Magnitude :=
  let whole := text.takeWhile Char.isDigit
  let (fraction, rest) := match text.dropWhile Char.isDigit with
    | '.' :: rest => (rest.takeWhile Char.isDigit, rest.dropWhile Char.isDigit)
    | rest => ([], rest)
  if whole = [] ∧ fraction = [] then none
  else (readExponent? rest).map fun exponent =>
    .scaled (readDigits (whole ++ fraction)) (exponent - fraction.length)

def readMagnitude? (text : List Char) : Option Magnitude :=
  let lower := text.map Char.toLower
  if lower = "inf".toList ∨ lower = "infinity".toList then some .infinite
  else if lower = "nan".toList then some .undefined
  else readScaled? text

def readNumeral? (text : List Char) : Option Numeral :=
  let (negative, rest) := readSign text
  (readMagnitude? rest).map (⟨negative, ·⟩)

-- Rounds to the nearest float: too large becomes infinite, too small becomes zero.
def Magnitude.toFloat : Magnitude → Float
  | .infinite => 1.0 / 0.0
  | .undefined => 0.0 / 0.0
  | .scaled digits (.ofNat exponent) => Float.ofScientific digits false exponent
  | .scaled digits (.negSucc exponent) => Float.ofScientific digits true (exponent + 1)

def Numeral.toFloat (n : Numeral) : Float :=
  if n.negative then -n.magnitude.toFloat else n.magnitude.toFloat

def float? (text : String) : Option Float :=
  (readNumeral? text.toList).map Numeral.toFloat

theorem float_of_empty : float? "" = none := rfl

end ReversePolish.Decimal
