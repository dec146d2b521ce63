import ReversePolish.Decimal.Shortest

set_option autoImplicit false

namespace ReversePolish.Decimal

structure Style where
  -- Leading exponents from the first to the second are written with a point only; no range: all.
  positional : Option (Int × Int)
  wholePoint : Bool
  deriving DecidableEq, Repr

def Style.result : Style := ⟨none, false⟩

-- Logged operands have an exponent below `10 ^ -4` and from `10 ^ 16` on; other whole ones end in `.0`.
def Style.logged : Style := ⟨some (-4, 15), true⟩

def Style.isPositional (style : Style) (leading : Int) : Bool :=
  match style.positional with
  | none => true
  | some (least, most) => least ≤ leading && leading ≤ most

-- The digits around a point that stands after the first `point` of them.
def Style.around (style : Style) (digits : List Char) (point : Int) : List Char :=
  if point ≤ 0 then "0.".toList ++ List.replicate (-point).toNat '0' ++ digits
  else if point < digits.length then digits.take point.toNat ++ '.' :: digits.drop point.toNat
  else digits ++ List.replicate (point.toNat - digits.length) '0' ++
    (if style.wholePoint then ".0".toList else [])

def scientific (digits : List Char) (leading : Int) : List Char :=
  digits.take 1 ++ (if digits.length ≤ 1 then [] else '.' :: digits.drop 1) ++
    'e' :: (toString leading).toList

def Style.positive (style : Style) (s : Scaled) : List Char :=
  let digits := Nat.toDigits 10 s.digits
  let leading := digits.length + s.exponent - 1
  if style.isPositional leading then style.around digits (leading + 1) else scientific digits leading

def signed (negative : Bool) (text : List Char) : List Char :=
  if negative then '-' :: text else text

def Style.write (style : Style) (x : Float) : String :=
  String.ofList <| match Binary.ofFloat x with
    | .undefined => "NaN".toList
    | .infinite negative => signed negative "inf".toList
    | .finite negative 0 _ => signed negative (if style.wholePoint then "0.0".toList else ['0'])
    | .finite negative significand exponent =>
        signed negative (style.positive (Interval.around significand exponent).shortest)

end ReversePolish.Decimal
