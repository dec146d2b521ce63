set_option autoImplicit false

namespace ReversePolish.Decimal

-- What a double stands for; a finite one is `significand · 2 ^ exponent` up to sign.
inductive Binary where
  | undefined
  | infinite (negative : Bool)
  | finite (negative : Bool) (significand : Nat) (exponent : Int)
  deriving DecidableEq, Repr

def leadingBit : Nat := 0x10000000000000

def Binary.ofFloat (x : Float) : Binary :=
  let bits : Nat := x.toBits.toNat
  let negative := 0x8000000000000000 ≤ bits
  let biased : Nat := bits / leadingBit % 0x800
  let fraction : Nat := bits % leadingBit
  if biased = 0x7ff then
    if fraction = 0 then .infinite negative else .undefined
  else if biased = 0 then .finite negative fraction (-1074)
  else .finite negative (leadingBit + fraction) (biased - 1075)

structure Interval where
  low : Nat
  middle : Nat
  high : Nat
  unit : Nat
  closed : Bool
  deriving DecidableEq, Repr

-- The reals that round to `significand · 2 ^ exponent`, with that number in the middle. It reaches
-- half way to each neighbour; below a power of two the neighbour is half as far away, except at the
-- bottom of the range. The ends belong to it when the significand is even.
def Interval.around (significand : Nat) (exponent : Int) : Interval :=
  let scale := Nat.pow 2 (exponent - 2).toNat
  let below := if significand = leadingBit ∧ -1074 < exponent then 1 else 2
  { low := (4 * significand - below) * scale
    middle := 4 * significand * scale
    high := (4 * significand + 2) * scale
    unit := Nat.pow 2 (2 - exponent).toNat
    closed := significand % 2 = 0 }

def Interval.holds (i : Interval) (factor point : Nat) : Bool :=
  if i.closed then i.low * factor ≤ point && point ≤ i.high * factor
  else i.low * factor < point && point < i.high * factor

-- The multiple of `10 ^ exponent` in the interval that is nearest to the middle, as a count of
-- steps. Only the two neighbours of the middle can be it; when both are as near, it is the upper.
def Interval.onGrid? (i : Interval) (exponent : Int) : Option Nat :=
  let factor := Nat.pow 10 (-exponent).toNat
  let step := i.unit * Nat.pow 10 exponent.toNat
  let target := i.middle * factor
  let count := target / step
  let lower := i.holds factor (count * step)
  let upper := i.holds factor ((count + 1) * step)
  if lower && (!upper || target - count * step < (count + 1) * step - target) then some count
  else if upper then some (count + 1)
  else none

def digitCount (n : Nat) : Nat :=
  if n = 0 then 0 else (Nat.toDigits 10 n).length

-- The `k` with `10 ^ (k - 1) ≤ num / den < 10 ^ k`, of a positive fraction.
def leading (num den : Nat) : Int :=
  if den ≤ num then digitCount (num / den) else 1 - (digitCount ((den - 1) / num) : Int)

structure Scaled where
  digits : Nat
  exponent : Int
  deriving DecidableEq, Repr

-- Only a power of ten on the coarsest grid is met with a zero at its end.
def Scaled.reduced (s : Scaled) : Scaled :=
  if s.digits % 10 = 0 then ⟨s.digits / 10, s.exponent + 1⟩ else s

-- The first of ever finer grids with a point in the interval. Seventeen digits always suffice.
def Interval.shortest (i : Interval) : Scaled :=
  let top := leading i.middle i.unit
  let found := (List.range 17).findSome? fun (places : Nat) =>
    (i.onGrid? (top - 1 - places)).map (Scaled.mk · (top - 1 - places))
  (found.getD ⟨i.middle, 0⟩).reduced

end ReversePolish.Decimal
