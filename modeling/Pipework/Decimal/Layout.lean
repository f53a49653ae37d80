import Pipework.Decimal.Shortest

/-!
# Decimal text of doubles

A double is written with the fewest digits that read back as it: positionally, with at least one decimal,
while its decimal exponent lies in a fixed range, and with a signed exponent of at least two digits outside
that range.
-/

namespace Pipework.Decimal

/-- The decimal exponents written positionally are those from `lowest` up to but not including `limit`. -/
structure Layout where
  lowest : Int
  limit : Int
  exponentWidth : Nat

/-- Positional from `0.0001` up to `10 ^ 16`, exponents in two digits or more. -/
def standard : Layout := ⟨-4, 16, 2⟩

/-- The digits of a natural number. -/
def digits (n : Nat) : List Char := Nat.toDigits 10 n

/-- A fraction of no digits is written as one zero. -/
def fraction (ds : List Char) : List Char := if ds.isEmpty then ['0'] else ds

/-- Digits with the point after the one of weight `10 ^ 0`, for digits that start at weight `10 ^ x`. -/
def positional (ds : List Char) (x : Int) : List Char :=
  if x < 0 then '0' :: '.' :: List.replicate (-x - 1).toNat '0' ++ ds
  else
    let whole := x.toNat + 1
    ds.take whole ++ List.replicate (whole - ds.length) '0' ++ '.' :: fraction (ds.drop whole)

/-- One digit before the point, and the exponent `x`. -/
def scientific (width : Nat) (ds : List Char) (x : Int) : List Char :=
  let tail := if ds.length ≤ 1 then [] else '.' :: ds.drop 1
  let xs := digits x.natAbs
  ds.take 1 ++ tail ++ 'e' :: (if x < 0 then '-' else '+')
    :: List.replicate (width - xs.length) '0' ++ xs

/-- The text of a positive decimal. -/
def Layout.magnitude (l : Layout) (d : Scaled) : List Char :=
  let all := digits d.digits
  let x := d.exponent + all.length - 1
  let ds := (all.reverse.dropWhile (· = '0')).reverse
  if l.lowest ≤ x ∧ x < l.limit then positional ds x else scientific l.exponentWidth ds x

/-- The text of a double. -/
def text (f : Float) : String :=
  if f.isNaN then "nan"
  else
    let size :=
      if f.isInf then ['i', 'n', 'f']
      else if f == 0 then ['0', '.', '0']
      else standard.magnitude (Binary.ofBits f.toBits).shortest
    String.ofList (if f.toBits >>> 63 = 1 then '-' :: size else size)

end Pipework.Decimal
