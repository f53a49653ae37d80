/-!
# The shortest decimal of a binary number

A positive double is `m * 2 ^ q`, and the reals that round to it form an interval around it, which holds its
ends when `m` is even. Its shortest decimal is the number `c * 10 ^ k` in that interval whose `c` has the
fewest digits; of two with equally few, the one nearer to the double. On a grid of powers of ten only the two
neighbours of the double can be that number, so each grid is settled by exact arithmetic on naturals.
-/

namespace Pipework.Decimal

/-- The positive real `mantissa * 2 ^ exponent`; below it the doubles are closer if `narrow` is set. -/
structure Binary where
  mantissa : Nat
  exponent : Int
  narrow : Bool

/-- The magnitude of the finite double with the given bits. -/
def Binary.ofBits (bits : UInt64) : Binary :=
  let leading : Nat := Nat.pow 2 52
  let fraction := bits.toNat % leading
  let biased := bits.toNat / leading % 2048
  if biased = 0 then ⟨fraction, -1074, false⟩
  else ⟨leading + fraction, biased - 1075, fraction = 0 && 1 < biased⟩

/-- The decimal `digits * 10 ^ exponent`. -/
structure Scaled where
  digits : Nat
  exponent : Int

/-- A power whose exponent counts as zero if it is negative. -/
def power (b : Nat) (e : Int) : Nat := Nat.pow b e.toNat

/-- Whether `10 ^ x` is at most the real. -/
def Binary.atLeastPower (v : Binary) (x : Int) : Bool :=
  power 10 x * power 2 (-v.exponent) ≤ v.mantissa * power 2 v.exponent * power 10 (-x)

/-- The exponent of the power of ten at or just below the real, for a positive mantissa. -/
def Binary.magnitude (v : Binary) : Int :=
  let low := (v.mantissa.log2 + v.exponent) * 30103 / 100000 - 1
  if v.atLeastPower (low + 2) then low + 2
  else if v.atLeastPower (low + 1) then low + 1
  else low

/--
The decimal on the grid of multiples of `10 ^ k` that rounds to the real and is nearest to it, if any does.
-/
def Binary.onGrid? (v : Binary) (k : Int) : Option Scaled :=
  let scale := power 2 (v.exponent - 2) * power 10 (-k)
  let unit := power 2 (2 - v.exponent) * power 10 k
  let value := 4 * v.mantissa * scale
  let low := value - (if v.narrow then scale else 2 * scale)
  let high := value + 2 * scale
  let closed := v.mantissa % 2 = 0
  let fits (c : Nat) : Bool :=
    if closed then low ≤ c * unit && c * unit ≤ high else low < c * unit && c * unit < high
  let below := value / unit
  let above := below + 1
  match fits below, fits above with
  | false, false => none
  | true, false => some ⟨below, k⟩
  | false, true => some ⟨above, k⟩
  | true, true =>
    let rise := value - below * unit
    let fall := above * unit - value
    some ⟨if rise < fall ∨ rise = fall ∧ below % 2 = 0 then below else above, k⟩

/-- The shortest decimal: grids from the coarsest, of one digit, to seventeen digits. -/
def Binary.shortest (v : Binary) : Scaled :=
  let x := v.magnitude
  let grids := (List.range 17).map fun (n : Nat) => x - n
  (grids.findSome? v.onGrid?).getD ⟨v.mantissa, 0⟩

end Pipework.Decimal
