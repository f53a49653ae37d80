import Pipework.Act

/-!
# Random sources

A source gives two kinds of numbers: a double of the unit interval, and a natural number below a bound. All
draws of the library are made of these two, so a sequence of them fixes every animation.
-/

namespace Pipework

/-- A source of random numbers. -/
class RandomSource (ρ : Type) where
  /-- A double from zero up to but not including one. -/
  unit : ρ → Float × ρ
  /-- A number below a positive bound. -/
  below : (n : Nat) → 0 < n → ρ → Fin n × ρ

/-- Sources whose doubles lie in the unit interval. -/
class LawfulSource (ρ : Type) [RandomSource ρ] : Prop where
  unit_nonneg : ∀ g : ρ, 0 ≤ (RandomSource.unit g).1
  unit_lt_one : ∀ g : ρ, (RandomSource.unit g).1 < 1

variable {ρ : Type} [RandomSource ρ]

/-- A number of `0, …, n - 1`; there is none if `n` is not positive, and then nothing is drawn. -/
def drawBelow (n : Int) : Act ρ Nat := fun g =>
  if h : 0 < n.toNat then
    let (i, g) := RandomSource.below n.toNat h g
    .ok i.val g
  else .error .emptyRange g

/-- An entry of a list. -/
def choose {α : Type} (l : List α) : Act ρ α := fun g =>
  if h : 0 < l.length then
    let (i, g) := RandomSource.below l.length h g
    .ok l[i] g
  else .error .outOfRange g

end Pipework
