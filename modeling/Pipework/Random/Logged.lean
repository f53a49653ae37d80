import Pipework.Random

/-!
# Logged random sources

A logged source draws from another source and keeps a record of what was asked for.
-/

namespace Pipework

/-- A request to a random source. -/
inductive Draw where
  | unit
  | below (n : Nat)
deriving DecidableEq

/-- A source with the draws made from it, the latest first. -/
structure LoggedSource (ρ : Type) where
  inner : ρ
  log : List Draw := []

namespace LoggedSource

variable {ρ : Type} [RandomSource ρ]

/-- The draws in the order in which they were made. -/
def draws (s : LoggedSource ρ) : List Draw := s.log.reverse

instance : RandomSource (LoggedSource ρ) where
  unit s :=
    let (r, g) := RandomSource.unit s.inner
    (r, ⟨g, .unit :: s.log⟩)
  below n h s :=
    let (i, g) := RandomSource.below n h s.inner
    (i, ⟨g, .below n :: s.log⟩)

end LoggedSource

end Pipework
