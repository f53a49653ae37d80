import Pipework.Random

/-!
# Scripted random sources

A scripted source gives the numbers of two sequences, one for the doubles and one for the bounded numbers,
each in its own order; a bounded number is reduced modulo its bound.
-/

namespace Pipework

/-- The sequence that repeats a list for ever, or a single value if the list is empty. -/
def cycle {α : Type} (l : List α) (a : α) (n : Nat) : α := l[n % l.length]?.getD a

/-- Two sequences of numbers, and how many have been given of each. -/
structure Scripted where
  floats : Nat → Float
  ints : Nat → Int
  floatsDrawn : Nat := 0
  intsDrawn : Nat := 0

namespace Scripted

/-- The source that repeats two lists. -/
def ofLists (floats : List Float) (ints : List Int) : Scripted :=
  ⟨cycle floats 0.5, cycle ints 0, 0, 0⟩

def unit (s : Scripted) : Float × Scripted :=
  (s.floats s.floatsDrawn, { s with floatsDrawn := s.floatsDrawn + 1 })

def below (n : Nat) (h : 0 < n) (s : Scripted) : Fin n × Scripted :=
  (⟨(s.ints s.intsDrawn % n).toNat, by
    have := Int.emod_lt_of_pos (s.ints s.intsDrawn) (Int.natCast_pos.2 h)
    omega⟩, { s with intsDrawn := s.intsDrawn + 1 })

instance : RandomSource Scripted := ⟨unit, below⟩

end Scripted

end Pipework
