import Pipework.Settings

/-!
# Time

Animations run in the time of any clock whose instants and durations can be added, subtracted and compared.
A program runs in doubles; the same definitions can be read over exact numbers.
-/

namespace Pipework

/-- A type of instants and durations. -/
class Time (τ : Type) extends Zero τ, One τ, Add τ, Sub τ, Div τ, BEq τ, LT τ, LE τ where
  decLT : DecidableLT τ
  decLE : DecidableLE τ

namespace Time

variable {τ : Type} [Time τ]

instance : DecidableLT τ := decLT

instance : DecidableLE τ := decLE

/-- The duration if it is positive, else none at all. -/
def positivePart (t : τ) : τ := if 0 < t then t else 0

end Time

instance : Time Float where
  zero := 0
  one := 1
  decLT := inferInstance
  decLE := inferInstance

/-- How fast an animation goes, in frames per unit of time, and after which time it ends. -/
structure Pace (τ : Type) where
  rate : τ
  timeout : Option τ

/-- The duration of a frame; a rate of zero has none. -/
def Pace.delay? {τ : Type} [Time τ] (p : Pace τ) : Option τ :=
  if p.rate == 0 then none else some (1 / p.rate)

/-- The pace that settings ask for. -/
def Settings.pace (s : Settings) : Pace Float := ⟨s.fps, s.timeout⟩

end Pipework
