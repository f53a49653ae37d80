/-!
# The four headings

A pipe heads up, right, down or left; rows count downwards. Each heading has one opposite and two headings
at right angles to it, which are the turns a pipe can take.
-/

namespace Pipework

/-- A heading on the screen. -/
inductive Direction where
  | up
  | right
  | down
  | left
deriving DecidableEq

namespace Direction

/-- The headings in the order that glyph sets index them. -/
def all : List Direction := [up, right, down, left]

/-- The place of a heading in `all`. -/
def index : Direction → Fin 4
  | up => 0
  | right => 1
  | down => 2
  | left => 3

/-- The heading at a place of `all`. -/
def ofIndex : Fin 4 → Direction
  | 0 => up
  | 1 => right
  | 2 => down
  | 3 => left

/-- The columns one step moves. -/
def dx : Direction → Int
  | right => 1
  | left => -1
  | _ => 0

/-- The rows one step moves. -/
def dy : Direction → Int
  | down => 1
  | up => -1
  | _ => 0

def opposite : Direction → Direction
  | up => down
  | right => left
  | down => up
  | left => right

/-- The two headings at right angles, in the order a draw selects them. -/
def turns : Direction → Vector Direction 2
  | up | down => #v[left, right]
  | left | right => #v[up, down]

@[simp] theorem ofIndex_index (d : Direction) : ofIndex d.index = d := by
  cases d <;> rfl

@[simp] theorem index_ofIndex (i : Fin 4) : (ofIndex i).index = i := by
  revert i; decide

@[simp] theorem opposite_opposite (d : Direction) : d.opposite.opposite = d := by
  cases d <;> rfl

@[simp] theorem dx_opposite (d : Direction) : d.opposite.dx = -d.dx := by
  cases d <;> rfl

@[simp] theorem dy_opposite (d : Direction) : d.opposite.dy = -d.dy := by
  cases d <;> rfl

theorem opposite_ne (d : Direction) : d.opposite ≠ d := by
  cases d <;> decide

/-- The turns from a heading are the two that neither keep nor reverse it. -/
theorem mem_turns {d d' : Direction} : d' ∈ d.turns ↔ d' ≠ d ∧ d' ≠ d.opposite := by
  cases d <;> cases d' <;> simp [turns, opposite]

end Direction

end Pipework
