import Pipework.Script

/-!
# Terminal windows

A window keeps a record of the calls made on it, in scripted surroundings. Writing outside it is refused, and
so is, on most terminals, writing in its bottom-right cell; a change of the cursor is refused where the
terminal cannot change it.
-/

namespace Pipework

/-- A call on a window. -/
inductive Call where
  | cursor (visibility : Int)
  | immediate (on : Bool)
  | keypad (on : Bool)
  | clear
  | refresh
  | hasColors
  | startColors
  | defaultColors
  | pair (number : Nat) (foreground background : Int)
  | write (y x : Int) (text : String) (attributes : Nat)
  /-- The write before it was refused. -/
  | refused
deriving DecidableEq

structure Window (τ : Type) where
  script : Script τ
  /-- The visibility of the cursor, if the terminal can change it. -/
  cursor : Option Int
  colors : Bool
  /-- Whether the bottom-right cell can be written. -/
  corner : Bool := false
  /-- The calls made, the latest first. -/
  log : List Call := []

namespace Window

variable {τ : Type}

/-- The calls in the order in which they were made. -/
def calls (w : Window τ) : List Call := w.log.reverse

def width (w : Window τ) : Int := w.script.width

def height (w : Window τ) : Int := w.script.height

/-- Changes the size. -/
def withSize (width height : Int) (w : Window τ) : Window τ :=
  { w with script := { w.script with width, height } }

/-- Records a call. -/
def note (c : Call) (w : Window τ) : Window τ := { w with log := c :: w.log }

/-- An act on the surroundings. -/
def inScript {α : Type} (act : Act (Script τ) α) : Act (Window τ) α :=
  act.on script fun w script => { w with script }

/-- A call that springs a trap ends in its fault. -/
def meet (point : Point) : Act (Window τ) Unit := inScript (Script.meet point)

/-- What a terminal without a changeable cursor answers. -/
def cursorRefused : Fault := .terminal "the cursor cannot be changed"

/-- What a refused write answers. -/
def writeRefused : Fault := .terminal "the cell cannot be written"

/-- Changes the visibility of the cursor and gives the one it had. -/
def setCursor (visibility : Int) : Act (Window τ) Int := do
  modify (note (.cursor visibility))
  match (← get).cursor with
  | none => Act.fail cursorRefused
  | some before =>
    meet .cursor
    modify fun w => { w with cursor := some visibility }
    return before

/-- Whether a cell can be written: it lies in the window, and is not a corner that refuses writes. -/
def Writable (w : Window τ) (y x : Int) : Prop :=
  0 ≤ y ∧ y < w.height ∧ 0 ≤ x ∧ x < w.width ∧ (w.corner ∨ ¬(y = w.height - 1 ∧ x = w.width - 1))

instance (w : Window τ) (y x : Int) : Decidable (w.Writable y x) := by
  unfold Writable; infer_instance

/-- Writes a text at a cell. -/
def write (y x : Int) (text : String) (attributes : Nat) : Act (Window τ) Unit := do
  modify (note (.write y x text attributes))
  meet .put
  if ¬(← get).Writable y x then
    modify (note .refused)
    Act.fail writeRefused

def startColors : Act (Window τ) Unit := do
  modify (note .startColors)
  meet .colors

def refresh [Time τ] : Act (Window τ) Unit := do
  inScript Script.refresh
  modify (note .refresh)

end Window

end Pipework
