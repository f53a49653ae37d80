import Pipework.Terminal.Window

/-!
# Terminals

A terminal is a window used as a surface: palette entries become registered colour pairs, the cursor is hidden
and later put back as it was found, and a glyph that the window refuses is passed over.
-/

namespace Pipework

structure Terminal (τ : Type) where
  window : Window τ
  /-- Colour numbers. -/
  palette : List Int
  bold : Bool
  /-- Whether glyphs are drawn in colour. -/
  color : Bool
  /-- The visibility of the cursor that was found. -/
  cursor : Option Int := none

/-- The attribute that selects a registered pair. -/
def pairAttribute (number : Nat) : Nat := number * 256

/-- The attribute for bold. -/
def boldAttribute : Nat := 2097152

namespace Terminal

variable {τ α : Type}

/-- An act on the window. -/
def inWindow (act : Act (Window τ) α) : Act (Terminal τ) α :=
  act.on window fun t window => { t with window }

/-- Records a call on the window. -/
def note (c : Call) : Act (Terminal τ) Unit := inWindow (modify (Window.note c))

/-- Whether glyphs are to be in colour and the window has colours; it is asked only if they are to be. -/
def wantsColors : Act (Terminal τ) Bool := do
  if (← get).color then
    note .hasColors
    return (← get).window.colors
  else return false

/-- Registers the colours of the palette as pairs, the first as pair one. -/
def registerPalette : Act (Terminal τ) Unit := do
  inWindow Window.startColors
  note .defaultColors
  (← get).palette.zipIdx.forM fun (color, i) => note (.pair (i + 1) color (-1))

/-- Hides the cursor and remembers how it was, if it can be changed. -/
def hideCursor : Act (Terminal τ) Unit := do
  let found ← (inWindow (Window.setCursor 0)).tolerant
  modify fun t => { t with cursor := found }

/-- Registers the palette, or does without colours. -/
def setupColors : Act (Terminal τ) Unit := do
  if ← wantsColors then registerPalette
  else modify fun t => { t with color := false }

/-- Hides the cursor, makes polls immediate, and registers the palette. -/
def setup : Act (Terminal τ) Unit := do
  hideCursor
  note (.immediate true)
  note (.keypad true)
  setupColors
  note .clear

/-- Width and height, at least one each. -/
def size (t : Terminal τ) : Int × Int := (max 1 t.window.width, max 1 t.window.height)

/-- The attributes of a palette entry; entries beyond the palette start it again. -/
def attributes? (t : Terminal τ) (color : Int) : Option Nat :=
  let weight := if t.bold then boldAttribute else 0
  if t.color then
    if t.palette.isEmpty then none
    else some (pairAttribute ((color % t.palette.length).toNat + 1) ||| weight)
  else some weight

/-- Writes a text in a palette entry; a refusal is passed over. -/
def write (x y : Int) (text : String) (color : Int) : Act (Terminal τ) Unit := do
  match (← get).attributes? color with
  | none => Act.fail .zeroModulus
  | some attributes => discard (inWindow (Window.write y x text attributes)).tolerant

/-- Puts the cursor back as it was found. -/
def restore : Act (Terminal τ) Unit := do
  if let some visibility := (← get).cursor then
    discard (inWindow (Window.setCursor visibility)).tolerant

instance [Time τ] : Surface (Terminal τ) where
  size t := (t.size, t)
  put m := write m.x m.y m.glyph.toString m.color
  clear t := { t with window := t.window.note .clear }
  refresh := inWindow Window.refresh
  poll := inWindow (Window.inScript Script.poll)
  restore := restore

instance [Time τ] : Clock (Terminal τ) τ where
  now t := (t.window.script.time, t)
  sleep d := inWindow (Window.inScript (Script.sleep d))

end Terminal

end Pipework
