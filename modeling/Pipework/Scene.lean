import Pipework.Pipe
import Pipework.Tables

/-!
# Scenes

A scene is an animation at one moment: its pipes on a screen of known size, how much has been drawn since the
canvas was last wiped, and the random source and the surface that it works with. A tick takes every pipe one
cell on, in order, and draws it; once the limit is reached the canvas is wiped before the next glyph. A resize
starts afresh on a screen of the new size.
-/

namespace Pipework

structure Scene (ρ σ : Type) where
  settings : Settings
  tables : List GlyphTable
  width : Int
  height : Int
  pipes : List Pipe
  /-- Glyphs drawn since the canvas was last wiped. -/
  drawn : Nat
  /-- How often the limit has been reached. -/
  resets : Nat
  running : Bool
  source : ρ
  surface : σ

namespace Scene

variable {ρ σ α : Type}

/-- An act on the random source of a scene. -/
def onSource (act : Act ρ α) : Act (Scene ρ σ) α :=
  act.on source fun s g => { s with source := g }

/-- An act on the surface of a scene. -/
def onSurface (act : Act σ α) : Act (Scene ρ σ) α :=
  act.on surface fun s t => { s with surface := t }

/-- An act on pipe `i` of a scene; without such a pipe nothing is done. -/
def onPipe (i : Nat) (act : Act (Walk ρ) α) : Act (Scene ρ σ) (Option α) := fun s =>
  match s.pipes[i]? with
  | none => .ok none s
  | some pipe =>
    match act ⟨pipe, s.source⟩ with
    | .ok a w => .ok (some a) { s with pipes := s.pipes.set i w.pipe, source := w.source }
    | .error e w => .error e { s with pipes := s.pipes.set i w.pipe, source := w.source }

/-- Moves pipe `i` to a cell. -/
def place (i : Nat) (x y : Int) (s : Scene ρ σ) : Scene ρ σ :=
  { s with pipes := s.pipes.modify i fun p => { p with x, y } }

/-! ## Pipes -/

variable [RandomSource ρ]

/-- The cell a pipe starts in: the centre, or any cell, its column drawn before its row. -/
def startPosition : Act (Scene ρ σ) (Int × Int) := do
  let s ← get
  if s.settings.randomStart then
    let x ← onSource (drawBelow s.width)
    let y ← onSource (drawBelow s.height)
    return (x, y)
  else return (s.width / 2, s.height / 2)

/-- Adds one new pipe. -/
def spawnOne : Act (Scene ρ σ) Unit := do
  let (x, y) ← startPosition
  let heading ← onSource (choose Direction.all)
  let s ← get
  let pipe ← onSource (Pipe.create s.settings s.tables x y heading)
  modify fun s => { s with pipes := s.pipes ++ [pipe] }

/-- Replaces all pipes by new ones. -/
def spawn : Act (Scene ρ σ) Unit := do
  modify fun s => { s with pipes := [] }
  (List.range (← get).settings.pipes.toNat).forM fun _ => spawnOne

/-- Moves every pipe to a new start position. -/
def scatter : Act (Scene ρ σ) Unit := do
  (List.range (← get).pipes.length).forM fun i => do
    let (x, y) ← startPosition
    modify (place i x y)

/-- Takes pipe `i` one cell on, and gives what it draws there. -/
def advancePipe (i : Nat) : Act (Scene ρ σ) (Option Mark) := do
  let s ← get
  onPipe i (Walk.advance s.settings s.tables s.width s.height)

/-! ## The surface -/

variable [Surface σ]

/-- The scene that an animation starts with. -/
def create (settings : Settings) (source : ρ) (surface : σ) : Except Fault (Scene ρ σ) := do
  let tables ← settings.tables
  let ((width, height), surface) := Surface.size surface
  match spawn ⟨settings, tables, width, height, [], 0, 0, false, source, surface⟩ with
  | .ok () s => .ok s
  | .error e _ => .error e

/-- Wipes the canvas and counts the reset. -/
def wipe : Act (Scene ρ σ) Unit :=
  modify fun s => { s with surface := Surface.clear s.surface, drawn := 0, resets := s.resets + 1 }

/-- Wipes the canvas because the limit is reached; pipes that start anywhere go on from new cells. -/
def reset : Act (Scene ρ σ) Unit := do
  wipe
  if (← get).settings.randomStart then scatter

/-- Starts afresh on a screen of the surface's present size. -/
def resize : Act (Scene ρ σ) Unit := do
  modify fun s =>
    let ((width, height), surface) := Surface.size s.surface
    { s with width, height, surface := Surface.clear surface, drawn := 0 }
  spawn

/-! ## Ticks -/

/-- Whether the canvas has to be wiped before the next glyph. -/
def isFull (s : Scene ρ σ) : Bool := s.settings.limit ≠ 0 && s.settings.limit ≤ s.drawn

/-- Makes room for one more glyph. -/
def makeRoom : Act (Scene ρ σ) Unit := do
  if (← get).isFull then reset

/-- Puts a mark on the surface and counts it. -/
def draw (mark : Mark) : Act (Scene ρ σ) Unit := do
  onSurface (Surface.put mark)
  modify fun s => { s with drawn := s.drawn + 1 }

/-- Takes pipe `i` one cell on and draws it. -/
def stepPipe (i : Nat) : Act (Scene ρ σ) Unit := do
  makeRoom
  match ← advancePipe i with
  | some mark => draw mark
  | none => pure ()

/-- Takes every pipe one cell on and shows the result. -/
def tick : Act (Scene ρ σ) Unit := do
  (List.range (← get).pipes.length).forM stepPipe
  onSurface Surface.refresh

end Scene

end Pipework
