import Pipework.Random
import Pipework.Surface

/-!
# Pipes

A pipe has a cell, a heading with which it leaves the cell, and a style: a palette entry and a glyph table.
Each advance takes it one cell on. Where that would leave the screen it wraps to the opposite edge, or bounces
off the edge; then it keeps its heading or turns, and a pipe that wrapped takes a new style.
-/

namespace Pipework

structure Pipe where
  x : Int
  y : Int
  heading : Direction
  color : Nat
  glyphs : GlyphTable
deriving DecidableEq

/-- Whether a cell lies on a screen. -/
def OnScreen (width height x y : Int) : Prop := 0 ≤ x ∧ x < width ∧ 0 ≤ y ∧ y < height

instance (width height x y : Int) : Decidable (OnScreen width height x y) := by
  unfold OnScreen; infer_instance

/-- The number of `0, …, n - 1` nearest to `v`. -/
def clamp (v n : Int) : Int := min (max v 0) (n - 1)

theorem clamp_bounds {n : Int} (v : Int) (h : 1 ≤ n) : 0 ≤ clamp v n ∧ clamp v n < n := by
  unfold clamp; omega

/-- A cell that a pipe enters, the heading with which it enters, and whether it wrapped to get there. -/
structure Entry where
  x : Int
  y : Int
  heading : Direction
  wrapped : Bool
deriving DecidableEq

/-- The cell that a pipe enters next. Wrapping on a screen without width or height fails. -/
def Pipe.enter (p : Pipe) (boundary : Boundary) (width height : Int) : Except Fault Entry :=
  let x := p.x + p.heading.dx
  let y := p.y + p.heading.dy
  if OnScreen width height x y then .ok ⟨x, y, p.heading, false⟩
  else if boundary = .bounce then
    let back := p.heading.opposite
    .ok ⟨clamp (p.x + back.dx) width, clamp (p.y + back.dy) height, back, false⟩
  else if width = 0 ∨ height = 0 then .error .zeroModulus
  else .ok ⟨x.fmod width, y.fmod height, p.heading, true⟩

theorem Pipe.enter_onScreen {p : Pipe} {b : Boundary} {w h : Int} {e : Entry} (hw : 1 ≤ w) (hh : 1 ≤ h)
    (he : p.enter b w h = .ok e) : OnScreen w h e.x e.y := by
  unfold Pipe.enter at he
  dsimp only at he
  split at he
  · next hs => cases he; exact hs
  · split at he
    · cases he
      have := clamp_bounds (p.x + p.heading.opposite.dx) hw
      have := clamp_bounds (p.y + p.heading.opposite.dy) hh
      simp only [OnScreen]; omega
    · split at he
      · cases he
      · cases he
        exact ⟨Int.fmod_nonneg_of_pos _ (by omega), Int.fmod_lt_of_pos _ (by omega),
          Int.fmod_nonneg_of_pos _ (by omega), Int.fmod_lt_of_pos _ (by omega)⟩

/-- On a screen with cells, every pipe enters one. -/
theorem Pipe.enter_eq_ok (p : Pipe) (b : Boundary) {w h : Int} (hw : 1 ≤ w) (hh : 1 ≤ h) :
    ∃ e, p.enter b w h = .ok e := by
  unfold Pipe.enter
  dsimp only
  split
  · exact ⟨_, rfl⟩
  · split
    · exact ⟨_, rfl⟩
    · rw [if_neg (by omega)]
      exact ⟨_, rfl⟩

/-- The number drawn has to be below this for a pipe to turn; there is none if it is beyond the doubles. -/
def Settings.turnThreshold? (s : Settings) : Option Float :=
  let size := Float.ofScientific s.turnChance.natAbs true 2
  if size.isFinite then some (if s.turnChance < 0 then -size else size) else none

theorem Settings.turnThreshold?_isSome {s : Settings} (h : 0 ≤ s.turnChance ∧ s.turnChance ≤ 100) :
    s.turnThreshold?.isSome := by
  have finite : ∀ n ≤ 100, (Float.ofScientific n true 2).isFinite := by decide +kernel
  simp [turnThreshold?, finite _ (show s.turnChance.natAbs ≤ 100 by omega)]

section Draws

variable {ρ : Type} [RandomSource ρ]

/-- The heading with which a pipe leaves a cell: one at right angles if the chance has it, else the same. -/
def chooseHeading (s : Settings) (entering : Direction) : Act ρ Direction := fun g =>
  let (r, g) := RandomSource.unit g
  match s.turnThreshold? with
  | none => .error .hugeChance g
  | some threshold =>
    if r < threshold then
      let (i, g) := RandomSource.below 2 (by decide) g
      .ok entering.turns[i] g
    else .ok entering g

/-- A palette entry and one of the tables. -/
def drawStyle (s : Settings) (tables : List GlyphTable) : Act ρ (Nat × GlyphTable) := fun g =>
  match s.palette.colors? with
  | none => .error (.missingPalette s.palette.name) g
  | some colors => (do return (← drawBelow colors.length, ← choose tables) : Act ρ _) g

/-- A new pipe. -/
def Pipe.create (s : Settings) (tables : List GlyphTable) (x y : Int) (heading : Direction) : Act ρ Pipe :=
  if tables.isEmpty then Act.fail .outOfRange
  else do
    let (color, glyphs) ← drawStyle s tables
    return ⟨x, y, heading, color, glyphs⟩

end Draws

/-- What a pipe draws in its cell, which it entered with a given heading. -/
def Pipe.mark (p : Pipe) (entering : Direction) : Mark :=
  ⟨p.x, p.y, p.glyphs.glyph entering p.heading, p.color⟩

/-- A pipe and the source that it draws from. -/
structure Walk (ρ : Type) where
  pipe : Pipe
  source : ρ

namespace Walk

variable {ρ : Type} [RandomSource ρ]

/-- Gives the pipe a new style. -/
def restyle (s : Settings) (tables : List GlyphTable) : Act (Walk ρ) Unit := do
  let (color, glyphs) ← (drawStyle s tables).on source fun w g => { w with source := g }
  modify fun w => { w with pipe := { w.pipe with color, glyphs } }

/--
Moves the pipe one cell on, and gives what it draws there. The pipe moves before it chooses a heading, and
chooses before it takes a new style.
-/
def advance (s : Settings) (tables : List GlyphTable) (width height : Int) : Act (Walk ρ) Mark := fun w =>
  match w.pipe.enter s.boundary width height with
  | .error e => .error e w
  | .ok entry =>
    let moved := { w.pipe with x := entry.x, y := entry.y, heading := entry.heading }
    match chooseHeading s entry.heading w.source with
    | .error e g => .error e ⟨moved, g⟩
    | .ok heading g =>
      let w : Walk ρ := ⟨{ moved with heading }, g⟩
      if entry.wrapped && !s.keepStyle then
        match restyle s tables w with
        | .error e w => .error e w
        | .ok () w => .ok (w.pipe.mark entry.heading) w
      else .ok (w.pipe.mark entry.heading) w

end Walk

end Pipework
