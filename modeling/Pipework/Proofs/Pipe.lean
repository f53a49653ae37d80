import Pipework.Proofs.Act
import Pipework.Proofs.Settings

/-!
# Pipes stay in shape

A pipe fits a screen if it lies on it and its style is one that the settings allow. With valid settings every
draw has a result, a new pipe is in style, and an advance brings any pipe in style onto any screen with cells,
wherever it was: an advance never fails, and what it draws is drawn where the pipe then is.
-/

namespace Pipework

open Act

variable {ρ : Type} [RandomSource ρ]

/-! ## Draws -/

theorem drawBelow_eq {n : Int} (h : 0 < n) (g : ρ) : ∃ i g', drawBelow n g = .ok i g' ∧ (i : Int) < n := by
  have hn : 0 < n.toNat := by omega
  have hlt := (RandomSource.below n.toNat hn g).1.isLt
  exact ⟨_, _, dif_pos hn, by omega⟩

theorem choose_eq {α : Type} {l : List α} (h : 0 < l.length) (g : ρ) : ∃ a g', choose l g = .ok a g' ∧ a ∈ l :=
  ⟨_, _, dif_pos h, List.getElem_mem _⟩

theorem chooseHeading_eq {s : Settings} (hs : s.Valid) (entering : Direction) (g : ρ) :
    ∃ heading g', chooseHeading s entering g = .ok heading g' := by
  obtain ⟨threshold, hthreshold⟩ := hs.threshold
  simp only [chooseHeading, hthreshold]
  split
  · exact ⟨_, _, rfl⟩
  · exact ⟨_, _, rfl⟩

theorem chooseHeading_of_ok {s : Settings} {entering leaving : Direction} {g g' : ρ}
    (h : chooseHeading s entering g = .ok leaving g') :
    ∃ threshold, s.turnThreshold? = some threshold ∧
      ((RandomSource.unit g).1 < threshold ∧ leaving ∈ entering.turns ∨
        ¬ (RandomSource.unit g).1 < threshold ∧ leaving = entering) := by
  unfold chooseHeading at h
  dsimp only at h
  split at h
  · cases h
  · next threshold hthreshold =>
    refine ⟨threshold, hthreshold, ?_⟩
    split at h
    · next hlt =>
      cases h
      exact .inl ⟨hlt, Vector.getElem_mem _⟩
    · next hlt =>
      cases h
      exact .inr ⟨hlt, rfl⟩

theorem chooseHeading_ne_opposite {s : Settings} {entering leaving : Direction} {g g' : ρ}
    (h : chooseHeading s entering g = .ok leaving g') : leaving ≠ entering.opposite := by
  obtain ⟨threshold, -, ⟨-, hturns⟩ | ⟨-, rfl⟩⟩ := chooseHeading_of_ok h
  · exact (Direction.mem_turns.1 hturns).2
  · exact (Direction.opposite_ne leaving).symm

/-! ## Styles -/

/-- A palette entry and a table that settings allow. -/
structure Styled (s : Settings) (tables : List GlyphTable) (color : Nat) (glyphs : GlyphTable) : Prop where
  color : ∃ colors, s.palette.colors? = some colors ∧ color < colors.length
  glyphs : glyphs ∈ tables

variable {s : Settings} {tables : List GlyphTable}

theorem tables_length_pos (hs : s.Valid) (ht : s.tables = .ok tables) : 0 < tables.length := by
  obtain ⟨_, htables, hpos⟩ := hs.tables
  rw [ht] at htables
  cases htables
  exact hpos

theorem drawStyle_eq (hs : s.Valid) (ht : 0 < tables.length) (g : ρ) :
    ∃ color glyphs g', drawStyle s tables g = .ok (color, glyphs) g' ∧ Styled s tables color glyphs := by
  obtain ⟨colors, hcolors⟩ := hs.colors
  have hpos := Palette.colors?_length_pos hcolors
  obtain ⟨color, g', hcolor, hlt⟩ := drawBelow_eq (n := colors.length) (by omega) g
  obtain ⟨glyphs, g'', hglyphs, hmem⟩ := choose_eq ht g'
  refine ⟨color, glyphs, g'', ?_, ⟨colors, hcolors, by omega⟩, hmem⟩
  simp only [drawStyle, hcolors]
  rw [bind_of_ok hcolor, bind_of_ok hglyphs]
  rfl

/-- A pipe that lies on a screen, in a style that the settings allow. -/
structure Pipe.Fits (s : Settings) (tables : List GlyphTable) (width height : Int) (p : Pipe) : Prop where
  onScreen : OnScreen width height p.x p.y
  styled : Styled s tables p.color p.glyphs

theorem Pipe.create_eq (hs : s.Valid) (ht : 0 < tables.length) (x y : Int) (heading : Direction) (g : ρ) :
    ∃ color glyphs g', Pipe.create s tables x y heading g = .ok ⟨x, y, heading, color, glyphs⟩ g' ∧
      Styled s tables color glyphs := by
  obtain ⟨color, glyphs, g', hstyle, hstyled⟩ := drawStyle_eq hs ht g
  refine ⟨color, glyphs, g', ?_, hstyled⟩
  have hne : ¬tables.isEmpty = true := by
    rw [List.isEmpty_iff_length_eq_zero]
    exact Nat.pos_iff_ne_zero.1 ht
  rw [Pipe.create, if_neg hne, bind_of_ok hstyle]
  rfl

/-! ## Advances -/

theorem Walk.restyle_eq (hs : s.Valid) (ht : 0 < tables.length) (w : Walk ρ) :
    ∃ color glyphs g, Walk.restyle s tables w = .ok () ⟨{ w.pipe with color, glyphs }, g⟩ ∧
      Styled s tables color glyphs := by
  obtain ⟨color, glyphs, g, hstyle, hstyled⟩ := drawStyle_eq hs ht w.source
  refine ⟨color, glyphs, g, ?_, hstyled⟩
  rw [Walk.restyle, bind_of_ok (on_of_ok hstyle)]
  rfl

/-- An advance draws a pipe where it then is; a pipe in style is then on the screen, and still in style. -/
theorem Walk.advance_eq (hs : s.Valid) (ht : 0 < tables.length) {width height : Int} (hw : 1 ≤ width)
    (hh : 1 ≤ height) (w : Walk ρ) :
    ∃ entering w', Walk.advance s tables width height w = .ok (w'.pipe.mark entering) w' ∧
      (Styled s tables w.pipe.color w.pipe.glyphs → w'.pipe.Fits s tables width height) := by
  obtain ⟨entry, hentry⟩ := w.pipe.enter_eq_ok s.boundary hw hh
  obtain ⟨heading, g, hheading⟩ := chooseHeading_eq hs entry.heading w.source
  have hon := Pipe.enter_onScreen hw hh hentry
  let moved : Pipe := { w.pipe with x := entry.x, y := entry.y, heading }
  simp only [Walk.advance, hentry, hheading]
  split
  · -- the pipe wrapped and takes a new style
    obtain ⟨color, glyphs, g', hstyle, hstyled⟩ := Walk.restyle_eq hs ht ⟨moved, g⟩
    rw [hstyle]
    exact ⟨entry.heading, ⟨{ moved with color, glyphs }, g'⟩, rfl, fun _ => ⟨hon, hstyled⟩⟩
  · exact ⟨entry.heading, ⟨moved, g⟩, rfl, fun hp => ⟨hon, hp⟩⟩

end Pipework
