import Mathlib.Data.List.Chain
import Pipework.Proofs.Pipe

/-!
# Strides

A stride is one advance of a pipe: the pipe before and after it, the heading with which the pipe entered its
cell, and what it drew there. Strides follow one another, each from where the one before ended (`chain`), and
what a stride draws is fixed by how it entered its cell and by the pipe after it (`Stride.Sound`). On a screen
with cells, valid settings let a pipe make as many strides as one likes (`exists_strides`).
-/

namespace Pipework

open Act

variable {ρ : Type} [RandomSource ρ] {S : Settings} {tables : List GlyphTable} {width height : Int}

/-! ## Entering a cell -/

namespace Pipe

variable {p : Pipe} {b : Boundary}

theorem enter_inside (hon : OnScreen width height (p.x + p.heading.dx) (p.y + p.heading.dy)) :
    p.enter b width height = .ok ⟨p.x + p.heading.dx, p.y + p.heading.dy, p.heading, false⟩ :=
  if_pos hon

/-- Where a pipe does not bounce, it enters the next cell of a torus, for on the screen that is the next cell. -/
theorem enter_wrap (hb : b ≠ .bounce) (hw : 1 ≤ width) (hh : 1 ≤ height) :
    ∃ wrapped, p.enter b width height =
      .ok ⟨(p.x + p.heading.dx) % width, (p.y + p.heading.dy) % height, p.heading, wrapped⟩ := by
  by_cases hon : OnScreen width height (p.x + p.heading.dx) (p.y + p.heading.dy)
  · obtain ⟨hx, hx', hy, hy'⟩ := id hon
    rw [enter_inside hon, Int.emod_eq_of_lt hx hx', Int.emod_eq_of_lt hy hy']
    exact ⟨false, rfl⟩
  · refine ⟨true, ?_⟩
    simp only [enter]
    rw [if_neg hon, if_neg hb, if_neg (by omega), Int.fmod_eq_emod_of_nonneg _ (by omega),
      Int.fmod_eq_emod_of_nonneg _ (by omega)]

theorem enter_edge (hon : ¬ OnScreen width height (p.x + p.heading.dx) (p.y + p.heading.dy)) :
    p.enter .bounce width height = .ok ⟨clamp (p.x + p.heading.opposite.dx) width,
      clamp (p.y + p.heading.opposite.dy) height, p.heading.opposite, false⟩ := by
  simp only [enter, if_neg hon, reduceIte]

end Pipe

/-! ## What an advance does -/

theorem Walk.restyle_pipe {w w' : Walk ρ} (h : restyle S tables w = .ok () w') :
    ∃ color glyphs, w'.pipe = { w.pipe with color, glyphs } := by
  rw [restyle] at h
  cases hstyle : drawStyle S tables w.source with
  | ok style g =>
    rw [bind_of_ok (on_of_ok hstyle)] at h
    cases h
    exact ⟨style.1, style.2, rfl⟩
  | error e g =>
    have hon : Act.on source (fun w g => { w with source := g }) (drawStyle S tables) w
        = .error e { w with source := g } := by rw [Act.on, hstyle]
    rw [bind_of_error hon] at h
    cases h

/-- An advance takes the pipe into a cell and leaves it there, in the heading it chose, and draws it so. -/
theorem Walk.advance_of_ok {w w' : Walk ρ} {mark : Mark} (h : advance S tables width height w = .ok mark w') :
    ∃ entry g, w.pipe.enter S.boundary width height = .ok entry ∧
      chooseHeading S entry.heading w.source = .ok w'.pipe.heading g ∧
      w'.pipe.x = entry.x ∧ w'.pipe.y = entry.y ∧ mark = w'.pipe.mark entry.heading := by
  unfold advance at h
  cases henter : w.pipe.enter S.boundary width height with
  | error e =>
    rw [henter] at h
    cases h
  | ok entry =>
    simp only [henter] at h
    cases hchoice : chooseHeading S entry.heading w.source with
    | error e g =>
      simp only [hchoice] at h
      cases h
    | ok heading g =>
      refine ⟨entry, g, rfl, ?_⟩
      simp only [hchoice] at h
      split at h
      · -- only the style of the pipe changes after its heading
        split at h
        · cases h
        · next w₂ hstyle =>
          obtain ⟨color, glyphs, hpipe⟩ := restyle_pipe hstyle
          cases h
          rw [hpipe]
          exact ⟨hchoice, rfl, rfl, rfl⟩
      · cases h
        exact ⟨hchoice, rfl, rfl, rfl⟩

theorem Walk.advance_pipe {w w' : Walk ρ} {mark : Mark} {entry : Entry}
    (henter : w.pipe.enter S.boundary width height = .ok entry)
    (h : advance S tables width height w = .ok mark w') :
    w'.pipe.x = entry.x ∧ w'.pipe.y = entry.y ∧ mark = w'.pipe.mark entry.heading := by
  obtain ⟨entry', g, henter', -, hx, hy, hmark⟩ := advance_of_ok h
  rw [henter] at henter'
  cases henter'
  exact ⟨hx, hy, hmark⟩

/-! ## Strides in a row -/

structure Stride where
  before : Pipe
  /-- The heading with which the pipe entered the cell that it drew in. -/
  entering : Direction
  mark : Mark
  after : Pipe

/-- From a walk, its pipe makes some strides that lead to another walk. -/
inductive Walk.Strides (S : Settings) (tables : List GlyphTable) (width height : Int) :
    Walk ρ → List Stride → Walk ρ → Prop where
  | nil (w : Walk ρ) : Strides S tables width height w [] w
  | cons {w w' last : Walk ρ} {entry : Entry} {mark : Mark} {strides : List Stride}
      (enter : w.pipe.enter S.boundary width height = .ok entry)
      (advance : Walk.advance S tables width height w = .ok mark w')
      (rest : Strides S tables width height w' strides last) :
      Strides S tables width height w (⟨w.pipe, entry.heading, mark, w'.pipe⟩ :: strides) last

/-- The stride enters the next cell, and draws what the pipe after it has for its two headings. -/
structure Stride.Sound (b : Boundary) (width height : Int) (v : Stride) : Prop where
  enter : ∃ wrapped, v.before.enter b width height = .ok ⟨v.after.x, v.after.y, v.entering, wrapped⟩
  mark : v.mark = v.after.mark v.entering

namespace Walk.Strides

variable {w last : Walk ρ} {strides : List Stride}

theorem sound (h : Strides S tables width height w strides last) :
    ∀ v ∈ strides, v.Sound S.boundary width height := by
  induction h with
  | nil w => simp
  | @cons w w' last entry mark strides enter advance rest ih =>
    obtain ⟨hx, hy, hmark⟩ := advance_pipe enter advance
    intro v hv
    rcases List.mem_cons.1 hv with rfl | hv
    · refine ⟨⟨entry.wrapped, ?_⟩, hmark⟩
      rw [enter, hx, hy]
    · exact ih v hv

theorem chain (h : Strides S tables width height w strides last) :
    strides.IsChain fun v next => next.before = v.after := by
  induction h with
  | nil w => exact .nil
  | cons enter advance rest ih =>
    cases rest with
    | nil w => exact .singleton _
    | cons enter' advance' rest => exact List.isChain_cons_cons.2 ⟨rfl, ih⟩

end Walk.Strides

theorem Walk.exists_strides (valid : S.Valid) (ht : tables ≠ []) (hw : 1 ≤ width) (hh : 1 ≤ height) (n : Nat)
    (w : Walk ρ) : ∃ strides last, strides.length = n ∧ Strides S tables width height w strides last := by
  induction n generalizing w with
  | zero => exact ⟨[], w, rfl, .nil w⟩
  | succ n ih =>
    obtain ⟨entry, henter⟩ := w.pipe.enter_eq_ok S.boundary hw hh
    obtain ⟨entering, w', hadvance, -⟩ := advance_eq valid (List.length_pos_iff.2 ht) hw hh w
    obtain ⟨strides, last, hlength, hrest⟩ := ih w'
    exact ⟨_ :: strides, last, congrArg (· + 1) hlength, .cons henter hadvance hrest⟩

end Pipework
