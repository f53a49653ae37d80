import Pipework.Proofs.Stride
import Pipework.Random.Scripted

/-!
# Unbroken trails

The marks of one pipe make an unbroken trail: each lies in a cell next to the one before it, in the heading with
which the pipe left that one, and shows how the pipe got from the one to the other. Where a pipe wraps, cells
lie next to each other on a torus. Where it bounces, the heading is reversed if there is no next cell, and only
on an axis of a single cell does the pipe then stay where it is.
-/

namespace Pipework

def Direction.extent (width height : Int) : Direction → Int
  | left | right => width
  | up | down => height

/-- The next cell in a heading, on a plane without edges. -/
def neighbour (cell : Int × Int) (d : Direction) : Int × Int := (cell.1 + d.dx, cell.2 + d.dy)

/-- The cell of a torus that a cell of the plane falls on. -/
def onTorus (width height : Int) (cell : Int × Int) : Int × Int := (cell.1 % width, cell.2 % height)

def Stride.cell (v : Stride) : Int × Int := (v.mark.x, v.mark.y)

/-- How a stride goes on from a cell that the pipe left with a heading. -/
structure Stride.Continues (b : Boundary) (width height : Int) (cell : Int × Int) (leaving : Direction)
    (v : Stride) : Prop where
  wrap : b = .wrap → v.entering = leaving ∧ v.cell = onTorus width height (neighbour cell leaving)
  inside : b = .bounce → OnScreen width height (neighbour cell leaving).1 (neighbour cell leaving).2 →
    v.entering = leaving ∧ v.cell = neighbour cell leaving
  edge : b = .bounce → ¬ OnScreen width height (neighbour cell leaving).1 (neighbour cell leaving).2 →
    v.entering = leaving.opposite ∧ (2 ≤ leaving.extent width height → v.cell = neighbour cell v.entering) ∧
      (leaving.extent width height = 1 → v.cell = cell)
  /-- On an axis of several cells a bouncing pipe moves by one cell, at an edge as elsewhere. -/
  oneCell : b = .bounce → 2 ≤ leaving.extent width height →
    (v.cell.1 - cell.1).natAbs + (v.cell.2 - cell.2).natAbs = 1

structure Unbroken (b : Boundary) (width height : Int) (start : Pipe) (strides : List Stride) : Prop where
  glyph : ∀ v ∈ strides, v.mark.glyph = v.after.glyphs.glyph v.entering v.after.heading
  onScreen : ∀ v ∈ strides, OnScreen width height v.cell.1 v.cell.2
  first : ∀ v ∈ strides.head?, v.Continues b width height (start.x, start.y) start.heading
  next : strides.IsChain fun v next => next.Continues b width height v.cell v.after.heading

variable {b : Boundary} {width height : Int}

theorem natAbs_dx_add_natAbs_dy (d : Direction) : d.dx.natAbs + d.dy.natAbs = 1 := by
  cases d <;> rfl

/-- At an edge a pipe goes back by one cell, or stays if the axis has no other cell. -/
theorem clamp_opposite {x y : Int} {d : Direction} (hon : OnScreen width height x y)
    (hedge : ¬ OnScreen width height (x + d.dx) (y + d.dy)) :
    (2 ≤ d.extent width height →
      clamp (x + d.opposite.dx) width = x + d.opposite.dx ∧
        clamp (y + d.opposite.dy) height = y + d.opposite.dy) ∧
      (d.extent width height = 1 →
        clamp (x + d.opposite.dx) width = x ∧ clamp (y + d.opposite.dy) height = y) := by
  simp only [OnScreen] at hon hedge
  cases d <;> simp only [Direction.extent, Direction.opposite, Direction.dx, Direction.dy, clamp] at * <;> omega

namespace Stride.Sound

variable {v : Stride}

theorem cell (h : v.Sound b width height) : v.cell = (v.after.x, v.after.y) := by
  rw [Stride.cell, h.mark]
  rfl

theorem continues (h : v.Sound b width height) (hw : 1 ≤ width) (hh : 1 ≤ height)
    (hon : OnScreen width height v.before.x v.before.y) :
    v.Continues b width height (v.before.x, v.before.y) v.before.heading := by
  obtain ⟨wrapped, henter⟩ := h.enter
  have hcell := h.cell
  have inside (hnext : OnScreen width height (v.before.x + v.before.heading.dx)
      (v.before.y + v.before.heading.dy)) :
      v.entering = v.before.heading ∧ v.cell = neighbour (v.before.x, v.before.y) v.before.heading := by
    rw [Pipe.enter_inside hnext] at henter
    injection henter with henter
    injection henter with hx hy hheading
    exact ⟨hheading.symm, by rw [hcell, ← hx, ← hy]; rfl⟩
  have edge (hb : b = .bounce) (hnext : ¬ OnScreen width height (v.before.x + v.before.heading.dx)
      (v.before.y + v.before.heading.dy)) :
      v.entering = v.before.heading.opposite ∧
        (2 ≤ v.before.heading.extent width height →
          v.cell = neighbour (v.before.x, v.before.y) v.before.heading.opposite) ∧
        (v.before.heading.extent width height = 1 → v.cell = (v.before.x, v.before.y)) := by
    rw [hb, Pipe.enter_edge hnext] at henter
    injection henter with henter
    injection henter with hx hy hheading
    obtain ⟨hlong, hshort⟩ := clamp_opposite hon hnext
    refine ⟨hheading.symm, fun hextent => ?_, fun hextent => ?_⟩
    · obtain ⟨hx', hy'⟩ := hlong hextent
      rw [hcell, ← hx, ← hy, hx', hy']
      rfl
    · obtain ⟨hx', hy'⟩ := hshort hextent
      rw [hcell, ← hx, ← hy, hx', hy']
  refine { wrap := fun hb => ?_, inside := fun _ => inside, edge := fun hb hnext => ?_, oneCell := fun hb hlong => ?_ }
  · obtain ⟨wrapped', hwrap⟩ := Pipe.enter_wrap (p := v.before) (b := b) (by rw [hb]; decide) hw hh
    rw [hwrap] at henter
    injection henter with henter
    injection henter with hx hy hheading
    exact ⟨hheading.symm, by rw [hcell, ← hx, ← hy]; rfl⟩
  · obtain ⟨hentering, hcells⟩ := edge hb hnext
    rw [hentering]
    exact ⟨rfl, hcells⟩
  · -- either way the cell is a neighbour
    obtain ⟨d, hd⟩ : ∃ d, v.cell = neighbour (v.before.x, v.before.y) d := by
      by_cases hnext : OnScreen width height (v.before.x + v.before.heading.dx) (v.before.y + v.before.heading.dy)
      · exact ⟨_, (inside hnext).2⟩
      · exact ⟨_, (edge hb hnext).2.1 hlong⟩
    rw [hd, neighbour, ← natAbs_dx_add_natAbs_dy d]
    congr 2 <;> dsimp only <;> omega

end Stride.Sound

/-! ## Trails -/

variable {ρ : Type} [RandomSource ρ] {S : Settings} {tables : List GlyphTable} {w last : Walk ρ}
  {strides : List Stride}

namespace Walk.Strides

theorem before_head? (h : Strides S tables width height w strides last) :
    ∀ v ∈ strides.head?, v.before = w.pipe := by
  cases h with
  | nil w => simp
  | cons enter advance rest => simp

theorem onScreen (h : Strides S tables width height w strides last) (hw : 1 ≤ width) (hh : 1 ≤ height)
    (hon : OnScreen width height w.pipe.x w.pipe.y) :
    ∀ v ∈ strides, OnScreen width height v.before.x v.before.y ∧ OnScreen width height v.after.x v.after.y := by
  induction h with
  | nil w => simp
  | @cons w w' last entry mark strides enter advance rest ih =>
    obtain ⟨hx, hy, -⟩ := advance_pipe enter advance
    have hon' : OnScreen width height w'.pipe.x w'.pipe.y := by
      rw [hx, hy]
      exact Pipe.enter_onScreen hw hh enter
    intro v hv
    rcases List.mem_cons.1 hv with rfl | hv
    · exact ⟨hon, hon'⟩
    · exact ih hon' v hv

theorem unbroken (h : Strides S tables width height w strides last) (hw : 1 ≤ width) (hh : 1 ≤ height)
    (hon : OnScreen width height w.pipe.x w.pipe.y) : Unbroken S.boundary width height w.pipe strides := by
  have hsound := h.sound
  have hscreen := h.onScreen hw hh hon
  have hcontinues (v) (hv : v ∈ strides) :
      v.Continues S.boundary width height (v.before.x, v.before.y) v.before.heading :=
    (hsound v hv).continues hw hh (hscreen v hv).1
  refine { glyph := fun v hv => ?_, onScreen := fun v hv => ?_, first := fun v hv => ?_, next := ?_ }
  · rw [(hsound v hv).mark]
    rfl
  · rw [(hsound v hv).cell]
    exact (hscreen v hv).2
  · rw [← h.before_head? v hv]
    exact hcontinues v (List.mem_of_mem_head? hv)
  · -- each stride goes on from the pipe that the one before it left
    refine List.IsChain.imp_of_mem_imp (fun v next hv hnext hbefore => ?_) h.chain
    rw [(hsound v hv).cell, ← hbefore]
    exact hcontinues next hnext

end Walk.Strides

/-- On a screen with cells, the strides of a pipe that starts there draw an unbroken trail, and there are as many
of them as one likes if the settings are valid. -/
theorem trail_unbroken (hw : 1 ≤ width) (hh : 1 ≤ height) (hon : OnScreen width height w.pipe.x w.pipe.y) :
    (S.Valid → tables ≠ [] → ∀ n, ∃ strides last, strides.length = n ∧
      Walk.Strides S tables width height w strides last) ∧
    ∀ strides last, Walk.Strides S tables width height w strides last →
      Unbroken S.boundary width height w.pipe strides :=
  ⟨fun valid ht n => Walk.exists_strides valid ht hw hh n w, fun _ _ h => h.unbroken hw hh hon⟩

/-- A pipe that bounces between the walls of a single column, and turns now and then. -/
theorem trail_unbroken_column :
    let S : Settings := { boundary := .bounce, turnChance := 50 }
    let table : GlyphTable := .ofSet #v['┃', '┏', ' ', '┓', '┛', '━', '┓', ' ', ' ', '┗', '┃', '┛', '┗', ' ', '┏', '━']
    let w : Walk Scripted := ⟨⟨0, 2, .right, 0, table⟩, .ofLists [0.25, 0.75] [0, 1]⟩
    (1 : Int) ≤ 1 ∧ (1 : Int) ≤ 3 ∧ OnScreen 1 3 w.pipe.x w.pipe.y ∧
      ∃ strides last, strides.length = 9 ∧ Walk.Strides S [table] 1 3 w strides last ∧
        Unbroken .bounce 1 3 w.pipe strides := by
  intro S table w
  have valid : S.Valid := by decide +kernel
  have hon : OnScreen 1 3 w.pipe.x w.pipe.y := by decide
  have htables : [table] ≠ [] := List.cons_ne_nil _ _
  obtain ⟨hexists, hunbroken⟩ := trail_unbroken (S := S) (by decide) (by decide) hon
  obtain ⟨strides, last, hlength, hstrides⟩ := hexists valid htables 9
  exact ⟨by decide, by decide, hon, strides, last, hlength, hstrides, hunbroken strides last hstrides⟩

end Pipework
