import Mathlib.Data.Int.Lemmas
import Mathlib.Data.Int.ModEq
import Pipework.Proofs.Trail

/-!
# Coming back on screen

A pipe need not lie on the screen: it may have been left behind by a screen that was once larger. One advance
brings it back from wherever it is. A pipe that wraps comes to the cell which its next cell falls on when the
plane is rolled up on both axes, and one that bounces comes to the cell nearest to the one behind it. Both are
so on the axis that the pipe does not move along as well, for the edge is tested on both axes at once.

The pipe moves before it draws anything, so it is back on screen even if a draw then fails.
-/

namespace Pipework

open Act

variable {width height : Int}

/-! ## The nearest cell -/

def squaredDistance (a b : Int × Int) : Int := (a.1 - b.1) ^ 2 + (a.2 - b.2) ^ 2

/-- The cell is the one cell of the screen that lies nearest to a cell of the plane. -/
structure NearestOnScreen (width height : Int) (target cell : Int × Int) : Prop where
  onScreen : OnScreen width height cell.1 cell.2
  column : ∀ x, 0 ≤ x → x < width → (target.1 - cell.1).natAbs ≤ (target.1 - x).natAbs
  row : ∀ y, 0 ≤ y → y < height → (target.2 - cell.2).natAbs ≤ (target.2 - y).natAbs
  /-- Of all cells of the screen, no other is as near. -/
  nearer : ∀ other, OnScreen width height other.1 other.2 → other ≠ cell →
    squaredDistance target cell < squaredDistance target other

theorem natAbs_sub_clamp_lt {v x n : Int} (hx : 0 ≤ x) (hn : x < n) (hne : x ≠ clamp v n) :
    (v - clamp v n).natAbs < (v - x).natAbs := by
  unfold clamp at hne ⊢
  omega

theorem natAbs_sub_clamp_le {v x n : Int} (hx : 0 ≤ x) (hn : x < n) :
    (v - clamp v n).natAbs ≤ (v - x).natAbs := by
  by_cases hne : x = clamp v n
  · rw [hne]
  · exact (natAbs_sub_clamp_lt hx hn hne).le

theorem nearestOnScreen_clamp (hw : 1 ≤ width) (hh : 1 ≤ height) (target : Int × Int) :
    NearestOnScreen width height target (clamp target.1 width, clamp target.2 height) := by
  obtain ⟨hx, hx'⟩ := clamp_bounds target.1 hw
  obtain ⟨hy, hy'⟩ := clamp_bounds target.2 hh
  refine ⟨⟨hx, hx', hy, hy'⟩, fun x => natAbs_sub_clamp_le, fun y => natAbs_sub_clamp_le, ?_⟩
  intro other hon hne
  obtain ⟨hx, hx', hy, hy'⟩ := hon
  simp only [squaredDistance]
  -- the other cell is strictly farther on one axis, and not nearer on the other
  by_cases hcolumn : other.1 = clamp target.1 width
  · have hrow : other.2 ≠ clamp target.2 height := fun h => hne (Prod.ext hcolumn h)
    rw [hcolumn]
    exact Int.add_lt_add_left (Int.natAbs_lt_iff_sq_lt.1 (natAbs_sub_clamp_lt hy hy' hrow)) _
  · apply Int.add_lt_add_of_lt_of_le
    · exact Int.natAbs_lt_iff_sq_lt.1 (natAbs_sub_clamp_lt hx hx' hcolumn)
    · exact Int.natAbs_le_iff_sq_le.1 (natAbs_sub_clamp_le hy hy')

/-! ## Landing -/

/-- Where a pipe comes to when it is taken one cell on, from wherever it was. -/
structure Pipe.Landed (b : Boundary) (width height : Int) (p p' : Pipe) : Prop where
  onScreen : OnScreen width height p'.x p'.y
  inside : OnScreen width height (p.x + p.heading.dx) (p.y + p.heading.dy) →
    (p'.x, p'.y) = neighbour (p.x, p.y) p.heading
  wrap : b ≠ .bounce →
    p'.x ≡ p.x + p.heading.dx [ZMOD width] ∧ p'.y ≡ p.y + p.heading.dy [ZMOD height]
  bounce : b = .bounce → ¬ OnScreen width height (p.x + p.heading.dx) (p.y + p.heading.dy) →
    NearestOnScreen width height (neighbour (p.x, p.y) p.heading.opposite) (p'.x, p'.y)

theorem Pipe.landed_of_enter {p p' : Pipe} {b : Boundary} {entry : Entry} (hw : 1 ≤ width) (hh : 1 ≤ height)
    (henter : p.enter b width height = .ok entry) (hx : p'.x = entry.x) (hy : p'.y = entry.y) :
    p.Landed b width height p' := by
  refine { onScreen := ?_, inside := fun hon => ?_, wrap := fun hb => ?_, bounce := fun hb hoff => ?_ }
  · rw [hx, hy]
    exact enter_onScreen hw hh henter
  · rw [enter_inside hon] at henter
    cases henter
    rw [hx, hy]
    rfl
  · obtain ⟨wrapped, hwrap⟩ := enter_wrap (p := p) hb hw hh
    rw [hwrap] at henter
    cases henter
    rw [hx, hy]
    exact ⟨Int.mod_modEq _ _, Int.mod_modEq _ _⟩
  · subst hb
    rw [enter_edge hoff] at henter
    cases henter
    rw [hx, hy]
    exact nearestOnScreen_clamp hw hh (neighbour (p.x, p.y) p.heading.opposite)

variable {ρ : Type} [RandomSource ρ] {S : Settings} {tables : List GlyphTable} {w : Walk ρ}

/-- A new style leaves a pipe where it is, even if it cannot be drawn. -/
theorem Walk.left_restyle_cell (tables : List GlyphTable) (w : Walk ρ) :
    (left (restyle S tables w)).pipe.x = w.pipe.x ∧ (left (restyle S tables w)).pipe.y = w.pipe.y := by
  apply (ends_left (P := fun w' : Walk ρ => w'.pipe.x = w.pipe.x ∧ w'.pipe.y = w.pipe.y)).1
  refine ends_bind.2 (ends_on.2 ?_)
  cases drawStyle S tables w.source with
  | ok style g => exact ⟨rfl, rfl⟩
  | error e g => exact ⟨rfl, rfl⟩

/-- An advance leaves the pipe in the cell that it enters, whatever comes of its draws. -/
theorem Walk.left_advance_cell (tables : List GlyphTable) {entry : Entry}
    (henter : w.pipe.enter S.boundary width height = .ok entry) :
    (left (advance S tables width height w)).pipe.x = entry.x ∧
      (left (advance S tables width height w)).pipe.y = entry.y := by
  simp only [advance, henter]
  split
  · exact ⟨rfl, rfl⟩
  · next heading g _ =>
    split
    · have hstyle := left_restyle_cell (S := S) tables
        ⟨{ w.pipe with x := entry.x, y := entry.y, heading }, g⟩
      split
      · next heq =>
        rw [heq] at hstyle
        exact hstyle
      · next heq =>
        rw [heq] at hstyle
        exact hstyle
    · exact ⟨rfl, rfl⟩

/-- On a screen with cells, one advance brings a pipe back on screen from wherever it is, and draws it where it
then is; with valid settings the advance has a result. -/
theorem Walk.advance_lands (hw : 1 ≤ width) (hh : 1 ≤ height) (S : Settings) (tables : List GlyphTable)
    (w : Walk ρ) :
    Ends (fun mark w' => (mark.x, mark.y) = (w'.pipe.x, w'.pipe.y) ∧
        w.pipe.Landed S.boundary width height w'.pipe)
      (fun _ w' => w.pipe.Landed S.boundary width height w'.pipe) (advance S tables width height w) ∧
    (S.Valid → tables ≠ [] → ∃ mark w', advance S tables width height w = .ok mark w') := by
  obtain ⟨entry, henter⟩ := w.pipe.enter_eq_ok S.boundary hw hh
  obtain ⟨hx, hy⟩ := left_advance_cell tables henter
  have hlanded := Pipe.landed_of_enter hw hh henter hx hy
  constructor
  · cases hadvance : advance S tables width height w with
    | ok mark w' =>
      obtain ⟨-, -, hmark⟩ := advance_pipe henter hadvance
      rw [hadvance] at hlanded
      refine ⟨?_, hlanded⟩
      rw [hmark]
      rfl
    | error e w' =>
      rw [hadvance] at hlanded
      exact hlanded
  · intro valid ht
    obtain ⟨entering, w', hadvance, -⟩ := advance_eq valid (List.length_pos_iff.2 ht) hw hh w
    exact ⟨_, w', hadvance⟩

/-- A pipe far to the left of a small screen and far below it turns back to the corner. -/
theorem Walk.advance_lands_corner :
    let S : Settings := { boundary := .bounce }
    let table : GlyphTable := .ofSet #v['┃', '┏', ' ', '┓', '┛', '━', '┓', ' ', ' ', '┗', '┃', '┛', '┗', ' ', '┏', '━']
    let w : Walk Scripted := ⟨⟨-1000, 57, .right, 0, table⟩, .ofLists [0.5] [0]⟩
    (1 : Int) ≤ 3 ∧ (1 : Int) ≤ 2 ∧ S.Valid ∧ [table] ≠ [] ∧
      ∃ mark w', advance S [table] 3 2 w = .ok mark w' ∧ (mark.x, mark.y) = (w'.pipe.x, w'.pipe.y) ∧
        NearestOnScreen 3 2 (-1001, 57) (w'.pipe.x, w'.pipe.y) := by
  intro S table w
  have valid : S.Valid := by decide +kernel
  have htables : [table] ≠ [] := List.cons_ne_nil _ _
  obtain ⟨hends, hexists⟩ := advance_lands (show (1 : Int) ≤ 3 by decide) (show (1 : Int) ≤ 2 by decide) S [table] w
  obtain ⟨mark, w', hadvance⟩ := hexists valid htables
  rw [hadvance] at hends
  exact ⟨by decide, by decide, valid, htables, mark, w', hadvance, hends.1, hends.2.bounce rfl (by decide)⟩

end Pipework
