import Mathlib.Data.Int.ModEq
import Pipework.Proofs.Draws
import Pipework.Proofs.Fraction
import Pipework.Proofs.Plane
import Pipework.Proofs.Turning

/-!
# Straight motion

A pipe that never turns stays on its row or column. Seen in the heading in which it starts, it goes round and round the
cells of that line if it wraps, and to and fro between its ends if it bounces. To and fro on `n` cells is a circle of
`2 * (n - 1)`: the way there has one phase for each cell, and the way back goes through the negatives of them, so both
ways share the phases of the two ends (`InPhase`). A step takes a pipe to the next phase, whether it goes on or bounces
(`InPhase.enter`), and the cell can be read off the phase (`InPhase.along_eq`). A pipe that wraps takes a new style each
time it comes round.
-/

namespace Pipework

open Act

/-! ## Lines -/

/-- How many cells of its line lie behind a cell, seen in a heading. -/
def Direction.along (width height : Int) (cell : Int × Int) : Direction → Int
  | right => cell.1
  | left => width - 1 - cell.1
  | down => cell.2
  | up => height - 1 - cell.2

/-- The row of a heading to the left or right, the column of one up or down. -/
def Direction.line (cell : Int × Int) : Direction → Int
  | right | left => cell.2
  | up | down => cell.1

variable {width height : Int} {d : Direction} {cell : Int × Int}

theorem Direction.along_bounds (hon : OnScreen width height cell.1 cell.2) :
    0 ≤ d.along width height cell ∧ d.along width height cell < d.extent width height := by
  obtain ⟨hx, hx', hy, hy'⟩ := hon
  cases d <;> simp only [along, extent] <;> omega

theorem Direction.along_neighbour : d.along width height (neighbour cell d) = d.along width height cell + 1 := by
  cases d <;> simp only [along, neighbour, dx, dy] <;> omega

theorem Direction.along_neighbour_opposite :
    d.along width height (neighbour cell d.opposite) = d.along width height cell - 1 := by
  cases d <;> simp only [along, neighbour, opposite, dx, dy] <;> omega

theorem Direction.onScreen_neighbour_iff (hon : OnScreen width height cell.1 cell.2) :
    OnScreen width height (neighbour cell d).1 (neighbour cell d).2 ↔
      d.along width height cell + 1 < d.extent width height := by
  obtain ⟨hx, hx', hy, hy'⟩ := hon
  cases d <;> simp only [OnScreen, along, extent, neighbour, dx, dy] <;> omega

theorem Direction.extent_opposite : d.opposite.extent width height = d.extent width height := by
  cases d <;> rfl

theorem Direction.along_opposite :
    d.opposite.along width height cell = d.extent width height - 1 - d.along width height cell := by
  cases d <;> simp only [along, extent, opposite] <;> omega

theorem Direction.line_opposite : d.opposite.line cell = d.line cell := by
  cases d <;> rfl

theorem Direction.line_neighbour : d.line (neighbour cell d) = d.line cell := by
  cases d <;> simp [line, neighbour, dx, dy]

/-! ## To and fro -/

/-- The place of step `k` on a way to and fro between the ends of `n` cells, which begins at the first. -/
def toAndFro (n k : Int) : Int :=
  let r := k % (2 * (n - 1))
  if r ≤ n - 1 then r else 2 * (n - 1) - r

theorem toAndFro_of_there {n a k : Int} (hn : 2 ≤ n) (h0 : 0 ≤ a) (h : a < n) (hk : a ≡ k [ZMOD 2 * (n - 1)]) :
    toAndFro n k = a := by
  have hr : k % (2 * (n - 1)) = a := by
    rw [← hk.eq]
    exact Int.emod_eq_of_lt h0 (by omega)
  rw [toAndFro, hr, if_pos (by omega)]

theorem toAndFro_of_back {n a k : Int} (hn : 2 ≤ n) (h0 : 0 ≤ a) (h : a < n) (hk : -a ≡ k [ZMOD 2 * (n - 1)]) :
    toAndFro n k = a := by
  rcases Int.lt_or_eq_of_le h0 with hpos | rfl
  · have hr : k % (2 * (n - 1)) = 2 * (n - 1) - a := by
      rw [← hk.eq, ← Int.add_emod_left]
      exact Int.emod_eq_of_lt (by omega) (by omega)
    rw [toAndFro, hr]
    split <;> omega
  · exact toAndFro_of_there hn h0 h hk

/-- A pipe on the line of a heading, at a phase of the way there and back. -/
def InPhase (width height k : Int) (d : Direction) (cell : Int × Int) (heading : Direction) : Prop :=
  heading = d ∧ d.along width height cell ≡ k [ZMOD 2 * (d.extent width height - 1)] ∨
    heading = d.opposite ∧ -d.along width height cell ≡ k [ZMOD 2 * (d.extent width height - 1)]

variable {heading : Direction} {k : Int}

theorem InPhase.along_eq (h : InPhase width height k d cell heading) (hon : OnScreen width height cell.1 cell.2)
    (hextent : 2 ≤ d.extent width height) : d.along width height cell = toAndFro (d.extent width height) k := by
  obtain ⟨h0, hlt⟩ := d.along_bounds hon
  obtain ⟨-, hk⟩ | ⟨-, hk⟩ := h
  · exact (toAndFro_of_there hextent h0 hlt hk).symm
  · exact (toAndFro_of_back hextent h0 hlt hk).symm

def Entry.place (e : Entry) : Int × Int := (e.x, e.y)

/-- A pipe that bounces goes on unless it is at the end of its line, from where it goes back. -/
theorem Pipe.enter_bounce {p : Pipe} {entry : Entry} (hon : OnScreen width height p.cell.1 p.cell.2)
    (hextent : 2 ≤ p.heading.extent width height) (h : p.enter .bounce width height = .ok entry) :
    entry.heading = p.heading ∧ entry.place = neighbour p.cell p.heading ∨
      entry.heading = p.heading.opposite ∧ entry.place = neighbour p.cell p.heading.opposite ∧
        p.heading.along width height p.cell + 1 = p.heading.extent width height := by
  have hnext := Direction.onScreen_neighbour_iff (d := p.heading) hon
  by_cases hinside : OnScreen width height (p.x + p.heading.dx) (p.y + p.heading.dy)
  · rw [enter_inside hinside] at h
    cases h
    exact .inl ⟨rfl, rfl⟩
  · have hclamped := (clamp_opposite hon hinside).1 hextent
    have hend : ¬ p.heading.along width height p.cell + 1 < p.heading.extent width height :=
      fun hlt => hinside (hnext.2 hlt)
    have hbounds := p.heading.along_bounds hon
    rw [enter_edge hinside] at h
    cases h
    exact .inr ⟨rfl, Prod.ext hclamped.1 hclamped.2, by omega⟩

theorem InPhase.enter {p : Pipe} {entry : Entry} (h : InPhase width height k d p.cell p.heading)
    (hon : OnScreen width height p.cell.1 p.cell.2) (hextent : 2 ≤ d.extent width height)
    (henter : p.enter .bounce width height = .ok entry) :
    InPhase width height (k + 1) d entry.place entry.heading ∧ d.line entry.place = d.line p.cell := by
  have hsame : p.heading.extent width height = d.extent width height := by
    obtain ⟨hd, -⟩ | ⟨hd, -⟩ := h
    · rw [hd]
    · rw [hd, Direction.extent_opposite]
  have hentered := Pipe.enter_bounce hon (hsame ▸ hextent) henter
  obtain ⟨hd, hk⟩ | ⟨hd, hk⟩ := h
  · rw [hd] at hentered
    obtain ⟨hheading, hcell⟩ | ⟨hheading, hcell, hend⟩ := hentered
    · rw [hheading, hcell, InPhase, Direction.along_neighbour, Direction.line_neighbour]
      exact ⟨.inl ⟨rfl, hk.add_right 1⟩, rfl⟩
    · -- at the far end both ways share a phase
      have hshared : -(d.along width height p.cell - 1) ≡ d.along width height p.cell + 1
          [ZMOD 2 * (d.extent width height - 1)] := by
        refine Int.modEq_of_dvd ⟨1, ?_⟩
        omega
      rw [hheading, hcell, InPhase, Direction.along_neighbour_opposite, ← Direction.line_opposite,
        Direction.line_neighbour, Direction.line_opposite]
      exact ⟨.inr ⟨rfl, hshared.trans (hk.add_right 1)⟩, rfl⟩
  · rw [hd] at hentered
    obtain ⟨hheading, hcell⟩ | ⟨hheading, hcell, hend⟩ := hentered
    · have hnext : -(d.along width height p.cell - 1) = -d.along width height p.cell + 1 := by omega
      rw [hheading, hcell, InPhase, Direction.along_neighbour_opposite, ← Direction.line_opposite,
        Direction.line_neighbour, Direction.line_opposite, hnext]
      exact ⟨.inr ⟨rfl, hk.add_right 1⟩, rfl⟩
    · rw [Direction.opposite_opposite] at hheading hcell
      have hzero : d.along width height p.cell = 0 := by
        rw [Direction.along_opposite, Direction.extent_opposite] at hend
        omega
      rw [hzero] at hk
      rw [hheading, hcell, InPhase, Direction.along_neighbour, Direction.line_neighbour, hzero]
      exact ⟨.inl ⟨rfl, hk.add_right 1⟩, rfl⟩

theorem Pipe.enter_oneCell {p : Pipe} {entry : Entry} (hon : OnScreen width height p.cell.1 p.cell.2)
    (hextent : p.heading.extent width height = 1) (h : p.enter .bounce width height = .ok entry) :
    entry.heading = p.heading.opposite ∧ entry.place = p.cell := by
  have hbounds := p.heading.along_bounds hon
  have hedge : ¬ OnScreen width height (p.x + p.heading.dx) (p.y + p.heading.dy) := by
    intro hinside
    have hlt := (Direction.onScreen_neighbour_iff (d := p.heading) hon).1 hinside
    omega
  have hclamped := (clamp_opposite hon hedge).2 hextent
  rw [enter_edge hedge] at h
  cases h
  exact ⟨rfl, Prod.ext hclamped.1 hclamped.2⟩

/-! ## Round and round -/

theorem Direction.along_onTorus (hon : OnScreen width height cell.1 cell.2) :
    d.along width height (onTorus width height (neighbour cell d)) =
        (d.along width height cell + 1) % d.extent width height ∧
      d.line (onTorus width height (neighbour cell d)) = d.line cell := by
  have next {n v : Int} (h0 : 0 ≤ v) (h : v < n) : (v + 1) % n = if v + 1 = n then 0 else v + 1 := by
    split
    · next hn => rw [hn, Int.emod_self]
    · exact Int.emod_eq_of_lt (by omega) (by omega)
  have same {n v : Int} (h0 : 0 ≤ v) (h : v < n) : (v + 0) % n = v := by
    rw [Int.add_zero, Int.emod_eq_of_lt h0 h]
  have previous {n v : Int} (h0 : 0 ≤ v) (h : v < n) : (v + -1) % n = if v = 0 then n - 1 else v - 1 := by
    split
    · rw [← Int.add_emod_right, Int.emod_eq_of_lt (by omega) (by omega)]
      omega
    · exact Int.emod_eq_of_lt (by omega) (by omega)
  obtain ⟨h0, hlt⟩ := d.along_bounds hon
  obtain ⟨hx, hx', hy, hy'⟩ := hon
  rw [next h0 hlt]
  cases d <;> simp only [along, extent, line, onTorus, neighbour, dx, dy, next hx hx', next hy hy', same hx hx',
    same hy hy', previous hx hx', previous hy hy', and_true] <;> split_ifs <;> omega

theorem Pipe.wraps_iff {p : Pipe} {b : Boundary} (hb : b ≠ .bounce)
    (hon : OnScreen width height p.cell.1 p.cell.2) : p.Wraps b width height ↔
      p.heading.along width height p.cell + 1 = p.heading.extent width height := by
  have hnext := Direction.onScreen_neighbour_iff (d := p.heading) hon
  have hbounds := p.heading.along_bounds hon
  have hwraps : p.Wraps b width height ↔
      ¬ p.heading.along width height p.cell + 1 < p.heading.extent width height := by
    rw [← hnext]
    exact and_iff_right hb
  rw [hwraps]
  omega

/-! ## Pipes that never turn -/

variable {ρ : Type} [RandomSource ρ] [LawfulSource ρ] {S : Settings} {tables : List GlyphTable}

instance : LawfulSource (LoggedSource ρ) where
  unit_nonneg g := LawfulSource.unit_nonneg g.inner
  unit_lt_one g := LawfulSource.unit_lt_one g.inner

namespace Walk

variable {w w' last : Walk ρ} {strides : List Stride}

theorem advance_straight (hchance : S.turnChance = 0) {entry : Entry} {mark : Mark}
    (henter : w.pipe.enter S.boundary width height = .ok entry)
    (h : advance S tables width height w = .ok mark w') :
    w'.pipe.cell = entry.place ∧ w'.pipe.heading = entry.heading := by
  obtain ⟨entry', g, henter', hchoice, hx, hy, -⟩ := advance_of_ok h
  rw [henter] at henter'
  cases henter'
  exact ⟨Prod.ext hx hy, (chooseHeading_allows hchoice).straight hchance⟩

omit [LawfulSource ρ] in
theorem advance_style {entry : Entry} {mark : Mark} (henter : w.pipe.enter S.boundary width height = .ok entry)
    (h : advance S tables width height w = .ok mark w')
    (hkept : ¬ (Stride.mk w.pipe entry.heading mark w'.pipe).Restyles S width height) :
    w'.pipe.color = w.pipe.color ∧ w'.pipe.glyphs = w.pipe.glyphs := by
  have hold : ¬ (entry.wrapped && !S.keepStyle) = true := by
    rw [Bool.and_eq_true, Bool.not_eq_true', Pipe.enter_wrapped_iff henter]
    exact hkept
  simp only [advance, henter] at h
  cases hchoice : chooseHeading S entry.heading w.source with
  | error e g =>
    simp only [hchoice] at h
    cases h
  | ok heading g =>
    simp only [hchoice, if_neg hold] at h
    cases h
    exact ⟨rfl, rfl⟩

omit [LawfulSource ρ] in
theorem advance_onScreen (hon : OnScreen width height w.pipe.cell.1 w.pipe.cell.2) {mark : Mark}
    (h : advance S tables width height w = .ok mark w') : OnScreen width height w'.pipe.cell.1 w'.pipe.cell.2 := by
  obtain ⟨entry, g, henter, -, hx, hy, -⟩ := advance_of_ok h
  obtain ⟨hx0, hxw, hy0, hyh⟩ := hon
  rw [Pipe.cell, hx, hy]
  exact Pipe.enter_onScreen (by omega) (by omega) henter

theorem advance_round (hchance : S.turnChance = 0) (hb : S.boundary ≠ .bounce)
    (hon : OnScreen width height w.pipe.cell.1 w.pipe.cell.2) {mark : Mark}
    (h : advance S tables width height w = .ok mark w') :
    w'.pipe.heading = w.pipe.heading ∧
      w'.pipe.cell = onTorus width height (neighbour w.pipe.cell w.pipe.heading) := by
  obtain ⟨hx0, hxw, hy0, hyh⟩ := hon
  obtain ⟨wrapped, henter⟩ := Pipe.enter_wrap (p := w.pipe) hb (show 1 ≤ width by omega) (show 1 ≤ height by omega)
  exact ⟨(advance_straight hchance henter h).2, advance_cell hb (by omega) (by omega) h⟩

namespace Strides

/-- With each stride a bouncing pipe comes to the next phase. -/
theorem inPhase (hchance : S.turnChance = 0) (hb : S.boundary = .bounce) (hextent : 2 ≤ d.extent width height)
    (h : Strides S tables width height w strides last) (hon : OnScreen width height w.pipe.cell.1 w.pipe.cell.2)
    (hk : InPhase width height k d w.pipe.cell w.pipe.heading) :
    OnScreen width height last.pipe.cell.1 last.pipe.cell.2 ∧
      InPhase width height (k + strides.length) d last.pipe.cell last.pipe.heading ∧
        d.line last.pipe.cell = d.line w.pipe.cell := by
  induction h generalizing k with
  | nil w => exact ⟨hon, by rwa [List.length_nil, Int.natCast_zero, Int.add_zero], rfl⟩
  | @cons w w' last entry mark strides enter advance rest ih =>
    obtain ⟨hcell, hheading⟩ := advance_straight hchance enter advance
    rw [hb] at enter
    obtain ⟨hk', hline⟩ := hk.enter hon hextent enter
    rw [← hcell] at hk' hline
    rw [← hheading] at hk'
    obtain ⟨hlast, hphase, hlines⟩ := ih (advance_onScreen hon advance) hk'
    refine ⟨hlast, ?_, hlines.trans hline⟩
    rw [List.length_cons, Int.natCast_succ, Int.add_comm (strides.length : Int) 1, ← Int.add_assoc]
    exact hphase

theorem oneCell (hchance : S.turnChance = 0) (hb : S.boundary = .bounce)
    (h : Strides S tables width height w strides last) (hon : OnScreen width height w.pipe.cell.1 w.pipe.cell.2)
    (hextent : w.pipe.heading.extent width height = 1) :
    last.pipe.cell = w.pipe.cell ∧ ∀ v ∈ strides, v.after.heading = v.before.heading.opposite := by
  induction h with
  | nil w => exact ⟨rfl, by simp⟩
  | @cons w w' last entry mark strides enter advance rest ih =>
    obtain ⟨hcell, hheading⟩ := advance_straight hchance enter advance
    rw [hb] at enter
    obtain ⟨hback, hplace⟩ := Pipe.enter_oneCell hon hextent enter
    have hextent' : w'.pipe.heading.extent width height = 1 := by
      rw [hheading, hback, Direction.extent_opposite, hextent]
    obtain ⟨hlast, hflips⟩ := ih (advance_onScreen hon advance) hextent'
    exact ⟨hlast.trans (hcell.trans hplace), List.forall_mem_cons.2 ⟨hheading.trans hback, hflips⟩⟩

/-- With each stride a pipe that wraps comes to the next cell of its line. -/
theorem round (hchance : S.turnChance = 0) (hb : S.boundary ≠ .bounce)
    (h : Strides S tables width height w strides last) (hon : OnScreen width height w.pipe.cell.1 w.pipe.cell.2)
    (hd : w.pipe.heading = d) :
    d.along width height last.pipe.cell =
        (d.along width height w.pipe.cell + strides.length) % d.extent width height ∧
      d.line last.pipe.cell = d.line w.pipe.cell := by
  induction h with
  | nil w =>
    obtain ⟨h0, hlt⟩ := d.along_bounds hon
    rw [List.length_nil, Int.natCast_zero, Int.add_zero, Int.emod_eq_of_lt h0 hlt]
    exact ⟨rfl, rfl⟩
  | @cons w w' last entry mark strides enter advance rest ih =>
    obtain ⟨hheading, hcell⟩ := advance_round hchance hb hon advance
    obtain ⟨halong, hline⟩ := Direction.along_onTorus (d := d) hon
    obtain ⟨hlast, hlines⟩ := ih (advance_onScreen hon advance) (hheading.trans hd)
    rw [hlast, hlines, hcell, hd, halong, hline, Int.emod_add_emod, List.length_cons, Int.natCast_succ,
      Int.add_assoc, Int.add_comm 1]
    exact ⟨rfl, rfl⟩

theorem restyles_round (hchance : S.turnChance = 0) (hb : S.boundary ≠ .bounce) (hkeep : S.keepStyle = false)
    (h : Strides S tables width height w strides last) (hon : OnScreen width height w.pipe.cell.1 w.pipe.cell.2)
    (hd : w.pipe.heading = d) :
    (strides.countP (·.Restyles S width height) : Int) =
      (d.along width height w.pipe.cell + strides.length) / d.extent width height := by
  induction h with
  | nil w =>
    obtain ⟨h0, hlt⟩ := d.along_bounds hon
    rw [List.length_nil, Int.natCast_zero, Int.add_zero, Int.ediv_eq_zero_of_lt h0 hlt]
    rfl
  | @cons w w' last entry mark strides enter advance rest ih =>
    obtain ⟨hheading, hcell⟩ := advance_round hchance hb hon advance
    obtain ⟨halong, -⟩ := Direction.along_onTorus (d := d) hon
    obtain ⟨h0, hlt⟩ := d.along_bounds hon
    have hrestyles : (Stride.mk w.pipe entry.heading mark w'.pipe).Restyles S width height ↔
        d.along width height w.pipe.cell + 1 = d.extent width height := by
      rw [← hd, ← Pipe.wraps_iff hb hon]
      exact and_iff_left hkeep
    have hlater := ih (advance_onScreen hon advance) (hheading.trans hd)
    rw [hcell, hd, halong] at hlater
    rw [List.countP_cons, Int.natCast_add, hlater, List.length_cons, Int.natCast_succ]
    by_cases hend : d.along width height w.pipe.cell + 1 = d.extent width height
    · -- the rest begins at the first cell
      rw [if_pos (decide_eq_true (hrestyles.2 hend)), hend, Int.emod_self, Int.zero_add, Int.add_comm _ (1 : Int),
        ← Int.add_assoc, hend, Int.add_comm _ (strides.length : Int), Int.add_ediv_of_dvd_right (dvd_refl _),
        Int.ediv_self (by omega)]
      rfl
    · rw [if_neg fun hnew => hend (hrestyles.1 (of_decide_eq_true hnew)), Int.emod_eq_of_lt (by omega) (by omega),
        Int.add_comm (strides.length : Int), ← Int.add_assoc]
      exact Int.add_zero _

omit [LawfulSource ρ] in
theorem keeps_style (h : Strides S tables width height w strides last) :
    ∀ v ∈ strides, ¬ v.Restyles S width height →
      v.after.color = v.before.color ∧ v.after.glyphs = v.before.glyphs := by
  induction h with
  | nil w => simp
  | cons enter advance rest ih => exact List.forall_mem_cons.2 ⟨advance_style enter advance, ih⟩

theorem never_turns (hchance : S.turnChance = 0) (h : Strides S tables width height w strides last) :
    ∀ v ∈ strides, ¬ v.Turns := by
  induction h with
  | nil w => simp
  | @cons w w' last entry mark strides enter advance rest ih =>
    exact List.forall_mem_cons.2 ⟨not_not.2 (advance_straight hchance enter advance).2, ih⟩

end Strides

end Walk

/-! ## Straight walks -/

/-- How a walk goes along the line on which its pipe starts. Its strides draw nothing for turns. -/
structure Straight (S : Settings) (tables : List GlyphTable) (width height : Int) (w : Walk (LoggedSource ρ))
    (strides : List Stride) (last : Walk (LoggedSource ρ)) : Prop where
  line : w.pipe.heading.line last.pipe.cell = w.pipe.heading.line w.pipe.cell
  bounce : S.boundary = .bounce → 2 ≤ w.pipe.heading.extent width height →
    w.pipe.heading.along width height last.pipe.cell = toAndFro (w.pipe.heading.extent width height)
      (w.pipe.heading.along width height w.pipe.cell + strides.length)
  oneCell : S.boundary = .bounce → w.pipe.heading.extent width height = 1 →
    last.pipe.cell = w.pipe.cell ∧ ∀ v ∈ strides, v.after.heading = v.before.heading.opposite
  wrap : S.boundary ≠ .bounce → w.pipe.heading.along width height last.pipe.cell =
    (w.pipe.heading.along width height w.pipe.cell + strides.length) % w.pipe.heading.extent width height
  restyles : S.boundary ≠ .bounce → S.keepStyle = false → (strides.countP (·.Restyles S width height) : Int) =
    (w.pipe.heading.along width height w.pipe.cell + strides.length) / w.pipe.heading.extent width height
  /-- Only the strides that are counted change the style of the pipe. -/
  keeps : ∀ v ∈ strides, ¬ v.Restyles S width height →
    v.after.color = v.before.color ∧ v.after.glyphs = v.before.glyphs
  draws : last.source.draws = w.source.draws ++
    strides.flatMap fun v => .unit :: if v.Restyles S width height then S.styleDraws tables else []

variable {w : Walk (LoggedSource ρ)}

theorem Walk.Strides.straight {strides : List Stride} {last : Walk (LoggedSource ρ)}
    (h : Strides S tables width height w strides last) (hchance : S.turnChance = 0)
    (hon : OnScreen width height w.pipe.cell.1 w.pipe.cell.2) : Straight S tables width height w strides last := by
  have hstart : InPhase width height (w.pipe.heading.along width height w.pipe.cell) w.pipe.heading w.pipe.cell
      w.pipe.heading := .inl ⟨rfl, Int.ModEq.refl _⟩
  refine { line := ?_, bounce := fun hb hextent => ?_, oneCell := fun hb => h.oneCell hchance hb hon,
           wrap := fun hb => (h.round hchance hb hon rfl).1,
           restyles := fun hb hkeep => h.restyles_round hchance hb hkeep hon rfl,
           keeps := h.keeps_style, draws := ?_ }
  · by_cases hb : S.boundary = .bounce
    · by_cases hextent : w.pipe.heading.extent width height = 1
      · rw [(h.oneCell hchance hb hon hextent).1]
      · have hbounds := w.pipe.heading.along_bounds hon
        exact (h.inPhase hchance hb (by omega) hon hstart).2.2
    · exact (h.round hchance hb hon rfl).2
  · obtain ⟨hlast, hphase, -⟩ := h.inPhase hchance hb hextent hon hstart
    exact hphase.along_eq hlast hextent
  · have hdraws (v : Stride) (hv : v ∈ strides) : v.draws S tables width height =
        .unit :: if v.Restyles S width height then S.styleDraws tables else [] := by
      rw [Stride.draws, if_neg (h.never_turns hchance v hv), List.nil_append]
    rw [h.draws_eq, List.flatMap_congr hdraws]

/--
A pipe that starts on the screen and never turns goes straight, by as many strides as one likes if the settings are
valid.
-/
theorem straight_of_never_turning (hchance : S.turnChance = 0) (hon : OnScreen width height w.pipe.x w.pipe.y) :
    (S.Valid → tables ≠ [] → ∀ n, ∃ strides last, strides.length = n ∧
      Walk.Strides S tables width height w strides last) ∧
    ∀ strides last, Walk.Strides S tables width height w strides last →
      Straight S tables width height w strides last := by
  refine ⟨fun valid ht n => ?_, fun _ _ h => h.straight hchance hon⟩
  obtain ⟨hx, hx', hy, hy'⟩ := hon
  exact Walk.exists_strides valid ht (by omega) (by omega) n w

/-- A pipe that goes up, to and fro between the walls of a column of three cells. -/
theorem straight_up :
    let S : Settings := { boundary := .bounce, turnChance := 0 }
    let table : GlyphTable := .ofSet #v['┃', '┏', ' ', '┓', '┛', '━', '┓', ' ', ' ', '┗', '┃', '┛', '┗', ' ', '┏', '━']
    let w : Walk (LoggedSource Twister) := ⟨⟨4, 2, .up, 0, table⟩, ⟨.ofSeed 1, []⟩⟩
    S.turnChance = 0 ∧ OnScreen 5 3 w.pipe.x w.pipe.y ∧ ∃ strides last, strides.length = 7 ∧
      Walk.Strides S [table] 5 3 w strides last ∧ Straight S [table] 5 3 w strides last ∧ last.pipe.y = 1 := by
  intro S table w
  have valid : S.Valid := by decide +kernel
  have hon : OnScreen 5 3 w.pipe.x w.pipe.y := by decide
  obtain ⟨hexists, hstraight⟩ := straight_of_never_turning (S := S) rfl hon
  obtain ⟨strides, last, hlength, hstrides⟩ := hexists valid (List.cons_ne_nil _ _) 7
  have h := hstraight strides last hstrides
  have hplace : 3 - 1 - last.pipe.y = toAndFro 3 (3 - 1 - 2 + strides.length) := h.bounce rfl (by decide)
  have heven : toAndFro 3 (3 - 1 - 2 + (7 : Nat)) = 1 := by decide
  rw [hlength, heven] at hplace
  exact ⟨rfl, hon, strides, last, hlength, hstrides, h, by omega⟩

end Pipework
