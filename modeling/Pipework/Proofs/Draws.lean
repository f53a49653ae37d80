import Pipework.Proofs.Stride
import Pipework.Random.Logged

/-!
# What an advance draws

A logged source shows what was drawn from it. An advance draws whether to turn; a pipe that leaves its cell in another
heading than it entered it has drawn that heading; and one that wrapped, unless it keeps its style, has drawn a
colour and a table, in this order (`Walk.advance_draws`). So the draws of strides in a row are those of each of them,
one after another (`Walk.Strides.draws_eq`).
-/

namespace Pipework

open Act

/-! ## Wrapping -/

def Pipe.Wraps (b : Boundary) (width height : Int) (p : Pipe) : Prop :=
  b ≠ .bounce ∧ ¬ OnScreen width height (p.x + p.heading.dx) (p.y + p.heading.dy)

instance (b : Boundary) (width height : Int) (p : Pipe) : Decidable (p.Wraps b width height) := by
  unfold Pipe.Wraps; infer_instance

theorem Pipe.enter_wrapped_iff {p : Pipe} {b : Boundary} {width height : Int} {entry : Entry}
    (h : p.enter b width height = .ok entry) : entry.wrapped = true ↔ p.Wraps b width height := by
  unfold Pipe.Wraps
  by_cases hon : OnScreen width height (p.x + p.heading.dx) (p.y + p.heading.dy)
  · rw [enter_inside hon] at h
    cases h
    exact ⟨fun hwrapped => absurd hwrapped Bool.false_ne_true, fun hwraps => absurd hon hwraps.2⟩
  · by_cases hb : b = .bounce
    · rw [hb, enter_edge hon] at h
      cases h
      exact ⟨fun hwrapped => absurd hwrapped Bool.false_ne_true, fun hwraps => absurd hb hwraps.1⟩
    · simp only [enter, if_neg hon, if_neg hb] at h
      split at h
      · cases h
      · cases h
        exact ⟨fun _ => ⟨hb, hon⟩, fun _ => rfl⟩

/-! ## Strides -/

namespace Stride

def Turns (v : Stride) : Prop := v.after.heading ≠ v.entering

instance (v : Stride) : Decidable v.Turns := by
  unfold Turns; infer_instance

/-- Whether the pipe takes a new style, which it does if it wraps and does not keep its own. -/
def Restyles (S : Settings) (width height : Int) (v : Stride) : Prop :=
  v.before.Wraps S.boundary width height ∧ S.keepStyle = false

instance (S : Settings) (width height : Int) (v : Stride) : Decidable (v.Restyles S width height) := by
  unfold Restyles; infer_instance

end Stride

/-- How many colours the palette has. -/
def Settings.colorCount (S : Settings) : Nat := (S.palette.colors?.getD []).length

/-- A colour, and then a table. -/
def Settings.styleDraws (S : Settings) (tables : List GlyphTable) : List Draw :=
  [.below S.colorCount, .below tables.length]

/-- Whether to turn, then the turn if there is one, then a style if the pipe takes a new one. -/
def Stride.draws (S : Settings) (tables : List GlyphTable) (width height : Int) (v : Stride) : List Draw :=
  .unit :: ((if v.Turns then [.below 2] else []) ++
    if v.Restyles S width height then S.styleDraws tables else [])

/-! ## Single draws -/

variable {ρ : Type} [RandomSource ρ] {S : Settings} {tables : List GlyphTable} {width height : Int}
  {g g' : LoggedSource ρ}

omit [RandomSource ρ] in
theorem LoggedSource.draws_cons (inner : ρ) (draw : Draw) (g : LoggedSource ρ) :
    (⟨inner, draw :: g.log⟩ : LoggedSource ρ).draws = g.draws ++ [draw] :=
  List.reverse_cons

theorem drawBelow_draws {n : Int} {i : Nat} (h : drawBelow n g = .ok i g') :
    g'.draws = g.draws ++ [.below n.toNat] := by
  unfold drawBelow at h
  split at h
  · cases h
    exact LoggedSource.draws_cons _ _ g
  · cases h

theorem choose_draws {α : Type} {l : List α} {a : α} (h : choose l g = .ok a g') :
    g'.draws = g.draws ++ [.below l.length] := by
  unfold choose at h
  split at h
  · cases h
    exact LoggedSource.draws_cons _ _ g
  · cases h

theorem chooseHeading_draws {entering leaving : Direction} (h : chooseHeading S entering g = .ok leaving g') :
    g'.draws = g.draws ++ .unit :: if leaving ≠ entering then [.below 2] else [] := by
  have hunit : (RandomSource.unit g).2.draws = g.draws ++ [.unit] := LoggedSource.draws_cons _ _ g
  unfold chooseHeading at h
  dsimp only at h
  split at h
  · cases h
  · split at h
    · -- the heading drawn is at right angles, so it is another one
      cases h
      have hturned (i : Fin 2) : entering.turns[i] ≠ entering :=
        (Direction.mem_turns.1 (Vector.getElem_mem i.isLt)).1
      rw [if_pos (hturned _)]
      refine (LoggedSource.draws_cons _ _ (RandomSource.unit g).2).trans ?_
      rw [hunit, List.append_assoc]
      rfl
    · cases h
      rw [if_neg (not_not.2 rfl)]
      exact hunit

theorem drawStyle_draws {style : Nat × GlyphTable} (h : drawStyle S tables g = .ok style g') :
    g'.draws = g.draws ++ S.styleDraws tables := by
  unfold drawStyle at h
  split at h
  · cases h
  · next colors hcolors =>
    cases hcolor : drawBelow colors.length g with
    | error e g₁ =>
      rw [bind_of_error hcolor] at h
      cases h
    | ok color g₁ =>
      rw [bind_of_ok hcolor] at h
      cases hglyphs : choose tables g₁ with
      | error e g₂ =>
        rw [bind_of_error hglyphs] at h
        cases h
      | ok glyphs g₂ =>
        rw [bind_of_ok hglyphs] at h
        cases h
        rw [choose_draws hglyphs, drawBelow_draws hcolor, Int.toNat_natCast, Settings.styleDraws,
          Settings.colorCount, hcolors, List.append_assoc]
        rfl

theorem Pipe.create_draws {x y : Int} {heading : Direction} {p : Pipe}
    (h : Pipe.create S tables x y heading g = .ok p g') : g'.draws = g.draws ++ S.styleDraws tables := by
  unfold Pipe.create at h
  split at h
  · cases h
  · cases hstyle : drawStyle S tables g with
    | error e g₁ =>
      rw [bind_of_error hstyle] at h
      cases h
    | ok style g₁ =>
      rw [bind_of_ok hstyle] at h
      cases h
      exact drawStyle_draws hstyle

/-! ## Advances -/

variable {w w' last : Walk (LoggedSource ρ)} {mark : Mark}

theorem Walk.restyle_draws (h : restyle S tables w = .ok () w') :
    w'.source.draws = w.source.draws ++ S.styleDraws tables ∧ w'.pipe.heading = w.pipe.heading := by
  rw [restyle] at h
  cases hstyle : drawStyle S tables w.source with
  | error e g =>
    rw [bind_of_error (on_of_error hstyle)] at h
    cases h
  | ok style g =>
    rw [bind_of_ok (on_of_ok hstyle)] at h
    cases h
    exact ⟨drawStyle_draws hstyle, rfl⟩

theorem Walk.advance_draws {entry : Entry} (henter : w.pipe.enter S.boundary width height = .ok entry)
    (h : advance S tables width height w = .ok mark w') :
    w'.source.draws =
      w.source.draws ++ (Stride.mk w.pipe entry.heading mark w'.pipe).draws S tables width height := by
  have hwraps := Pipe.enter_wrapped_iff henter
  simp only [advance, henter] at h
  cases hchoice : chooseHeading S entry.heading w.source with
  | error e g =>
    simp only [hchoice] at h
    cases h
  | ok heading g =>
    have hchosen := chooseHeading_draws hchoice
    have hrestyles (after : Pipe) : (entry.wrapped && !S.keepStyle) = true ↔
        (Stride.mk w.pipe entry.heading mark after).Restyles S width height := by
      rw [Bool.and_eq_true, Bool.not_eq_true', hwraps]
      rfl
    simp only [hchoice] at h
    unfold Stride.draws
    split at h
    · next hnew =>
      rw [if_pos ((hrestyles _).1 hnew)]
      split at h
      · cases h
      · next hstyle =>
        cases h
        obtain ⟨hstyled, hheading⟩ := restyle_draws hstyle
        simp only [hstyled, hchosen, Stride.Turns, hheading, List.append_assoc, List.cons_append]
    · next hold =>
      rw [if_neg fun hnew => hold ((hrestyles _).2 hnew)]
      cases h
      rw [hchosen, List.append_nil]
      rfl

theorem Walk.Strides.draws_eq {strides : List Stride} (h : Strides S tables width height w strides last) :
    last.source.draws = w.source.draws ++ strides.flatMap (·.draws S tables width height) := by
  induction h with
  | nil w => simp
  | cons enter advance rest ih =>
    rw [ih, advance_draws enter advance, List.flatMap_cons, List.append_assoc]

end Pipework
