import Pipework.Proofs.Approach
import Pipework.Proofs.Enduring
import Pipework.Proofs.Straight
import Pipework.Proofs.Watched

/-!
# When a pipe changes its style

A pipe takes a new style only with a stride that wraps, and then only if styles are not kept. Between two puts of a
pipe the others are drawn, the canvas is wiped and the pipe itself may be moved to another cell, but none of this
touches its style (`Dressed.displaced`). So whatever ticks and resets do, the puts of a pipe that differ in style
from the one before are puts of strides that wrapped (`styles_change_by_wrapping`), and pipes that bounce, or keep
their style, are drawn in one style only.
-/

set_option linter.unusedSectionVars false

namespace Pipework

open Act

variable {width height : Int} {S : Settings}

/-! ## Styles along strides -/

def Pipe.style (p : Pipe) : Nat × GlyphTable := (p.color, p.glyphs)

theorem Pipe.Displaced.style_eq {p p' : Pipe} (h : p.Displaced p') : p'.style = p.style :=
  Prod.ext h.color h.glyphs

/-- If the pipe comes out of the stride in another style, then styles are not kept and the stride wrapped: the
next cell of the pipe was off the screen. -/
def Stride.WrapsToRestyle (S : Settings) (width height : Int) (style : Nat × GlyphTable) (v : Stride) : Prop :=
  v.after.style ≠ style → S.keepStyle = false ∧ S.boundary = .wrap ∧
    ¬ OnScreen width height (v.before.x + v.before.heading.dx) (v.before.y + v.before.heading.dy)

/-- A pipe in a given style changes it in the course of its strides only by wrapping. -/
structure StyledByWrapping (S : Settings) (width height : Int) (style : Nat × GlyphTable) (strides : List Stride) :
    Prop where
  first : ∀ v ∈ strides.head?, v.WrapsToRestyle S width height style
  next : strides.IsChain fun v next => next.WrapsToRestyle S width height v.after.style

def styleAfter (style : Nat × GlyphTable) (strides : List Stride) : Nat × GlyphTable :=
  (strides.getLast?.map (·.after.style)).getD style

namespace StyledByWrapping

variable {style : Nat × GlyphTable} {strides : List Stride} {v : Stride}

theorem concat (h : StyledByWrapping S width height style strides)
    (hv : v.WrapsToRestyle S width height (styleAfter style strides)) :
    StyledByWrapping S width height style (strides ++ [v]) := by
  constructor
  · cases strides with
    | nil => simpa [styleAfter] using hv
    | cons u strides => simpa using h.first
  · refine List.isChain_append.2 ⟨h.next, .singleton v, ?_⟩
    rintro u hu w hw
    obtain rfl : v = w := by simpa using hw
    rwa [styleAfter, Option.mem_def.1 hu] at hv

theorem constant (h : StyledByWrapping S width height style strides)
    (hkept : S.boundary = .bounce ∨ S.keepStyle = true) : ∀ v ∈ strides, v.after.style = style := by
  have hsame {style : Nat × GlyphTable} {v : Stride} (hv : v.WrapsToRestyle S width height style) :
      v.after.style = style := by
    by_contra hne
    obtain ⟨hkeep, hwrap, -⟩ := hv hne
    rcases hkept with hbounce | hkeep'
    · exact absurd (hwrap.symm.trans hbounce) (by decide)
    · exact absurd (hkeep.symm.trans hkeep') (by decide)
  induction strides generalizing style with
  | nil => simp
  | cons u strides ih =>
    have hu : u.after.style = style := hsame (h.first u rfl)
    have hrest : StyledByWrapping S width height style strides := by
      refine ⟨fun v hv => ?_, h.next.tail⟩
      rw [← hu]
      exact h.next.rel_head? hv
    exact List.forall_mem_cons.2 ⟨hu, ih hrest⟩

end StyledByWrapping

/-! ## The strides of all pipes -/

/-- The strides of pipe `i` among those of all pipes. -/
def stridesOf (i : Nat) (ks : List (Nat × Stride)) : List Stride :=
  ks.filterMap fun k => if k.1 = i then some k.2 else none

theorem stridesOf_concat_self (i : Nat) (ks : List (Nat × Stride)) (v : Stride) :
    stridesOf i (ks ++ [(i, v)]) = stridesOf i ks ++ [v] := by
  simp [stridesOf]

theorem stridesOf_concat_ne {i j : Nat} (h : j ≠ i) (ks : List (Nat × Stride)) (v : Stride) :
    stridesOf i (ks ++ [(j, v)]) = stridesOf i ks := by
  simp [stridesOf, h]

/-- Strides have led from some pipes to others, each in the style that its own strides left it in. -/
def Dressed (S : Settings) (width height : Int) (before : List Pipe) (ks : List (Nat × Stride))
    (now : List Pipe) : Prop :=
  ∀ i p, before[i]? = some p → ∃ q, now[i]? = some q ∧ q.style = styleAfter p.style (stridesOf i ks) ∧
    StyledByWrapping S width height p.style (stridesOf i ks)

namespace Dressed

variable {before now now' : List Pipe} {ks : List (Nat × Stride)}

theorem refl (pipes : List Pipe) : Dressed S width height pipes [] pipes :=
  fun _ p hp => ⟨p, hp, rfl, by simp [stridesOf], .nil⟩

theorem displaced (h : Dressed S width height before ks now) (hmoved : List.Forall₂ Pipe.Displaced now now') :
    Dressed S width height before ks now' := by
  intro i p hp
  obtain ⟨q, hq, hstyle, hstrides⟩ := h i p hp
  obtain ⟨q', hq', hdisplaced⟩ := exists_getElem?_of_forall₂ hmoved hq
  exact ⟨q', hq', hdisplaced.style_eq.trans hstyle, hstrides⟩

theorem stride (h : Dressed S width height before ks now) {j : Nat} {v : Stride} (hv : now[j]? = some v.before)
    (hwraps : v.WrapsToRestyle S width height v.before.style) :
    Dressed S width height before (ks ++ [(j, v)]) (now.set j v.after) := by
  intro i p hp
  obtain ⟨q, hq, hstyle, hstrides⟩ := h i p hp
  by_cases hij : j = i
  · subst hij
    obtain rfl : v.before = q := Option.some.inj (hv.symm.trans hq)
    obtain ⟨hj, -⟩ := List.getElem?_eq_some_iff.1 hq
    rw [stridesOf_concat_self]
    refine ⟨v.after, List.getElem?_set_self hj, by simp [styleAfter], hstrides.concat ?_⟩
    rwa [← hstyle]
  · rw [stridesOf_concat_ne hij, List.getElem?_set_ne hij]
    exact ⟨q, hq, hstyle, hstrides⟩

end Dressed

/-! ## Paintings -/

namespace Scene

variable {ρ σ : Type} [RandomSource ρ] [Surface σ] {s s' r m : Scene ρ σ} {i : Nat} {v : Stride}
  {ks : List (Nat × Stride)}

/--
From one scene, puts and what lies between them lead to another: with each put the number of the pipe and the stride
that is drawn. A put, or a refresh, may also fail.
-/
inductive Painted (S : Settings) (s : Scene ρ σ) : List (Nat × Stride) → Scene ρ σ → Prop where
  | start : Painted S s [] s
  | put {ks : List (Nat × Stride)} {s' r m : Scene ρ σ} {i : Nat} {v : Stride} (earlier : Painted S s ks s')
      (approached : Approached S i s' r v m) : Painted S s (ks ++ [(i, v)]) (left (draw v.mark m))
  | refresh {ks : List (Nat × Stride)} {s' : Scene ρ σ} (earlier : Painted S s ks s') :
      Painted S s ks (left (onSurface Surface.refresh s'))
  | reset {ks : List (Nat × Stride)} {s' : Scene ρ σ} (earlier : Painted S s ks s') :
      Painted S s ks (left (reset s'))

/-- A scene that has been painted from another one, on the same screen. -/
structure PaintedFrom (S : Settings) (s : Scene ρ σ) (ks : List (Nat × Stride)) (s' : Scene ρ σ) : Prop where
  framed : s'.Framed S
  width : s'.width = s.width
  height : s'.height = s.height
  painted : Painted S s ks s'
  dressed : Dressed S s.width s.height s.pipes ks s'.pipes

theorem Approached.wrapsToRestyle (h : Approached S i s r v m) (hs : s.Framed S) :
    v.WrapsToRestyle S s.width s.height v.before.style := by
  intro hne
  obtain ⟨entry, henter, hentering⟩ := h.enter
  obtain ⟨g, hadvance, -⟩ := h.advance
  have hrestyles : v.Restyles S s.width s.height := by
    by_contra hkept
    have hstyle : v.after.color = v.before.color ∧ v.after.glyphs = v.before.glyphs :=
      Walk.advance_style henter hadvance (by rw [hentering]; exact hkept)
    exact hne (Prod.ext hstyle.1 hstyle.2)
  obtain ⟨⟨hbounce, hoff⟩, hkeep⟩ := hrestyles
  exact ⟨hkeep, hs.valid.wrap_or_bounce.resolve_right hbounce, hoff⟩

namespace PaintedFrom

theorem refl (hs : s.Framed S) : PaintedFrom S s [] s := ⟨hs, rfl, rfl, .start, .refl s.pipes⟩

theorem stepPipe (h : PaintedFrom S s ks s') (hi : i < s'.pipes.length) :
    ∃ v, PaintedFrom S s (ks ++ [(i, v)]) (left (stepPipe i s')) := by
  obtain ⟨r, v, m, happroached, hframed⟩ := approach_eq h.framed hi
  obtain ⟨drawn, hdraw⟩ := left_draw v.mark m
  have hwraps : v.WrapsToRestyle S s.width s.height v.before.style := by
    rw [← h.width, ← h.height]
    exact happroached.wrapsToRestyle h.framed
  have hdressed := (h.dressed.displaced happroached.room.displaced).stride happroached.pipe hwraps
  rw [← happroached.pipes_eq] at hdressed
  obtain ⟨surface, drawn', resets, hroom⟩ := s'.withRoom_elsewhere
  have hsize : m.width = s'.width ∧ m.height = s'.height := by
    rw [happroached.eq_withRoom, hroom]
    exact ⟨rfl, rfl⟩
  have hpainted := h.painted.put happroached
  rw [happroached.stepPipe_eq]
  rw [hdraw] at hpainted ⊢
  exact ⟨v, hframed.elsewhere, hsize.1.trans h.width, hsize.2.trans h.height, hpainted, hdressed⟩

theorem refresh (h : PaintedFrom S s ks s') : PaintedFrom S s ks (left (onSurface Surface.refresh s')) := by
  have hpainted := h.painted.refresh
  rw [onSurface, left_on] at hpainted ⊢
  exact ⟨h.framed.elsewhere, h.width, h.height, hpainted, h.dressed⟩

theorem reset (h : PaintedFrom S s ks s') : PaintedFrom S s ks (left (reset s')) := by
  obtain ⟨r, hreset, hmade, hframed⟩ := reset_resetTo h.framed
  have hpainted := h.painted.reset
  have hdressed := h.dressed.displaced hmade.displaced
  have hsize : r.width = s'.width ∧ r.height = s'.height := by
    rw [hmade.eq_wiped]
    exact ⟨rfl, rfl⟩
  rw [hreset] at hpainted ⊢
  exact ⟨hframed, hsize.1.trans h.width, hsize.2.trans h.height, hpainted, hdressed⟩

theorem tick (h : PaintedFrom S s ks s') : ∃ ks', PaintedFrom S s ks' (left (tick s')) := by
  let P (s' : Scene ρ σ) : Prop := ∃ ks, PaintedFrom S s ks s'
  have count : ∃ n, ∀ s', P s' → s'.pipes.length = n :=
    ⟨S.pipes.toNat, fun s' ⟨ks, hs'⟩ => hs'.framed.length_pipes⟩
  have step (s' : Scene ρ σ) (i : Nat) (hs' : P s') (hi : i < s'.pipes.length) :
      Ends (fun _ => P) (fun _ => P) (Scene.stepPipe i s') := by
    obtain ⟨ks, hks⟩ := hs'
    obtain ⟨v, hv⟩ := hks.stepPipe hi
    exact ends_left.2 ⟨_, hv⟩
  have refresh (s' : Scene ρ σ) (hs' : P s') : Ends (fun _ => P) (fun _ => P) (onSurface Surface.refresh s') := by
    obtain ⟨ks, hks⟩ := hs'
    exact ends_left.2 ⟨ks, hks.refresh⟩
  exact ends_left.1 (tick_ends count step refresh ⟨ks, h⟩)

theorem after {τ : Type} [Clock σ τ] [Time τ] {deeds : List (Deed τ)}
    (hdeeds : ∀ deed ∈ deeds, deed = .tick ∨ deed = .reset) (h : PaintedFrom S s ks s') :
    ∃ ks', PaintedFrom S s ks' (s'.after deeds) := by
  induction deeds generalizing s' ks with
  | nil => exact ⟨ks, h⟩
  | cons deed deeds ih =>
    obtain ⟨hdeed, hlater⟩ := List.forall_mem_cons.1 hdeeds
    rcases hdeed with rfl | rfl
    · obtain ⟨ks', htick⟩ := h.tick
      exact ih hlater htick
    · exact ih hlater h.reset

end PaintedFrom

end Scene

/-! ## What the surface shows -/

def Sight.put? : Sight → Option Mark
  | ⟨.put mark, _⟩ => some mark
  | _ => none

/-- The marks that a surface was asked to put, in their order. -/
def WatchedSurface.puts {σ : Type} (t : WatchedSurface σ) : List Mark := t.log.reverse.filterMap Sight.put?

theorem WatchedSurface.puts_watching {σ α : Type} (ask : Ask) (act : Act σ α) (t : WatchedSurface σ) :
    (left (watching ask act t)).puts = t.puts ++ (Sight.put? ⟨ask, none⟩).toList := by
  apply (ends_left (P := fun t' : WatchedSurface σ => t'.puts = t.puts ++ _)).1
  refine ends_watching.2 ?_
  cases act t.inner <;> cases ask <;> simp [Ends, puts, Sight.put?]

namespace Scene

variable {ρ σ : Type} [RandomSource ρ] [Surface σ] {s s' r m : Scene ρ (WatchedSurface σ)} {i : Nat} {v : Stride}
  {ks : List (Nat × Stride)}

theorem puts_wiped (s : Scene ρ (WatchedSurface σ)) : s.wiped.surface.puts = s.surface.puts := by
  change (⟨.clear, none⟩ :: s.surface.log).reverse.filterMap Sight.put? = _
  rw [List.reverse_cons, List.filterMap_append]
  exact List.append_nil _

theorem puts_withRoom (s : Scene ρ (WatchedSurface σ)) : s.withRoom.surface.puts = s.surface.puts := by
  unfold withRoom
  split
  · exact puts_wiped s
  · rfl

theorem left_reset_surface {σ : Type} [Surface σ] (s : Scene ρ σ) : (left (reset s)).surface = s.wiped.surface := by
  let P (s' : Scene ρ σ) : Prop := s'.surface = s.wiped.surface
  have offstage : Offstage P fun _ => P := ⟨fun _ _ hs same => same.surface.trans hs, fun _ _ hs _ => hs⟩
  change P (left ((if s.settings.randomStart then scatter else pure () : Act (Scene ρ σ) Unit) s.wiped))
  split
  · exact ends_left.1 (offstage.scatter rfl)
  · rfl

/-- The marks of the strides are put one after another, and no others. -/
theorem Painted.puts_eq (h : Painted S s ks s') :
    s'.surface.puts = s.surface.puts ++ ks.map (·.2.mark) := by
  induction h with
  | start => simp
  | @put ks s' r m i v earlier approached ih =>
    obtain ⟨drawn, hdraw⟩ := left_draw v.mark m
    have hm : m.surface.puts = s'.surface.puts := by
      rw [approached.eq_withRoom]
      exact puts_withRoom s'
    rw [hdraw]
    refine (WatchedSurface.puts_watching (.put v.mark) _ m.surface).trans ?_
    rw [hm, ih]
    simp [Sight.put?]
  | @refresh ks s' earlier ih =>
    rw [onSurface, left_on]
    refine (WatchedSurface.puts_watching .refresh _ s'.surface).trans ?_
    rw [ih]
    simp [Sight.put?]
  | @reset ks s' earlier ih =>
    rw [left_reset_surface, puts_wiped]
    exact ih

theorem Painted.sound (h : Painted S s ks s') : ∀ k ∈ ks, k.2.mark = k.2.after.mark k.2.entering := by
  induction h with
  | start => simp
  | put earlier approached ih =>
    refine List.forall_mem_append.2 ⟨ih, ?_⟩
    exact List.forall_mem_singleton.2 approached.sound.mark
  | refresh earlier ih => exact ih
  | reset earlier ih => exact ih

/-- What pipes look like in the puts that have led from one scene to another. -/
structure ShowsStyles (S : Settings) (s : Scene ρ (WatchedSurface σ)) (ks : List (Nat × Stride))
    (s' : Scene ρ (WatchedSurface σ)) : Prop where
  painted : Painted S s ks s'
  puts : s'.surface.puts = s.surface.puts ++ ks.map (·.2.mark)
  /-- A put shows the colour of the pipe after its stride, and a glyph of the table that it then has. -/
  marks : ∀ k ∈ ks, k.2.mark.color = k.2.after.color ∧
    k.2.mark.glyph = k.2.after.glyphs.glyph k.2.entering k.2.after.heading
  changes : ∀ i p, s.pipes[i]? = some p → StyledByWrapping S s.width s.height p.style (stridesOf i ks)
  constant : S.boundary = .bounce ∨ S.keepStyle = true →
    ∀ i p, s.pipes[i]? = some p → ∀ v ∈ stridesOf i ks, v.after.style = p.style

end Scene

/-- In whatever way a scene is gone on with by ticks and resets, a pipe changes its style only by wrapping. -/
theorem styles_change_by_wrapping {ρ σ τ : Type} [RandomSource ρ] [Surface σ] [Clock σ τ] [Time τ]
    {s : Scene ρ (WatchedSurface σ)} (hs : s.Framed S) {deeds : List (Deed τ)}
    (hdeeds : ∀ deed ∈ deeds, deed = .tick ∨ deed = .reset) :
    ∃ ks, Scene.ShowsStyles S s ks (s.after deeds) := by
  obtain ⟨ks, hks⟩ := (Scene.PaintedFrom.refl hs).after hdeeds
  have hstyled (i : Nat) (p : Pipe) (hp : s.pipes[i]? = some p) :
      StyledByWrapping S s.width s.height p.style (stridesOf i ks) := by
    obtain ⟨q, -, -, hstrides⟩ := hks.dressed i p hp
    exact hstrides
  refine ⟨ks, hks.painted, hks.painted.puts_eq, fun k hk => ?_, hstyled, fun hkept i p hp => ?_⟩
  · rw [hks.painted.sound k hk]
    exact ⟨rfl, rfl⟩
  · exact (hstyled i p hp).constant hkept

/-- Two pipes that take a new style where they wrap, on a canvas that is wiped in the midst of ticks. -/
theorem styles_change_by_wrapping_scattered :
    let S : Settings := { pipes := 2, limit := 3, randomStart := true }
    let script : Script Float := {
      width := 3, height := 2, keys := [], sizes := [], time := 0, costs := fun _ => 1
      traps := [⟨.put, .failure "put", 4⟩] }
    let deeds : List (Deed Float) := [.tick, .tick, .reset, .tick, .tick]
    S.Valid ∧ (∀ deed ∈ deeds, deed = .tick ∨ deed = .reset) ∧ ∃ s : Scene Scripted (WatchedSurface (Script Float)),
      Scene.create S (Scripted.ofLists [0, 0.75] [3, 1, 2]) ⟨script, []⟩ = .ok s ∧ s.Framed S ∧
        ∃ ks, Scene.ShowsStyles S s ks (s.after deeds) := by
  intro S script deeds
  have valid : S.Valid := by decide +kernel
  have hdeeds : ∀ deed ∈ deeds, deed = .tick ∨ deed = .reset := by simp [deeds]
  obtain ⟨s, hcreate, hframed, -⟩ := Scene.exists_create valid (Scripted.ofLists [0, 0.75] [3, 1, 2])
    (⟨script, []⟩ : WatchedSurface (Script Float)) (by decide) (by decide)
  exact ⟨valid, hdeeds, s, hcreate, hframed, styles_change_by_wrapping hframed hdeeds⟩

end Pipework
