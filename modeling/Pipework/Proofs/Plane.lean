import Mathlib.Algebra.Ring.Int.Defs
import Pipework.Proofs.Faultless
import Pipework.Proofs.Trail
import Pipework.Proofs.Twin
import Pipework.Random.Logged
import Pipework.Random.Scripted

/-!
# Walks on the plane

A pipe that wraps is where a walk on a plane without edges would be, seen on a torus: a step that leaves the
screen is reduced by its width and height, one that stays on it is not changed by that, and a sum may as well be
reduced once at its end. If pipes keep their style when they wrap and start in the centre, nothing is drawn from
the source for a wrap or a start, so animations on screens of two sizes draw the same numbers; they do the same
but for the cells they do it in, and their pipes go the same way on the plane.
-/

set_option linter.unusedSectionVars false

namespace Pipework

open Act

/-! ## Displacements -/

def Pipe.cell (p : Pipe) : Int × Int := (p.x, p.y)

/-- How far one step in each of some headings leads. -/
def displacement (headings : List Direction) : Int × Int :=
  ((headings.map Direction.dx).sum, (headings.map Direction.dy).sum)

def displaced (cell : Int × Int) (headings : List Direction) : Int × Int :=
  (cell.1 + (displacement headings).1, cell.2 + (displacement headings).2)

variable {width height : Int} {cell : Int × Int} {d : Direction} {headings : List Direction}

@[simp] theorem displaced_nil : displaced cell [] = cell := by
  simp [displaced, displacement]

theorem displaced_cons : displaced cell (d :: headings) = displaced (neighbour cell d) headings := by
  simp [displaced, displacement, neighbour, Int.add_assoc]

theorem displaced_concat : displaced cell (headings ++ [d]) = neighbour (displaced cell headings) d := by
  simp [displaced, displacement, neighbour, Int.add_assoc]

theorem onTorus_displaced :
    onTorus width height (displaced (onTorus width height cell) headings) =
      onTorus width height (displaced cell headings) := by
  simp only [displaced, onTorus, Int.emod_add_emod]

theorem onTorus_neighbour :
    onTorus width height (neighbour (onTorus width height cell) d) = onTorus width height (neighbour cell d) := by
  simp only [neighbour, onTorus, Int.emod_add_emod]

theorem onTorus_of_onScreen (h : OnScreen width height cell.1 cell.2) : onTorus width height cell = cell := by
  obtain ⟨hx, hx', hy, hy'⟩ := h
  rw [onTorus, Int.emod_eq_of_lt hx hx', Int.emod_eq_of_lt hy hy']

/-! ## Strides on a torus -/

variable {ρ σ σ' τ : Type} [RandomSource ρ] {S : Settings} {tables : List GlyphTable}

theorem Walk.advance_cell (hb : S.boundary ≠ .bounce) (hw : 1 ≤ width) (hh : 1 ≤ height) {w w' : Walk ρ} {mark : Mark}
    (h : advance S tables width height w = .ok mark w') :
    w'.pipe.cell = onTorus width height (neighbour w.pipe.cell w.pipe.heading) := by
  obtain ⟨wrapped, henter⟩ := Pipe.enter_wrap (p := w.pipe) hb hw hh
  obtain ⟨hx, hy, -⟩ := advance_pipe henter h
  rw [Pipe.cell, hx, hy]
  rfl

theorem Walk.Strides.cell_eq (hb : S.boundary ≠ .bounce) (hw : 1 ≤ width) (hh : 1 ≤ height) {w last : Walk ρ}
    {strides : List Stride} (hne : strides ≠ []) (h : Strides S tables width height w strides last) :
    last.pipe.cell = onTorus width height (displaced w.pipe.cell (strides.map (·.before.heading))) := by
  induction h with
  | nil w => exact absurd rfl hne
  | @cons w w' last entry mark strides enter advance rest ih =>
    have hcell := advance_cell hb hw hh advance
    rw [List.map_cons, displaced_cons]
    cases strides with
    | nil =>
      cases rest
      rw [List.map_nil, displaced_nil]
      exact hcell
    | cons v strides =>
      -- the first step may be reduced before the others are added
      rw [ih (List.cons_ne_nil v strides), hcell, onTorus_displaced]

/-! ## Ticks on a torus -/

namespace Scene

variable [Surface σ] {s : Scene ρ σ}

theorem onSurface_of_ok {α : Type} {act : Act σ α} {a : α} {s' : Scene ρ σ} (h : onSurface act s = .ok a s') :
    ∃ surface, s' = { s with surface } := by
  rw [onSurface, Act.on] at h
  split at h
  · cases h
    exact ⟨_, rfl⟩
  · cases h

theorem draw_of_ok {mark : Mark} {s' : Scene ρ σ} (h : draw mark s = .ok () s') :
    ∃ surface drawn, s' = { s with surface, drawn } := by
  cases hput : onSurface (Surface.put mark) s with
  | ok a s₁ =>
    obtain ⟨surface, rfl⟩ := onSurface_of_ok hput
    rw [draw, bind_of_ok hput] at h
    cases h
    exact ⟨_, _, rfl⟩
  | error e s₁ =>
    rw [draw, bind_of_error hput] at h
    cases h

theorem stepPipe_moves (h : s.Framed S) (hstart : S.randomStart = false) {i : Nat} (hi : i < s.pipes.length)
    {s' : Scene ρ σ} (hstep : stepPipe i s = .ok () s') :
    ∃ mark w, Walk.advance S s.tables s.width s.height ⟨s.pipes[i], s.source⟩ = .ok mark w ∧
      s'.width = s.width ∧ s'.height = s.height ∧ s'.pipes = s.pipes.set i w.pipe := by
  have hvalid : s.settings.Valid := h.settings ▸ h.valid
  obtain ⟨entering, w, hadvance, -⟩ := Walk.advance_eq hvalid (tables_length_pos h.valid h.tables) h.width h.height
    ⟨s.pipes[i], s.source⟩
  have hroom : makeRoom s = .ok () s.withRoom := by
    change (if s.isFull then reset else pure () : Act (Scene ρ σ) Unit) s = _
    unfold withRoom
    split
    · change (if s.settings.randomStart then scatter else pure () : Act (Scene ρ σ) Unit) s.wiped = _
      rw [h.settings, hstart]
      rfl
    · rfl
  obtain ⟨surface, drawn, resets, hwith⟩ := s.withRoom_elsewhere
  rw [hwith] at hroom
  have hadvance' := advancePipe_of_ok (s := { s with surface, drawn, resets }) hi hadvance
  rw [stepPipe, bind_of_ok hroom, bind_of_ok hadvance'] at hstep
  obtain ⟨surface', drawn', rfl⟩ := draw_of_ok hstep
  exact ⟨_, w, h.settings ▸ hadvance, rfl, rfl, rfl⟩

/-- Since `s` the first `i` pipes have gone one step on across the torus, and the others have stayed. -/
structure Moved (s : Scene ρ σ) (i : Nat) (s' : Scene ρ σ) : Prop where
  width : s'.width = s.width
  height : s'.height = s.height
  pipes : ∀ (j : Nat) (p : Pipe), s.pipes[j]? = some p → ∃ p', s'.pipes[j]? = some p' ∧
    (j < i → p'.cell = onTorus s.width s.height (neighbour p.cell p.heading)) ∧ (i ≤ j → p' = p)

theorem moved_zero (s : Scene ρ σ) : s.Moved 0 s :=
  ⟨rfl, rfl, fun _ p hp => ⟨p, hp, fun hlt => absurd hlt (Nat.not_lt_zero _), fun _ => rfl⟩⟩

theorem Moved.stepPipe (hb : S.boundary ≠ .bounce) (hstart : S.randomStart = false) {i : Nat} {s₁ s₂ : Scene ρ σ}
    (h : s.Moved i s₁) (hs₁ : s₁.Framed S) (hi : i < s₁.pipes.length) (hstep : Scene.stepPipe i s₁ = .ok () s₂) :
    s.Moved (i + 1) s₂ := by
  obtain ⟨mark, w, hadvance, hwidth, hheight, hset⟩ := stepPipe_moves hs₁ hstart hi hstep
  have hcell := Walk.advance_cell hb hs₁.width hs₁.height hadvance
  refine ⟨hwidth.trans h.width, hheight.trans h.height, fun j p hp => ?_⟩
  obtain ⟨p₁, hp₁, hmoved, hstayed⟩ := h.pipes j p hp
  rcases eq_or_ne j i with rfl | hne
  · -- this is the pipe that moves, and it has stayed until now
    obtain rfl := hstayed (Nat.le_refl j)
    have hget : s₁.pipes[j] = p₁ := by
      rw [List.getElem?_eq_getElem hi] at hp₁
      exact Option.some.inj hp₁
    refine ⟨w.pipe, by rw [hset, List.getElem?_set_self hi], fun _ => ?_, fun hle => by omega⟩
    rw [hcell, h.width, h.height, hget]
  · refine ⟨p₁, by rw [hset, List.getElem?_set_ne hne.symm, hp₁], fun hlt => ?_, fun hle => ?_⟩
    · exact hmoved (by omega)
    · exact hstayed (by omega)

variable [Clock σ τ] {I : σ → Prop}

/-- On a surface without faults, a tick takes every pipe one step on across the torus. -/
theorem tick_moved (room : Surface.Roomy (fun _ => False) I) (hb : S.boundary ≠ .bounce)
    (hstart : S.randomStart = false) (hs : s.Framed S ∧ I s.surface) :
    ∃ s', tick s = .ok () s' ∧ (s'.Framed S ∧ I s'.surface) ∧ s.Moved s.pipes.length s' := by
  have lasting := roomy_lasting (S := S) room (ρ := ρ)
  have loop : Ends (fun _ s' => (s'.Framed S ∧ I s'.surface) ∧ s.Moved s.pipes.length s') (fun _ _ => False)
      ((List.range s.pipes.length).forM stepPipe s) := by
    refine Ends.forM_range (I := fun i s' => (s'.Framed S ∧ I s'.surface) ∧ s.Moved i s') ?_ ⟨hs, s.moved_zero⟩
    rintro i hi s₁ ⟨hs₁, hmoved⟩
    have hi₁ : i < s₁.pipes.length := by
      have hcount := hs.1.count
      have hcount₁ := hs₁.1.count
      omega
    obtain ⟨_, s₂, hstep, hs₂⟩ := (lasting.stepPipe hs₁ hi₁).exists_ok
    rw [hstep]
    exact ⟨hs₂, hmoved.stepPipe hb hstart hs₁.1 hi₁ hstep⟩
  obtain ⟨_, s₁, hsteps, hs₁, hmoved⟩ := loop.exists_ok
  obtain ⟨_, s₂, hrefresh, hs₂⟩ := (lasting.refresh s₁ hs₁).exists_ok
  obtain ⟨surface, rfl⟩ := onSurface_of_ok hrefresh
  refine ⟨_, ?_, hs₂, ⟨hmoved.width, hmoved.height, hmoved.pipes⟩⟩
  rw [tick, get_bind, bind_of_ok hsteps, hrefresh]

end Scene

/-! ## Animations -/

namespace Scene

variable [Surface σ]

def ticked (s : Scene ρ σ) : Nat → Scene ρ σ
  | 0 => s
  | n + 1 => left (tick (s.ticked n))

/-- The headings that pipe `i` has at the start of each of a number of ticks. -/
def courses (s : Scene ρ σ) (n i : Nat) : List Direction :=
  (List.range n).filterMap fun k => (s.ticked k).pipes[i]?.map Pipe.heading

/-- After a number of ticks, every pipe is where its headings led it on the plane, seen on a torus. -/
def Projected (s : Scene ρ σ) (n : Nat) : Prop :=
  ∀ (i : Nat) (p : Pipe), s.pipes[i]? = some p → (s.courses n i).length = n ∧
    ∃ p', (s.ticked n).pipes[i]? = some p' ∧ p'.cell = onTorus s.width s.height (displaced p.cell (s.courses n i))

theorem courses_succ (s : Scene ρ σ) (n i : Nat) {p : Pipe} (hp : (s.ticked n).pipes[i]? = some p) :
    s.courses (n + 1) i = s.courses n i ++ [p.heading] := by
  rw [courses, List.range_succ, List.filterMap_append, courses]
  simp [hp]

variable [Clock σ τ] {I : σ → Prop} {s : Scene ρ σ}

/-- On a surface without faults, ticks never fail, and project the walks of all pipes. -/
theorem ticked_projected (room : Surface.Roomy (fun _ => False) I) (hb : S.boundary ≠ .bounce)
    (hstart : S.randomStart = false) (hs : s.Framed S ∧ I s.surface) (n : Nat) :
    (∃ next, tick (s.ticked n) = .ok () next) ∧ s.Projected n := by
  suffices hticked : ((s.ticked n).Framed S ∧ I (s.ticked n).surface) ∧ (s.ticked n).width = s.width ∧
      (s.ticked n).height = s.height ∧ s.Projected n by
    obtain ⟨next, htick, -⟩ := tick_moved room hb hstart hticked.1
    exact ⟨⟨next, htick⟩, hticked.2.2.2⟩
  induction n with
  | zero =>
    refine ⟨hs, rfl, rfl, fun i p hp => ⟨rfl, p, hp, ?_⟩⟩
    have hon : OnScreen s.width s.height p.cell.1 p.cell.2 := (hs.1.fits p (List.mem_of_getElem? hp)).onScreen
    rw [courses, List.range_zero, List.filterMap_nil, displaced_nil, onTorus_of_onScreen hon]
  | succ n ih =>
    obtain ⟨hn, hwidth, hheight, hprojected⟩ := ih
    obtain ⟨next, htick, hnext, hmoved⟩ := tick_moved room hb hstart hn
    have hticked : s.ticked (n + 1) = next := by rw [ticked, htick]; rfl
    rw [hticked]
    refine ⟨hnext, hmoved.width.trans hwidth, hmoved.height.trans hheight, fun i p hp => ?_⟩
    obtain ⟨hlength, p₁, hp₁, hcell₁⟩ := hprojected i p hp
    obtain ⟨p₂, hp₂, hcell₂, -⟩ := hmoved.pipes i p₁ hp₁
    rw [s.courses_succ n i hp₁, hticked]
    refine ⟨by rw [List.length_append, hlength]; rfl, p₂, hp₂, ?_⟩
    rw [hcell₂ (List.getElem?_eq_some_iff.1 hp₁).1, hwidth, hheight, hcell₁, displaced_concat, onTorus_neighbour]

end Scene

/-! ## Screens of two sizes -/

def Pipe.unplaced (p : Pipe) : Pipe := { p with x := 0, y := 0 }

/-- The event without the cell it is in. -/
def Event.unplaced : Event → Event
  | .put mark => .put { mark with x := 0, y := 0 }
  | e => e

/-- Two scenes that have done the same, if not in the same cells. -/
structure Scene.SameUnplaced (s : Scene ρ (LoggedSurface σ)) (s' : Scene ρ (LoggedSurface σ')) : Prop where
  pipes : s.pipes.map Pipe.unplaced = s'.pipes.map Pipe.unplaced
  drawn : s.drawn = s'.drawn
  resets : s.resets = s'.resets
  /-- A logged source knows what was drawn from it. -/
  source : s.source = s'.source
  events : s.surface.events.map Event.unplaced = s'.surface.events.map Event.unplaced

def BothHaveCells (size size' : Int × Int) : Prop := (1 ≤ size.1 ∧ 1 ≤ size.2) ∧ 1 ≤ size'.1 ∧ 1 ≤ size'.2

/-- If pipes wrap, keep their style and start in the centre, any two cells of any two screens correspond. -/
theorem Correspondence.unplaced (valid : S.Valid) (hb : S.boundary ≠ .bounce) (hkeep : S.keepStyle = true)
    (hstart : S.randomStart = false) : Correspondence S S tables tables BothHaveCells fun _ _ => True := by
  obtain ⟨colors, hcolors⟩ := valid.colors
  refine {
    pipes := rfl, turnChance := rfl, limit := rfl, randomStart := rfl, tables := rfl
    colors := ⟨colors, colors, hcolors, hcolors, rfl⟩
    centre := fun _ _ _ => trivial, anywhere := fun h => ?_, enter := ?_ }
  · rw [hstart] at h
    cases h
  · rintro size size' p p' ⟨⟨hw, hh⟩, hw', hh'⟩ hp
    obtain ⟨wrapped, henter⟩ := Pipe.enter_wrap (p := p) hb hw hh
    obtain ⟨wrapped', henter'⟩ := Pipe.enter_wrap (p := p') hb hw' hh'
    rw [henter, henter']
    refine ⟨trivial, hp.heading, ?_⟩
    rw [hkeep, Bool.not_true, Bool.and_false, Bool.and_false]

theorem Pipe.Twin.unplaced {p p' : Pipe} (h : p.Twin tables tables (fun _ _ => True) p') :
    p.unplaced = p'.unplaced := by
  obtain ⟨k, hk, hk'⟩ := h.glyphs
  rw [Pipe.unplaced, Pipe.unplaced, h.heading, h.color, Option.some.inj (hk.symm.trans hk')]

theorem Mark.Twin.unplaced {m m' : Mark} (h : Mark.Twin tables tables (fun _ _ => True) m m') :
    (Event.put m).unplaced = (Event.put m').unplaced := by
  obtain ⟨p, p', entering, hp, -, rfl, rfl⟩ := h
  obtain ⟨k, hk, hk'⟩ := hp.glyphs
  simp only [Event.unplaced, Pipe.mark, hp.heading, hp.color, Option.some.inj (hk.symm.trans hk')]

theorem map_eq_of_forall₂ {α β : Type} {f : α → β} {l l' : List α} (h : List.Forall₂ (fun a b => f a = f b) l l') :
    l.map f = l'.map f := by
  rw [← List.forall₂_eq_eq_eq, List.forall₂_map_left_iff, List.forall₂_map_right_iff]
  exact h

variable [Surface σ] [Surface σ'] [Clock σ τ] [Clock σ' τ] {I : σ → Prop} {I' : σ' → Prop}

theorem Surface.Roomy.inStep {Marks : Mark → Mark → Prop} (room : Surface.Roomy (fun _ => False) I)
    (room' : Surface.Roomy (fun _ => False) I') :
    Surface.InStep BothHaveCells Marks fun t t' => I t ∧ I' t' where
  size t t' h := ⟨⟨⟨room.width t h.1, room.height t h.1⟩, room'.width t' h.2, room'.height t' h.2⟩,
    room.size t h.1, room'.size t' h.2⟩
  put t t' m m' h _ := alike_of_keeps (room.put t m h.1) (room'.put t' m' h.2)
  clear t t' h := ⟨room.clear t h.1, room'.clear t' h.2⟩
  refresh t t' h := alike_of_keeps (room.refresh t h.1) (room'.refresh t' h.2)

/-- Two scenes whose pipes go the same way on the plane, and which do the same there but for the cells. -/
structure Scene.SameWay (s : Scene ρ (LoggedSurface σ)) (s' : Scene ρ (LoggedSurface σ')) (n : Nat) : Prop where
  ticks : ∃ next next', tick (s.ticked n) = .ok () next ∧ tick (s'.ticked n) = .ok () next'
  unplaced : (s.ticked n).SameUnplaced (s'.ticked n)
  /-- So their pipes are displaced by the same. -/
  courses : ∀ i, s.courses n i = s'.courses n i
  projected : s.Projected n
  projected' : s'.Projected n

section Scenes

variable {R : σ → σ' → Prop} {s : Scene ρ (LoggedSurface σ)} {s' : Scene ρ (LoggedSurface σ')}

theorem Scene.Twin.unplaced (h : s.Twin S S tables tables BothHaveCells (fun _ _ => True)
    (LoggedSurface.Paired R fun e e' => e.unplaced = e'.unplaced) s') : s.SameUnplaced s' where
  pipes := map_eq_of_forall₂ (h.pipes.imp fun _ _ hp => hp.unplaced)
  drawn := h.drawn
  resets := h.resets
  source := h.source
  events := map_eq_of_forall₂ (List.rel_reverse h.surface.log)

theorem Scene.courses_eq (h : ∀ n, (s.ticked n).SameUnplaced (s'.ticked n)) (n i : Nat) :
    s.courses n i = s'.courses n i := by
  refine congrArg (fun f => (List.range n).filterMap f) (funext fun k => ?_)
  have hpipes := congrArg (fun pipes => (pipes[i]?).map Pipe.heading) (h k).pipes
  simp only [List.getElem?_map, Option.map_map] at hpipes
  exact hpipes

end Scenes

theorem exists_sameUnplaced (valid : S.Valid) (hb : S.boundary ≠ .bounce) (hkeep : S.keepStyle = true)
    (hstart : S.randomStart = false) (room : Surface.Roomy (fun _ => False) I)
    (room' : Surface.Roomy (fun _ => False) I') (g : ρ) {t : σ} {t' : σ'} (ht : I t) (ht' : I' t') :
    ∃ (s : Scene ρ (LoggedSurface σ)) (s' : Scene ρ (LoggedSurface σ')), Scene.create S g ⟨t, []⟩ = .ok s ∧
      Scene.create S g ⟨t', []⟩ = .ok s' ∧ ∀ n, (s.ticked n).SameUnplaced (s'.ticked n) := by
  obtain ⟨T, hT, -⟩ := valid.tables
  have c : Correspondence S S T T BothHaveCells fun _ _ => True := .unplaced valid hb hkeep hstart
  have step : Surface.InStep BothHaveCells (Mark.Twin T T fun _ _ => True) (LoggedSurface.Paired
      (fun t t' => I t ∧ I' t') fun e e' => e.unplaced = e'.unplaced) :=
    LoggedSurface.paired_inStep (room.inStep room') (fun _ _ hm => ⟨hm, hm.unplaced⟩) rfl rfl
  have hlogs : LoggedSurface.Paired (fun t t' => I t ∧ I' t') (fun e e' => e.unplaced = e'.unplaced)
      ⟨t, []⟩ ⟨t', []⟩ := ⟨⟨ht, ht'⟩, .nil⟩
  rcases c.create step hT hT g hlogs with ⟨s, s', hcreate, hcreate', htwin⟩ | ⟨e, hfails, -⟩
  · have hticked (n : Nat) : Scene.Twin S S T T BothHaveCells (fun _ _ => True) (LoggedSurface.Paired
        (fun t t' => I t ∧ I' t') fun e e' => e.unplaced = e'.unplaced) (s.ticked n) (s'.ticked n) := by
      induction n with
      | zero => exact htwin
      | succ n ih => exact (c.tick step ih).left
    exact ⟨s, s', hcreate, hcreate', fun n => (hticked n).unplaced⟩
  · obtain ⟨s, hcreate, -⟩ := Scene.create_logged room valid g ht
    cases hcreate.symm.trans hfails

/-- Where pipes wrap, an advance projects a walk on the plane, whatever the settings are otherwise; and if pipes
keep their style and start in the centre, no animation can tell the size of its screen. -/
theorem wrapping_projects (hb : S.boundary = .wrap) :
    (∀ (tables : List GlyphTable) (width height : Int) (w : Walk ρ), 1 ≤ width → 1 ≤ height →
      (S.Valid → tables ≠ [] → ∀ n, ∃ strides last, strides.length = n ∧
        Walk.Strides S tables width height w strides last) ∧
      ∀ strides last, strides ≠ [] → Walk.Strides S tables width height w strides last →
        last.pipe.cell = onTorus width height (displaced w.pipe.cell (strides.map (·.before.heading)))) ∧
    (S.Valid → S.keepStyle = true → S.randomStart = false →
      ∀ {I : σ → Prop} {I' : σ' → Prop}, Surface.Roomy (fun _ => False) I → Surface.Roomy (fun _ => False) I' →
      ∀ (g : ρ) (t : σ) (t' : σ'), I t → I' t' →
        ∃ (s : Scene (LoggedSource ρ) (LoggedSurface σ)) (s' : Scene (LoggedSource ρ) (LoggedSurface σ')),
          Scene.create S ⟨g, []⟩ ⟨t, []⟩ = .ok s ∧ Scene.create S ⟨g, []⟩ ⟨t', []⟩ = .ok s' ∧
          ∀ n, s.SameWay s' n) := by
  have hb' : S.boundary ≠ .bounce := by rw [hb]; decide
  constructor
  · intro tables width height w hw hh
    exact ⟨fun valid ht n => Walk.exists_strides valid ht hw hh n w, fun _ _ hne h => h.cell_eq hb' hw hh hne⟩
  · intro valid hkeep hstart I I' room room' g t t' ht ht'
    obtain ⟨s, s', hcreate, hcreate', hsame⟩ :=
      exists_sameUnplaced valid hb' hkeep hstart room room' (⟨g, []⟩ : LoggedSource ρ) ht ht'
    refine ⟨s, s', hcreate, hcreate', fun n => ?_⟩
    have hs : s.Framed S ∧ I s.surface.inner := by
      obtain ⟨s₁, hcreate₁, hs₁⟩ := Scene.create_logged room valid (⟨g, []⟩ : LoggedSource ρ) ht
      cases hcreate.symm.trans hcreate₁
      exact hs₁
    have hs' : s'.Framed S ∧ I' s'.surface.inner := by
      obtain ⟨s₁, hcreate₁, hs₁⟩ := Scene.create_logged room' valid (⟨g, []⟩ : LoggedSource ρ) ht'
      cases hcreate'.symm.trans hcreate₁
      exact hs₁
    obtain ⟨⟨next, htick⟩, hprojected⟩ := Scene.ticked_projected room.logged hb' hstart hs n
    obtain ⟨⟨next', htick'⟩, hprojected'⟩ := Scene.ticked_projected room'.logged hb' hstart hs' n
    exact {
      ticks := ⟨next, next', htick, htick'⟩
      unplaced := hsame n
      courses := Scene.courses_eq hsame n
      projected := hprojected
      projected' := hprojected' }

/-- A walk from beyond the screen, and two animations that wrap, one on a single line. -/
theorem wrapping_projects_terminals :
    let S : Settings := { pipes := 2, turnChance := 40, limit := 5, keepStyle := true }
    let table : GlyphTable := .ofSet #v['┃', '┏', ' ', '┓', '┛', '━', '┓', ' ', ' ', '┗', '┃', '┛', '┗', ' ', '┏', '━']
    let g : Scripted := .ofLists [0.25, 0.75] [0, 1]
    let w : Walk Scripted := ⟨⟨-3, 7, .left, 0, table⟩, g⟩
    let window (width height : Int) : Window Float := {
      script := { width, height, keys := [], sizes := [], time := 0, costs := fun _ => 1, traps := [] }
      cursor := some 1, colors := true }
    let t : Terminal Float := ⟨window 4 3, [1, 3, 7], true, true, none⟩
    let t' : Terminal Float := ⟨window 9 1, [4], false, false, none⟩
    S.boundary = .wrap ∧
      (∃ strides last, strides.length = 6 ∧ Walk.Strides S [table] 4 3 w strides last ∧
        last.pipe.cell = onTorus 4 3 (displaced (-3, 7) (strides.map (·.before.heading)))) ∧
      t.Sound ∧ t'.Sound ∧
      ∃ (s s' : Scene (LoggedSource Scripted) (LoggedSurface (Terminal Float))),
        Scene.create S ⟨g, []⟩ ⟨t, []⟩ = .ok s ∧ Scene.create S ⟨g, []⟩ ⟨t', []⟩ = .ok s' ∧ ∀ n, s.SameWay s' n := by
  intro S table g w window t t'
  have valid : S.Valid := by decide +kernel
  have htables : [table] ≠ [] := List.cons_ne_nil _ _
  have ht : t.Sound := ⟨rfl, List.cons_ne_nil _ _⟩
  have ht' : t'.Sound := ⟨rfl, List.cons_ne_nil _ _⟩
  obtain ⟨hwalks, hscenes⟩ := @wrapping_projects Scripted (Terminal Float) (Terminal Float) Float _ S _ _ _ _ rfl
  obtain ⟨hexists, hprojects⟩ := hwalks [table] 4 3 w (by decide) (by decide)
  obtain ⟨strides, last, hlength, hstrides⟩ := hexists valid htables 6
  have hne : strides ≠ [] := List.ne_nil_of_length_pos (by omega)
  exact ⟨rfl, ⟨strides, last, hlength, hstrides, hprojects strides last hne hstrides⟩, ht, ht',
    hscenes valid rfl rfl Terminal.sound_roomy Terminal.sound_roomy g t t' ht ht'⟩

end Pipework
