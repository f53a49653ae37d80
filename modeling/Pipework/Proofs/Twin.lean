import Mathlib.Data.List.Forall2
import Pipework.Proofs.Alike
import Pipework.Proofs.Run

/-!
# Twin scenes

Two scenes on screens of their own are twins if they draw alike from sources in the same state: their pipes have
the same headings and colours, hold the tables at the same places of their lists, and stand in cells that
correspond. What has to be known of the two settings and of the cells is a `Correspondence`: pipes start in
corresponding cells, and where twins enter the next cell they do so with the same heading, into corresponding
cells, and either both take a new style or neither does. Then no draw tells the scenes apart, so twins remain
twins in ticks, resizes and resets, whichever calls on their surfaces fail, as long as the surfaces keep in step.
-/

set_option linter.unusedSectionVars false

namespace Pipework

open Act

variable {ρ σ σ' : Type} {S S' : Settings} {T T' : List GlyphTable} {Size Cell : Int × Int → Int × Int → Prop}

/-! ## Pipes and marks -/

/-- Pipes in corresponding cells, with the same heading and colour, and tables from the same place of two lists. -/
structure Pipe.Twin (T T' : List GlyphTable) (Cell : Int × Int → Int × Int → Prop) (p p' : Pipe) : Prop where
  cell : Cell (p.x, p.y) (p'.x, p'.y)
  heading : p.heading = p'.heading
  color : p.color = p'.color
  glyphs : ∃ k : Nat, T[k]? = some p.glyphs ∧ T'[k]? = some p'.glyphs

/-- Marks that twin pipes draw in cells which they entered with the same heading, and do not leave by going back. -/
def Mark.Twin (T T' : List GlyphTable) (Cell : Int × Int → Int × Int → Prop) (m m' : Mark) : Prop :=
  ∃ p p' entering, Pipe.Twin T T' Cell p p' ∧ p.heading ≠ Direction.opposite entering ∧ m = p.mark entering ∧
    m' = p'.mark entering

def Walk.Twin (T T' : List GlyphTable) (Cell : Int × Int → Int × Int → Prop) (w w' : Walk ρ) : Prop :=
  w.pipe.Twin T T' Cell w'.pipe ∧ w.source = w'.source

/-- The next cells of twins: entered with the same heading, and both with a new style or neither. -/
def Entry.Twin (S S' : Settings) (Cell : Int × Int → Int × Int → Prop) :
    Except Fault Entry → Except Fault Entry → Prop
  | .ok e, .ok e' => Cell (e.x, e.y) (e'.x, e'.y) ∧ e.heading = e'.heading ∧
      (e.wrapped && !S.keepStyle) = (e'.wrapped && !S'.keepStyle)
  | .error f, .error f' => f = f'
  | .ok _, .error _ => False
  | .error _, .ok _ => False

/-- What two settings, and the sizes and cells of two screens, have to have in common. -/
structure Correspondence (S S' : Settings) (T T' : List GlyphTable) (Size Cell : Int × Int → Int × Int → Prop) :
    Prop where
  pipes : S.pipes = S'.pipes
  turnChance : S.turnChance = S'.turnChance
  limit : S.limit = S'.limit
  randomStart : S.randomStart = S'.randomStart
  colors : ∃ colors colors', S.palette.colors? = some colors ∧ S'.palette.colors? = some colors' ∧
    colors.length = colors'.length
  tables : T.length = T'.length
  centre : ∀ size size', Size size size' → Cell (size.1 / 2, size.2 / 2) (size'.1 / 2, size'.2 / 2)
  /-- Where pipes start anywhere, only equal screens correspond. -/
  anywhere : S.randomStart → (∀ size size', Size size size' → size = size') ∧ ∀ cell, Cell cell cell
  enter : ∀ size size' p p', Size size size' → Pipe.Twin T T' Cell p p' →
    Entry.Twin S S' Cell (p.enter S.boundary size.1 size.2) (p'.enter S'.boundary size'.1 size'.2)

/-! ## Draws -/

theorem forall₂_modify {α β : Type} {R : α → β → Prop} {l : List α} {l' : List β} (h : List.Forall₂ R l l')
    {f : α → α} {f' : β → β} (hf : ∀ a b, R a b → R (f a) (f' b)) (i : Nat) :
    List.Forall₂ R (l.modify i f) (l'.modify i f') := by
  induction h generalizing i with
  | nil => simp
  | cons hab h ih =>
    cases i with
    | zero => simpa using ⟨hf _ _ hab, h⟩
    | succ i => simpa using ⟨hab, ih i⟩

variable [RandomSource ρ]

theorem choose_alike {α β : Type} {l : List α} {l' : List β} (h : l.length = l'.length) (g : ρ) :
    Alike (fun a a' => ∃ k : Nat, l[k]? = some a ∧ l'[k]? = some a') Eq (choose l g) (choose l' g) := by
  have hbelow (n : Nat) (hn : 0 < n) (n' : Nat) (hn' : 0 < n') (heq : n = n') :
      (RandomSource.below n hn g).1.val = (RandomSource.below n' hn' g).1.val ∧
        (RandomSource.below n hn g).2 = (RandomSource.below n' hn' g).2 := by
    subst heq
    exact ⟨rfl, rfl⟩
  unfold choose
  by_cases hpos : 0 < l.length
  · have hpos' : 0 < l'.length := h ▸ hpos
    obtain ⟨hi, hg⟩ := hbelow _ hpos _ hpos' h
    rw [dif_pos hpos, dif_pos hpos']
    refine ⟨⟨(RandomSource.below l.length hpos g).1.val, ?_, ?_⟩, hg⟩
    · exact List.getElem?_eq_getElem _
    · rw [hi]
      exact List.getElem?_eq_getElem _
  · rw [dif_neg hpos, dif_neg (h ▸ hpos)]
    exact ⟨rfl, rfl⟩

namespace Correspondence

theorem chooseHeading (c : Correspondence S S' T T' Size Cell) (d : Direction) :
    (chooseHeading S d : Act ρ Direction) = chooseHeading S' d := by
  have hthreshold : S.turnThreshold? = S'.turnThreshold? := by
    unfold Settings.turnThreshold?
    rw [c.turnChance]
  unfold Pipework.chooseHeading
  rw [hthreshold]

theorem drawStyle (c : Correspondence S S' T T' Size Cell) (g : ρ) :
    Alike (fun a a' => a.1 = a'.1 ∧ ∃ k : Nat, T[k]? = some a.2 ∧ T'[k]? = some a'.2) Eq
      (drawStyle S T g) (drawStyle S' T' g) := by
  obtain ⟨colors, colors', hcolors, hcolors', hlength⟩ := c.colors
  simp only [Pipework.drawStyle, hcolors, hcolors', hlength]
  refine (alike_self _).bind ?_
  rintro color _ g _ rfl rfl
  refine (choose_alike c.tables g).bind ?_
  rintro glyphs glyphs' g _ hglyphs rfl
  exact ⟨⟨rfl, hglyphs⟩, rfl⟩

theorem createPipe (c : Correspondence S S' T T' Size Cell) {x y x' y' : Int} (hcell : Cell (x, y) (x', y'))
    (heading : Direction) (g : ρ) :
    Alike (Pipe.Twin T T' Cell) Eq (Pipe.create S T x y heading g) (Pipe.create S' T' x' y' heading g) := by
  have hempty : T.isEmpty = T'.isEmpty := by
    rw [Bool.eq_iff_iff, List.isEmpty_iff_length_eq_zero, List.isEmpty_iff_length_eq_zero, c.tables]
  unfold Pipe.create
  rw [hempty]
  split
  · exact ⟨rfl, rfl⟩
  · refine (c.drawStyle g).bind ?_
    rintro ⟨color, glyphs⟩ ⟨_, glyphs'⟩ g _ ⟨rfl, hglyphs⟩ rfl
    exact ⟨⟨hcell, rfl, rfl, hglyphs⟩, rfl⟩

/-! ## Advances -/

theorem restyle (c : Correspondence S S' T T' Size Cell) {w w' : Walk ρ} (h : w.Twin T T' Cell w') :
    Alike (fun _ _ => True) (Walk.Twin T T' Cell) (Walk.restyle S T w) (Walk.restyle S' T' w') := by
  obtain ⟨hpipe, hsource⟩ := h
  have hstyle : Alike (fun a a' => a.1 = a'.1 ∧ ∃ k : Nat, T[k]? = some a.2 ∧ T'[k]? = some a'.2)
      (Walk.Twin T T' Cell)
      ((Pipework.drawStyle S T).on Walk.source (fun w g => { w with source := g }) w)
      ((Pipework.drawStyle S' T').on Walk.source (fun w g => { w with source := g }) w') := by
    refine Alike.on (V := Eq) ?_ fun g g' hg => ⟨hpipe, hg⟩
    rw [hsource]
    exact c.drawStyle _
  refine hstyle.bind ?_
  rintro ⟨color, glyphs⟩ ⟨_, glyphs'⟩ w w' ⟨rfl, hglyphs⟩ ⟨hpipe, hsource⟩
  exact ⟨trivial, ⟨hpipe.cell, hpipe.heading, rfl, hglyphs⟩, hsource⟩

theorem advance (c : Correspondence S S' T T' Size Cell) {size size' : Int × Int} (hsize : Size size size')
    {w w' : Walk ρ} (h : w.Twin T T' Cell w') :
    Alike (Mark.Twin T T' Cell) (Walk.Twin T T' Cell) (Walk.advance S T size.1 size.2 w)
      (Walk.advance S' T' size'.1 size'.2 w') := by
  obtain ⟨hpipe, hsource⟩ := h
  have henter := c.enter size size' _ _ hsize hpipe
  obtain ⟨hcell, hheading, hcolor, hglyphs⟩ := hpipe
  cases he : w.pipe.enter S.boundary size.1 size.2 <;>
    cases he' : w'.pipe.enter S'.boundary size'.1 size'.2 <;>
    rw [he, he'] at henter <;> simp only [Walk.advance, he, he']
  · exact ⟨henter, ⟨hcell, hheading, hcolor, hglyphs⟩, hsource⟩
  · exact henter.elim
  · exact henter.elim
  · next e e' =>
    obtain ⟨hentered, hentering, hrestyles⟩ := henter
    rw [hentering, hsource, c.chooseHeading, hrestyles]
    split
    · exact ⟨rfl, ⟨hentered, rfl, hcolor, hglyphs⟩, rfl⟩
    · next leaving g hchoice =>
      have hturned : Walk.Twin T T' Cell (⟨⟨e.x, e.y, leaving, w.pipe.color, w.pipe.glyphs⟩, g⟩ : Walk ρ)
          ⟨⟨e'.x, e'.y, leaving, w'.pipe.color, w'.pipe.glyphs⟩, g⟩ := ⟨⟨hentered, rfl, hcolor, hglyphs⟩, rfl⟩
      have hforward : leaving ≠ e'.heading.opposite := chooseHeading_ne_opposite hchoice
      split
      · -- both take a new style, in which they keep their heading
        have hstyled := c.restyle hturned
        revert hstyled
        generalize hr : Walk.restyle S T (_ : Walk ρ) = r
        generalize Walk.restyle S' T' (_ : Walk ρ) = r'
        intro hstyled
        cases r <;> cases r'
        · obtain ⟨color, glyphs, hpipe⟩ := Walk.restyle_pipe hr
          refine ⟨⟨_, _, _, hstyled.2.1, ?_, rfl, rfl⟩, hstyled.2⟩
          rw [hpipe]
          exact hforward
        · exact hstyled.elim
        · exact hstyled.elim
        · exact hstyled
      · exact ⟨⟨_, _, _, hturned.1, hforward, rfl, rfl⟩, hturned⟩

end Correspondence

/-! ## Scenes -/

/-- Two scenes that draw alike, on surfaces that go together by `R`. -/
structure Scene.Twin (S S' : Settings) (T T' : List GlyphTable) (Size Cell : Int × Int → Int × Int → Prop)
    (R : σ → σ' → Prop) (s : Scene ρ σ) (s' : Scene ρ σ') : Prop where
  settings : s.settings = S
  settings' : s'.settings = S'
  tables : s.tables = T
  tables' : s'.tables = T'
  size : Size (s.width, s.height) (s'.width, s'.height)
  pipes : List.Forall₂ (Pipe.Twin T T' Cell) s.pipes s'.pipes
  drawn : s.drawn = s'.drawn
  resets : s.resets = s'.resets
  source : s.source = s'.source
  surface : R s.surface s'.surface

namespace Correspondence

variable {R : σ → σ' → Prop} {s : Scene ρ σ} {s' : Scene ρ σ'}

theorem onSource {α α' : Type} {Q : α → α' → Prop} {act : Act ρ α} {act' : Act ρ α'}
    (h : s.Twin S S' T T' Size Cell R s') (hact : Alike Q Eq (act s.source) (act' s.source)) :
    Alike Q (Scene.Twin S S' T T' Size Cell R) (Scene.onSource act s) (Scene.onSource act' s') := by
  refine Alike.on (V := Eq) ?_ fun g g' hg => { h with source := hg }
  rw [← h.source]
  exact hact

theorem startPosition (c : Correspondence S S' T T' Size Cell) (h : s.Twin S S' T T' Size Cell R s') :
    Alike Cell (Scene.Twin S S' T T' Size Cell R) (Scene.startPosition s) (Scene.startPosition s') := by
  rw [Scene.startPosition, Scene.startPosition, get_bind, get_bind, h.settings, h.settings', ← c.randomStart]
  cases hstart : S.randomStart with
  | false => exact ⟨c.centre _ _ h.size, h⟩
  | true =>
    -- draws below the same bounds, for the screens are of one size
    obtain ⟨hsame, hcell⟩ := c.anywhere hstart
    have hsize := Prod.ext_iff.1 (hsame _ _ h.size)
    rw [if_pos rfl, if_pos rfl, ← show s.width = s'.width from hsize.1, ← show s.height = s'.height from hsize.2]
    refine (onSource h (alike_self _)).bind ?_
    rintro x _ s s' rfl h
    refine (onSource h (alike_self _)).bind ?_
    rintro y _ s s' rfl h
    exact ⟨hcell _, h⟩

theorem spawnOne (c : Correspondence S S' T T' Size Cell) (h : s.Twin S S' T T' Size Cell R s') :
    Alike (fun _ _ => True) (Scene.Twin S S' T T' Size Cell R) (Scene.spawnOne s) (Scene.spawnOne s') := by
  refine (c.startPosition h).bind ?_
  rintro ⟨x, y⟩ ⟨x', y'⟩ s s' hcell h
  refine (onSource h (alike_self _)).bind ?_
  rintro heading _ s s' rfl h
  rw [get_bind, get_bind, h.settings, h.settings', h.tables, h.tables']
  refine (onSource h (c.createPipe hcell heading _)).bind ?_
  rintro p p' s s' hp h
  exact ⟨trivial, { h with pipes := List.rel_append h.pipes (.cons hp .nil) }⟩

theorem spawn (c : Correspondence S S' T T' Size Cell) (h : s.Twin S S' T T' Size Cell R s') :
    Alike (fun _ _ => True) (Scene.Twin S S' T T' Size Cell R) (Scene.spawn s) (Scene.spawn s') := by
  have hcount : s.settings.pipes = s'.settings.pipes := by rw [h.settings, h.settings', c.pipes]
  rw [Scene.spawn, Scene.spawn, modify_bind, modify_bind, get_bind, get_bind, hcount]
  exact Alike.forM (fun _ _ _ _ h => c.spawnOne h) { h with pipes := .nil }

theorem scatter (c : Correspondence S S' T T' Size Cell) (h : s.Twin S S' T T' Size Cell R s') :
    Alike (fun _ _ => True) (Scene.Twin S S' T T' Size Cell R) (Scene.scatter s) (Scene.scatter s') := by
  rw [Scene.scatter, Scene.scatter, get_bind, get_bind, h.pipes.length_eq]
  refine Alike.forM (fun i _ s s' h => (c.startPosition h).bind ?_) h
  rintro ⟨x, y⟩ ⟨x', y'⟩ s s' hcell h
  have hplaced (p p' : Pipe) (hp : p.Twin T T' Cell p') :
      Pipe.Twin T T' Cell { p with x, y } { p' with x := x', y := y' } :=
    ⟨hcell, hp.heading, hp.color, hp.glyphs⟩
  have hmoved := forall₂_modify h.pipes hplaced i
  exact ⟨trivial, { h with pipes := hmoved }⟩

theorem advancePipe (c : Correspondence S S' T T' Size Cell) (h : s.Twin S S' T T' Size Cell R s') (i : Nat) :
    Alike (Option.Rel (Mark.Twin T T' Cell)) (Scene.Twin S S' T T' Size Cell R) (Scene.advancePipe i s)
      (Scene.advancePipe i s') := by
  rw [Scene.advancePipe, Scene.advancePipe, get_bind, get_bind, h.settings, h.settings', h.tables, h.tables']
  unfold Scene.onPipe
  by_cases hi : i < s.pipes.length
  · have hi' : i < s'.pipes.length := h.pipes.length_eq ▸ hi
    have htwin : Walk.Twin T T' Cell (⟨s.pipes[i], s.source⟩ : Walk ρ) ⟨s'.pipes[i], s'.source⟩ :=
      ⟨h.pipes.get hi hi', h.source⟩
    have hadvance := c.advance h.size htwin
    have hset {p p' : Pipe} (hp : p.Twin T T' Cell p') :
        List.Forall₂ (Pipe.Twin T T' Cell) (s.pipes.set i p) (s'.pipes.set i p') := by
      rw [List.set_eq_modify, List.set_eq_modify]
      exact forall₂_modify h.pipes (fun _ _ _ => hp) i
    rw [List.getElem?_eq_getElem hi, List.getElem?_eq_getElem hi']
    dsimp only at hadvance ⊢
    cases hr : Walk.advance S T s.width s.height ⟨s.pipes[i], s.source⟩ <;>
      cases hr' : Walk.advance S' T' s'.width s'.height ⟨s'.pipes[i], s'.source⟩ <;> rw [hr, hr'] at hadvance
    · exact ⟨.some hadvance.1, { h with pipes := hset hadvance.2.1, source := hadvance.2.2 }⟩
    · exact hadvance.elim
    · exact hadvance.elim
    · exact ⟨hadvance.1, { h with pipes := hset hadvance.2.1, source := hadvance.2.2 }⟩
  · have hi' : ¬ i < s'.pipes.length := h.pipes.length_eq ▸ hi
    rw [List.getElem?_eq_none (Nat.le_of_not_lt hi), List.getElem?_eq_none (Nat.le_of_not_lt hi')]
    exact ⟨.none, h⟩

end Correspondence

/-! ## Surfaces in step -/

/-- Surfaces that go together by `R` report corresponding sizes, and whatever twins do to them, the calls on
both succeed or fail alike and they still go together. -/
structure Surface.InStep [Surface σ] [Surface σ'] (Size : Int × Int → Int × Int → Prop) (Marks : Mark → Mark → Prop)
    (R : σ → σ' → Prop) : Prop where
  size : ∀ t t', R t t' → Size (Surface.size t).1 (Surface.size t').1 ∧ R (Surface.size t).2 (Surface.size t').2
  put : ∀ t t' m m', R t t' → Marks m m' → Alike (fun _ _ => True) R (Surface.put m t) (Surface.put m' t')
  clear : ∀ t t', R t t' → R (Surface.clear t) (Surface.clear t')
  refresh : ∀ t t', R t t' → Alike (fun _ _ => True) R (Surface.refresh t) (Surface.refresh t')

theorem Surface.InStep.of_marks [Surface σ] [Surface σ'] {Marks Marks' : Mark → Mark → Prop} {R : σ → σ' → Prop}
    (step : Surface.InStep Size Marks R) (h : ∀ m m', Marks' m m' → Marks m m') : Surface.InStep Size Marks' R where
  size := step.size
  put t t' m m' ht hm := step.put t t' m m' ht (h m m' hm)
  clear := step.clear
  refresh := step.refresh

namespace Correspondence

variable [Surface σ] [Surface σ'] {R : σ → σ' → Prop} {s : Scene ρ σ} {s' : Scene ρ σ'}

theorem onSurface {act : Act σ Unit} {act' : Act σ' Unit} (h : s.Twin S S' T T' Size Cell R s')
    (hact : Alike (fun _ _ => True) R (act s.surface) (act' s'.surface)) :
    Alike (fun _ _ => True) (Scene.Twin S S' T T' Size Cell R) (Scene.onSurface act s) (Scene.onSurface act' s') :=
  Alike.on hact fun _ _ ht => { h with surface := ht }

variable (c : Correspondence S S' T T' Size Cell) (step : Surface.InStep Size (Mark.Twin T T' Cell) R)

include c step

theorem reset (h : s.Twin S S' T T' Size Cell R s') :
    Alike (fun _ _ => True) (Scene.Twin S S' T T' Size Cell R) (Scene.reset s) (Scene.reset s') := by
  have hwiped : Scene.Twin S S' T T' Size Cell R s.wiped s'.wiped :=
    { h with drawn := rfl, resets := congrArg (· + 1) h.resets, surface := step.clear _ _ h.surface }
  change Alike _ _ ((if s.settings.randomStart then Scene.scatter else pure () : Act _ _) s.wiped)
    ((if s'.settings.randomStart then Scene.scatter else pure () : Act _ _) s'.wiped)
  rw [h.settings, h.settings', ← c.randomStart]
  split
  · exact c.scatter hwiped
  · exact ⟨trivial, hwiped⟩

theorem resize (h : s.Twin S S' T T' Size Cell R s') :
    Alike (fun _ _ => True) (Scene.Twin S S' T T' Size Cell R) (Scene.resize s) (Scene.resize s') := by
  obtain ⟨hsize, hread⟩ := step.size _ _ h.surface
  have hresized : Scene.Twin S S' T T' Size Cell R (s.resized s.pipes s.source) (s'.resized s'.pipes s'.source) :=
    { h with size := hsize, drawn := rfl, surface := step.clear _ _ hread }
  exact c.spawn hresized

theorem stepPipe (h : s.Twin S S' T T' Size Cell R s') (i : Nat) :
    Alike (fun _ _ => True) (Scene.Twin S S' T T' Size Cell R) (Scene.stepPipe i s) (Scene.stepPipe i s') := by
  have hroom : Alike (fun _ _ => True) (Scene.Twin S S' T T' Size Cell R) (Scene.makeRoom s)
      (Scene.makeRoom s') := by
    have hfull : s.isFull = s'.isFull := by
      rw [Scene.isFull, Scene.isFull, h.settings, h.settings', c.limit, h.drawn]
    rw [Scene.makeRoom, Scene.makeRoom, get_bind, get_bind, hfull]
    split
    · exact c.reset step h
    · exact ⟨trivial, h⟩
  refine hroom.bind fun _ _ s s' _ h => (c.advancePipe h i).bind ?_
  rintro mark mark' s s' hmark h
  cases hmark with
  | none => exact ⟨trivial, h⟩
  | some hmark =>
    refine (onSurface h (step.put _ _ _ _ h.surface hmark)).bind fun _ _ s s' _ h => ?_
    exact ⟨trivial, { h with drawn := congrArg (· + 1) h.drawn }⟩

theorem tick (h : s.Twin S S' T T' Size Cell R s') :
    Alike (fun _ _ => True) (Scene.Twin S S' T T' Size Cell R) (Scene.tick s) (Scene.tick s') := by
  have steps : Alike (fun _ _ => True) (Scene.Twin S S' T T' Size Cell R)
      ((List.range s'.pipes.length).forM Scene.stepPipe s) ((List.range s'.pipes.length).forM Scene.stepPipe s') :=
    Alike.forM (fun i _ _ _ h => c.stepPipe step h i) h
  rw [Scene.tick, Scene.tick, get_bind, get_bind, h.pipes.length_eq]
  exact steps.bind fun _ _ s s' _ h => onSurface h (step.refresh _ _ h.surface)

end Correspondence

/-! ## Logged surfaces -/

/-- Surfaces that go together by `R`, with logs of events that do by `E`. -/
structure LoggedSurface.Paired (R : σ → σ' → Prop) (E : Event → Event → Prop) (t : LoggedSurface σ)
    (t' : LoggedSurface σ') : Prop where
  inner : R t.inner t'.inner
  log : List.Forall₂ E t.log t'.log

namespace LoggedSurface

variable [Surface σ] [Surface σ'] {R : σ → σ' → Prop} {E : Event → Event → Prop} {t : LoggedSurface σ}
  {t' : LoggedSurface σ'}

theorem Paired.noting {e e' : Event} (he : E e e') {act : Act σ Unit} {act' : Act σ' Unit} (h : Paired R E t t')
    (hact : Alike (fun _ _ => True) R (act t.inner) (act' t'.inner)) :
    Alike (fun _ _ => True) (Paired R E) (noting e act t) (noting e' act' t') := by
  have hsilent : Alike (fun _ _ => True) (Paired R E) (silently act t) (silently act' t') :=
    hact.on fun _ _ ht => ⟨ht, h.log⟩
  exact hsilent.bind fun _ _ t t' _ h => ⟨trivial, h.inner, .cons he h.log⟩

/-- What two surfaces have logged goes together if what is done to them does. -/
theorem paired_inStep {Marks Marks' : Mark → Mark → Prop} (step : Surface.InStep Size Marks R)
    (hput : ∀ m m', Marks' m m' → Marks m m' ∧ E (.put m) (.put m')) (hclear : E .clear .clear)
    (hrefresh : E .refresh .refresh) : Surface.InStep Size Marks' (Paired R E) where
  size t t' h := by
    obtain ⟨hsize, hR⟩ := step.size t.inner t'.inner h.inner
    exact ⟨hsize, hR, h.log⟩
  put t t' m m' h hm := h.noting (hput m m' hm).2 (step.put _ _ _ _ h.inner (hput m m' hm).1)
  clear t t' h := ⟨step.clear _ _ h.inner, .cons hclear h.log⟩
  refresh t t' h := h.noting hrefresh (step.refresh _ _ h.inner)

end LoggedSurface

/-! ## Animations -/

/-- The scene that an animation starts with if it draws with given tables. -/
def Scene.createWith [Surface σ] (tables : List GlyphTable) (settings : Settings) (source : ρ) (surface : σ) :
    Except Fault (Scene ρ σ) :=
  let ((width, height), surface) := Surface.size surface
  match spawn ⟨settings, tables, width, height, [], 0, 0, false, source, surface⟩ with
  | .ok () s => .ok s
  | .error e _ => .error e

theorem Scene.create_of_tables [Surface σ] (h : S.tables = .ok T) (source : ρ) (surface : σ) :
    create S source surface = createWith T S source surface := by
  unfold create
  rw [h]
  rfl

def Deed.IsRun {τ : Type} : Deed τ → Prop
  | .run .. => True
  | _ => False

namespace Correspondence

variable {τ : Type} [Surface σ] [Surface σ'] {R : σ → σ' → Prop} (c : Correspondence S S' T T' Size Cell)
  (step : Surface.InStep Size (Mark.Twin T T' Cell) R)

include c step

/-- There are two scenes to start with, which are twins, or neither can be had. -/
theorem createWith (g : ρ) {t : σ} {t' : σ'} (h : R t t') :
    (∃ s s', Scene.createWith T S g t = .ok s ∧ Scene.createWith T' S' g t' = .ok s' ∧
        s.Twin S S' T T' Size Cell R s') ∨
      ∃ e, Scene.createWith T S g t = .error e ∧ Scene.createWith T' S' g t' = .error e := by
  obtain ⟨hsize, hR⟩ := step.size t t' h
  let blank : Scene ρ σ := ⟨S, T, (Surface.size t).1.1, (Surface.size t).1.2, [], 0, 0, false, g, (Surface.size t).2⟩
  let blank' : Scene ρ σ' :=
    ⟨S', T', (Surface.size t').1.1, (Surface.size t').1.2, [], 0, 0, false, g, (Surface.size t').2⟩
  have hblank : blank.Twin S S' T T' Size Cell R blank' := ⟨rfl, rfl, rfl, rfl, hsize, .nil, rfl, rfl, rfl, hR⟩
  have hspawn := c.spawn hblank
  unfold Scene.createWith
  dsimp only
  cases hr : Scene.spawn blank <;> cases hr' : Scene.spawn blank' <;> rw [hr, hr'] at hspawn
  · exact .inl ⟨_, _, rfl, rfl, hspawn.2⟩
  · exact hspawn.elim
  · exact hspawn.elim
  · obtain ⟨rfl, -⟩ := hspawn
    exact .inr ⟨_, rfl, rfl⟩

theorem create (hT : S.tables = .ok T) (hT' : S'.tables = .ok T') (g : ρ) {t : σ} {t' : σ'} (h : R t t') :
    (∃ s s', Scene.create S g t = .ok s ∧ Scene.create S' g t' = .ok s' ∧ s.Twin S S' T T' Size Cell R s') ∨
      ∃ e, Scene.create S g t = .error e ∧ Scene.create S' g t' = .error e := by
  rw [Scene.create_of_tables hT, Scene.create_of_tables hT']
  exact c.createWith step g h

variable [Clock σ τ] [Clock σ' τ] [Time τ]

theorem after {deeds : List (Deed τ)} (hruns : ∀ deed ∈ deeds, ¬ deed.IsRun) {s : Scene ρ σ} {s' : Scene ρ σ'}
    (h : s.Twin S S' T T' Size Cell R s') : (s.after deeds).Twin S S' T T' Size Cell R (s'.after deeds) := by
  induction deeds generalizing s s' with
  | nil => exact h
  | cons deed deeds ih =>
    refine ih (fun deed' hmem => hruns deed' (List.mem_cons_of_mem _ hmem)) ?_
    cases deed with
    | tick => exact (c.tick step h).left
    | resize => exact (c.resize step h).left
    | reset => exact (c.reset step h).left
    | spawn => exact (c.spawn h).left
    | run pace maxTicks most => exact absurd trivial (hruns _ List.mem_cons_self)

end Correspondence

end Pipework
