import Mathlib.Tactic.Ring
import Pipework.Proofs.Draws
import Pipework.Proofs.Faultless
import Pipework.Random.Scripted

/-!
# The account of an animation

All pipes of an animation draw from one source, so what is drawn there and in which order decides what a seed stands
for. A spawn draws a start, a heading and a style for each pipe; a reset draws new starts for all pipes, in their order,
if pipes start anywhere; a stride draws what its advance does. Whatever ticks, resizes and resets do is a history of such
doings (`Scene.History`), and each of them leaves its draws and its events and no others (`Scene.Does.accounts`). So the
logs of source and surface are those of the doings in their order, and the numbers of draws are sums over them.
-/

set_option linter.unusedSectionVars false

namespace Pipework

open Act

/-! ## Doings -/

/-- Something that an animation does, with the size of the screen it does it on. -/
inductive Doing where
  | resize (width height : Int)
  | reset (width height : Int)
  | stride (width height : Int) (v : Stride)
  | refresh

namespace Settings

/-- What a start position draws: a column and then a row, or nothing in the centre. -/
def startDraws (S : Settings) (width height : Int) : List Draw :=
  if S.randomStart then [.below width.toNat, .below height.toNat] else []

/-- What one new pipe draws: a start, one of the four headings, and a style. -/
def newDraws (S : Settings) (tables : List GlyphTable) (width height : Int) : List Draw :=
  S.startDraws width height ++ .below 4 :: S.styleDraws tables

def spawnDraws (S : Settings) (tables : List GlyphTable) (width height : Int) : List Draw :=
  (List.replicate S.pipes.toNat (S.newDraws tables width height)).flatten

end Settings

namespace Doing

def draws (S : Settings) (tables : List GlyphTable) : Doing → List Draw
  | resize width height => S.spawnDraws tables width height
  | reset width height => (List.replicate S.pipes.toNat (S.startDraws width height)).flatten
  | stride width height v => v.draws S tables width height
  | refresh => []

def events : Doing → List Event
  | resize _ _ => [.clear]
  | reset _ _ => [.clear]
  | stride _ _ v => [.put v.mark]
  | refresh => [.refresh]

def isResize : Doing → Bool
  | resize _ _ => true
  | _ => false

def isReset : Doing → Bool
  | reset _ _ => true
  | _ => false

def turns : Doing → Bool
  | stride _ _ v => v.Turns
  | _ => false

def wraps (b : Boundary) : Doing → Bool
  | stride width height v => v.before.Wraps b width height
  | _ => false

end Doing

/-! ## Starts -/

variable {ρ σ τ : Type} [RandomSource ρ] {S : Settings} {tables : List GlyphTable} {width height : Int}

/-- Pipes are moved one after another to cells that are drawn for them, the column of each before its row. -/
inductive Scattered (width height : Int) (g : ρ) : List Pipe → List Pipe → ρ → Prop where
  | nil : Scattered width height g [] [] g
  | concat {g₁ g₂ g₃ : ρ} {pipes moved : List Pipe} {x y : Nat} (earlier : Scattered width height g pipes moved g₁)
      (p : Pipe) (column : drawBelow width g₁ = .ok x g₂) (row : drawBelow height g₂ = .ok y g₃) :
      Scattered width height g (pipes ++ [p]) (moved ++ [{ p with x, y }]) g₃

theorem Scattered.length_eq {g g' : ρ} {pipes moved : List Pipe} (h : Scattered width height g pipes moved g') :
    moved.length = pipes.length := by
  induction h with
  | nil => rfl
  | concat earlier p column row ih => rw [List.length_append, List.length_append, ih]; rfl

theorem Scattered.draws_eq {g g' : LoggedSource ρ} {pipes moved : List Pipe}
    (h : Scattered width height g pipes moved g') :
    g'.draws = g.draws ++
      (List.replicate pipes.length [Draw.below width.toNat, .below height.toNat]).flatten := by
  induction h with
  | nil => simp
  | concat earlier p column row ih =>
    rw [drawBelow_draws row, drawBelow_draws column, ih, List.length_append, List.length_singleton,
      List.replicate_succ', List.flatten_append]
    simp

theorem modify_middle {α : Type} {l l' : List α} {a : α} {f : α → α} {i : Nat} (h : l.length = i) :
    (l ++ a :: l').modify i f = l ++ f a :: l' := by
  subst h
  simp [List.modify_eq_take_cons_drop]

namespace Scene

theorem startPosition_cell {s : Scene ρ σ} (hstart : s.settings.randomStart = true) :
    Ends (fun cell s' => ∃ (x y : Nat) (g g' : ρ), cell = (↑x, ↑y) ∧ drawBelow s.width s.source = .ok x g ∧
      drawBelow s.height g = .ok y g' ∧ s' = { s with source := g' }) (fun _ _ => True) (startPosition s) := by
  change Ends _ _ ((if s.settings.randomStart then _ else _ : Act (Scene ρ σ) (Int × Int)) s)
  rw [if_pos hstart]
  refine ends_bind.2 (ends_on.2 (ends_of_ok fun x g hx => ?_))
  refine ends_bind.2 (ends_on.2 (ends_of_ok fun y g' hy => ?_))
  exact ⟨x, y, g, g', rfl, hx, hy, rfl⟩

/-- Where pipes start anywhere, a scatter draws a new cell for each of them. -/
theorem scatter_scattered {s : Scene ρ σ} (hstart : s.settings.randomStart = true) :
    Ends (fun _ s' => ∃ pipes g, s' = s.withPipes pipes g ∧
      Scattered s.width s.height s.source s.pipes pipes g) (fun _ _ => True) (scatter s) := by
  let soFar (i : Nat) (s' : Scene ρ σ) : Prop := ∃ moved g, s' = s.withPipes (moved ++ s.pipes.drop i) g ∧
    Scattered s.width s.height s.source (s.pipes.take i) moved g
  have loop : Ends (fun _ => soFar s.pipes.length) (fun _ _ => True) (scatter s) := by
    refine Ends.forM_range (I := soFar) ?_ ⟨[], s.source, rfl, .nil⟩
    rintro i hi s' ⟨moved, g, rfl, hmoved⟩
    have hcell := startPosition_cell (s := s.withPipes (moved ++ s.pipes.drop i) g) hstart
    refine ends_bind.2 (hcell.mono ?_ fun _ _ _ => trivial)
    rintro _ _ ⟨x, y, g₁, g₂, rfl, hx, hy, rfl⟩
    have hlength : moved.length = i := by
      rw [hmoved.length_eq, List.length_take, Nat.min_eq_left (Nat.le_of_lt hi)]
    refine ⟨moved ++ [{ s.pipes[i] with x, y }], g₂, ?_, ?_⟩
    · change s.withPipes ((moved ++ s.pipes.drop i).modify i _) g₂ = _
      rw [List.drop_eq_getElem_cons hi, modify_middle hlength, List.append_assoc]
      rfl
    · rw [← List.take_append_getElem hi]
      exact hmoved.concat s.pipes[i] hx hy
  refine loop.mono ?_ fun _ _ _ => trivial
  rintro _ _ ⟨moved, g, rfl, hmoved⟩
  rw [List.drop_length, List.append_nil]
  rw [List.take_length] at hmoved
  exact ⟨moved, g, rfl, hmoved⟩

/-! ## Spawns -/

variable {s s' : Scene (LoggedSource ρ) σ}

theorem startPosition_draws :
    Ends (fun _ s' => ∃ g, s' = { s with source := g } ∧
      g.draws = s.source.draws ++ s.settings.startDraws s.width s.height) (fun _ _ => True) (startPosition s) := by
  by_cases hstart : s.settings.randomStart = true
  · refine (startPosition_cell hstart).mono ?_ fun _ _ _ => trivial
    rintro _ _ ⟨x, y, g, g', -, hx, hy, rfl⟩
    refine ⟨g', rfl, ?_⟩
    rw [drawBelow_draws hy, drawBelow_draws hx, Settings.startDraws, if_pos hstart, List.append_assoc]
    rfl
  · change Ends _ _ ((if s.settings.randomStart then _ else _ : Act (Scene (LoggedSource ρ) σ) (Int × Int)) s)
    rw [if_neg hstart, Settings.startDraws, if_neg hstart]
    exact ⟨s.source, rfl, (List.append_nil _).symm⟩

theorem spawnOne_draws :
    Ends (fun _ s' => ∃ pipes g, s' = s.withPipes pipes g ∧ pipes.length = s.pipes.length + 1 ∧
      g.draws = s.source.draws ++ s.settings.newDraws s.tables s.width s.height) (fun _ _ => True) (spawnOne s) := by
  refine ends_bind.2 (startPosition_draws.mono ?_ fun _ _ _ => trivial)
  rintro ⟨x, y⟩ _ ⟨g, rfl, hstart⟩
  refine ends_bind.2 (ends_on.2 (ends_of_ok fun heading g₁ hheading => ?_))
  rw [get_bind]
  refine ends_bind.2 (ends_on.2 (ends_of_ok fun p g₂ hcreate => ?_))
  refine ⟨s.pipes ++ [p], g₂, rfl, List.length_append, ?_⟩
  rw [Pipe.create_draws hcreate, choose_draws hheading, hstart, Settings.newDraws]
  simp [Direction.all]

theorem spawn_draws :
    Ends (fun _ s' => ∃ pipes g, s' = s.withPipes pipes g ∧ pipes.length = s.settings.pipes.toNat ∧
      g.draws = s.source.draws ++ s.settings.spawnDraws s.tables s.width s.height) (fun _ _ => True) (spawn s) := by
  let soFar (i : Nat) (s' : Scene (LoggedSource ρ) σ) : Prop := ∃ pipes g, s' = s.withPipes pipes g ∧
    pipes.length = i ∧ g.draws = s.source.draws ++
      (List.replicate i (s.settings.newDraws s.tables s.width s.height)).flatten
  change Ends (fun _ => soFar s.settings.pipes.toNat) _
    ((List.range s.settings.pipes.toNat).forM (fun _ => spawnOne) (s.withPipes [] s.source))
  refine Ends.forM_range (I := soFar) ?_ ⟨[], s.source, rfl, rfl, by simp⟩
  rintro i - s' ⟨pipes, g, rfl, hlength, hdraws⟩
  refine spawnOne_draws.mono ?_ fun _ _ _ => trivial
  rintro _ _ ⟨pipes', g', rfl, hlength', hdraws'⟩
  refine ⟨pipes', g', rfl, hlength'.trans (congrArg (· + 1) hlength), ?_⟩
  rw [hdraws', List.replicate_succ', List.flatten_append]
  change g.draws ++ _ = _
  rw [hdraws, List.append_assoc]
  simp
  rfl

end Scene

/-! ## Histories -/

section Events

variable [Surface σ] {t t' : LoggedSurface σ}

theorem LoggedSurface.events_clear (t : LoggedSurface σ) :
    (Surface.clear t).events = t.events ++ [.clear] :=
  List.reverse_cons

theorem LoggedSurface.noting_events {e : Event} {act : Act σ Unit}
    (h : LoggedSurface.noting e act t = .ok () t') : t'.events = t.events ++ [e] := by
  unfold LoggedSurface.noting at h
  cases hact : LoggedSurface.silently act t with
  | error f t₁ =>
    rw [bind_of_error hact] at h
    cases h
  | ok a t₁ =>
    rw [bind_of_ok hact] at h
    cases h
    rw [LoggedSurface.silently, Act.on] at hact
    split at hact
    · cases hact
      exact List.reverse_cons
    · cases hact

end Events

namespace Scene

section Histories

variable [Surface σ]

/-- What the scene does is the doing, and it leaves the other scene. -/
inductive Does (s s' : Scene ρ σ) : Doing → Prop where
  | resize (h : resize s = .ok () s') : Does s s' (.resize s'.width s'.height)
  | reset (h : reset s = .ok () s') : Does s s' (.reset s.width s.height)
  | stride {i : Nat} {p : Pipe} {entry : Entry} {mark : Mark} {w : Walk ρ} (pipe : s.pipes[i]? = some p)
      (enter : p.enter s.settings.boundary s.width s.height = .ok entry)
      (advance : Walk.advance s.settings s.tables s.width s.height ⟨p, s.source⟩ = .ok mark w)
      (draw : draw mark (s.withPipes (s.pipes.set i w.pipe) w.source) = .ok () s') :
      Does s s' (.stride s.width s.height ⟨p, entry.heading, mark, w.pipe⟩)
  | refresh (h : onSurface Surface.refresh s = .ok () s') : Does s s' .refresh

/-- The doings lead from the one scene to the other. -/
inductive History (s : Scene ρ σ) : List Doing → Scene ρ σ → Prop where
  | nil : History s [] s
  | concat {doings : List Doing} {s' s'' : Scene ρ σ} {doing : Doing} (earlier : History s doings s')
      (does : s'.Does s'' doing) : History s (doings ++ [doing]) s''

end Histories

/-! ### What doings leave -/

/-- A scene with its settings, their tables, and as many pipes as they say. -/
structure Manned (S : Settings) (tables : List GlyphTable) (s : Scene ρ σ) : Prop where
  settings : s.settings = S
  tables : s.tables = tables
  count : s.pipes.length = S.pipes.toNat

/-- How the logs of one scene, and its count of resets, go on in another. -/
structure Accounts (S : Settings) (tables : List GlyphTable) (doings : List Doing)
    (s s' : Scene (LoggedSource ρ) (LoggedSurface σ)) : Prop where
  draws : s'.source.draws = s.source.draws ++ doings.flatMap (·.draws S tables)
  events : s'.surface.events = s.surface.events ++ doings.flatMap Doing.events
  resets : s'.resets = s.resets + doings.countP Doing.isReset

variable [Surface σ] {s s' : Scene (LoggedSource ρ) (LoggedSurface σ)} {doing : Doing} {doings : List Doing}

theorem resize_accounts (hs : s.Manned S tables) (h : resize s = .ok () s') :
    s'.Manned S tables ∧ s.Accounts S tables [.resize s'.width s'.height] s' := by
  have hspawn := spawn_draws (s := s.resized s.pipes s.source)
  rw [show spawn (s.resized s.pipes s.source) = .ok () s' from h] at hspawn
  obtain ⟨pipes, g, rfl, hlength, hdraws⟩ := hspawn
  obtain ⟨rfl, rfl, -⟩ := hs
  exact ⟨⟨rfl, rfl, hlength⟩, by rw [List.flatMap_singleton]; exact hdraws,
    LoggedSurface.events_clear _, rfl⟩

theorem reset_accounts (hs : s.Manned S tables) (h : reset s = .ok () s') :
    s'.Manned S tables ∧ s.Accounts S tables [.reset s.width s.height] s' := by
  have hcleared : s.wiped.surface.events = s.surface.events ++ [.clear] := LoggedSurface.events_clear _
  obtain ⟨rfl, rfl, hcount⟩ := hs
  have hscattered : Ends (fun _ s' => ∃ pipes g, s' = s.wiped.withPipes pipes g ∧ pipes.length = s.pipes.length ∧
      g.draws = s.source.draws ++
        (List.replicate s.pipes.length (s.settings.startDraws s.width s.height)).flatten) (fun _ _ => True)
      (reset s) := by
    change Ends _ _ ((if s.settings.randomStart then scatter else pure () : Act (Scene _ _) Unit) s.wiped)
    unfold Settings.startDraws
    split
    · next hstart =>
      refine (scatter_scattered (s := s.wiped) hstart).mono ?_ fun _ _ _ => trivial
      rintro _ _ ⟨pipes, g, rfl, hmoved⟩
      exact ⟨pipes, g, rfl, hmoved.length_eq, hmoved.draws_eq⟩
    · exact ⟨s.pipes, s.source, rfl, rfl, by simp⟩
  rw [h] at hscattered
  obtain ⟨pipes, g, rfl, hlength, hdraws⟩ := hscattered
  rw [hcount] at hlength hdraws
  exact ⟨⟨rfl, rfl, hlength⟩, by rw [List.flatMap_singleton]; exact hdraws, hcleared, rfl⟩

theorem draw_events (mark : Mark) : Ends (fun _ s' => ∃ surface drawn, s' = { s with surface, drawn } ∧
    surface.events = s.surface.events ++ [.put mark]) (fun _ _ => True) (draw mark s) :=
  ends_bind.2 (ends_on.2 (ends_of_ok fun _ t ht => ⟨t, _, rfl, LoggedSurface.noting_events ht⟩))

theorem Does.accounts (hs : s.Manned S tables) (h : s.Does s' doing) :
    s'.Manned S tables ∧ s.Accounts S tables [doing] s' := by
  cases h with
  | resize h => exact resize_accounts hs h
  | reset h => exact reset_accounts hs h
  | @stride i p entry mark w pipe enter advance draw =>
    have hdraw := draw_events (s := s.withPipes (s.pipes.set i w.pipe) w.source) mark
    rw [draw] at hdraw
    obtain ⟨surface, drawn, rfl, hevents⟩ := hdraw
    obtain ⟨rfl, rfl, hcount⟩ := hs
    have hdraws := Walk.advance_draws enter advance
    exact ⟨⟨rfl, rfl, List.length_set.trans hcount⟩, by rw [List.flatMap_singleton]; exact hdraws, hevents, rfl⟩
  | refresh h =>
    have hrefresh : Ends (fun _ s' => ∃ surface, s' = { s with surface } ∧
        surface.events = s.surface.events ++ [.refresh]) (fun _ _ => True) (onSurface Surface.refresh s) :=
      ends_on.2 (ends_of_ok fun _ t ht => ⟨t, rfl, LoggedSurface.noting_events ht⟩)
    rw [h] at hrefresh
    obtain ⟨surface, rfl, hevents⟩ := hrefresh
    exact ⟨⟨hs.settings, hs.tables, hs.count⟩, (List.append_nil _).symm, hevents, rfl⟩

theorem History.accounts (hs : s.Manned S tables) (h : s.History doings s') :
    s'.Manned S tables ∧ s.Accounts S tables doings s' := by
  induction h with
  | nil => exact ⟨hs, by simp, by simp, rfl⟩
  | concat earlier does ih =>
    obtain ⟨hmanned, hearlier⟩ := ih
    obtain ⟨hmanned', hlater⟩ := does.accounts hmanned
    refine ⟨hmanned', ?_, ?_, ?_⟩
    · rw [hlater.draws, hearlier.draws, List.flatMap_append, List.append_assoc]
    · rw [hlater.events, hearlier.events, List.flatMap_append, List.append_assoc]
    · rw [hlater.resets, hearlier.resets, List.countP_append, Nat.add_assoc]

end Scene

/-! ## What ticks, resizes and resets do -/

def Deed.isResize : Deed τ → Bool
  | .resize => true
  | _ => false

namespace Scene

section Deeds

variable [Surface σ] [Clock σ τ] {F : Fault → Prop} {I : σ → Prop} {start s s' : Scene ρ σ} {deeds : List (Deed τ)}

/-- Ticks, resizes and resets, none of which ends in a fault, lead from the one scene to the other. -/
inductive Performs : Scene ρ σ → List (Deed τ) → Scene ρ σ → Prop where
  | nil (s : Scene ρ σ) : Performs s [] s
  | tick {s s' last : Scene ρ σ} {deeds : List (Deed τ)} (h : tick s = .ok () s') (later : Performs s' deeds last) :
      Performs s (.tick :: deeds) last
  | resize {s s' last : Scene ρ σ} {deeds : List (Deed τ)} (h : resize s = .ok () s')
      (later : Performs s' deeds last) : Performs s (.resize :: deeds) last
  | reset {s s' last : Scene ρ σ} {deeds : List (Deed τ)} (h : reset s = .ok () s')
      (later : Performs s' deeds last) : Performs s (.reset :: deeds) last

/-- A history with a number of resizes leads to the scene. -/
def Told (start : Scene ρ σ) (resizes : Nat) (s : Scene ρ σ) : Prop :=
  ∃ doings, start.History doings s ∧ doings.countP Doing.isResize = resizes

variable {resizes : Nat}

theorem Told.concat {doing : Doing} (h : start.Told resizes s) (does : s.Does s' doing) :
    start.Told (resizes + if doing.isResize then 1 else 0) s' := by
  obtain ⟨doings, hhistory, rfl⟩ := h
  refine ⟨_, hhistory.concat does, ?_⟩
  rw [List.countP_append, List.countP_singleton]

/-- A step is a stride, and a reset right before it if the canvas is full. -/
theorem Told.stepPipe (hs : s.Framed S) (h : start.Told resizes s) {i : Nat} (hi : i < s.pipes.length) :
    Ends (fun _ => start.Told resizes) (fun _ _ => True) (stepPipe i s) := by
  obtain ⟨s₁, hroom, hframed, hlength, htold⟩ : ∃ s₁, makeRoom s = .ok () s₁ ∧ s₁.Framed S ∧
      s₁.pipes.length = s.pipes.length ∧ start.Told resizes s₁ := by
    change ∃ s₁, (if s.isFull then reset else pure () : Act (Scene ρ σ) Unit) s = _ ∧ _
    split
    · obtain ⟨pipes, g, hreset, hframed, -⟩ := reset_eq hs
      exact ⟨_, hreset, hframed, hframed.length_pipes.trans hs.length_pipes.symm, h.concat (.reset hreset)⟩
    · exact ⟨s, rfl, hs, rfl, h⟩
  obtain ⟨entry, w, henter, hadvance, hadvanced, -⟩ := advancePipe_eq hframed (hlength.symm ▸ hi)
  rw [← hframed.settings] at henter hadvance
  rw [Scene.stepPipe, bind_of_ok hroom, bind_of_ok hadvanced]
  exact ends_of_ok fun _ _ hdraw => htold.concat (.stride (List.getElem?_eq_getElem _) henter hadvance hdraw)

theorem Told.tick (room : Surface.Roomy F I) (hs : s.Framed S) (ht : I s.surface) (h : start.Told resizes s) :
    Ends (fun _ => start.Told resizes) (fun _ _ => True) (tick s) := by
  have lasting := roomy_lasting (ρ := ρ) (S := S) room
  have step (s : Scene ρ σ) (i : Nat) (hs : (s.Framed S ∧ I s.surface) ∧ start.Told resizes s)
      (hi : i < s.pipes.length) :
      Ends (fun _ s => (s.Framed S ∧ I s.surface) ∧ start.Told resizes s) (fun _ _ => True) (Scene.stepPipe i s) :=
    ((lasting.stepPipe hs.1 hi).and (hs.2.stepPipe hs.1.1 hi)).mono (fun _ _ h => h) fun _ _ _ => trivial
  have refresh (s : Scene ρ σ) (hs : (s.Framed S ∧ I s.surface) ∧ start.Told resizes s) :
      Ends (fun _ s => (s.Framed S ∧ I s.surface) ∧ start.Told resizes s) (fun _ _ => True)
        (onSurface Surface.refresh s) :=
    ((lasting.refresh s hs.1).and (ends_of_ok fun _ _ h => hs.2.concat (.refresh h))).mono (fun _ _ h => h)
      fun _ _ _ => trivial
  exact (tick_ends ⟨S.pipes.toNat, fun s hs => hs.1.1.length_pipes⟩ step refresh ⟨⟨hs, ht⟩, h⟩).mono
    (fun _ _ h => h.2) fun _ _ _ => trivial

theorem Told.performs (room : Surface.Roomy F I) (hs : s.Framed S) (ht : I s.surface) (h : start.Told resizes s)
    (hdeeds : s.Performs deeds s') : start.Told (resizes + deeds.countP Deed.isResize) s' := by
  have lasting := roomy_lasting (ρ := ρ) (S := S) room
  induction hdeeds generalizing resizes with
  | nil s => exact h
  | tick hdone later ih =>
    have hkept := lasting.tick ⟨hs, ht⟩
    have htold := h.tick room hs ht
    rw [hdone] at hkept htold
    exact ih hkept.1 hkept.2 htold
  | resize hdone later ih =>
    have hkept := lasting.resize ⟨hs, ht⟩
    rw [hdone] at hkept
    have htold := ih hkept.1 hkept.2 (h.concat (.resize hdone))
    rw [List.countP_cons, Nat.add_comm (List.countP _ _), ← Nat.add_assoc]
    exact htold
  | reset hdone later ih =>
    have hkept := lasting.reset (fun s hs => ⟨hs.1.wiped, room.clear _ hs.2⟩) ⟨hs, ht⟩
    rw [hdone] at hkept
    exact ih hkept.1 hkept.2 (h.concat (.reset hdone))

/-- On a surface that never fails, ticks, resizes and resets can be done in any order. -/
theorem exists_performs (room : Surface.Roomy (fun _ => False) I) (hs : s.Framed S) (ht : I s.surface)
    (hdeeds : ∀ deed ∈ deeds, deed = .tick ∨ deed = .resize ∨ deed = .reset) : ∃ last, s.Performs deeds last := by
  have lasting := roomy_lasting (ρ := ρ) (S := S) room
  induction deeds generalizing s with
  | nil => exact ⟨s, .nil s⟩
  | cons deed deeds ih =>
    have hlater (deed' : Deed τ) (hmem : deed' ∈ deeds) := hdeeds deed' (List.mem_cons_of_mem _ hmem)
    rcases hdeeds deed List.mem_cons_self with rfl | rfl | rfl
    · obtain ⟨_, s', hdone, hs'⟩ := (lasting.tick ⟨hs, ht⟩).exists_ok
      obtain ⟨last, hperforms⟩ := ih hs'.1 hs'.2 hlater
      exact ⟨last, .tick hdone hperforms⟩
    · obtain ⟨_, s', hdone, hs'⟩ := (lasting.resize ⟨hs, ht⟩).exists_ok
      obtain ⟨last, hperforms⟩ := ih hs'.1 hs'.2 hlater
      exact ⟨last, .resize hdone hperforms⟩
    · obtain ⟨_, s', hdone, hs'⟩ := (lasting.reset (fun s hs => ⟨hs.1.wiped, room.clear _ hs.2⟩) ⟨hs, ht⟩).exists_ok
      obtain ⟨last, hperforms⟩ := ih hs'.1 hs'.2 hlater
      exact ⟨last, .reset hdone hperforms⟩

end Deeds

end Scene

/-! ## Numbers of draws -/

def Draw.isBelow : Draw → Bool
  | unit => false
  | below _ => true

def Event.isPut : Event → Bool
  | put _ => true
  | _ => false

namespace Settings

/-- How many bounded numbers a new pipe takes. -/
def newPipeBelows (S : Settings) : Nat := if S.randomStart then 5 else 3

theorem newDraws_isBelow : ∀ draw ∈ S.newDraws tables width height, draw.isBelow = true := by
  unfold newDraws startDraws
  split <;> simp [styleDraws, Draw.isBelow]

theorem startDraws_isBelow : ∀ draw ∈ S.startDraws width height, draw.isBelow = true := by
  unfold startDraws
  split <;> simp [Draw.isBelow]

theorem length_newDraws : (S.newDraws tables width height).length = S.newPipeBelows := by
  unfold newDraws startDraws newPipeBelows
  split <;> rfl

end Settings

theorem countP_isBelow_replicate {l : List Draw} (h : ∀ draw ∈ l, draw.isBelow = true) (n : Nat) :
    (List.replicate n l).flatten.countP Draw.isBelow = n * l.length ∧
      (List.replicate n l).flatten.count .unit = 0 := by
  have hnone : Draw.unit ∉ l := fun hmem => absurd (h _ hmem) Bool.false_ne_true
  rw [List.countP_flatten, List.count_flatten, List.map_replicate, List.map_replicate, List.sum_replicate_nat,
    List.sum_replicate_nat, List.countP_eq_length.2 h, List.count_eq_zero.2 hnone]
  exact ⟨rfl, rfl⟩

namespace Doing

/-- There is one double for each glyph that is put. -/
theorem count_unit (doing : Doing) : (doing.draws S tables).count .unit = doing.events.countP Event.isPut := by
  cases doing with
  | resize width height => exact (countP_isBelow_replicate Settings.newDraws_isBelow _).2
  | reset width height => exact (countP_isBelow_replicate Settings.startDraws_isBelow _).2
  | stride width height v =>
    have hrest : ((if v.Turns then [Draw.below 2] else []) ++
        if v.Restyles S width height then S.styleDraws tables else []).count .unit = 0 := by
      rw [List.count_eq_zero]
      split <;> split <;> simp [Settings.styleDraws]
    change (Draw.unit :: _).count .unit = 1
    rw [List.count_cons_self, hrest]
  | refresh => rfl

theorem countP_isBelow (doing : Doing) : (doing.draws S tables).countP Draw.isBelow =
    (if doing.isResize then 1 else 0) * (S.pipes.toNat * S.newPipeBelows) + (if doing.turns then 1 else 0) +
      (if S.keepStyle then 0 else 2 * if doing.wraps S.boundary then 1 else 0) +
        (if S.randomStart then 2 * S.pipes.toNat * (if doing.isReset then 1 else 0) else 0) := by
  cases doing with
  | resize width height =>
    have hspawned := (countP_isBelow_replicate (l := S.newDraws tables width height) Settings.newDraws_isBelow
      S.pipes.toNat).1
    rw [Settings.length_newDraws] at hspawned
    simpa [draws, Settings.spawnDraws, isResize, turns, wraps, isReset] using hspawned
  | reset width height =>
    have hmoved := (countP_isBelow_replicate (l := S.startDraws width height) Settings.startDraws_isBelow
      S.pipes.toNat).1
    have hlength : (S.startDraws width height).length = if S.randomStart then 2 else 0 := by
      unfold Settings.startDraws
      split <;> rfl
    rw [hlength] at hmoved
    simp only [draws, hmoved, isResize, turns, wraps, isReset]
    split <;> simp [Nat.mul_comm]
  | stride width height v =>
    have hturn : (if v.Turns then [Draw.below 2] else []).countP Draw.isBelow = if v.Turns then 1 else 0 := by
      split <;> rfl
    have hstyle : (if v.Restyles S width height then S.styleDraws tables else []).countP Draw.isBelow =
        if S.keepStyle then 0 else 2 * if v.before.Wraps S.boundary width height then 1 else 0 := by
      by_cases hnew : v.Restyles S width height
      · rw [if_pos hnew, if_neg (Bool.eq_false_iff.1 hnew.2), if_pos hnew.1]
        rfl
      · rw [if_neg hnew]
        split
        · rfl
        · next hkeep => rw [if_neg fun hwraps => hnew ⟨hwraps, Bool.eq_false_iff.2 hkeep⟩]; rfl
    rw [draws, Stride.draws, List.countP_cons_of_neg Bool.false_ne_true, List.countP_append, hturn, hstyle]
    simp [isResize, turns, wraps, isReset]
  | refresh => simp [draws, isResize, turns, wraps, isReset]

end Doing

variable (doings : List Doing)

theorem count_unit_doings :
    (doings.flatMap (·.draws S tables)).count .unit = (doings.flatMap Doing.events).countP Event.isPut := by
  induction doings with
  | nil => rfl
  | cons doing doings ih =>
    rw [List.flatMap_cons, List.flatMap_cons, List.count_append, List.countP_append, doing.count_unit, ih]

theorem countP_isBelow_doings : (doings.flatMap (·.draws S tables)).countP Draw.isBelow =
    doings.countP Doing.isResize * (S.pipes.toNat * S.newPipeBelows) + doings.countP Doing.turns +
      (if S.keepStyle then 0 else 2 * doings.countP (·.wraps S.boundary)) +
        (if S.randomStart then 2 * S.pipes.toNat * doings.countP Doing.isReset else 0) := by
  induction doings with
  | nil => simp
  | cons doing doings ih =>
    simp only [List.flatMap_cons, List.countP_append, doing.countP_isBelow, ih, List.countP_cons]
    cases S.keepStyle <;> cases S.randomStart <;> simp only [reduceIte, Bool.false_eq_true] <;> ring

/-! ## The law -/

namespace Scene

/-- What doings say of the logs of a scene that was started with new logs and led by deeds to another. -/
structure Accounted [Surface σ] (S : Settings) (start s : Scene (LoggedSource ρ) (LoggedSurface σ))
    (deeds : List (Deed τ)) (doings : List Doing) : Prop where
  history : start.History doings s
  draws : s.source.draws =
    S.spawnDraws start.tables start.width start.height ++ doings.flatMap (·.draws S start.tables)
  events : s.surface.events = doings.flatMap Doing.events
  /-- What a reset draws stands after as many doubles as glyphs were put before it, and the others follow. -/
  resetFirst : ∀ older width height newer, doings = older ++ .reset width height :: newer →
    s.surface.events = older.flatMap Doing.events ++ .clear :: newer.flatMap Doing.events ∧
      ∃ before after, s.source.draws =
          before ++ (List.replicate S.pipes.toNat (S.startDraws width height)).flatten ++ after ∧
        before.count .unit = (older.flatMap Doing.events).countP Event.isPut ∧
          after.count .unit = (newer.flatMap Doing.events).countP Event.isPut
  resizes : doings.countP Doing.isResize = deeds.countP Deed.isResize
  resets : doings.countP Doing.isReset = s.resets
  units : s.source.draws.count .unit = s.surface.events.countP Event.isPut
  belows : s.source.draws.countP Draw.isBelow =
    (1 + deeds.countP Deed.isResize) * (S.pipes.toNat * if S.randomStart then 5 else 3) +
      doings.countP Doing.turns + (if S.keepStyle then 0 else 2 * doings.countP (·.wraps S.boundary)) +
        (if S.randomStart then 2 * S.pipes.toNat * s.resets else 0)

variable [Surface σ] {start s : Scene (LoggedSource ρ) (LoggedSurface σ)} {doings : List Doing}

theorem create_draws {g : ρ} {t : σ} (h : create S ⟨g, []⟩ ⟨t, []⟩ = .ok start) :
    start.Manned S start.tables ∧ start.source.draws = S.spawnDraws start.tables start.width start.height ∧
      start.surface.events = [] ∧ start.resets = 0 := by
  unfold create at h
  cases htables : S.tables with
  | error e =>
    rw [htables] at h
    cases h
  | ok tables =>
    rw [htables] at h
    dsimp only [bind, Except.bind] at h
    split at h
    · next hspawn =>
      cases h
      let blank : Scene (LoggedSource ρ) (LoggedSurface σ) := ⟨S, tables, (Surface.size t).1.1, (Surface.size t).1.2,
        [], 0, 0, false, ⟨g, []⟩, ⟨(Surface.size t).2, []⟩⟩
      have hdrawn := spawn_draws (s := blank)
      rw [show spawn blank = .ok () start from hspawn] at hdrawn
      obtain ⟨pipes, g', rfl, hcount, hdraws⟩ := hdrawn
      exact ⟨⟨rfl, rfl, hcount⟩, hdraws, rfl, rfl⟩
    · cases h

theorem History.accounted {g : ρ} {t : σ} (hcreate : create S ⟨g, []⟩ ⟨t, []⟩ = .ok start) {deeds : List (Deed τ)}
    (h : start.History doings s) (hresizes : doings.countP Doing.isResize = deeds.countP Deed.isResize) :
    Accounted S start s deeds doings := by
  obtain ⟨hmanned, hspawned, hevents, hresets⟩ := create_draws hcreate
  obtain ⟨-, haccounts⟩ := h.accounts hmanned
  have hspawn := countP_isBelow_replicate (l := S.newDraws start.tables start.width start.height)
    Settings.newDraws_isBelow S.pipes.toNat
  rw [Settings.length_newDraws, ← Settings.spawnDraws] at hspawn
  have hdraws := haccounts.draws
  rw [hspawned] at hdraws
  have hall := haccounts.events
  rw [hevents, List.nil_append] at hall
  have hwiped := haccounts.resets
  rw [hresets, Nat.zero_add] at hwiped
  refine { history := h, draws := hdraws, events := hall, resetFirst := ?_, resizes := hresizes,
           resets := hwiped.symm, units := ?_, belows := ?_ }
  · rintro older width height newer rfl
    rw [hall, hdraws]
    refine ⟨List.flatMap_append, S.spawnDraws start.tables start.width start.height ++
      older.flatMap (·.draws S start.tables), newer.flatMap (·.draws S start.tables),
      ?_, ?_, count_unit_doings newer⟩
    · rw [List.flatMap_append, List.flatMap_cons]
      simp only [List.append_assoc]
      rfl
    · rw [List.count_append, hspawn.2, Nat.zero_add, count_unit_doings]
  · rw [hdraws, hall, List.count_append, hspawn.2, Nat.zero_add, count_unit_doings]
  · rw [hdraws, List.countP_append, hspawn.1, countP_isBelow_doings, hresizes, hwiped, Nat.add_mul, Nat.one_mul]
    simp only [Settings.newPipeBelows, Nat.add_assoc]

end Scene

open Scene

/--
An advance draws whether to turn, the turn if there is one, and a style if it wraps and styles are not kept. A reset of
pipes that start anywhere draws a column and a row for each of them, in their order. And from the start on, ticks,
resizes and resets that do not fail draw what their doings draw.
-/
theorem draws_accounted [Surface σ] [Clock σ τ] {F : Fault → Prop} {I : σ → Prop} (room : Surface.Roomy F I)
    (valid : S.Valid) (g : ρ) {t : σ} (h : I t) :
    (∀ (tables : List GlyphTable) (width height : Int) (w w' : Walk (LoggedSource ρ)) (entry : Entry) (mark : Mark),
      w.pipe.enter S.boundary width height = .ok entry → Walk.advance S tables width height w = .ok mark w' →
        w'.source.draws =
          w.source.draws ++ (Stride.mk w.pipe entry.heading mark w'.pipe).draws S tables width height) ∧
    (∀ s s' : Scene (LoggedSource ρ) (LoggedSurface σ), s.settings.randomStart = true → reset s = .ok () s' →
      Scattered s.width s.height s.source s.pipes s'.pipes s'.source) ∧
    ∃ start, create S ⟨g, []⟩ ⟨t, []⟩ = .ok start ∧
      ∀ (deeds : List (Deed τ)) s, start.Performs deeds s → ∃ doings, Accounted S start s deeds doings := by
  refine ⟨fun _ _ _ _ _ _ _ => Walk.advance_draws, fun s s' hstart hreset => ?_, ?_⟩
  · have hscattered := scatter_scattered (s := s.wiped) hstart
    have hscatter : scatter s.wiped = .ok () s' := by
      rw [← hreset]
      change _ = (if s.settings.randomStart then scatter else pure () : Act (Scene _ _) Unit) s.wiped
      rw [if_pos hstart]
    rw [hscatter] at hscattered
    obtain ⟨pipes, g', rfl, hmoved⟩ := hscattered
    exact hmoved
  · obtain ⟨start, hcreate, hframed, ht⟩ := create_logged room valid (⟨g, []⟩ : LoggedSource ρ) h
    refine ⟨start, hcreate, fun deeds s hdeeds => ?_⟩
    have htold : start.Told 0 start := ⟨[], .nil, rfl⟩
    obtain ⟨doings, hhistory, hresizes⟩ := htold.performs room.logged hframed ht hdeeds
    exact ⟨doings, hhistory.accounted hcreate (hresizes.trans (Nat.zero_add _))⟩

/-- Two pipes that start anywhere, with a limit that is reached in the midst of ticks. -/
theorem draws_accounted_terminal :
    let S : Settings := { pipes := 2, limit := 3, randomStart := true }
    let g : Scripted := .ofLists [0.0625, 0.75] [3, 1, 2]
    let window : Window Float := {
      script := { width := 4, height := 3, keys := [], sizes := [], time := 0, costs := fun _ => 1, traps := [] }
      cursor := some 1, colors := true }
    let t : Terminal Float := ⟨window, [1, 3, 7], true, true, none⟩
    let deeds : List (Deed Float) := [.tick, .tick, .resize, .tick, .reset, .tick]
    S.Valid ∧ t.Sound ∧
      ∃ start s : Scene (LoggedSource Scripted) (LoggedSurface (Terminal Float)),
        create S ⟨g, []⟩ ⟨t, []⟩ = .ok start ∧ start.Performs deeds s ∧
          ∃ doings, doings.countP Doing.isResize = 1 ∧ Accounted S start s deeds doings := by
  intro S g window t deeds
  have valid : S.Valid := by decide +kernel
  have ht : t.Sound := ⟨rfl, List.cons_ne_nil _ _⟩
  have hdeeds : ∀ deed ∈ deeds, deed = .tick ∨ deed = .resize ∨ deed = .reset := by simp [deeds]
  obtain ⟨-, -, start, hcreate, haccounted⟩ := draws_accounted (τ := Float) Terminal.sound_roomy valid g ht
  obtain ⟨start', hcreate', hframed, hsound⟩ :=
    create_logged Terminal.sound_roomy valid (⟨g, []⟩ : LoggedSource Scripted) ht
  rw [hcreate] at hcreate'
  cases hcreate'
  obtain ⟨s, hperforms⟩ := exists_performs Terminal.sound_roomy.logged hframed hsound hdeeds
  obtain ⟨doings, h⟩ := haccounted deeds s hperforms
  exact ⟨valid, ht, start, s, hcreate, hperforms, doings, h.resizes, h⟩

end Pipework
