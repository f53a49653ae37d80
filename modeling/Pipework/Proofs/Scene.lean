import Pipework.Proofs.Stride
import Pipework.Scene

/-!
# Scenes stay in frame

A scene is framed if it has as many pipes as its settings say and each of them fits its screen. On a framed
scene the acts that work with the random source alone have a result and change nothing but pipes and source:
`spawn_eq`, `scatter_eq`, `advancePipe_eq`. So a step of a pipe comes down to one draw of it after
making room for it (`stepPipe_eq`), and a resize to a new reading of the size with new pipes (`resize_eq`).
-/

namespace Pipework.Scene

open Act

variable {ρ σ : Type} {S : Settings} {s : Scene ρ σ}

/-- A scene with valid settings on a screen with cells. -/
structure Ready (S : Settings) (s : Scene ρ σ) : Prop where
  settings : s.settings = S
  valid : S.Valid
  tables : S.tables = .ok s.tables
  width : 1 ≤ s.width
  height : 1 ≤ s.height

/-- A scene with all of its pipes, each of which fits the screen. -/
structure Framed (S : Settings) (s : Scene ρ σ) : Prop extends Ready S s where
  count : (s.pipes.length : Int) = S.pipes
  fits : ∀ p ∈ s.pipes, p.Fits S s.tables s.width s.height

def withPipes (pipes : List Pipe) (source : ρ) (s : Scene ρ σ) : Scene ρ σ := { s with pipes, source }

def AllFit (S : Settings) (s : Scene ρ σ) (pipes : List Pipe) : Prop :=
  ∀ p ∈ pipes, p.Fits S s.tables s.width s.height

theorem Ready.withPipes (h : s.Ready S) (pipes : List Pipe) (g : ρ) : (s.withPipes pipes g).Ready S :=
  ⟨h.settings, h.valid, h.tables, h.width, h.height⟩

theorem Ready.framed (h : s.Ready S) {pipes : List Pipe} {g : ρ} (count : (pipes.length : Int) = S.pipes)
    (fits : s.AllFit S pipes) : (s.withPipes pipes g).Framed S :=
  ⟨h.withPipes pipes g, count, fits⟩

theorem Framed.length_pipes (h : s.Framed S) : s.pipes.length = S.pipes.toNat := by
  have hcount := h.count
  omega

/-- What a scene has drawn, whether it is running, and its surface do not matter to the frame. -/
theorem Framed.elsewhere (h : s.Framed S) {drawn resets : Nat} {running : Bool} {surface : σ} :
    ({ s with drawn, resets, running, surface } : Scene ρ σ).Framed S :=
  ⟨⟨h.settings, h.valid, h.tables, h.width, h.height⟩, h.count, h.fits⟩

theorem AllFit.set {pipes : List Pipe} (h : s.AllFit S pipes) {p : Pipe}
    (hp : p.Fits S s.tables s.width s.height) (i : Nat) : s.AllFit S (pipes.set i p) := by
  intro q hq
  rcases List.mem_or_eq_of_mem_set hq with hq | rfl
  · exact h q hq
  · exact hp

theorem AllFit.modify {pipes : List Pipe} (h : s.AllFit S pipes) {x y : Int}
    (hon : OnScreen s.width s.height x y) (i : Nat) :
    s.AllFit S (pipes.modify i fun p => { p with x, y }) := by
  -- a pipe that is moved keeps its style
  intro q hq
  obtain ⟨j, hj, rfl⟩ := List.getElem_of_mem hq
  rw [List.getElem_modify]
  split
  · exact ⟨hon, (h _ (List.getElem_mem _)).styled⟩
  · exact h _ (List.getElem_mem _)

/-! ## Wiped canvases -/

section Wipes

variable [Surface σ]

def wiped (s : Scene ρ σ) : Scene ρ σ :=
  { s with surface := Surface.clear s.surface, drawn := 0, resets := s.resets + 1 }

/-- The scene once there is room for a glyph: it is wiped if it is full. -/
def withRoom (s : Scene ρ σ) : Scene ρ σ := if s.isFull then s.wiped else s

/-- The scene on a screen of the size that its surface reports, wiped and with other pipes. -/
def resized (pipes : List Pipe) (source : ρ) (s : Scene ρ σ) : Scene ρ σ :=
  { s with
    width := (Surface.size s.surface).1.1, height := (Surface.size s.surface).1.2
    surface := Surface.clear (Surface.size s.surface).2, drawn := 0, pipes, source }

theorem Framed.wiped (h : s.Framed S) : s.wiped.Framed S := h.elsewhere

theorem Framed.withRoom (h : s.Framed S) : s.withRoom.Framed S := by
  unfold Scene.withRoom
  split
  · exact h.wiped
  · exact h

theorem left_draw (mark : Mark) (s : Scene ρ σ) :
    ∃ drawn, left (draw mark s) = { s with surface := left (Surface.put mark s.surface), drawn } := by
  cases hput : Surface.put mark s.surface with
  | ok a t =>
    refine ⟨s.drawn + 1, ?_⟩
    have hon : onSurface (Surface.put mark) s = .ok a { s with surface := t } := on_of_ok hput
    rw [draw, bind_of_ok hon]
    rfl
  | error e t =>
    refine ⟨s.drawn, ?_⟩
    have hon : onSurface (Surface.put mark) s = .error e { s with surface := t } := by rw [onSurface, Act.on, hput]
    rw [draw, bind_of_error hon]
    rfl

end Wipes

/-! ## New pipes -/

theorem withRoom_elsewhere [Surface σ] (s : Scene ρ σ) :
    ∃ surface drawn resets, s.withRoom = { s with surface, drawn, resets } := by
  unfold withRoom
  split <;> exact ⟨_, _, _, rfl⟩

theorem onSource_of_ok {α : Type} {act : Act ρ α} {a : α} {g : ρ} (h : act s.source = .ok a g) :
    onSource act s = .ok a { s with source := g } :=
  on_of_ok h

variable [RandomSource ρ]

theorem startPosition_eq (hw : 1 ≤ s.width) (hh : 1 ≤ s.height) :
    ∃ x y g, startPosition s = .ok (x, y) { s with source := g } ∧ OnScreen s.width s.height x y := by
  change ∃ x y g, (if s.settings.randomStart then _ else _ : Act (Scene ρ σ) (Int × Int)) s = _ ∧ _
  split
  · obtain ⟨x, g, hx, hxlt⟩ := drawBelow_eq (n := s.width) (by omega) s.source
    obtain ⟨y, g', hy, hylt⟩ := drawBelow_eq (n := s.height) (by omega) g
    refine ⟨x, y, g', ?_, by simp only [OnScreen]; omega⟩
    rw [bind_of_ok (onSource_of_ok hx), bind_of_ok (onSource_of_ok hy)]
    rfl
  · refine ⟨s.width / 2, s.height / 2, s.source, rfl, ?_⟩
    simp only [OnScreen]
    omega

theorem spawnOne_eq (h : s.Ready S) :
    ∃ p g, spawnOne s = .ok () (s.withPipes (s.pipes ++ [p]) g) ∧ p.Fits S s.tables s.width s.height := by
  obtain ⟨x, y, g, hxy, hon⟩ := startPosition_eq h.width h.height
  obtain ⟨heading, g', hheading, -⟩ := choose_eq (l := Direction.all) (by decide) g
  have hvalid : s.settings.Valid := h.settings ▸ h.valid
  have htables : 0 < s.tables.length := tables_length_pos h.valid h.tables
  obtain ⟨color, glyphs, g'', hcreate, hstyled⟩ := Pipe.create_eq hvalid htables x y heading g'
  refine ⟨⟨x, y, heading, color, glyphs⟩, g'', ?_, hon, h.settings ▸ hstyled⟩
  rw [spawnOne, bind_of_ok hxy]
  dsimp only
  rw [bind_of_ok (onSource_of_ok hheading)]
  change (onSource _ >>= _) { s with source := g' } = _
  rw [bind_of_ok (onSource_of_ok hcreate)]
  rfl

/-- Spawning replaces all pipes by as many as the settings say, each of which fits the screen. -/
theorem spawn_eq (h : s.Ready S) :
    ∃ pipes g, spawn s = .ok () (s.withPipes pipes g) ∧ (s.withPipes pipes g).Framed S := by
  let made (i : Nat) (s' : Scene ρ σ) : Prop :=
    ∃ pipes g, s' = s.withPipes pipes g ∧ pipes.length = i ∧ s.AllFit S pipes
  have loop : Ends (fun _ => made S.pipes.toNat) (fun _ _ => False)
      ((List.range S.pipes.toNat).forM (fun _ => spawnOne) (s.withPipes [] s.source)) := by
    refine Ends.forM_range (I := made) ?_ ⟨[], s.source, rfl, rfl, by simp [AllFit]⟩
    rintro i - s' ⟨pipes, g, rfl, hlength, hfit⟩
    obtain ⟨p, g', hspawn, hp⟩ := spawnOne_eq (h.withPipes pipes g)
    rw [hspawn]
    refine ⟨pipes ++ [p], g', rfl, by simp [hlength], fun q hq => ?_⟩
    rcases List.mem_append.1 hq with hq | hq
    · exact hfit q hq
    · rw [List.mem_singleton.1 hq]
      exact hp
  obtain ⟨_, _, hspawn, pipes, g, rfl, hlength, hfit⟩ := loop.exists_ok
  have hpos := h.valid.one_le_pipes
  refine ⟨pipes, g, ?_, h.framed (by omega) hfit⟩
  rw [← hspawn, ← h.settings]
  rfl

theorem map_heading_modify (pipes : List Pipe) (i : Nat) (x y : Int) :
    (pipes.modify i fun p => { p with x, y }).map Pipe.heading = pipes.map Pipe.heading := by
  apply List.ext_getElem
  · simp
  · intro j _ _
    simp only [List.getElem_map, List.getElem_modify]
    split <;> rfl

theorem scatter_eq (h : s.Framed S) :
    ∃ pipes g, scatter s = .ok () (s.withPipes pipes g) ∧ (s.withPipes pipes g).Framed S ∧
      pipes.map Pipe.heading = s.pipes.map Pipe.heading := by
  let moved (s' : Scene ρ σ) : Prop :=
    ∃ pipes g, s' = s.withPipes pipes g ∧ pipes.map Pipe.heading = s.pipes.map Pipe.heading ∧ s.AllFit S pipes
  have loop : Ends (fun _ => moved) (fun _ _ => False) (scatter s) := by
    refine Ends.forM (I := moved) ?_ ⟨s.pipes, s.source, rfl, rfl, h.fits⟩
    rintro i - s' ⟨pipes, g, rfl, hheadings, hfit⟩
    have hready := h.toReady.withPipes pipes g
    obtain ⟨x, y, g', hxy, hon⟩ := startPosition_eq hready.width hready.height
    rw [bind_of_ok hxy]
    exact ⟨_, g', rfl, (map_heading_modify pipes i x y).trans hheadings, hfit.modify hon i⟩
  obtain ⟨_, _, hscatter, pipes, g, rfl, hheadings, hfit⟩ := loop.exists_ok
  have hlength : pipes.length = s.pipes.length := by simpa using congrArg List.length hheadings
  exact ⟨pipes, g, hscatter, h.framed (by rw [hlength]; exact h.count) hfit, hheadings⟩

theorem advancePipe_of_ok {i : Nat} (hi : i < s.pipes.length) {mark : Mark} {w : Walk ρ}
    (h : Walk.advance s.settings s.tables s.width s.height ⟨s.pipes[i], s.source⟩ = .ok mark w) :
    advancePipe i s = .ok (some mark) (s.withPipes (s.pipes.set i w.pipe) w.source) := by
  change onPipe i (Walk.advance s.settings s.tables s.width s.height) s = _
  simp only [onPipe, List.getElem?_eq_getElem hi, h]
  rfl

/-- Pipe `i` goes one cell on, and is drawn as it then is, for the heading with which it entered the cell. -/
theorem advancePipe_eq (h : s.Framed S) {i : Nat} (hi : i < s.pipes.length) :
    ∃ entry w, s.pipes[i].enter S.boundary s.width s.height = .ok entry ∧
      Walk.advance S s.tables s.width s.height ⟨s.pipes[i], s.source⟩ = .ok (w.pipe.mark entry.heading) w ∧
      advancePipe i s = .ok (some (w.pipe.mark entry.heading)) (s.withPipes (s.pipes.set i w.pipe) w.source) ∧
      (s.withPipes (s.pipes.set i w.pipe) w.source).Framed S := by
  have htables : 0 < s.tables.length := tables_length_pos h.valid h.tables
  have hstyled : Styled S s.tables s.pipes[i].color s.pipes[i].glyphs := (h.fits _ (List.getElem_mem hi)).styled
  obtain ⟨entry, henter⟩ := s.pipes[i].enter_eq_ok S.boundary h.width h.height
  obtain ⟨entering, w, hadvance, hfits⟩ := Walk.advance_eq h.valid htables h.width h.height ⟨s.pipes[i], s.source⟩
  obtain ⟨-, -, hmark⟩ := Walk.advance_pipe henter hadvance
  rw [hmark] at hadvance
  refine ⟨entry, w, henter, hadvance, advancePipe_of_ok hi (h.settings.symm ▸ hadvance), ?_⟩
  exact h.toReady.framed (by rw [List.length_set]; exact h.count) (AllFit.set h.fits (hfits hstyled) i)

/-! ## Steps -/

variable [Surface σ]

theorem reset_eq (h : s.Framed S) :
    ∃ pipes g, reset s = .ok () (s.wiped.withPipes pipes g) ∧ (s.wiped.withPipes pipes g).Framed S ∧
      pipes.map Pipe.heading = s.pipes.map Pipe.heading := by
  change ∃ pipes g, (if s.settings.randomStart then scatter else pure () : Act (Scene ρ σ) Unit) s.wiped = _ ∧ _
  split
  · exact scatter_eq h.wiped
  · exact ⟨s.pipes, s.source, rfl, h.wiped, rfl⟩

theorem makeRoom_eq (h : s.Framed S) :
    ∃ pipes g, makeRoom s = .ok () (s.withRoom.withPipes pipes g) ∧
      (s.withRoom.withPipes pipes g).Framed S ∧ pipes.map Pipe.heading = s.pipes.map Pipe.heading := by
  change ∃ pipes g, (if s.isFull then reset else pure () : Act (Scene ρ σ) Unit) s = _ ∧ _
  unfold Scene.withRoom
  split
  · exact reset_eq h
  · exact ⟨s.pipes, s.source, rfl, h, rfl⟩

/-- A step makes room, which may move pipes, and then draws the pipe as an advance leaves it. -/
theorem stepPipe_advance (h : s.Framed S) {i : Nat} (hi : i < s.pipes.length) :
    ∃ (pipes : List Pipe) (p : Pipe) (g : ρ) (entry : Entry) (w : Walk ρ),
      pipes.map Pipe.heading = s.pipes.map Pipe.heading ∧ pipes[i]? = some p ∧
      p.enter S.boundary s.width s.height = .ok entry ∧
      Walk.advance S s.tables s.width s.height ⟨p, g⟩ = .ok (w.pipe.mark entry.heading) w ∧
      stepPipe i s = draw (w.pipe.mark entry.heading) (s.withRoom.withPipes (pipes.set i w.pipe) w.source) ∧
      (s.withRoom.withPipes (pipes.set i w.pipe) w.source).Framed S := by
  obtain ⟨pipes, g, hroom, hframed, hheadings⟩ := makeRoom_eq h
  have hlength : i < pipes.length := by
    have hsame : pipes.length = s.pipes.length := by simpa using congrArg List.length hheadings
    omega
  obtain ⟨entry, w, henter, hadvance, hadvanced, hframed'⟩ := advancePipe_eq hframed hlength
  refine ⟨pipes, pipes[i], g, entry, w, hheadings, List.getElem?_eq_getElem hlength, ?_, ?_, ?_, hframed'⟩
  · obtain ⟨surface, drawn, resets, hwith⟩ := s.withRoom_elsewhere
    rw [hwith] at henter
    exact henter
  · obtain ⟨surface, drawn, resets, hwith⟩ := s.withRoom_elsewhere
    rw [hwith] at hadvance
    exact hadvance
  · rw [stepPipe, bind_of_ok hroom, bind_of_ok hadvanced]
    rfl

/-- A step draws the pipe as it then is, after making room for it, and can fail only in that draw. -/
theorem stepPipe_eq (h : s.Framed S) {i : Nat} (hi : i < s.pipes.length) :
    ∃ p entering pipes g, stepPipe i s = draw (p.mark entering) (s.withRoom.withPipes pipes g) ∧
      (s.withRoom.withPipes pipes g).Framed S ∧ pipes[i]? = some p := by
  obtain ⟨pipes, p, g, entry, w, -, hp, -, -, hstep, hframed⟩ := stepPipe_advance h hi
  obtain ⟨hlength, -⟩ := List.getElem?_eq_some_iff.1 hp
  exact ⟨w.pipe, entry.heading, _, w.source, hstep, hframed, List.getElem?_set_self hlength⟩

theorem forM_stepPipe_succ (n : Nat) : ((List.range (n + 1)).forM stepPipe : Act (Scene ρ σ) Unit) =
    (List.range n).forM stepPipe >>= fun _ => stepPipe n := by
  rw [List.range_succ]
  exact List.forM_append.trans (by simp)

/-- An advance somewhere on the screen draws the mark, and leaves a pipe that fits. -/
def CanDraw (S : Settings) (s : Scene ρ σ) (mark : Mark) : Prop :=
  ∃ w w' : Walk ρ, Walk.advance S s.tables s.width s.height w = .ok mark w' ∧
    w'.pipe.Fits S s.tables s.width s.height

omit [Surface σ] in
theorem CanDraw.onScreen {mark : Mark} (h : s.CanDraw S mark) : OnScreen s.width s.height mark.x mark.y := by
  obtain ⟨w, w', hadvance, hfits⟩ := h
  obtain ⟨entry, g, -, -, -, -, rfl⟩ := Walk.advance_of_ok hadvance
  exact hfits.onScreen

/-! ## Sizes -/

theorem resize_eq (h : s.Ready S) (hw : 1 ≤ (Surface.size s.surface).1.1) (hh : 1 ≤ (Surface.size s.surface).1.2) :
    ∃ pipes g, resize s = .ok () (s.resized pipes g) ∧ (s.resized pipes g).Framed S := by
  have hready : (s.resized s.pipes s.source).Ready S := ⟨h.settings, h.valid, h.tables, hw, hh⟩
  obtain ⟨pipes, g, hspawn, hframed⟩ := spawn_eq hready
  exact ⟨pipes, g, hspawn, hframed⟩

theorem create_eq (valid : S.Valid) (source : ρ) (surface : σ) (hw : 1 ≤ (Surface.size surface).1.1)
    (hh : 1 ≤ (Surface.size surface).1.2) :
    ∃ tables pipes g, create S source surface =
        .ok ⟨S, tables, (Surface.size surface).1.1, (Surface.size surface).1.2, pipes, 0, 0, false, g,
          (Surface.size surface).2⟩ ∧
      Framed S (⟨S, tables, (Surface.size surface).1.1, (Surface.size surface).1.2, pipes, 0, 0, false, g,
        (Surface.size surface).2⟩ : Scene ρ σ) := by
  obtain ⟨tables, htables, -⟩ := valid.tables
  let blank : Scene ρ σ := ⟨S, tables, (Surface.size surface).1.1, (Surface.size surface).1.2, [], 0, 0, false,
    source, (Surface.size surface).2⟩
  have hready : blank.Ready S := ⟨rfl, valid, htables, hw, hh⟩
  obtain ⟨pipes, g, hspawn, hframed⟩ := spawn_eq hready
  refine ⟨tables, pipes, g, ?_, hframed⟩
  unfold create
  rw [htables]
  dsimp only [bind, Except.bind]
  rw [hspawn]
  rfl

theorem exists_create (valid : S.Valid) (source : ρ) (surface : σ) (hw : 1 ≤ (Surface.size surface).1.1)
    (hh : 1 ≤ (Surface.size surface).1.2) :
    ∃ s : Scene ρ σ, create S source surface = .ok s ∧ s.Framed S ∧ s.surface = (Surface.size surface).2 := by
  obtain ⟨tables, pipes, g, hcreate, hframed⟩ := create_eq valid source surface hw hh
  exact ⟨_, hcreate, hframed, rfl⟩

end Pipework.Scene
