import Pipework.Proofs.Watched

/-!
# The turn law

A pipe leaves a cell in the heading with which it entered, or at right angles to it. It never goes back, not even where
it bounces, for then it enters in the heading that it bounced into. With numbers of the unit interval it never turns at a
chance of zero, and at every step at a chance of a hundred (`chooseHeading_allows`). So every glyph that is asked of a
surface is the entry of a table for two such headings, whatever is done with the scene (`Scene.lawful_lasting`), and
pipes that never turn keep their course until the next resize (`Scene.courses_after`).
-/

set_option linter.unusedSectionVars false

namespace Pipework

open Act

variable {ρ σ τ : Type} [RandomSource ρ] {S : Settings} {T : List GlyphTable}

/-! ## Chances -/

theorem Settings.turnThreshold?_zero (h : S.turnChance = 0) : S.turnThreshold? = some 0 := by
  unfold turnThreshold?
  rw [h]
  rfl

theorem Settings.turnThreshold?_hundred (h : S.turnChance = 100) : S.turnThreshold? = some 1 := by
  unfold turnThreshold?
  rw [h]
  rfl

/-- In which heading settings let a pipe leave a cell. -/
structure Settings.Allows (S : Settings) (entering leaving : Direction) : Prop where
  forward : leaving = entering ∨ leaving ∈ entering.turns
  notBack : leaving ≠ entering.opposite
  straight : S.turnChance = 0 → leaving = entering
  turned : S.turnChance = 100 → leaving ∈ entering.turns

theorem chooseHeading_allows [LawfulSource ρ] {entering leaving : Direction} {g g' : ρ}
    (h : chooseHeading S entering g = .ok leaving g') : S.Allows entering leaving := by
  obtain ⟨threshold, hthreshold, hchosen⟩ := chooseHeading_of_ok h
  refine { forward := ?_, notBack := chooseHeading_ne_opposite h, straight := fun hzero => ?_, turned := fun hhundred => ?_ }
  · rcases hchosen with ⟨-, hturns⟩ | ⟨-, hkeeps⟩
    · exact .inr hturns
    · exact .inl hkeeps
  · -- nothing drawn is below zero
    rw [Settings.turnThreshold?_zero hzero] at hthreshold
    cases hthreshold
    rcases hchosen with ⟨hlt, -⟩ | ⟨-, hkeeps⟩
    · exact absurd hlt (not_lt_zero_of_nonneg (LawfulSource.unit_nonneg g))
    · exact hkeeps
  · -- everything drawn is below one
    rw [Settings.turnThreshold?_hundred hhundred] at hthreshold
    cases hthreshold
    rcases hchosen with ⟨-, hturns⟩ | ⟨hnot, -⟩
    · exact hturns
    · exact absurd (LawfulSource.unit_lt_one g) hnot

/-! ## Marks -/

/--
The mark is drawn by an advance on some screen: it is the entry of a table for the heading with which the pipe entered
its cell and for the one in which it leaves, and the settings allow these.
-/
def Mark.Lawful (ρ : Type) [RandomSource ρ] (S : Settings) (T : List GlyphTable) (mark : Mark) : Prop :=
  ∃ (width height : Int) (w w' : Walk ρ) (entry : Entry), 1 ≤ width ∧ 1 ≤ height ∧
    w.pipe.enter S.boundary width height = .ok entry ∧ Walk.advance S T width height w = .ok mark w' ∧
    w'.pipe.glyphs ∈ T ∧ mark.glyph = w'.pipe.glyphs.glyph entry.heading w'.pipe.heading ∧
    S.Allows entry.heading w'.pipe.heading

/-- Every glyph that was asked of a surface, put or not, was drawn lawfully. -/
def AllLawful (ρ : Type) [RandomSource ρ] (S : Settings) (T : List GlyphTable) (log : List Sight) : Prop :=
  ∀ v ∈ log, ∀ mark, v.ask = .put mark → mark.Lawful ρ S T

theorem AllLawful.cons {log : List Sight} (h : AllLawful ρ S T log) {ask : Ask}
    (hask : ∀ mark, ask = .put mark → mark.Lawful ρ S T) (fault : Option Fault) :
    AllLawful ρ S T (⟨ask, fault⟩ :: log) := by
  intro v hv
  rcases List.mem_cons.1 hv with rfl | hv
  · exact hask
  · exact h v hv

namespace Scene

section Lawful

variable [Surface σ] [Clock σ τ] {F : Fault → Prop} {I : σ → Prop} {s : Scene ρ (WatchedSurface σ)} {mark : Mark}

theorem CanDraw.lawful [LawfulSource ρ] (hs : s.Framed S) (h : s.CanDraw S mark) : mark.Lawful ρ S s.tables := by
  obtain ⟨w, w', hadvance, hfits⟩ := h
  obtain ⟨entry, g, henter, hchoice, -, -, hmark⟩ := Walk.advance_of_ok hadvance
  refine ⟨s.width, s.height, w, w', entry, hs.width, hs.height, henter, hadvance, hfits.styled.glyphs, ?_, ?_⟩
  · rw [hmark]
    rfl
  · exact chooseHeading_allows hchoice

/-- A framed scene on a roomy surface, of which only lawful glyphs were asked. -/
def Abiding (S : Settings) (I : σ → Prop) (s : Scene ρ (WatchedSurface σ)) : Prop :=
  s.Framed S ∧ I s.surface.inner ∧ AllLawful ρ S s.tables s.surface.log

theorem watching_abides {α : Type} {ask : Ask} {act : Act σ α} (hs : s.Abiding S I)
    (hask : ∀ mark, ask = .put mark → mark.Lawful ρ S s.tables) (h : Keeps F I (act s.surface.inner)) :
    Keeps F (Abiding S I) (onSurface (WatchedSurface.watching ask act) s) := by
  obtain ⟨hframed, -, hlog⟩ := hs
  refine ends_on.2 (WatchedSurface.ends_watching.2 (Ends.mono h (fun _ t ht => ?_) fun e t ht => ?_))
  · exact ⟨hframed.elsewhere, ht, hlog.cons hask none⟩
  · exact ⟨ht.1, hframed.elsewhere, ht.2, hlog.cons hask (some e)⟩

theorem Abiding.wiped (room : Surface.Roomy F I) (hs : s.Abiding S I) : s.wiped.Abiding S I :=
  ⟨hs.1.wiped, room.clear _ hs.2.1, hs.2.2.cons (fun _ => Ask.noConfusion) none⟩

theorem Abiding.withRoom (room : Surface.Roomy F I) (hs : s.Abiding S I) : s.withRoom.Abiding S I := by
  unfold Scene.withRoom
  split
  · exact hs.wiped room
  · exact hs

theorem lawful_lasting [LawfulSource ρ] (room : Surface.Roomy F I) :
    Lasting S F (Abiding (ρ := ρ) S I) where
  framed _ hs := hs.1
  pipes _ _ _ hs hframed := ⟨hframed, hs.2⟩
  running _ _ hs := ⟨hs.1.elsewhere, hs.2⟩
  now s hs := ⟨hs.1.elsewhere, room.now s.surface.inner hs.2.1, hs.2.2⟩
  draw s mark hs hdrawn := by
    have hlawful : mark.Lawful ρ S s.withRoom.tables := by
      have htables := hdrawn.lawful hs.1
      obtain ⟨surface, drawn, resets, hroom⟩ := s.withRoom_elsewhere
      rw [hroom]
      exact htables
    have hroom := hs.withRoom room
    have hput : Keeps F (Abiding S I) (onSurface (Surface.put mark) s.withRoom) :=
      watching_abides hroom (fun mark' heq => Ask.put.inj heq ▸ hlawful) (room.put _ mark hroom.2.1)
    exact hput.bind fun _ _ hs => ⟨hs.1.elsewhere, hs.2⟩
  refresh _ hs := watching_abides hs (fun _ => Ask.noConfusion) (room.refresh _ hs.2.1)
  poll _ hs := watching_abides hs (fun _ => Ask.noConfusion) (room.poll _ hs.2.1)
  sleep _ t hs := watching_abides hs (fun _ => Ask.noConfusion) (room.sleep _ t hs.2.1)
  restore _ hs := watching_abides hs (fun _ => Ask.noConfusion) (room.restore _ hs.2.1)
  size _ hs := ⟨room.width _ hs.2.1, room.height _ hs.2.1⟩
  resized s _ _ hs hframed := by
    refine ⟨hframed, room.clear _ (room.size _ hs.2.1), ?_⟩
    let size := (Surface.size s.surface.inner).1
    have hread : AllLawful ρ S s.tables (⟨.size size.1 size.2, none⟩ :: s.surface.log) :=
      hs.2.2.cons (fun _ => Ask.noConfusion) none
    exact hread.cons (fun _ => Ask.noConfusion) none

theorem create_abiding (room : Surface.Roomy F I) (valid : S.Valid) (g : ρ) {t : σ} (h : I t) :
    ∃ s : Scene ρ (WatchedSurface σ), create S g ⟨t, []⟩ = .ok s ∧ s.Abiding S I := by
  obtain ⟨T, pipes, g', hcreate, hframed⟩ :=
    create_eq valid g (⟨t, []⟩ : WatchedSurface σ) (room.width t h) (room.height t h)
  have hunused : AllLawful ρ S T [] := fun v hv => absurd hv List.not_mem_nil
  exact ⟨_, hcreate, hframed, room.size t h, hunused.cons (fun _ => Ask.noConfusion) none⟩

end Lawful

end Scene

/-! ## Courses -/

/-- What becomes of the heading of a pipe that does not turn: it is kept, or reversed where pipes bounce. -/
def Boundary.KeepsCourse (b : Boundary) (d d' : Direction) : Prop := d' = d ∨ b = .bounce ∧ d' = d.opposite

theorem Boundary.KeepsCourse.trans {b : Boundary} {d d' d'' : Direction} (h : b.KeepsCourse d d')
    (h' : b.KeepsCourse d' d'') : b.KeepsCourse d d'' := by
  rcases h' with rfl | ⟨hb, rfl⟩
  · exact h
  · -- two reversals keep the heading
    rcases h with rfl | ⟨-, rfl⟩
    · exact .inr ⟨hb, rfl⟩
    · exact .inl (Direction.opposite_opposite d)

theorem Pipe.enter_course {p : Pipe} {b : Boundary} {width height : Int} {entry : Entry}
    (h : p.enter b width height = .ok entry) : b.KeepsCourse p.heading entry.heading := by
  unfold Pipe.enter at h
  dsimp only at h
  split at h
  · cases h
    exact .inl rfl
  · split at h
    · next hb =>
      cases h
      exact .inr ⟨hb, rfl⟩
    · split at h <;> cases h
      exact .inl rfl

theorem Walk.advance_course [LawfulSource ρ] (hchance : S.turnChance = 0) {width height : Int} {w w' : Walk ρ}
    {mark : Mark} (h : advance S T width height w = .ok mark w') :
    S.boundary.KeepsCourse w.pipe.heading w'.pipe.heading := by
  obtain ⟨entry, g, henter, hchoice, -, -, -⟩ := advance_of_ok h
  rw [(chooseHeading_allows hchoice).straight hchance]
  exact Pipe.enter_course henter

theorem forall₂_set {α β : Type} {R : α → β → Prop} {l : List α} {l' : List β} (h : List.Forall₂ R l l') {i : Nat}
    {b b' : β} (hb : l'[i]? = some b) (hR : ∀ a, R a b → R a b') : List.Forall₂ R l (l'.set i b') := by
  induction h generalizing i with
  | nil => exact .nil
  | @cons a c l l' hac h ih =>
    cases i with
    | zero =>
      obtain rfl : c = b := by simpa using hb
      exact .cons (hR a hac) h
    | succ i => exact .cons hac (ih hb)

namespace Scene

variable [LawfulSource ρ] [Surface σ] {s : Scene ρ σ} {headings : List Direction}

/-- The pipes keep the courses that they took with the headings. -/
def Courses (S : Settings) (headings : List Direction) (s : Scene ρ σ) : Prop :=
  List.Forall₂ S.boundary.KeepsCourse headings (s.pipes.map Pipe.heading)

theorem left_stepPipe_courses (hs : s.Framed S) (hchance : S.turnChance = 0) (h : s.Courses S headings) {i : Nat}
    (hi : i < s.pipes.length) : (left (stepPipe i s)).Courses S headings := by
  obtain ⟨pipes, p, g, entry, w, hheadings, hp, -, hadvance, hstep, -⟩ := stepPipe_advance hs hi
  obtain ⟨drawn, hdraw⟩ := left_draw (w.pipe.mark entry.heading) (s.withRoom.withPipes (pipes.set i w.pipe) w.source)
  have hcourse : S.boundary.KeepsCourse p.heading w.pipe.heading := Walk.advance_course hchance hadvance
  have hheading : (s.pipes.map Pipe.heading)[i]? = some p.heading := by
    rw [← hheadings, List.getElem?_map, hp]
    rfl
  rw [hstep, hdraw]
  change List.Forall₂ _ headings ((pipes.set i w.pipe).map Pipe.heading)
  rw [List.map_set, hheadings]
  exact forall₂_set h hheading fun d hd => hd.trans hcourse

theorem left_reset_courses (hs : s.Framed S) (h : s.Courses S headings) : (left (reset s)).Courses S headings := by
  obtain ⟨pipes, g, hreset, -, hheadings⟩ := reset_eq hs
  rw [hreset]
  change List.Forall₂ _ headings (pipes.map Pipe.heading)
  rw [hheadings]
  exact h

variable [Clock σ τ] [Time τ] {P : Scene ρ σ → Prop}

theorem left_tick_courses (lasting : Lasting S (fun _ => True) P) (hchance : S.turnChance = 0) (hs : P s)
    (h : s.Courses S headings) : (left (tick s)).Courses S headings := by
  let Q (s : Scene ρ σ) : Prop := P s ∧ s.Courses S headings
  have step (s : Scene ρ σ) (i : Nat) (hs : Q s) (hi : i < s.pipes.length) : Q (left (stepPipe i s)) :=
    ⟨(lasting.stepPipe hs.1 hi).left, left_stepPipe_courses (lasting.framed s hs.1) hchance hs.2 hi⟩
  have refresh (s : Scene ρ σ) (hs : Q s) : Q (left (onSurface Surface.refresh s)) := by
    refine ⟨(lasting.refresh s hs.1).left, ?_⟩
    rw [onSurface, left_on]
    exact hs.2
  have htick : Ends (fun _ => Q) (fun _ => Q) (tick s) :=
    tick_ends ⟨S.pipes.toNat, fun s hs => (lasting.framed s hs.1).length_pipes⟩
      (fun s i hs hi => ends_left.2 (step s i hs hi)) (fun s hs => ends_left.2 (refresh s hs)) ⟨hs, h⟩
  exact (ends_left.1 htick).2

/-- Ticks and resets do not change the courses of pipes that never turn. -/
theorem courses_after (lasting : Lasting S (fun _ => True) P) (hwipe : ∀ s, P s → P s.wiped)
    (hchance : S.turnChance = 0) {deeds : List (Deed τ)} (hdeeds : ∀ deed ∈ deeds, deed = .tick ∨ deed = .reset)
    (hs : P s) (h : s.Courses S headings) : (s.after deeds).Courses S headings := by
  induction deeds generalizing s with
  | nil => exact h
  | cons deed deeds ih =>
    have hlater (deed' : Deed τ) (hmem : deed' ∈ deeds) : deed' = .tick ∨ deed' = .reset :=
      hdeeds deed' (List.mem_cons_of_mem _ hmem)
    rcases hdeeds deed List.mem_cons_self with rfl | rfl
    · exact ih hlater (lasting.tick hs).left (left_tick_courses lasting hchance hs h)
    · exact ih hlater (lasting.reset hwipe hs).left (left_reset_courses (lasting.framed s hs) h)

end Scene

end Pipework
