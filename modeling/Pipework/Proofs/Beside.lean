import Pipework.Proofs.Motion
import Pipework.Proofs.Stage
import Pipework.Proofs.Strokes

/-!
# One animation on two surfaces

Two surfaces go together if no call on them tells them apart (`Surface.Together`). Then twins on them remain twins
whatever is done with both, runs included, as long as they are coupled: both run, or both have been stopped
(`Correspondence.coupled_after`). The same scene on both is the case of twins that share settings and tables. Only its
surfaces can come to differ, and in nothing that shows in a run (`Scene.beside_abreast`).
-/

set_option linter.unusedSectionVars false

namespace Pipework

open Act

variable {ρ σ σ' τ : Type} [RandomSource ρ] [Surface σ] [Surface σ'] [Clock σ τ] [Clock σ' τ] {S : Settings}
  {T : List GlyphTable} {R : σ → σ' → Prop}

/-- Surfaces that go together by `R` give the same answers to whatever an animation does with both. -/
structure Surface.Together (R : σ → σ' → Prop) : Prop extends Surface.InStep Eq Eq R where
  poll : ∀ t t', R t t' → Alike Eq R (Surface.poll t) (Surface.poll t')
  restore : ∀ t t', R t t' → Alike (fun _ _ => True) R (Surface.restore t) (Surface.restore t')
  now : ∀ t t', R t t' → (Clock.now t).1 = (Clock.now t').1 ∧ R (Clock.now t).2 (Clock.now t').2
  sleep : ∀ t t' d, R t t' → Alike (fun _ _ => True) R (Clock.sleep d t) (Clock.sleep d t')

/-! ## Twins side by side -/

/-- Twins that both run or have both been stopped. -/
structure Scene.Coupled (S S' : Settings) (T T' : List GlyphTable) (Size Cell : Int × Int → Int × Int → Prop)
    (R : σ → σ' → Prop) (s : Scene ρ σ) (s' : Scene ρ σ') : Prop extends Scene.Twin S S' T T' Size Cell R s s' where
  running : s.running = s'.running

namespace Correspondence

open Scene

variable {S' : Settings} {T' : List GlyphTable} {Size Cell : Int × Int → Int × Int → Prop} {s : Scene ρ σ}
  {s' : Scene ρ σ'}

theorem onSurface_coupled {α : Type} {Q : α → α → Prop} {act : Act σ α} {act' : Act σ' α}
    (h : s.Coupled S S' T T' Size Cell R s') (hact : Alike Q R (act s.surface) (act' s'.surface)) :
    Alike Q (Coupled S S' T T' Size Cell R) (Scene.onSurface act s) (Scene.onSurface act' s') :=
  hact.on fun _ _ ht => { h with surface := ht }

theorem coupled_of_running {r : EStateM.Result Fault (Scene ρ σ) Unit} {r' : EStateM.Result Fault (Scene ρ σ') Unit}
    (h : Alike (fun _ _ => True) (Scene.Twin S S' T T' Size Cell R) r r')
    (hrunning : (left r).running = (left r').running) :
    Alike (fun _ _ => True) (Coupled S S' T T' Size Cell R) r r' :=
  (h.also hrunning).mono (fun _ _ h => h) fun _ _ h => ⟨h.1, h.2⟩

variable (c : Correspondence S S' T T' Size Cell) (together : Surface.Together R)
  (step : Surface.InStep Size (Mark.Twin T T' Cell) R)

include c step

theorem stepPipe_coupled (h : s.Coupled S S' T T' Size Cell R s') (i : Nat) :
    Alike (fun _ _ => True) (Coupled S S' T T' Size Cell R) (Scene.stepPipe i s) (Scene.stepPipe i s') := by
  refine coupled_of_running (c.stepPipe step h.toTwin i) ?_
  rw [left_stepPipe_running, left_stepPipe_running]
  exact h.running

theorem spawn_coupled (h : s.Coupled S S' T T' Size Cell R s') :
    Alike (fun _ _ => True) (Coupled S S' T T' Size Cell R) (Scene.spawn s) (Scene.spawn s') := by
  refine coupled_of_running (c.spawn h.toTwin) ?_
  rw [left_spawn_running, left_spawn_running]
  exact h.running

theorem resize_coupled (h : s.Coupled S S' T T' Size Cell R s') :
    Alike (fun _ _ => True) (Coupled S S' T T' Size Cell R) (Scene.resize s) (Scene.resize s') := by
  refine coupled_of_running (c.resize step h.toTwin) ?_
  rw [left_resize_running, left_resize_running]
  exact h.running

theorem reset_coupled (h : s.Coupled S S' T T' Size Cell R s') :
    Alike (fun _ _ => True) (Coupled S S' T T' Size Cell R) (Scene.reset s) (Scene.reset s') := by
  refine coupled_of_running (c.reset step h.toTwin) ?_
  rw [left_reset_running, left_reset_running]
  exact h.running

theorem obey_coupled (h : s.Coupled S S' T T' Size Cell R s') (key : Key) :
    Alike (fun _ _ => True) (Coupled S S' T T' Size Cell R) (obey key s) (obey key s') := by
  unfold obey
  split
  · exact c.resize_coupled step h
  · split
    · exact ⟨trivial, h⟩
    · exact ⟨trivial, { h with running := rfl }⟩

include together

theorem attend_coupled (h : s.Coupled S S' T T' Size Cell R s') :
    Alike (fun _ _ => True) (Coupled S S' T T' Size Cell R) (attend s) (attend s') := by
  refine (onSurface_coupled h (together.poll _ _ h.surface)).bind ?_
  rintro key _ s s' rfl h
  exact c.obey_coupled step h key

theorem abreast {P : Scene ρ σ → Prop} (steady : Steady P) :
    Abreast fun (s : Scene ρ σ) (s' : Scene ρ σ') => s.Coupled S S' T T' Size Cell R s' ∧ P s where
  count := by
    obtain ⟨n, hn⟩ := steady.count
    exact ⟨n, fun s s' hs => ⟨hn s hs.2, hs.1.pipes.length_eq ▸ hn s hs.2⟩⟩
  sameRunning s s' hs := hs.1.running
  step s s' i hs hi := (c.stepPipe_coupled step hs.1 i).also (steady.step s i hs.2 hi)
  refresh s s' hs :=
    (onSurface_coupled hs.1 (together.refresh _ _ hs.1.surface)).also (steady.interlude s _ hs.2 (.refresh s))
  attend s s' hs := (c.attend_coupled together step hs.1).also (steady.interlude s _ hs.2 (.attend s))
  now s s' hs := by
    obtain ⟨htime, hnow⟩ := together.now _ _ hs.1.surface
    exact ⟨htime, { hs.1 with surface := hnow }, steady.interlude s _ hs.2 (.now s)⟩
  running s s' running hs := ⟨{ hs.1 with running := rfl }, steady.interlude s _ hs.2 (.running s running)⟩
  sleep s s' d hs :=
    (onSurface_coupled hs.1 (together.sleep _ _ d hs.1.surface)).also (steady.interlude s _ hs.2 (.sleep s d))
  restore s s' hs :=
    (onSurface_coupled hs.1 (together.restore _ _ hs.1.surface)).also (steady.interlude s _ hs.2 (.restore s))

theorem coupled_after [Time τ] {P : Scene ρ σ → Prop} (lasting : Lasting S (fun _ => True) P)
    (hwipe : ∀ s, P s → P s.wiped) (deeds : List (Deed τ)) (h : s.Coupled S S' T T' Size Cell R s') (hs : P s) :
    (s.after deeds).Coupled S S' T T' Size Cell R (s'.after deeds) := by
  have abreast := c.abreast together step lasting.steady
  induction deeds generalizing s s' with
  | nil => exact h
  | cons deed deeds ih =>
    cases deed with
    | tick => exact ih (abreast.tick ⟨h, hs⟩).left.1 (lasting.tick hs).left
    | resize => exact ih (c.resize_coupled step h).left (lasting.resize hs).left
    | reset => exact ih (c.reset_coupled step h).left (lasting.reset hwipe hs).left
    | spawn => exact ih (c.spawn_coupled step h).left (lasting.spawn hs).left
    | run pace maxTicks most =>
      exact ih (abreast.run ⟨h, hs⟩ pace maxTicks most).left.1 (lasting.run hs (.inl trivial) maxTicks most).left

end Correspondence

/-! ## Twins with the same settings -/

/-- Twins that take their tables from the same place of one list are equal. -/
theorem Pipe.Twin.eq {p p' : Pipe} (h : p.Twin T T Eq p') : p = p' := by
  obtain ⟨hcell, hheading, hcolor, k, hk, hk'⟩ := h
  obtain ⟨hx, hy⟩ := Prod.ext_iff.1 hcell
  obtain ⟨x, y, heading, color, glyphs⟩ := p
  obtain ⟨x', y', heading', color', glyphs'⟩ := p'
  have hglyphs : glyphs = glyphs' := Option.some.inj (hk.symm.trans hk')
  cases hx
  cases hy
  cases hheading
  cases hcolor
  cases hglyphs
  rfl

theorem Pipe.twins_self {pipes : List Pipe} (h : ∀ p ∈ pipes, p.glyphs ∈ T) :
    List.Forall₂ (Pipe.Twin T T Eq) pipes pipes := by
  refine List.forall₂_same.2 fun p hp => ?_
  obtain ⟨k, hk⟩ := List.getElem?_of_mem (h p hp)
  exact ⟨rfl, rfl, rfl, k, hk, hk⟩

theorem Mark.Twin.eq {m m' : Mark} (h : Mark.Twin T T Eq m m') : m = m' := by
  obtain ⟨p, p', entering, hp, -, rfl, rfl⟩ := h
  rw [hp.eq]

theorem Surface.InStep.twins {Size : Int × Int → Int × Int → Prop} (step : Surface.InStep Size Eq R) :
    Surface.InStep Size (Mark.Twin T T Eq) R :=
  step.of_marks fun _ _ hm => hm.eq

theorem Settings.Valid.corresponds {T' : List GlyphTable} (valid : S.Valid) (htables : T.length = T'.length) :
    Correspondence S S T T' Eq Eq :=
  have same : S.SameMotion S := ⟨rfl, rfl, rfl, rfl, rfl, .inr rfl, rfl, rfl⟩
  same.corresponds valid valid htables

namespace Scene

/-- The same scene on two surfaces that go together by `R`. -/
structure Beside (R : σ → σ' → Prop) (s : Scene ρ σ) (s' : Scene ρ σ') : Prop where
  scene : { s with surface := s'.surface } = s'
  surface : R s.surface s'.surface

variable {s : Scene ρ σ} {s' : Scene ρ σ'}

theorem Beside.twin (h : Beside R s s') (hs : s.Framed S) : s.Twin S S s.tables s.tables Eq Eq R s' := by
  obtain ⟨hscene, hsurface⟩ := h
  rw [← hscene]
  exact ⟨hs.settings, hs.settings, rfl, rfl, rfl, Pipe.twins_self fun p hp => (hs.fits p hp).styled.glyphs, rfl, rfl, rfl,
    hsurface⟩

theorem Twin.pipes_eq {Size : Int × Int → Int × Int → Prop} (h : s.Twin S S T T Size Eq R s') :
    s.pipes = s'.pipes := by
  have hequal : List.Forall₂ Eq s.pipes s'.pipes := h.pipes.imp fun _ _ hp => hp.eq
  rwa [List.forall₂_eq_eq_eq] at hequal

theorem Twin.beside (h : s.Twin S S T T Eq Eq R s') (hrunning : s.running = s'.running) : Beside R s s' := by
  obtain ⟨hwidth, hheight⟩ := Prod.ext_iff.1 h.size
  refine ⟨?_, h.surface⟩
  rw [h.settings, h.tables, show s.width = s'.width from hwidth, show s.height = s'.height from hheight, h.pipes_eq,
    h.drawn, h.resets, hrunning, h.source, ← h.settings', ← h.tables']

/-! ## Runs -/

section Together

variable (together : Surface.Together R)

include together

variable {P : Scene ρ σ → Prop}

/-- The same scene on both surfaces runs abreast, if what is steady of it keeps it in frame. -/
theorem beside_abreast (steady : Steady P) (framed : ∀ s, P s → s.Framed S) :
    Abreast fun (s : Scene ρ σ) (s' : Scene ρ σ') => Beside R s s' ∧ P s := by
  by_cases hsome : ∃ s, P s
  · obtain ⟨first, hfirst⟩ := hsome
    have hframed := framed first hfirst
    have c : Correspondence S S first.tables first.tables Eq Eq := hframed.valid.corresponds rfl
    have htables (s : Scene ρ σ) (hs : P s) : s.tables = first.tables :=
      Except.ok.inj ((framed s hs).tables.symm.trans hframed.tables)
    have hsame : (fun (s : Scene ρ σ) (s' : Scene ρ σ') => Beside R s s' ∧ P s) =
        fun s s' => s.Coupled S S first.tables first.tables Eq Eq R s' ∧ P s := by
      funext s s'
      refine propext (and_congr_left fun hs => ⟨fun h => ⟨?_, by rw [← h.scene]⟩, fun h => h.beside h.running⟩)
      rw [← htables s hs]
      exact h.twin (framed s hs)
    rw [hsame]
    exact c.abreast together together.toInStep.twins steady
  · exact abreast_of_not fun s s' hs => hsome ⟨s, hs.2⟩

theorem create_beside (valid : S.Valid) (g : ρ) {t : σ} {t' : σ'} (h : R t t') (hwidth : 1 ≤ (Surface.size t).1.1)
    (hheight : 1 ≤ (Surface.size t).1.2) :
    ∃ s s', create S g t = .ok s ∧ create S g t' = .ok s' ∧ Beside R (s : Scene ρ σ) s' := by
  have hsize := (together.size t t' h).1
  obtain ⟨T, pipes, g', hcreate, hframed⟩ := create_eq valid g t hwidth hheight
  obtain ⟨T', pipes', g'', hcreate', -⟩ := create_eq valid g t' (hsize ▸ hwidth) (hsize ▸ hheight)
  refine ⟨_, _, hcreate, hcreate', ?_⟩
  have hT := hframed.tables
  obtain ⟨s, s', hs, hs', htwin⟩ | ⟨e, hfails, -⟩ :=
    (valid.corresponds rfl).create together.toInStep.twins hT hT g h
  · cases hcreate.symm.trans hs
    cases hcreate'.symm.trans hs'
    exact htwin.beside rfl
  · cases hcreate.symm.trans hfails

end Together

end Scene

end Pipework
