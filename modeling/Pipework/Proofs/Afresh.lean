import Pipework.Proofs.Beside
import Pipework.Random.Scripted

/-!
# A resize starts afresh

A resize reads the size of the surface, wipes it and makes new pipes, which is what making a new scene does but for the
wipe. So a scene that has been resized and one newly made on the same surface are twins, but for the resets that the
first has counted before, and these influence nothing (`raised_after`); they remain so whatever is done with both of
them. Whatever pipes there were, and however much was drawn, a resize leaves the same scene.
-/

set_option linter.unusedSectionVars false

namespace Pipework

open Act

variable {ρ σ τ α β : Type}

namespace Scene

/-! ## Resets counted before -/

/-- The scene if `k` more resets had been counted. -/
def raised (k : Nat) (s : Scene ρ σ) : Scene ρ σ := { s with resets := s.resets + k }

/-- The act does the same however many resets have been counted. -/
def Unaware (k : Nat) (act : Act (Scene ρ σ) α) : Prop :=
  ∀ s, Alike Eq (fun t t' => t = t'.raised k) (act (s.raised k)) (act s)

namespace Unaware

variable {k : Nat} {act : Act (Scene ρ σ) α} {f : α → Act (Scene ρ σ) β}

theorem done (a : α) : Unaware k (pure a : Act (Scene ρ σ) α) := fun _ => ⟨rfl, rfl⟩

theorem bind (h : Unaware k act) (hf : ∀ a, Unaware k (f a)) : Unaware k (act >>= f) := by
  intro s
  refine (h s).bind ?_
  rintro a _ _ t rfl rfl
  exact hf a t

theorem looking {f : Scene ρ σ → Act (Scene ρ σ) β} (hsame : ∀ s, f (s.raised k) = f s)
    (hf : ∀ s, Unaware k (f s)) : Unaware k (get >>= f) := by
  intro s
  rw [get_bind, get_bind, hsame]
  exact hf s s

theorem changing {g : Scene ρ σ → Scene ρ σ} (h : ∀ s, g (s.raised k) = (g s).raised k) :
    Unaware k (modify g : Act (Scene ρ σ) PUnit) := fun s => ⟨rfl, h s⟩

theorem onSource (act : Act ρ α) : Unaware k (onSource act : Act (Scene ρ σ) α) := by
  intro s
  refine Alike.on (V := Eq) (alike_self _) ?_
  rintro g _ rfl
  rfl

theorem onSurface (act : Act σ α) : Unaware k (onSurface act : Act (Scene ρ σ) α) := by
  intro s
  refine Alike.on (V := Eq) (alike_self _) ?_
  rintro t _ rfl
  rfl

theorem forM {ι : Type} {f : ι → Act (Scene ρ σ) Unit} (h : ∀ i, Unaware k (f i)) (l : List ι) :
    Unaware k (l.forM f) := by
  intro s
  have hall : Alike (fun _ _ => True) (fun t t' => t = t'.raised k) (l.forM f (s.raised k)) (l.forM f s) := by
    refine Alike.forM (fun i _ t t' ht => ?_) rfl
    rw [ht]
    exact (h i t').mono (fun _ _ _ => trivial) fun _ _ ht => ht
  exact hall.mono (fun _ _ _ => rfl) fun _ _ ht => ht

variable [RandomSource ρ]

theorem startPosition : Unaware k (startPosition : Act (Scene ρ σ) (Int × Int)) := by
  refine looking (fun _ => rfl) fun s => ?_
  split
  · exact (onSource _).bind fun x => (onSource _).bind fun y => done _
  · exact done _

theorem spawnOne : Unaware k (spawnOne : Act (Scene ρ σ) Unit) := by
  refine startPosition.bind fun (x, y) => (onSource _).bind fun heading => ?_
  refine looking (fun _ => rfl) fun s => (onSource _).bind fun pipe => ?_
  exact changing fun _ => rfl

theorem spawn : Unaware k (spawn : Act (Scene ρ σ) Unit) := by
  unfold Scene.spawn
  refine bind (changing fun _ => rfl) fun _ => looking (fun _ => rfl) fun s => ?_
  exact forM (fun _ => spawnOne) _

theorem scatter : Unaware k (scatter : Act (Scene ρ σ) Unit) := by
  refine looking (fun _ => rfl) fun s => forM (fun i => ?_) _
  exact startPosition.bind fun (x, y) => changing fun _ => rfl

theorem advancePipe (i : Nat) : Unaware k (advancePipe i : Act (Scene ρ σ) (Option Mark)) := by
  refine looking (fun _ => rfl) fun s => fun s' => ?_
  unfold onPipe
  dsimp only [raised]
  cases s'.pipes[i]? with
  | none => exact ⟨rfl, rfl⟩
  | some pipe =>
    dsimp only
    cases Walk.advance s.settings s.tables s.width s.height ⟨pipe, s'.source⟩ <;> exact ⟨rfl, rfl⟩

variable [Surface σ]

theorem reset : Unaware k (reset : Act (Scene ρ σ) Unit) := by
  have hwipe : Unaware k (wipe : Act (Scene ρ σ) Unit) :=
    changing fun s => congrArg (fun resets => { s.wiped with resets }) (Nat.add_right_comm s.resets k 1)
  refine hwipe.bind fun _ => looking (fun _ => rfl) fun s => ?_
  split
  · exact scatter
  · exact done _

theorem stepPipe (i : Nat) : Unaware k (stepPipe i : Act (Scene ρ σ) Unit) := by
  have hroom : Unaware k (makeRoom : Act (Scene ρ σ) Unit) := by
    refine looking (fun _ => rfl) fun s => ?_
    split
    · exact reset
    · exact done _
  refine hroom.bind fun _ => (advancePipe i).bind fun mark => ?_
  cases mark with
  | none => exact done _
  | some mark => exact (onSurface _).bind fun _ => changing fun _ => rfl

theorem tick : Unaware k (tick : Act (Scene ρ σ) Unit) :=
  looking (fun _ => rfl) fun _ => (forM stepPipe _).bind fun _ => onSurface _

theorem resize : Unaware k (resize : Act (Scene ρ σ) Unit) := by
  unfold Scene.resize
  exact bind (changing fun _ => rfl) fun _ => spawn

end Unaware

variable [RandomSource ρ] [Surface σ] [Clock σ τ] [Time τ]

theorem raised_after (k : Nat) {deeds : List (Deed τ)} (hruns : ∀ deed ∈ deeds, ¬ deed.IsRun) (s : Scene ρ σ) :
    (s.raised k).after deeds = (s.after deeds).raised k := by
  induction deeds generalizing s with
  | nil => rfl
  | cons deed deeds ih =>
    have hdeed : (s.raised k).afterDeed deed = (s.afterDeed deed).raised k := by
      cases deed with
      | tick => exact (Unaware.tick s).left
      | resize => exact (Unaware.resize s).left
      | reset => exact (Unaware.reset s).left
      | spawn => exact (Unaware.spawn s).left
      | run pace maxTicks most => exact absurd trivial (hruns _ List.mem_cons_self)
    have hlater := ih (fun deed' hmem => hruns deed' (List.mem_cons_of_mem _ hmem)) (s.afterDeed deed)
    rw [← hdeed] at hlater
    exact hlater

end Scene

/-! ## Events before -/

/-- Surfaces that go together by `R`, where the first had `old` events before the second had any. -/
structure LoggedSurface.Behind (R : σ → σ → Prop) (old : List Event) (t t' : LoggedSurface σ) : Prop where
  inner : R t.inner t'.inner
  log : t.log = t'.log ++ old

section Behind

variable [Surface σ] {R : σ → σ → Prop} {old : List Event}

theorem LoggedSurface.Behind.noting {t t' : LoggedSurface σ} (h : Behind R old t t') (e : Event) {act : Act σ Unit}
    (hact : Alike (fun _ _ => True) R (act t.inner) (act t'.inner)) :
    Alike (fun _ _ => True) (Behind R old) (noting e act t) (noting e act t') := by
  have hsilent : Alike (fun _ _ => True) (Behind R old) (silently act t) (silently act t') :=
    hact.on fun _ _ ht => ⟨ht, h.log⟩
  exact hsilent.bind fun _ _ t t' _ h => ⟨trivial, h.inner, congrArg (e :: ·) h.log⟩

theorem LoggedSurface.behind_inStep (step : Surface.InStep Eq Eq R) (old : List Event) :
    Surface.InStep Eq Eq (Behind R old) where
  size t t' h := by
    obtain ⟨hsize, hR⟩ := step.size t.inner t'.inner h.inner
    exact ⟨hsize, hR, h.log⟩
  put t t' m m' h hm := by
    obtain rfl : m = m' := hm
    exact h.noting (.put m) (step.put _ _ m m h.inner rfl)
  clear t t' h := ⟨step.clear _ _ h.inner, congrArg (Event.clear :: ·) h.log⟩
  refresh t t' h := h.noting .refresh (step.refresh _ _ h.inner)

end Behind

namespace Scene

/-! ## Resizes -/

variable [RandomSource ρ] [Surface σ]

/-- Scene `s` is what `fresh` is, but for the resets and the events that `old` had before, and a wipe after them. -/
structure Afresh (old s fresh : Scene ρ (LoggedSurface σ)) : Prop where
  width : s.width = fresh.width
  height : s.height = fresh.height
  drawn : s.drawn = fresh.drawn
  pipes : s.pipes = fresh.pipes
  source : s.source = fresh.source
  resets : s.resets = fresh.resets + old.resets
  events : s.surface.events = old.surface.events ++ .clear :: fresh.surface.events

variable {S : Settings} {T : List GlyphTable} {R : σ → σ → Prop} {old s fresh : Scene ρ (LoggedSurface σ)}

theorem Twin.afresh (h : s.Twin S S T T Eq Eq (LoggedSurface.Behind R (.clear :: old.surface.log))
    (fresh.raised old.resets)) : Afresh old s fresh where
  width := (Prod.ext_iff.1 h.size).1
  height := (Prod.ext_iff.1 h.size).2
  drawn := h.drawn
  pipes := h.pipes_eq
  source := h.source
  resets := h.resets
  events := by
    have hlog : s.surface.log = fresh.surface.log ++ .clear :: old.surface.log := h.surface.log
    rw [LoggedSurface.events, hlog]
    simp [LoggedSurface.events]

/-- A scene once it has been resized, and one newly made on the surface, are twins. -/
theorem resize_twin (valid : s.settings.Valid) (htables : s.settings.tables = .ok s.tables)
    (hwidth : 1 ≤ (Surface.size s.surface).1.1) (hheight : 1 ≤ (Surface.size s.surface).1.2)
    (hwipe : R (Surface.clear (Surface.size s.surface.inner).2) (Surface.size s.surface.inner).2) :
    ∃ pipes g fresh, spawn (s.resized [] s.source) = .ok () (s.resized pipes g) ∧
      create s.settings s.source ⟨s.surface.inner, []⟩ = .ok fresh ∧
      (s.resized pipes g).Twin s.settings s.settings s.tables s.tables Eq Eq
        (LoggedSurface.Behind R (.clear :: s.surface.log)) (fresh.raised s.resets) := by
  let unused : LoggedSurface σ := ⟨s.surface.inner, []⟩
  let blank : Scene ρ (LoggedSurface σ) := ⟨s.settings, s.tables, (Surface.size unused).1.1,
    (Surface.size unused).1.2, [], 0, 0, false, s.source, (Surface.size unused).2⟩
  have hready : (s.resized [] s.source).Ready s.settings := ⟨rfl, valid, htables, hwidth, hheight⟩
  have hblank : blank.Ready s.settings := ⟨rfl, valid, htables, hwidth, hheight⟩
  obtain ⟨pipes, g, hspawn, -⟩ := spawn_eq hready
  obtain ⟨pipes', g', hspawn', -⟩ := spawn_eq hblank
  refine ⟨pipes, g, blank.withPipes pipes' g', hspawn, ?_, ?_⟩
  · unfold create
    rw [htables]
    dsimp only [bind, Except.bind]
    rw [hspawn']
  · have hstart : (s.resized [] s.source).Twin s.settings s.settings s.tables s.tables Eq Eq
        (LoggedSurface.Behind R (.clear :: s.surface.log)) (blank.raised s.resets) :=
      ⟨rfl, rfl, rfl, rfl, rfl, .nil, rfl, (Nat.zero_add _).symm, rfl, hwipe, rfl⟩
    have htwin := ((valid.corresponds rfl).spawn hstart).left
    have hraised := (Unaware.spawn (k := s.resets) blank).left
    rw [hspawn, hraised, hspawn'] at htwin
    exact htwin

variable [Clock σ τ] [Time τ]

/--
On a surface that does not show whether it has been wiped, a resize leaves what a new scene would be, and whatever is
then done with both leaves it so. It wipes the surface once and counts no reset, and nothing of what there was before
on the screen makes a difference.
-/
theorem resize_afresh (valid : s.settings.Valid) (htables : s.settings.tables = .ok s.tables)
    (step : Surface.InStep Eq Eq R) (hwidth : 1 ≤ (Surface.size s.surface.inner).1.1)
    (hheight : 1 ≤ (Surface.size s.surface.inner).1.2)
    (hwipe : R (Surface.clear (Surface.size s.surface.inner).2) (Surface.size s.surface.inner).2) :
    ∃ resized fresh : Scene ρ (LoggedSurface σ), resize s = .ok () resized ∧
      create s.settings s.source ⟨s.surface.inner, []⟩ = .ok fresh ∧
      resized.resets = s.resets ∧ resized.running = s.running ∧
      resized.surface.events = s.surface.events ++ [.clear] ∧
      (∀ deeds : List (Deed τ), (∀ deed ∈ deeds, ¬ deed.IsRun) →
        Afresh s (resized.after deeds) (fresh.after deeds)) ∧
      ∀ width height pipes drawn, resize { s with width, height, pipes, drawn } = .ok () resized := by
  obtain ⟨pipes, g, fresh, hspawn, hcreate, htwin⟩ := resize_twin valid htables hwidth hheight hwipe
  have c : Correspondence s.settings s.settings s.tables s.tables Eq Eq := valid.corresponds rfl
  have behind := (LoggedSurface.behind_inStep step (.clear :: s.surface.log)).twins (T := s.tables)
  refine ⟨s.resized pipes g, fresh, hspawn, hcreate, rfl, rfl, ?_, fun deeds hruns => ?_, fun _ _ _ _ => hspawn⟩
  · change (Event.clear :: s.surface.log).reverse = _
    rw [List.reverse_cons]
    rfl
  · have hafter := c.after behind hruns htwin
    rw [raised_after _ hruns] at hafter
    exact hafter.afresh

/-- A terminal of five cells by two, on which a scene for another size has counted resets; a refresh will fail. -/
theorem resize_afresh_terminal :
    let S : Settings := { pipes := 2, limit := 3, boundary := .bounce, randomStart := true }
    let script : Script Float := {
      width := 5, height := 2, keys := [], sizes := [], time := 0, costs := fun _ => 1
      traps := [⟨.refresh, .failure "refresh", 1⟩] }
    let t : Terminal Float := ⟨{ script, cursor := some 1, colors := true }, [1, 3, 7], true, true, some 1⟩
    S.Valid ∧ ∃ T, S.tables = .ok T ∧
      let s : Scene Scripted (LoggedSurface (Terminal Float)) :=
        ⟨S, T, 9, 1, T.map fun glyphs => ⟨8, 0, .left, 1, glyphs⟩, 2, 4, true, .ofLists [0.25, 0.75] [3, 1, 2],
          ⟨t, [.refresh, .clear]⟩⟩
      ∃ resized fresh : Scene Scripted (LoggedSurface (Terminal Float)), resize s = .ok () resized ∧
        create S s.source ⟨t, []⟩ = .ok fresh ∧ resized.resets = 4 ∧
        ∀ deeds : List (Deed Float), (∀ deed ∈ deeds, ¬ deed.IsRun) →
          Afresh s (resized.after deeds) (fresh.after deeds) := by
  intro S script t
  have valid : S.Valid := by decide +kernel
  obtain ⟨T, hT, -⟩ := valid.tables
  refine ⟨valid, T, hT, ?_⟩
  intro s
  have step : Surface.InStep Eq Eq (Terminal.SamePlace (τ := Float)) :=
    Terminal.samePlace_inStep.of_marks fun _ _ hm => hm ▸ ⟨rfl, rfl, rfl⟩
  have hwipe : (Surface.clear (Surface.size t).2).SamePlace (Surface.size t).2 :=
    ⟨⟨rfl, rfl⟩, by simp [t, Surface.size, Surface.clear], by simp [t, Surface.size]⟩
  obtain ⟨resized, fresh, hresize, hcreate, hresets, -, -, hafter, -⟩ :=
    resize_afresh (s := s) (τ := Float) valid hT step (Int.le_max_left 1 _) (Int.le_max_left 1 _) hwipe
  exact ⟨resized, fresh, hresize, hcreate, hresets, hafter⟩

end Scene

end Pipework
