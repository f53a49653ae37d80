import Mathlib.Data.List.Forall2
import Pipework.Proofs.Abreast
import Pipework.Proofs.Run

/-!
# Strokes

A run draws by the steps of its pipes alone. The strokes of a run are these steps one after another, each with the
scene that it leaves, and between them the run does things that draw nothing (`Scene.Performed`). Runs abreast of
each other perform as many strokes, of the same pipes, and leave related scenes with each (`Abreast.performs`).
-/

set_option linter.unusedSectionVars false

namespace Pipework

open Act

/-- A step of a pipe: the number of the pipe, and the scene that the step leaves. -/
structure Stroke (ρ σ : Type) where
  index : Nat
  scene : Scene ρ σ
  inScene : index < scene.pipes.length

def Stroke.pipe {ρ σ : Type} (k : Stroke ρ σ) : Pipe := k.scene.pipes.get ⟨k.index, k.inScene⟩

variable {ρ σ σ' τ : Type} [RandomSource ρ] [Surface σ] [Surface σ'] [Clock σ τ] [Clock σ' τ]

namespace Scene

/-- From one scene, strokes lead to another. -/
inductive Performed : Scene ρ σ → List (Stroke ρ σ) → Scene ρ σ → Prop where
  | start (s : Scene ρ σ) : Performed s [] s
  | stroke {s s' : Scene ρ σ} {ks : List (Stroke ρ σ)} (k : Stroke ρ σ) (before : Performed s ks s')
      (pipe : k.index < s'.pipes.length) (step : k.scene = left (stepPipe k.index s')) :
      Performed s (ks ++ [k]) k.scene
  | interlude {s s' s'' : Scene ρ σ} {ks : List (Stroke ρ σ)} (before : Performed s ks s')
      (between : Interlude s' s'') : Performed s ks s''

/-- Strokes of the same pipe that leave related scenes. -/
def SameStroke (R : Scene ρ σ → Scene ρ σ' → Prop) (k : Stroke ρ σ) (k' : Stroke ρ σ') : Prop :=
  k.index = k'.index ∧ R k.scene k'.scene

/-- Two scenes have come about by strokes that go together. -/
def BothPerformed (R : Scene ρ σ → Scene ρ σ' → Prop) (first : Scene ρ σ) (first' : Scene ρ σ') (s : Scene ρ σ)
    (s' : Scene ρ σ') : Prop :=
  ∃ ks ks', Performed first ks s ∧ Performed first' ks' s' ∧ List.Forall₂ (SameStroke R) ks ks'

variable {R : Scene ρ σ → Scene ρ σ' → Prop} {first s t : Scene ρ σ} {first' s' t' : Scene ρ σ'}

theorem BothPerformed.interlude (h : BothPerformed R first first' s s') (ht : Interlude s t) (ht' : Interlude s' t') :
    BothPerformed R first first' t t' := by
  obtain ⟨ks, ks', hks, hks', hsame⟩ := h
  exact ⟨ks, ks', hks.interlude ht, hks'.interlude ht', hsame⟩

theorem Abreast.stroke (h : Abreast R) (hs : R s s') (hboth : BothPerformed R first first' s s') {i : Nat}
    (hi : i < s.pipes.length) (hR : R (left (stepPipe i s)) (left (stepPipe i s'))) :
    BothPerformed R first first' (left (stepPipe i s)) (left (stepPipe i s')) := by
  obtain ⟨n, hn⟩ := h.count
  obtain ⟨hlength, hlength'⟩ := hn _ _ hs
  obtain ⟨hafter, hafter'⟩ := hn _ _ hR
  obtain ⟨ks, ks', hks, hks', hsame⟩ := hboth
  let k : Stroke ρ σ := ⟨i, left (stepPipe i s), by omega⟩
  let k' : Stroke ρ σ' := ⟨i, left (stepPipe i s'), by omega⟩
  have hsame' : List.Forall₂ (SameStroke R) (ks ++ [k]) (ks' ++ [k']) :=
    List.rel_append hsame (.cons ⟨rfl, hR⟩ .nil)
  exact ⟨_, _, hks.stroke k hi rfl, hks'.stroke k' (show i < s'.pipes.length by omega) rfl, hsame'⟩

theorem Abreast.performing (h : Abreast R) (first : Scene ρ σ) (first' : Scene ρ σ') :
    Abreast fun s s' => R s s' ∧ BothPerformed R first first' s s' where
  count := by
    obtain ⟨n, hn⟩ := h.count
    exact ⟨n, fun s s' hs => hn s s' hs.1⟩
  sameRunning s s' hs := h.sameRunning s s' hs.1
  step s s' i hs hi := by
    have hstep := h.step s s' i hs.1 hi
    exact hstep.also (h.stroke hs.1 hs.2 hi hstep.left)
  refresh s s' hs := (h.refresh s s' hs.1).also (hs.2.interlude (.refresh s) (.refresh s'))
  attend s s' hs := (h.attend s s' hs.1).also (hs.2.interlude (.attend s) (.attend s'))
  now s s' hs := by
    obtain ⟨htime, hnow⟩ := h.now s s' hs.1
    exact ⟨htime, hnow, hs.2.interlude (.now s) (.now s')⟩
  running s s' running hs :=
    ⟨h.running s s' running hs.1, hs.2.interlude (.running s running) (.running s' running)⟩
  sleep s s' t hs := (h.sleep s s' t hs.1).also (hs.2.interlude (.sleep s t) (.sleep s' t))
  restore s s' hs := (h.restore s s' hs.1).also (hs.2.interlude (.restore s) (.restore s'))

variable [Time τ]

theorem Abreast.performs (h : Abreast R) (hs : R s s') (pace : Pace τ) (maxTicks : Option Int) (most : Nat) :
    Alike Eq (fun last last' => R last last' ∧ BothPerformed R s s' last last') (Scene.run pace maxTicks most s)
      (Scene.run pace maxTicks most s') :=
  (h.performing s s').run ⟨hs, [], [], .start s, .start s', .nil⟩ pace maxTicks most

/-! ## The strokes of one run -/

variable {P : Scene ρ σ → Prop}

theorem Steady.performs (h : Steady P) (hs : P s) (pace : Pace τ) (maxTicks : Option Int) (most : Nat) :
    ∃ ks, Performed s ks (left (Scene.run pace maxTicks most s)) := by
  obtain ⟨-, ks, -, hks, -⟩ := (h.abreast.performs ⟨rfl, hs⟩ pace maxTicks most).left
  exact ⟨ks, hks⟩

/-- What is steady holds of the scene that strokes lead to, and before and after each of them. -/
theorem Steady.of_performed {ks : List (Stroke ρ σ)} (h : Steady P) (hs : P s) (hks : Performed s ks t) :
    P t ∧ ∀ k ∈ ks, P k.scene ∧
      ∃ s', P s' ∧ k.index < s'.pipes.length ∧ k.scene = left (stepPipe k.index s') := by
  induction hks with
  | start => exact ⟨hs, by simp⟩
  | @stroke s' ks k before pipe step ih =>
    obtain ⟨hs', hks⟩ := ih
    have hk : P k.scene := by
      rw [step]
      exact h.step _ _ hs' pipe
    refine ⟨hk, fun k' hk' => ?_⟩
    rcases List.mem_append.1 hk' with hk' | hk'
    · exact hks k' hk'
    · rw [List.mem_singleton.1 hk']
      exact ⟨hk, s', hs', pipe, step⟩
  | interlude before between ih =>
    obtain ⟨hs', hks⟩ := ih
    exact ⟨h.interlude _ _ hs' between, hks⟩

theorem Lasting.steady {S : Settings} {F : Fault → Prop} (h : Lasting S F P) : Steady P where
  count := ⟨S.pipes.toNat, fun s hs => (h.framed s hs).length_pipes⟩
  step s i hs hi := (h.stepPipe hs hi).left
  interlude s s' hs hbetween := by
    cases hbetween with
    | refresh => exact (h.refresh s hs).left
    | attend => exact (h.attend hs).left
    | now => exact h.now s hs
    | running running => exact h.running s running hs
    | sleep t => exact (h.sleep s t hs).left
    | restore => exact (h.restore s hs).left

end Scene

end Pipework
