import Pipework.Proofs.Alike
import Pipework.Scene.Run

/-!
# Runs side by side

Two runs that go by the same pace take the same course if nothing that they do tells them apart. A relation between
scenes is kept abreast if the steps of pipes and the few things that a run does besides keep it, and neither the
clocks nor the scenes' running differ (`Abreast`); then both runs end alike (`Abreast.run`). What is steady under these
steps keeps a run abreast of itself (`Steady.abreast`).
-/

set_option linter.unusedSectionVars false

namespace Pipework.Scene

open Act

variable {ρ σ σ' τ : Type} [RandomSource ρ] [Surface σ] [Surface σ']

def attend : Act (Scene ρ σ) Unit := do
  obey (← onSurface Surface.poll)

variable [Clock σ τ] [Clock σ' τ]

/-- A relation between two scenes that nothing in a run breaks. -/
structure Abreast (R : Scene ρ σ → Scene ρ σ' → Prop) : Prop where
  count : ∃ n, ∀ s s', R s s' → s.pipes.length = n ∧ s'.pipes.length = n
  sameRunning : ∀ s s', R s s' → s.running = s'.running
  step : ∀ s s' i, R s s' → i < s.pipes.length → Alike (fun _ _ => True) R (stepPipe i s) (stepPipe i s')
  refresh : ∀ s s', R s s' → Alike (fun _ _ => True) R (onSurface Surface.refresh s) (onSurface Surface.refresh s')
  attend : ∀ s s', R s s' → Alike (fun _ _ => True) R (attend s) (attend s')
  now : ∀ s s', R s s' → (now s).1 = (now s').1 ∧ R (now s).2 (now s').2
  running : ∀ s s' running, R s s' → R { s with running } { s' with running }
  sleep : ∀ s s' t, R s s' → Alike (fun _ _ => True) R (onSurface (Clock.sleep t) s) (onSurface (Clock.sleep t) s')
  restore : ∀ s s', R s s' → Alike (fun _ _ => True) R (onSurface Surface.restore s) (onSurface Surface.restore s')

theorem abreast_of_not {R : Scene ρ σ → Scene ρ σ' → Prop} (h : ∀ s s', ¬ R s s') : Abreast R where
  count := ⟨0, fun s s' hs => absurd hs (h s s')⟩
  sameRunning s s' hs := absurd hs (h s s')
  step s s' _ hs := absurd hs (h s s')
  refresh s s' hs := absurd hs (h s s')
  attend s s' hs := absurd hs (h s s')
  now s s' hs := absurd hs (h s s')
  running s s' _ hs := absurd hs (h s s')
  sleep s s' _ hs := absurd hs (h s s')
  restore s s' hs := absurd hs (h s s')

/-- What a run does with a scene besides the steps of its pipes, whether or not a fault ends it. -/
inductive Interlude : Scene ρ σ → Scene ρ σ → Prop where
  | refresh (s : Scene ρ σ) : Interlude s (left (onSurface Surface.refresh s))
  | attend (s : Scene ρ σ) : Interlude s (left (attend s))
  | now (s : Scene ρ σ) : Interlude s (now s).2
  | running (s : Scene ρ σ) (running : Bool) : Interlude s { s with running }
  | sleep (s : Scene ρ σ) (t : τ) : Interlude s (left (onSurface (Clock.sleep t) s))
  | restore (s : Scene ρ σ) : Interlude s (left (onSurface Surface.restore s))

/-- A property of a scene that nothing in a run breaks. -/
structure Steady (P : Scene ρ σ → Prop) : Prop where
  count : ∃ n, ∀ s, P s → s.pipes.length = n
  step : ∀ s i, P s → i < s.pipes.length → P (left (stepPipe i s))
  interlude : ∀ s s', P s → Interlude s s' → P s'

variable [Time τ]

/-- What follows a tick: a key, the deadline, the number of ticks, and a pause. -/
theorem settle_eq (plan : Plan τ) (start : τ) (ticks : Nat) :
    (settle plan start ticks : Act (Scene ρ σ) Unit) =
      attend >>= fun _ => checkDeadline plan >>= fun _ => checkTicks plan ticks >>= fun _ => pause plan start := by
  unfold settle attend
  rw [bind_assoc]

namespace Abreast

variable {R : Scene ρ σ → Scene ρ σ' → Prop} {s : Scene ρ σ} {s' : Scene ρ σ'}

/-! ## Frames -/

theorem tick (h : Abreast R) (hs : R s s') : Alike (fun _ _ => True) R (tick s) (tick s') := by
  obtain ⟨n, hn⟩ := h.count
  obtain ⟨hlength, hlength'⟩ := hn s s' hs
  have steps : Alike (fun _ _ => True) R ((List.range n).forM stepPipe s) ((List.range n).forM stepPipe s') := by
    refine Alike.forM (fun i hi s s' hs => h.step s s' i hs ?_) hs
    rw [(hn s s' hs).1]
    exact List.mem_range.1 hi
  rw [Scene.tick, Scene.tick, get_bind, get_bind, hlength, hlength']
  exact steps.bind fun _ _ s s' _ hs => h.refresh s s' hs

theorem readClock (h : Abreast R) (hs : R s s') : Alike Eq R (readClock s) (readClock s') := h.now s s' hs

theorem stop (h : Abreast R) (hs : R s s') : Alike (fun _ _ => True) R (stop s) (stop s') :=
  ⟨trivial, h.running s s' false hs⟩

theorem checkDeadline (h : Abreast R) (hs : R s s') (plan : Plan τ) :
    Alike (fun _ _ => True) R (checkDeadline plan s) (checkDeadline plan s') := by
  unfold Scene.checkDeadline
  cases plan.deadline with
  | none => exact ⟨trivial, hs⟩
  | some deadline =>
    refine (h.readClock hs).bind ?_
    rintro t _ s s' rfl hs
    split
    · exact h.stop hs
    · exact ⟨trivial, hs⟩

theorem checkTicks (h : Abreast R) (hs : R s s') (plan : Plan τ) (ticks : Nat) :
    Alike (fun _ _ => True) R (checkTicks plan ticks s) (checkTicks plan ticks s') := by
  unfold Scene.checkTicks
  cases plan.maxTicks with
  | none => exact ⟨trivial, hs⟩
  | some most =>
    dsimp only
    split
    · exact h.stop hs
    · exact ⟨trivial, hs⟩

theorem pause (h : Abreast R) (hs : R s s') (plan : Plan τ) (start : τ) :
    Alike (fun _ _ => True) R (pause plan start s) (pause plan start s') := by
  rw [Scene.pause, Scene.pause, get_bind, get_bind, h.sameRunning s s' hs]
  split
  · refine (h.readClock hs).bind ?_
    rintro t _ s s' rfl hs
    exact h.sleep s s' _ hs
  · exact ⟨trivial, hs⟩

theorem settle (h : Abreast R) (hs : R s s') (plan : Plan τ) (start : τ) (ticks : Nat) :
    Alike (fun _ _ => True) R (settle plan start ticks s) (settle plan start ticks s') := by
  rw [settle_eq, settle_eq]
  refine (h.attend s s' hs).bind fun _ _ s s' _ hs => ?_
  refine (h.checkDeadline hs plan).bind fun _ _ s s' _ hs => ?_
  exact (h.checkTicks hs plan ticks).bind fun _ _ s s' _ hs => h.pause hs plan start

/-- As many ticks have been run in both, and they have ended alike. -/
def Together (R : Scene ρ σ → Scene ρ σ' → Prop) (r : Nat × EStateM.Result Fault (Scene ρ σ) Unit)
    (r' : Nat × EStateM.Result Fault (Scene ρ σ') Unit) : Prop :=
  r.1 = r'.1 ∧ Alike (fun _ _ => True) R r.2 r'.2

theorem frame (h : Abreast R) (hs : R s s') (plan : Plan τ) (ticks : Nat) :
    Together R (frame plan ticks s) (frame plan ticks s') := by
  obtain ⟨htime, hnow⟩ := h.now s s' hs
  have htick := h.tick hnow
  simp only [Scene.frame, htime]
  cases hr : Scene.tick (Scene.now s).2 <;> cases hr' : Scene.tick (Scene.now s').2 <;> rw [hr, hr'] at htick
  · exact ⟨rfl, h.settle htick.2 plan _ _⟩
  · exact htick.elim
  · exact htick.elim
  · exact ⟨rfl, htick⟩

theorem frames (h : Abreast R) (plan : Plan τ) (n ticks : Nat) (hs : R s s') :
    Together R (frames plan n ticks s) (frames plan n ticks s') := by
  induction n generalizing ticks s s' with
  | zero => exact ⟨rfl, trivial, hs⟩
  | succ n ih =>
    obtain ⟨hticks, hframe⟩ := h.frame hs plan ticks
    rw [Scene.frames, Scene.frames]
    cases hr : Scene.frame plan ticks s with
    | mk k r =>
      cases hr' : Scene.frame plan ticks s' with
      | mk k' r' =>
        rw [hr, hr'] at hticks hframe
        obtain rfl : k = k' := hticks
        cases r <;> cases r'
        · have hs := hframe.2
          dsimp only
          rw [h.sameRunning _ _ hs]
          split
          · exact ih k hs
          · exact ⟨rfl, trivial, hs⟩
        · exact hframe.elim
        · exact hframe.elim
        · exact ⟨rfl, hframe⟩

/-! ## Runs -/

theorem close (h : Abreast R) (hs : R s s') : Alike (fun _ _ => True) R (close s) (close s') :=
  (h.stop hs).bind fun _ _ s s' _ hs => h.restore s s' hs

theorem plan? (h : Abreast R) (hs : R s s') (pace : Pace τ) (maxTicks : Option Int) :
    (plan? pace maxTicks s).1 = (plan? pace maxTicks s').1 ∧
      R (plan? pace maxTicks s).2 (plan? pace maxTicks s').2 := by
  unfold Scene.plan?
  split
  · exact ⟨rfl, hs⟩
  · split
    · exact ⟨rfl, hs⟩
    · obtain ⟨htime, hnow⟩ := h.now s s' hs
      exact ⟨by dsimp only; rw [htime], hnow⟩

/-- Both runs give the same, or end in the same fault. -/
theorem run (h : Abreast R) (hs : R s s') (pace : Pace τ) (maxTicks : Option Int) (most : Nat) :
    Alike Eq R (run pace maxTicks most s) (run pace maxTicks most s') := by
  obtain ⟨hplan, hplanned⟩ := h.plan? hs pace maxTicks
  unfold Scene.run
  cases hp : Scene.plan? pace maxTicks s with
  | mk plan s₁ =>
    cases hp' : Scene.plan? pace maxTicks s' with
    | mk plan' s₁' =>
      rw [hp, hp'] at hplan hplanned
      obtain rfl : plan = plan' := hplan
      cases plan with
      | none => exact ⟨rfl, hplanned⟩
      | some plan =>
        obtain ⟨hticks, hframes⟩ := h.frames plan most 0 (h.running _ _ true hplanned)
        dsimp only at hticks hframes ⊢
        cases hr : Scene.frames plan most 0 { s₁ with running := true } with
        | mk k r =>
          cases hr' : Scene.frames plan most 0 { s₁' with running := true } with
          | mk k' r' =>
            rw [hr, hr'] at hticks hframes
            obtain rfl : k = k' := hticks
            cases r <;> cases r'
            · have hs := hframes.2
              dsimp only
              rw [h.sameRunning _ _ hs]
              split
              · exact ⟨rfl, hs⟩
              · exact (h.close hs).bind fun _ _ _ _ _ hs => ⟨rfl, hs⟩
            · exact hframes.elim
            · exact hframes.elim
            · next e _ _ _ =>
              obtain ⟨rfl, hs⟩ := hframes
              cases e with
              | interrupt _ => exact (h.close hs).bind fun _ _ _ _ _ hs => ⟨rfl, hs⟩
              | _ => exact (h.close hs).bind fun _ _ _ _ _ hs => ⟨rfl, hs⟩

end Abreast

/-! ## One run -/

theorem Steady.abreast {P : Scene ρ σ → Prop} (h : Steady P) : Abreast fun s s' : Scene ρ σ => s = s' ∧ P s where
  count := by
    obtain ⟨n, hn⟩ := h.count
    refine ⟨n, ?_⟩
    rintro s _ ⟨rfl, hs⟩
    exact ⟨hn s hs, hn s hs⟩
  sameRunning := by
    rintro s _ ⟨rfl, hs⟩
    rfl
  step := by
    rintro s _ i ⟨rfl, hs⟩ hi
    exact alike_diagonal.2 (h.step s i hs hi)
  refresh := by
    rintro s _ ⟨rfl, hs⟩
    exact alike_diagonal.2 (h.interlude s _ hs (.refresh s))
  attend := by
    rintro s _ ⟨rfl, hs⟩
    exact alike_diagonal.2 (h.interlude s _ hs (.attend s))
  now := by
    rintro s _ ⟨rfl, hs⟩
    exact ⟨rfl, rfl, h.interlude s _ hs (.now s)⟩
  running := by
    rintro s _ running ⟨rfl, hs⟩
    exact ⟨rfl, h.interlude s _ hs (.running s running)⟩
  sleep := by
    rintro s _ t ⟨rfl, hs⟩
    exact alike_diagonal.2 (h.interlude s _ hs (.sleep s t))
  restore := by
    rintro s _ ⟨rfl, hs⟩
    exact alike_diagonal.2 (h.interlude s _ hs (.restore s))

end Pipework.Scene
