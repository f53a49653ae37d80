import Pipework.Proofs.Abreast
import Pipework.Proofs.Course
import Pipework.Proofs.Stage

/-!
# What endures through a run

A run ends in one of few ways, and each but one gives the surface back. What holds just before that is what no tick,
and nothing else that a frame does, breaks, where a fault on the way leaves what goes with that fault (`Framewise`).
`Framewise.run` says for each way of ending what the surface is given back from, and by which frame a run was stopped
that was not broken off. What no step of a pipe breaks endures through ticks, and so through runs (`Enduring.run`).
-/

set_option linter.unusedSectionVars false

namespace Pipework.Scene

open Act

variable {ρ σ τ : Type} [RandomSource ρ] [Surface σ] [Clock σ τ]

/-- A property of scenes that neither a tick nor anything else in a frame breaks; a fault that ends one leaves `E`. -/
structure Framewise (P : Scene ρ σ → Prop) (E : Fault → Scene ρ σ → Prop) : Prop where
  tick : ∀ s, P s → Ends (fun _ => P) E (tick s)
  attend : ∀ s, P s → Ends (fun _ => P) E (attend s)
  now : ∀ s, P s → P (now s).2
  running : ∀ s running, P s → P { s with running }
  sleep : ∀ s t, P s → Ends (fun _ => P) E (onSurface (Clock.sleep t) s)

/-- A property of scenes that nothing in a frame breaks; a fault that ends something leaves `E`. -/
structure Enduring (P : Scene ρ σ → Prop) (E : Fault → Scene ρ σ → Prop) : Prop where
  count : ∃ n, ∀ s, P s → s.pipes.length = n
  step : ∀ s i, P s → i < s.pipes.length → Ends (fun _ => P) E (stepPipe i s)
  refresh : ∀ s, P s → Ends (fun _ => P) E (onSurface Surface.refresh s)
  attend : ∀ s, P s → Ends (fun _ => P) E (attend s)
  now : ∀ s, P s → P (now s).2
  running : ∀ s running, P s → P { s with running }
  sleep : ∀ s t, P s → Ends (fun _ => P) E (onSurface (Clock.sleep t) s)

variable {P : Scene ρ σ → Prop} {E : Fault → Scene ρ σ → Prop} {s : Scene ρ σ}

/-! ## Frames -/

theorem tick_ends (count : ∃ n, ∀ s, P s → s.pipes.length = n)
    (step : ∀ s i, P s → i < s.pipes.length → Ends (fun _ => P) E (stepPipe i s))
    (refresh : ∀ s, P s → Ends (fun _ => P) E (onSurface Surface.refresh s)) (hs : P s) :
    Ends (fun _ => P) E (tick s) := by
  obtain ⟨n, hn⟩ := count
  have steps : Ends (fun _ => P) E ((List.range s.pipes.length).forM stepPipe s) := by
    refine Ends.forM (fun i hi s' hs' => step s' i hs' ?_) hs
    rw [hn s' hs', ← hn s hs]
    exact hi
  rw [tick, get_bind]
  exact steps.bind fun _ s hs => refresh s hs

theorem Enduring.tick (h : Enduring P E) (hs : P s) : Ends (fun _ => P) E (Scene.tick s) :=
  tick_ends h.count h.step h.refresh hs

theorem Enduring.framewise (h : Enduring P E) : Framewise P E where
  tick _ hs := h.tick hs
  attend := h.attend
  now := h.now
  running := h.running
  sleep := h.sleep

namespace Framewise

theorem readClock (h : Framewise P E) (hs : P s) : Ends (fun _ => P) E (readClock s) := h.now s hs

theorem stop (h : Framewise P E) (hs : P s) : Ends (fun _ => P) E (stop s) := h.running s false hs

variable [Time τ]

theorem checkDeadline (h : Framewise P E) (hs : P s) (plan : Plan τ) :
    Ends (fun _ => P) E (checkDeadline plan s) := by
  unfold Scene.checkDeadline
  cases plan.deadline with
  | none => exact hs
  | some deadline =>
    refine (h.readClock hs).bind fun t s hs => ?_
    split
    · exact h.stop hs
    · exact hs

theorem checkTicks (h : Framewise P E) (hs : P s) (plan : Plan τ) (ticks : Nat) :
    Ends (fun _ => P) E (checkTicks plan ticks s) := by
  unfold Scene.checkTicks
  cases plan.maxTicks with
  | none => exact hs
  | some most =>
    dsimp only
    split
    · exact h.stop hs
    · exact hs

theorem pause (h : Framewise P E) (hs : P s) (plan : Plan τ) (start : τ) :
    Ends (fun _ => P) E (pause plan start s) := by
  rw [Scene.pause, get_bind]
  split
  · exact (h.readClock hs).bind fun t s hs => h.sleep s _ hs
  · exact hs

theorem settle (h : Framewise P E) (hs : P s) (plan : Plan τ) (start : τ) (ticks : Nat) :
    Ends (fun _ => P) E (settle plan start ticks s) := by
  rw [settle_eq]
  refine (h.attend s hs).bind fun _ s hs => ?_
  refine (h.checkDeadline hs plan).bind fun _ s hs => ?_
  exact (h.checkTicks hs plan ticks).bind fun _ s hs => h.pause hs plan start

theorem frame (h : Framewise P E) (hs : P s) (plan : Plan τ) (ticks : Nat) :
    Ends (fun _ => P) E (frame plan ticks s).2 := by
  have htick := h.tick _ (h.now s hs)
  simp only [Scene.frame]
  cases hr : Scene.tick (Scene.now s).2 with
  | ok _ s' =>
    rw [hr] at htick
    exact h.settle htick plan _ _
  | error e s' =>
    rw [hr] at htick
    exact htick

theorem frames (h : Framewise P E) (plan : Plan τ) (n ticks : Nat) (hs : P s) :
    Ends (fun _ => P) E (frames plan n ticks s).2 := by
  -- the induction is on the frames left; only the last of them can end in a fault
  induction n generalizing ticks s with
  | zero => exact hs
  | succ n ih =>
    have hframe := h.frame hs plan ticks
    rw [Scene.frames]
    split
    · next heq =>
      rw [heq] at hframe
      split
      · exact ih _ hframe
      · exact hframe
    · exact hframe

end Framewise

/-! ## The last frame -/

variable [Time τ] {plan : Plan τ} {ticks most : Nat} {s : Scene ρ σ}

/-- Which of at most `most` frames, begun with `s` after `ticks` ticks, was the last. -/
inductive Coursed (plan : Plan τ) (ticks most : Nat) (s : Scene ρ σ) :
    Nat × EStateM.Result Fault (Scene ρ σ) Unit → Prop where
  /-- Frame `n + 1` was the first that stopped the run. -/
  | stopped {n : Nat} {v : Seen τ} {s' : Scene ρ σ} (within : n < most) (passes : s.Passes plan ticks n)
      (seen : s.sees plan n = some v) (stops : v.Stops plan (ticks + n + 1)) (running : s'.running = false) :
      Coursed plan ticks most s (ticks + n + 1, .ok () s')
  /-- No frame stopped it. -/
  | goesOn {s' : Scene ρ σ} (passes : s.Passes plan ticks most) (running : s'.running = true) :
      Coursed plan ticks most s (ticks + most, .ok () s')
  /-- A fault broke it off. -/
  | brokenOff {counted : Nat} {e : Fault} {s' : Scene ρ σ} : Coursed plan ticks most s (counted, .error e s')

theorem Coursed.next {v : Seen τ} {s₁ s' : Scene ρ σ} {r : Nat × EStateM.Result Fault (Scene ρ σ) Unit}
    (hlook : look plan s = .ok v s₁) (hstops : ¬ v.Stops plan (ticks + 1)) (hrest : rest plan v.began s₁ = .ok () s')
    (h : Coursed plan (ticks + 1) most s' r) : Coursed plan ticks (most + 1) s r := by
  have hround : round plan s = .ok () s' := by rw [round, bind_of_ok hlook, hrest]
  have hzero := sees_zero hlook
  cases h with
  | @stopped n v' s'' within passes seen stops running =>
    rw [show ticks + 1 + n + 1 = ticks + (n + 1) + 1 by omega] at stops ⊢
    exact .stopped (by omega) (passes.round hzero hstops hround) ((sees_succ hround n).trans seen) stops running
  | goesOn passes running =>
    rw [show ticks + 1 + most = ticks + (most + 1) by omega]
    exact .goesOn (passes.round hzero hstops hround) running
  | brokenOff => exact .brokenOff

theorem frames_coursed (plan : Plan τ) (most ticks : Nat) (hrunning : s.running = true) :
    Coursed plan ticks most s (frames plan most ticks s) := by
  -- what the frames after the first see they see after its round
  induction most generalizing ticks s with
  | zero => exact .goesOn (passes_zero s) hrunning
  | succ most ih =>
    have htaken := frames_succ plan ticks most hrunning
    generalize frames plan (most + 1) ticks s = r at htaken ⊢
    cases htaken with
    | blind => exact .brokenOff
    | stopped looked stops =>
      exact .stopped (n := 0) (Nat.succ_pos most) (passes_zero s) (sees_zero looked) stops rfl
    | restless => exact .brokenOff
    | next looked passes rested running => exact Coursed.next looked passes rested (ih (ticks + 1) running)

/-! ## Runs -/

/--
How a run ends in which `P` endures, and whose first frame, if there is one, begins with `first`: it goes on, or it
gives the surface back, once a frame has stopped it or a fault has broken it off.
-/
inductive RunEnds (P : Scene ρ σ → Prop) (E : Fault → Scene ρ σ → Prop) (plan : Plan τ) (most : Nat)
    (first : Scene ρ σ) : EStateM.Result Fault (Scene ρ σ) (Option Nat) → Prop where
  | goesOn {s : Scene ρ σ} (holds : P s) (passes : first.Passes plan 0 most) :
      RunEnds P E plan most first (.ok none s)
  | stopped {s : Scene ρ σ} {ticks : Nat} (holds : P s) (within : ticks ≤ most)
      (least : IsLeast {k | first.StopsAt plan k} ticks) :
      RunEnds P E plan most first ((do close; return some ticks : Act _ _) s)
  | interrupted {s : Scene ρ σ} {ticks : Nat} {message : String} (holds : E (.interrupt message) s) :
      RunEnds P E plan most first ((do close; return some ticks : Act _ _) s)
  | failed {s : Scene ρ σ} {e : Fault} (loud : ∀ message, e ≠ .interrupt message) (holds : E e s) :
      RunEnds P E plan most first ((do close; Act.fail e : Act _ _) s)

variable {P : Scene ρ σ → Prop} {E : Fault → Scene ρ σ → Prop}

namespace Framewise

theorem started (h : Framewise P E) (hs : P s) (pace : Pace τ) : P (s.started pace) := by
  unfold Scene.started
  split
  · exact h.running _ true (h.now s hs)
  · exact h.running _ true hs

theorem run (h : Framewise P E) (hs : P s) {pace : Pace τ} (hrate : (pace.rate == 0) = false)
    (maxTicks : Option Int) (most : Nat) :
    RunEnds P E (s.planned pace maxTicks) most (s.started pace) (run pace maxTicks most s) := by
  have hframes := h.frames (s.planned pace maxTicks) most 0 (h.started hs pace)
  have hcoursed := frames_coursed (s.planned pace maxTicks) most 0 (s := s.started pace) rfl
  rw [run_eq hrate]
  generalize Scene.frames (s.planned pace maxTicks) most 0 (s.started pace) = framed at hframes hcoursed ⊢
  cases hcoursed with
  | @stopped n v s' within passes seen stops running =>
    rw [Nat.zero_add] at stops ⊢
    dsimp only
    rw [if_neg (by rw [running]; decide)]
    exact .stopped hframes within (passes.isLeast ⟨n, v, rfl, seen, stops⟩)
  | goesOn passes running =>
    dsimp only
    rw [if_pos running]
    exact .goesOn hframes passes
  | @brokenOff counted e s' =>
    cases e with
    | interrupt message => exact .interrupted hframes
    | _ => exact .failed (fun _ => Fault.noConfusion) hframes

theorem left_run (h : Framewise P fun _ => P) (restore : ∀ s, P s → P (left (onSurface Surface.restore s))) (hs : P s)
    (pace : Pace τ) (maxTicks : Option Int) (most : Nat) : P (left (Scene.run pace maxTicks most s)) := by
  have close (s : Scene ρ σ) (hs : P s) : Ends (fun _ => P) (fun _ => P) (close s) :=
    (h.stop hs).bind fun _ s hs => ends_left.2 (restore s hs)
  cases hzero : pace.rate == 0 with
  | true =>
    have hdelay : pace.delay? = none := if_pos hzero
    unfold Scene.run plan?
    rw [hdelay]
    exact hs
  | false =>
    have hends := h.run hs hzero maxTicks most
    generalize Scene.run pace maxTicks most s = r at hends ⊢
    apply ends_left.1
    cases hends with
    | goesOn hs => exact hs
    | stopped hs => exact (close _ hs).bind fun _ _ hs => hs
    | interrupted hs => exact (close _ hs).bind fun _ _ hs => hs
    | failed _ hs => exact (close _ hs).bind fun _ _ hs => hs

end Framewise

theorem Enduring.run (h : Enduring P E) (hs : P s) {pace : Pace τ} (hrate : (pace.rate == 0) = false)
    (maxTicks : Option Int) (most : Nat) :
    RunEnds P E (s.planned pace maxTicks) most (s.started pace) (run pace maxTicks most s) :=
  h.framewise.run hs hrate maxTicks most

end Pipework.Scene
