import Mathlib.Data.Option.Basic
import Mathlib.Order.Bounds.Basic
import Pipework.Proofs.Stage
import Pipework.Scene.Run

/-!
# The course of a run

Whether a frame is the last of a run is decided by what has been seen in it, and each of three reasons may end
the run by itself. So a frame is the same as one in which all is seen first (`look`), and which then rests, unless
one of the reasons holds (`frame_of_look`). Looks and rests alone, without any decision, are the course that a run
takes until it ends; what frame `n + 1` sees on that course is `sees plan n`. The first frame that `StopsAt` is the
last of the run, for the run passes the others (`Passes.isLeast`).
-/

set_option linter.unusedSectionVars false

namespace Pipework

open Act

variable {ρ σ τ : Type} [Time τ]

/-- What has been seen in a frame: when it began, the key polled, and the time afterwards if there is a deadline. -/
structure Seen (τ : Type) where
  began : τ
  key : Key
  time : Option τ

/-- A key was typed that is no resize, or the deadline is reached, or enough ticks have been run. -/
def Seen.Stops (plan : Scene.Plan τ) (ticks : Nat) (v : Seen τ) : Prop :=
  (v.key ≠ Key.none ∧ v.key ≠ Key.resize) ∨ (∃ deadline ∈ plan.deadline, ∃ time ∈ v.time, deadline ≤ time) ∨
    ∃ most ∈ plan.maxTicks, most ≤ ticks

/-- No key was typed that stops a run. -/
def Seen.Harmless (v : Seen τ) : Prop := v.key = Key.none ∨ v.key = Key.resize

instance (v : Seen τ) : Decidable v.Harmless := inferInstanceAs (Decidable (_ ∨ _))

namespace Scene

variable [RandomSource ρ] [Surface σ] [Clock σ τ]

def resizeOn (key : Key) : Act (Scene ρ σ) Unit := if key = Key.resize then resize else pure ()

def lookAtClock (plan : Plan τ) : Act (Scene ρ σ) (Option τ) :=
  match plan.deadline with
  | none => pure none
  | some _ => return some (← readClock)

/-- A frame without the decision whether it is the last, up to the sleep. -/
def look (plan : Plan τ) : Act (Scene ρ σ) (Seen τ) := do
  let began ← readClock
  tick
  let key ← onSurface Surface.poll
  resizeOn key
  let time ← lookAtClock plan
  return ⟨began, key, time⟩

/-- Sleeps for what is left of a frame. -/
def rest (plan : Plan τ) (began : τ) : Act (Scene ρ σ) Unit := do
  let elapsed := (← readClock) - began
  onSurface (Clock.sleep (Time.positivePart (plan.delay - elapsed)))

def round (plan : Plan τ) : Act (Scene ρ σ) Unit := do
  let v ← look plan
  rest plan v.began

/-- What frame `n + 1` sees if the run has not ended before; nothing if a fault comes first. -/
def sees (plan : Plan τ) : Nat → Scene ρ σ → Option (Seen τ)
  | 0, s =>
    match look plan s with
    | .ok v _ => some v
    | .error .. => none
  | n + 1, s =>
    match round plan s with
    | .ok () s => sees plan n s
    | .error .. => none

/-! ## The decision -/

variable {plan : Plan τ} {ticks : Nat} {began : τ} {s s' s₁ s₂ : Scene ρ σ} {P Q : Prop}
  {r : EStateM.Result Fault (Scene ρ σ) Unit}

/-- The run ends in `s` if `P` holds, or if it has been ended already, and otherwise there is a rest. -/
structure Decides (plan : Plan τ) (P : Prop) (began : τ) (s : Scene ρ σ)
    (r : EStateM.Result Fault (Scene ρ σ) Unit) : Prop where
  ends : P ∨ s.running = false → r = .ok () { s with running := false }
  goesOn : ¬ P → s.running = true → r = rest plan began s

theorem Decides.bind {t : Scene ρ σ} {act : Act (Scene ρ σ) Unit} {f : Unit → Act (Scene ρ σ) Unit}
    (hstop : Q → act s = .ok () { t with running := false }) (hpass : ¬ Q → act s = .ok () t)
    (hgoes : Decides plan P began s' (f () t))
    (hended : Decides plan P began { s' with running := false } (f () { t with running := false })) :
    Decides plan (Q ∨ P) began s' ((act >>= f) s) := by
  by_cases hQ : Q
  · -- the run has been ended, so no later reason matters
    rw [bind_of_ok (hstop hQ)]
    exact ⟨fun _ => hended.ends (.inr rfl), fun hn => absurd (.inl hQ) hn⟩
  · rw [bind_of_ok (hpass hQ)]
    exact ⟨fun h => hgoes.ends (h.imp_left (·.resolve_left hQ)), fun hn => hgoes.goesOn (mt .inr hn)⟩

theorem pause_decides (plan : Plan τ) (began : τ) (s : Scene ρ σ) :
    Decides plan False began s (pause plan began s) := by
  rw [pause, get_bind]
  constructor
  · rintro (h | hrunning)
    · exact h.elim
    · obtain ⟨settings, tables, width, height, pipes, drawn, resets, running, source, surface⟩ := s
      cases hrunning
      rfl
  · intro _ hrunning
    rw [if_pos hrunning]
    rfl

theorem checkTicks_decides (plan : Plan τ) (ticks : Nat) (began : τ) (s : Scene ρ σ) :
    Decides plan (∃ most ∈ plan.maxTicks, most ≤ ticks) began s
      ((do checkTicks plan ticks; pause plan began : Act _ _) s) := by
  rw [← or_false (∃ most ∈ plan.maxTicks, most ≤ ticks)]
  refine Decides.bind (t := s) ?_ ?_ (pause_decides plan began s) (pause_decides plan began _)
  · rintro ⟨most, hmost, hle⟩
    rw [checkTicks, Option.mem_def.1 hmost]
    exact congrFun (if_pos hle) s
  · intro hnone
    unfold checkTicks
    cases hmost : plan.maxTicks with
    | none => rfl
    | some most => exact congrFun (if_neg fun hle => hnone ⟨most, hmost, hle⟩) s

theorem lookAtClock_running {time : Option τ} (h : lookAtClock plan s = .ok time s') (running : Bool) :
    lookAtClock plan { s with running } = .ok time { s' with running } := by
  unfold lookAtClock at h ⊢
  cases hdeadline : plan.deadline <;> rw [hdeadline] at h <;> cases h <;> rfl

theorem checkDeadline_decides {time : Option τ} (h : lookAtClock plan s = .ok time s') (ticks : Nat) (began : τ) :
    Decides plan ((∃ deadline ∈ plan.deadline, ∃ t ∈ time, deadline ≤ t) ∨ ∃ most ∈ plan.maxTicks, most ≤ ticks)
      began s' ((do checkDeadline plan; checkTicks plan ticks; pause plan began : Act _ _) s) := by
  refine Decides.bind (t := s') ?_ ?_ (checkTicks_decides plan ticks began s') (checkTicks_decides plan ticks began _)
  · rintro ⟨deadline, hdeadline, t, ht, hle⟩
    rw [Option.mem_def] at hdeadline ht
    rw [lookAtClock, hdeadline] at h
    rw [checkDeadline, hdeadline]
    cases ht
    cases h
    exact congrFun (if_pos hle) _
  · intro hnone
    unfold checkDeadline
    cases hdeadline : plan.deadline with
    | none =>
      rw [lookAtClock, hdeadline] at h
      cases h
      rfl
    | some deadline =>
      rw [lookAtClock, hdeadline] at h
      cases h
      exact congrFun (if_neg fun hle => hnone ⟨deadline, hdeadline, _, rfl, hle⟩) _

theorem obey_decides {key : Key} {time : Option τ} (hresize : resizeOn key s = .ok () s₁)
    (hlook : lookAtClock plan s₁ = .ok time s') (ticks : Nat) (began : τ) :
    Decides plan (Seen.Stops plan ticks ⟨began, key, time⟩) began s'
      ((do obey key; checkDeadline plan; checkTicks plan ticks; pause plan began : Act _ _) s) := by
  refine Decides.bind (t := s₁) ?_ ?_ (checkDeadline_decides hlook ticks began)
    (checkDeadline_decides (lookAtClock_running hlook false) ticks began)
  · rintro ⟨hnone, hkey⟩
    rw [resizeOn, if_neg hkey] at hresize
    cases hresize
    rw [obey, if_neg hkey, if_neg hnone]
    rfl
  · intro hpass
    -- a run goes on without a key, and after a resize
    by_cases hkey : key = Key.resize
    · rw [resizeOn, if_pos hkey] at hresize
      rw [obey, if_pos hkey]
      exact hresize
    · rw [resizeOn, if_neg hkey] at hresize
      have hnone : key = Key.none := by
        by_contra hnone
        exact hpass ⟨hnone, hkey⟩
      rw [obey, if_neg hkey, if_pos hnone]
      exact hresize

theorem exists_lookAtClock (plan : Plan τ) (s : Scene ρ σ) : ∃ time s', lookAtClock plan s = .ok time s' := by
  unfold lookAtClock
  cases plan.deadline <;> exact ⟨_, _, rfl⟩

/-- A frame against a look: it fails as the look does, or counts its tick and decides by what has been seen. -/
theorem frame_of_look (plan : Plan τ) (ticks : Nat) (s : Scene ρ σ) :
    match look plan s with
    | .ok v s' => (frame plan ticks s).1 = ticks + 1 ∧
        Decides plan (v.Stops plan (ticks + 1)) v.began s' (frame plan ticks s).2
    | .error e s' => (frame plan ticks s).2 = .error e s' := by
  have hbegin {f : τ → Act (Scene ρ σ) (Seen τ)} : (readClock >>= f) s = f (now s).1 (now s).2 := rfl
  rw [look, hbegin]
  cases htick : tick (now s).2 with
  | error e s₁ => simp only [frame, htick, bind_of_error htick]
  | ok _ s₁ =>
    -- from here on the tick counts, whatever comes of the rest of the frame
    have hframe : frame plan ticks s = (ticks + 1, settle plan (now s).1 (ticks + 1) s₁) := by
      simp only [frame, htick]
    rw [bind_of_ok htick, hframe, settle]
    cases hpoll : onSurface Surface.poll s₁ with
    | error e s₂ => rw [bind_of_error hpoll, bind_of_error hpoll]
    | ok key s₂ =>
      rw [bind_of_ok hpoll, bind_of_ok hpoll]
      cases hresize : resizeOn key s₂ with
      | error e s₃ =>
        rw [bind_of_error hresize]
        by_cases hkey : key = Key.resize
        · rw [resizeOn, if_pos hkey] at hresize
          rw [obey, if_pos hkey, bind_of_error hresize]
        · rw [resizeOn, if_neg hkey] at hresize
          cases hresize
      | ok _ s₃ =>
        obtain ⟨time, s', hclock⟩ := exists_lookAtClock plan s₃
        rw [bind_of_ok hresize, bind_of_ok hclock]
        exact ⟨rfl, obey_decides hresize hclock (ticks + 1) (now s).1⟩

theorem left_look_running (plan : Plan τ) (s : Scene ρ σ) : (left (look plan s)).running = s.running := by
  let same (s' : Scene ρ σ) : Prop := s'.running = s.running
  have hcall {α : Type} (act : Act σ α) {s' : Scene ρ σ} (hs' : same s') :
      Ends (fun _ => same) (fun _ => same) (onSurface act s') := ends_on.2 (ends_left.2 hs')
  have htick : Ends (fun _ => same) (fun _ => same) (tick (now s).2) := ends_left.2 (left_tick_running _)
  suffices h : Ends (fun _ => same) (fun _ => same) (look plan s) from ends_left.1 h
  refine htick.bind fun _ s₁ hs₁ => (hcall Surface.poll hs₁).bind fun key s₂ hs₂ => ?_
  have hresize : Ends (fun _ => same) (fun _ => same) (resizeOn key s₂) := by
    unfold resizeOn
    split
    · exact ends_left.2 ((left_resize_running s₂).trans hs₂)
    · exact hs₂
  refine hresize.bind fun _ s₃ hs₃ => ?_
  have hclock : Ends (fun _ => same) (fun _ => same) (lookAtClock plan s₃) := by
    unfold lookAtClock
    cases plan.deadline <;> exact hs₃
  exact hclock.bind fun _ _ hs₄ => hs₄

theorem left_rest_running (plan : Plan τ) (began : τ) (s : Scene ρ σ) :
    (left (rest plan began s)).running = s.running := by
  change (left (onSurface _ (now s).2)).running = s.running
  rw [onSurface, left_on]
  rfl

/-- How `most + 1` frames begin with `s` after `ticks` ticks: the first is the last, or the others come after its round. -/
inductive Taken (plan : Plan τ) (ticks most : Nat) (s : Scene ρ σ) :
    Nat × EStateM.Result Fault (Scene ρ σ) Unit → Prop where
  | blind {e : Fault} {s₁ : Scene ρ σ} {counted : Nat} (looked : look plan s = .error e s₁) :
      Taken plan ticks most s (counted, .error e s₁)
  | stopped {v : Seen τ} {s₁ : Scene ρ σ} (looked : look plan s = .ok v s₁) (stops : v.Stops plan (ticks + 1)) :
      Taken plan ticks most s (ticks + 1, .ok () { s₁ with running := false })
  | restless {v : Seen τ} {e : Fault} {s₁ s₂ : Scene ρ σ} (looked : look plan s = .ok v s₁)
      (passes : ¬ v.Stops plan (ticks + 1)) (rested : rest plan v.began s₁ = .error e s₂) :
      Taken plan ticks most s (ticks + 1, .error e s₂)
  | next {v : Seen τ} {s₁ s₂ : Scene ρ σ} (looked : look plan s = .ok v s₁) (passes : ¬ v.Stops plan (ticks + 1))
      (rested : rest plan v.began s₁ = .ok () s₂) (running : s₂.running = true) :
      Taken plan ticks most s (frames plan most (ticks + 1) s₂)

/-- Frames are taken one by one, off the front. -/
theorem frames_succ (plan : Plan τ) (ticks most : Nat) (hrunning : s.running = true) :
    Taken plan ticks most s (frames plan (most + 1) ticks s) := by
  have hlooked := left_look_running plan s
  have hframe := frame_of_look plan ticks s
  rw [frames]
  cases hlook : look plan s with
  | error e s₁ =>
    rw [hlook] at hframe
    generalize frame plan ticks s = framed at hframe ⊢
    obtain ⟨counted, r⟩ := framed
    obtain rfl : r = .error e s₁ := hframe
    exact .blind hlook
  | ok v s₁ =>
    rw [hlook] at hframe hlooked
    obtain ⟨hcount, hdecides⟩ := hframe
    generalize frame plan ticks s = framed at hcount hdecides ⊢
    obtain ⟨counted, r⟩ := framed
    obtain rfl : counted = ticks + 1 := hcount
    have hrunning₁ : s₁.running = true := hlooked.trans hrunning
    by_cases hstops : v.Stops plan (ticks + 1)
    · obtain rfl : r = .ok () { s₁ with running := false } := hdecides.ends (.inl hstops)
      exact .stopped hlook hstops
    · obtain rfl : r = rest plan v.began s₁ := hdecides.goesOn hstops hrunning₁
      have hrested := left_rest_running plan v.began s₁
      cases hrest : rest plan v.began s₁ with
      | error e s₂ => exact .restless hlook hstops hrest
      | ok _ s₂ =>
        rw [hrest] at hrested
        have hrunning₂ : s₂.running = true := hrested.trans hrunning₁
        dsimp only
        rw [if_pos hrunning₂]
        exact .next hlook hstops hrest hrunning₂

/-! ## Frames that stop a run -/

/-- Frame `k`, counting from one, stops the run that begins with `s`. -/
def StopsAt (plan : Plan τ) (s : Scene ρ σ) (k : Nat) : Prop :=
  ∃ n v, k = n + 1 ∧ s.sees plan n = some v ∧ v.Stops plan k

/-- The first `n` frames after `ticks` ticks see something, and none of them stops the run. -/
def Passes (plan : Plan τ) (ticks : Nat) (s : Scene ρ σ) (n : Nat) : Prop :=
  ∀ m < n, ∃ v, s.sees plan m = some v ∧ ¬ v.Stops plan (ticks + m + 1)

variable {n : Nat}

theorem passes_zero (s : Scene ρ σ) : Passes plan ticks s 0 := fun _ hm => absurd hm (Nat.not_lt_zero _)

theorem sees_succ {s s' : Scene ρ σ} (h : round plan s = .ok () s') (n : Nat) :
    s.sees plan (n + 1) = s'.sees plan n := by
  rw [sees, h]

theorem sees_zero {s s' : Scene ρ σ} {v : Seen τ} (h : look plan s = .ok v s') : s.sees plan 0 = some v := by
  rw [sees, h]

theorem Passes.round {s s' : Scene ρ σ} {v : Seen τ} (hv : s.sees plan 0 = some v)
    (hstops : ¬ v.Stops plan (ticks + 1)) (hround : Scene.round plan s = .ok () s')
    (h : s'.Passes plan (ticks + 1) n) : s.Passes plan ticks (n + 1) := by
  intro m hm
  cases m with
  | zero => exact ⟨v, hv, hstops⟩
  | succ m =>
    obtain ⟨v', hv', hstops'⟩ := h m (by omega)
    refine ⟨v', (sees_succ hround m).trans hv', ?_⟩
    rwa [show ticks + (m + 1) + 1 = ticks + 1 + m + 1 by omega]

theorem Passes.not_stopsAt {s : Scene ρ σ} (h : s.Passes plan 0 n) {k : Nat} (hk : k ≤ n) : ¬ s.StopsAt plan k := by
  rintro ⟨m, v, rfl, hv, hstops⟩
  obtain ⟨v', hv', hpasses⟩ := h m hk
  cases hv.symm.trans hv'
  rw [Nat.zero_add] at hpasses
  exact hpasses hstops

theorem Passes.isLeast {s : Scene ρ σ} (h : s.Passes plan 0 n) (hstops : s.StopsAt plan (n + 1)) :
    IsLeast {k | s.StopsAt plan k} (n + 1) := by
  refine ⟨hstops, fun k hk => ?_⟩
  by_contra hlt
  exact h.not_stopsAt (by omega) hk

/-! ## Before the first frame -/

/-- The plan of a run that begins now: a timeout counts from the time that the clock shows. -/
def planned (pace : Pace τ) (maxTicks : Option Int) (s : Scene ρ σ) : Plan τ :=
  ⟨1 / pace.rate, pace.timeout.map ((now s).1 + ·), maxTicks⟩

/-- The scene in which the first frame begins; the clock has been read if there is a timeout. -/
def started (pace : Pace τ) (s : Scene ρ σ) : Scene ρ σ :=
  { if pace.timeout.isSome then (now s).2 else s with running := true }

theorem run_eq {pace : Pace τ} (hrate : (pace.rate == 0) = false) (maxTicks : Option Int) (most : Nat)
    (s : Scene ρ σ) :
    run pace maxTicks most s =
      match frames (s.planned pace maxTicks) most 0 (s.started pace) with
      | (ticks, .ok () s) => if s.running then .ok none s else (do close; return some ticks : Act _ _) s
      | (ticks, .error (.interrupt _) s) => (do close; return some ticks : Act _ _) s
      | (_, .error e s) => (do close; Act.fail e : Act _ _) s := by
  obtain ⟨rate, timeout⟩ := pace
  have hdelay : (Pace.mk rate timeout).delay? = some (1 / rate) := by
    rw [Pace.delay?, hrate]
    rfl
  unfold run plan?
  rw [hdelay]
  cases timeout <;> rfl

end Scene

end Pipework
