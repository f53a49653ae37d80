import Mathlib.Algebra.BigOperators.Intervals
import Mathlib.Algebra.Order.BigOperators.Group.Finset
import Mathlib.Data.Rat.Floor
import Mathlib.Order.Lattice.Nat
import Mathlib.Tactic.Linarith
import Mathlib.Tactic.Positivity
import Pipework.Proofs.Stopping

/-!
# Pacing in exact time

Read over the rationals, runs keep time exactly. On a punctual surface only refreshes and sleeps take time, and no
call fails. There frame `k` has shown its result `cost k` after it began, and then sleeps for what is left of a frame,
so the next one begins `max delay (cost k)` after it did (`Scene.round_paced`). This fixes when each frame begins
(`onset`), and so which is the first that finds the deadline reached. There is one, however little the refreshes take,
as no frame is shorter than the delay (`timesOut_ceil`).
-/

set_option linter.unusedSectionVars false

namespace Pipework

open Act

instance : Time ℚ where
  decLT := inferInstance
  decLE := inferInstance

theorem Time.positivePart_eq_max (t : ℚ) : Time.positivePart t = max 0 t := by
  change (if 0 < t then t else 0) = max 0 t
  split
  · next hpos => exact (max_eq_right hpos.le).symm
  · next hneg => exact (max_eq_left (not_lt.1 hneg)).symm

/-! ## Onsets -/

/-- When frame `k` begins after the first one if frame `j` takes `cost j`, and none less than `delay`. -/
def onset (delay : ℚ) (cost : ℕ → ℚ) (k : ℕ) : ℚ := ∑ j ∈ Finset.Ico 1 k, max delay (cost j)

/-- Frame `k` has taken its cost when the time `T` is over. -/
def TimesOut (delay T : ℚ) (cost : ℕ → ℚ) (k : ℕ) : Prop := 1 ≤ k ∧ T ≤ onset delay cost k + cost k

variable {delay T rate : ℚ} {cost : ℕ → ℚ} {k : ℕ}

theorem onset_one (delay : ℚ) (cost : ℕ → ℚ) : onset delay cost 1 = 0 := rfl

theorem onset_succ (delay : ℚ) (cost : ℕ → ℚ) (hk : 1 ≤ k) :
    onset delay cost (k + 1) = onset delay cost k + max delay (cost k) :=
  Finset.sum_Ico_succ_top hk _

theorem add_onset_succ (t₀ delay : ℚ) (cost : ℕ → ℚ) (m : ℕ) :
    t₀ + onset delay cost (m + 1 + 1) = t₀ + onset delay cost (m + 1) + max delay (cost (m + 1)) := by
  rw [onset_succ delay cost (Nat.le_add_left 1 m), add_assoc]

theorem mul_le_onset (delay : ℚ) (cost : ℕ → ℚ) (k : ℕ) : k * delay ≤ onset delay cost (k + 1) := by
  have hsum := Finset.card_nsmul_le_sum (Finset.Ico 1 (k + 1)) (fun j => max delay (cost j)) delay
    fun j _ => le_max_left delay (cost j)
  rwa [Nat.card_Ico, Nat.add_sub_cancel, nsmul_eq_mul] at hsum

theorem onset_of_idle (hdelay : 0 ≤ delay) (hidle : ∀ j, cost j = 0) (k : ℕ) :
    onset delay cost (k + 1) = k * delay := by
  have hmax (j : ℕ) : max delay (cost j) = delay := by rw [hidle, max_eq_left hdelay]
  simp only [onset, hmax, Finset.sum_const, Nat.card_Ico, Nat.add_sub_cancel, nsmul_eq_mul]

/-- At `rate` frames per unit of time, enough frames for the time `T` time out, whatever they cost. -/
theorem timesOut_ceil (hrate : 0 < rate) (hcost : ∀ j, 0 ≤ cost j) :
    TimesOut (1 / rate) T cost (⌈T * rate⌉₊ + 1) := by
  have hceil : T ≤ ⌈T * rate⌉₊ * (1 / rate) := by
    rw [mul_one_div, le_div_iff₀ hrate]
    exact Nat.le_ceil _
  have honset := mul_le_onset (1 / rate) cost ⌈T * rate⌉₊
  exact ⟨Nat.le_add_left 1 _, by linarith [hcost (⌈T * rate⌉₊ + 1)]⟩

theorem exists_timesOut_least (hrate : 0 < rate) (hcost : ∀ j, 0 ≤ cost j) :
    ∃ k, IsLeast {k | TimesOut (1 / rate) T cost k} k :=
  ⟨_, Nat.sInf_mem ⟨_, timesOut_ceil hrate hcost⟩, fun _ => Nat.sInf_le⟩

/-- Frames that cost nothing time out no earlier than that. -/
theorem ceil_lt_of_idle (hrate : 0 < rate) (hidle : ∀ j, cost j = 0) (h : TimesOut (1 / rate) T cost k) :
    ⌈T * rate⌉₊ + 1 ≤ k := by
  obtain ⟨hk, htime⟩ := h
  obtain ⟨k, rfl⟩ := Nat.exists_eq_add_of_le' hk
  rw [onset_of_idle (one_div_pos.2 hrate).le hidle, hidle, add_zero, mul_one_div, le_div_iff₀ hrate] at htime
  exact Nat.succ_le_succ (Nat.ceil_le.2 htime)

theorem onset_lt_of_least (hdelay : 0 < delay) (hT : 0 < T) (hcost : ∀ j, 0 ≤ cost j)
    (h : IsLeast {k | TimesOut delay T cost k} k) : onset delay cost k < T + delay := by
  obtain ⟨⟨hk, -⟩, hleast⟩ := h
  obtain ⟨k, rfl⟩ := Nat.exists_eq_add_of_le' hk
  cases k with
  | zero =>
    rw [Nat.zero_add, onset_one]
    positivity
  | succ k =>
    -- the frame before was in time, and took its cost or the delay
    have hbefore : onset delay cost (k + 1) + cost (k + 1) < T := by
      by_contra hle
      exact absurd (hleast ⟨Nat.le_add_left 1 k, not_lt.1 hle⟩) (by omega)
    rw [onset_succ delay cost (Nat.le_add_left 1 k)]
    rcases max_choice delay (cost (k + 1)) with hmax | hmax <;> rw [hmax]
    · linarith [hcost (k + 1)]
    · linarith

/-! ## Punctual surfaces -/

variable {ρ σ : Type} [RandomSource ρ] [Surface σ] [Clock σ ℚ]

/--
With `At n t` a surface shows the time `t` after `n` refreshes. Only refreshes and sleeps take time, the `n`-th
refresh takes `cost n`, no call fails, and no key stops a run.
-/
structure Surface.Punctual (cost : ℕ → ℚ) (At : ℕ → ℚ → σ → Prop) : Prop where
  size : ∀ n t u, At n t u → At n t (Surface.size u).2
  put : ∀ n t u mark, At n t u → Keeps (fun _ => False) (At n t) (Surface.put mark u)
  clear : ∀ n t u, At n t u → At n t (Surface.clear u)
  refresh : ∀ n t u, At n t u →
    Ends (fun _ => At (n + 1) (t + cost (n + 1))) (fun _ _ => False) (Surface.refresh u)
  poll : ∀ n t u, At n t u →
    Ends (fun key u => (key = Key.none ∨ key = Key.resize) ∧ At n t u) (fun _ _ => False) (Surface.poll u)
  restore : ∀ n t u, At n t u → Keeps (fun _ => False) (At n t) (Surface.restore u)
  now : ∀ n t u, At n t u → (Clock.now u).1 = t ∧ At n t (Clock.now u).2
  sleep : ∀ n t u d, At n t u → Ends (fun _ => At n (t + d)) (fun _ _ => False) (Clock.sleep d u)

variable {At : ℕ → ℚ → σ → Prop} {n : ℕ} {t : ℚ}

namespace Surface.Punctual

theorem obliging (h : Surface.Punctual cost At) : Surface.Obliging fun u : σ => ∃ n t, At n t u where
  size u := fun ⟨n, t, hu⟩ => ⟨n, t, h.size n t u hu⟩
  put u mark := fun ⟨n, t, hu⟩ => (h.put n t u mark hu).mono (fun _ _ hu => ⟨n, t, hu⟩) fun _ _ he => he.1.elim
  clear u := fun ⟨n, t, hu⟩ => ⟨n, t, h.clear n t u hu⟩
  refresh u := fun ⟨n, t, hu⟩ => (h.refresh n t u hu).mono (fun _ _ hu => ⟨_, _, hu⟩) fun _ _ he => he.elim
  poll u := fun ⟨n, t, hu⟩ => (h.poll n t u hu).mono (fun _ _ hu => ⟨n, t, hu.2⟩) fun _ _ he => he.elim
  restore u := fun ⟨n, t, hu⟩ => (h.restore n t u hu).mono (fun _ _ hu => ⟨n, t, hu⟩) fun _ _ he => he.1.elim
  now u := fun ⟨n, t, hu⟩ => ⟨n, t, (h.now n t u hu).2⟩
  sleep u d := fun ⟨n, t, hu⟩ => (h.sleep n t u d hu).mono (fun _ _ hu => ⟨n, _, hu⟩) fun _ _ he => he.elim

end Surface.Punctual

/-! ## Scripts -/

namespace Script

/-- A script without traps, and without keys that stop a run, at the time `t` and after `n` refreshes. -/
structure Ticking (costs : ℕ → ℚ) (n : ℕ) (t : ℚ) (u : Script ℚ) : Prop where
  untrapped : u.Untrapped
  keys : ∀ key ∈ u.keys, key = Key.none ∨ key = Key.resize
  costs : u.costs = costs
  refreshes : u.refreshes = n
  time : u.time = t

variable {costs : ℕ → ℚ} {u : Script ℚ}

theorem Ticking.takeKey (h : u.Ticking costs n t) :
    (u.takeKey.1 = Key.none ∨ u.takeKey.1 = Key.resize) ∧ u.takeKey.2.Ticking costs n t := by
  obtain ⟨untrapped, keys, hcosts, refreshes, time⟩ := h
  unfold Script.takeKey
  split
  · exact ⟨.inl rfl, untrapped, keys, hcosts, refreshes, time⟩
  · next hkeys _ =>
    rw [hkeys] at keys
    obtain ⟨hkey, keys⟩ := List.forall_mem_cons.1 keys
    exact ⟨hkey, untrapped, keys, hcosts, refreshes, time⟩
  · next hkeys _ =>
    rw [hkeys] at keys
    obtain ⟨hkey, keys⟩ := List.forall_mem_cons.1 keys
    split
    · exact ⟨hkey, untrapped, keys, hcosts, refreshes, time⟩
    · exact ⟨hkey, untrapped, keys, hcosts, refreshes, time⟩

theorem punctual (costs : ℕ → ℚ) : Surface.Punctual (fun n => costs (n - 1)) (Ticking costs) where
  size _ _ _ h := h
  put n t u mark h := by
    change Keeps _ _ (meet .put u)
    rw [h.untrapped.meet .put]
    exact h
  clear _ _ _ h := h
  refresh n t u h := by
    change Ends _ _ (Script.refresh u)
    rw [Script.refresh, bind_of_ok (h.untrapped.meet .refresh)]
    refine ⟨h.untrapped, h.keys, h.costs, congrArg (· + 1) h.refreshes, ?_⟩
    change u.time + u.costs u.refreshes = t + costs n
    rw [h.time, h.costs, h.refreshes]
  poll n t u h := by
    change Ends _ _ (Script.poll u)
    rw [Script.poll, bind_of_ok (h.untrapped.meet .poll)]
    exact h.takeKey
  restore _ _ _ h := h
  now _ _ _ h := ⟨h.time, h⟩
  sleep n t u d h := by
    have hslept : ({ u with sleepLog := d :: u.sleepLog } : Script ℚ).Untrapped := h.untrapped
    change Ends _ _ (Script.sleep d u)
    rw [Script.sleep, modify_bind, bind_of_ok (hslept.meet .sleep)]
    exact ⟨h.untrapped, h.keys, h.costs, h.refreshes, congrArg (· + d) h.time⟩

end Script

/-! ## Frames -/

namespace Scene

variable {s : Scene ρ σ} (punctual : Surface.Punctual cost At)

include punctual

theorem punctual_persistent (n : ℕ) (t : ℚ) :
    Persistent (fun s : Scene ρ σ => At n t s.surface) fun _ _ => True where
  elsewhere _ _ hs same := by rwa [same.surface]
  own _ _ _ _ := trivial
  clear s hs := punctual.clear n t s.surface hs
  put s mark hs := ends_on.2 ((punctual.put n t s.surface mark hs).mono (fun _ _ hu => hu) fun _ _ _ => trivial)

theorem tick_paced (h : At n t s.surface) :
    Ends (fun _ s' => At (n + 1) (t + cost (n + 1)) s'.surface) (fun _ _ => True) (tick s) := by
  rw [tick, get_bind]
  refine ((punctual_persistent punctual n t).steps h _).bind fun _ s hs => ends_on.2 ?_
  exact (punctual.refresh n t s.surface hs).mono (fun _ _ hu => hu) fun _ _ _ => trivial

theorem resizeOn_paced (h : At n t s.surface) (key : Key) :
    Ends (fun _ s' => At n t s'.surface) (fun _ _ => True) (resizeOn key s) := by
  unfold resizeOn
  split
  · exact (punctual_persistent punctual n t).spawn (punctual.clear n t _ (punctual.size n t s.surface h))
  · exact h

/-- What a frame sees that begins at the time `t`, after `n` frames. -/
structure SeenAt (plan : Plan ℚ) (cost : ℕ → ℚ) (n : ℕ) (t : ℚ) (v : Seen ℚ) : Prop where
  began : v.began = t
  harmless : v.Harmless
  time : v.time = plan.deadline.map fun _ => t + cost (n + 1)

theorem look_paced (h : At n t s.surface) (plan : Plan ℚ) :
    Ends (fun v s' => SeenAt plan cost n t v ∧ At (n + 1) (t + cost (n + 1)) s'.surface) (fun _ _ => True)
      (look plan s) := by
  obtain ⟨hbegan, hnow⟩ := punctual.now n t s.surface h
  have hbegin {f : ℚ → Act (Scene ρ σ) (Seen ℚ)} : (readClock >>= f) s = f (now s).1 (now s).2 := rfl
  rw [look, hbegin]
  refine (tick_paced punctual hnow).bind fun _ s₁ hs₁ => ?_
  have hpoll : Ends (fun key s' => (key = Key.none ∨ key = Key.resize) ∧ At (n + 1) (t + cost (n + 1)) s'.surface)
      (fun _ _ => True) (onSurface Surface.poll s₁) :=
    ends_on.2 ((punctual.poll _ _ s₁.surface hs₁).mono (fun _ _ hu => hu) fun _ _ _ => trivial)
  refine ends_bind.2 (hpoll.mono (fun key s₂ hs₂ => ?_) fun _ _ _ => trivial)
  refine (resizeOn_paced punctual hs₂.2 key).bind fun _ s₃ hs₃ => ?_
  have hclock : Ends (fun time s' => time = plan.deadline.map (fun _ => t + cost (n + 1)) ∧
      At (n + 1) (t + cost (n + 1)) s'.surface) (fun _ _ => True) (lookAtClock plan s₃) := by
    unfold lookAtClock
    cases plan.deadline with
    | none => exact ⟨rfl, hs₃⟩
    | some deadline =>
      obtain ⟨htime, hread⟩ := punctual.now _ _ s₃.surface hs₃
      exact ⟨congrArg some htime, hread⟩
  refine ends_bind.2 (hclock.mono (fun time s₄ hs₄ => ?_) fun _ _ _ => trivial)
  exact ⟨⟨hbegan, hs₂.1, hs₄.1⟩, hs₄.2⟩

/-- From the beginning of a frame to the next one the delay passes, or what the refresh takes if that is more. -/
theorem round_paced (h : At n t s.surface) (plan : Plan ℚ) :
    Ends (fun _ s' => At (n + 1) (t + max plan.delay (cost (n + 1))) s'.surface) (fun _ _ => True)
      (round plan s) := by
  refine ends_bind.2 ((look_paced punctual h plan).mono (fun v s₁ hs₁ => ?_) fun _ _ _ => trivial)
  obtain ⟨hseen, hs₁⟩ := hs₁
  obtain ⟨htime, hnow⟩ := punctual.now _ _ s₁.surface hs₁
  change Ends _ _ (onSurface (Clock.sleep (Time.positivePart (plan.delay - ((Clock.now s₁.surface).1 - v.began))))
    (now s₁).2)
  have hpassed : t + cost (n + 1) + Time.positivePart (plan.delay - ((Clock.now s₁.surface).1 - v.began)) =
      t + max plan.delay (cost (n + 1)) := by
    rw [htime, hseen.began, Time.positivePart_eq_max, add_assoc]
    change t + (cost (n + 1) + max 0 (plan.delay - (t + cost (n + 1) - t))) = _
    rw [add_sub_cancel_left, ← max_add_add_left, add_zero, add_sub_cancel, max_comm]
  refine ends_on.2 ((punctual.sleep _ _ _ _ hnow).mono (fun _ u hu => ?_) fun _ _ _ => trivial)
  rwa [hpassed] at hu

theorem close_paced (h : At n t s.surface) :
    Keeps (fun _ => False) (fun s : Scene ρ σ => At n t s.surface) (close s) := by
  change Keeps _ _ (onSurface Surface.restore { s with running := false })
  exact ends_on.2 (punctual.restore n t s.surface h)

/-! ## Frames in a row -/

variable {plan : Plan ℚ} (start : ℕ → ℚ) (hstart : ∀ m, start (m + 1) = start m + max plan.delay (cost (m + 1)))

include hstart

theorem sees_paced (h : At n (start n) s.surface) {v : Seen ℚ} (hv : s.sees plan k = some v) :
    SeenAt plan cost (n + k) (start (n + k)) v := by
  induction k generalizing s n with
  | zero =>
    have hlook := look_paced punctual h plan
    rw [sees] at hv
    cases hr : look plan s with
    | ok w s' =>
      rw [hr] at hv hlook
      cases hv
      exact hlook.1
    | error e s' =>
      rw [hr] at hv
      cases hv
  | succ k ih =>
    have hround := round_paced punctual h plan
    rw [sees] at hv
    cases hr : round plan s with
    | ok _ s' =>
      rw [hr] at hv hround
      rw [← hstart] at hround
      rw [show n + (k + 1) = n + 1 + k by omega]
      exact ih hround hv
    | error e s' =>
      rw [hr] at hv
      cases hv

theorem frames_paced (h : At n (start n) s.surface) (hrunning : s.running = true) {most ticks counted : ℕ}
    {s' : Scene ρ σ} (hframes : frames plan most ticks s = (counted, .ok () s')) (hstopped : s'.running = false) :
    ∃ k, counted = ticks + k + 1 ∧ At (n + k + 1) (start (n + k) + cost (n + k + 1)) s'.surface := by
  induction most generalizing s n ticks with
  | zero =>
    cases hframes
    rw [hrunning] at hstopped
    cases hstopped
  | succ most ih =>
    have htaken := frames_succ plan ticks most hrunning
    generalize frames plan (most + 1) ticks s = r at hframes htaken
    cases htaken with
    | blind => cases hframes
    | restless => cases hframes
    | @stopped v s₁ looked =>
      cases hframes
      have hlook := look_paced punctual h plan
      rw [looked] at hlook
      exact ⟨0, rfl, hlook.2⟩
    | @next v s₁ s₂ looked passes rested running =>
      have hround := round_paced punctual h plan
      rw [round, bind_of_ok looked, rested] at hround
      have hagain : At (n + 1) (start (n + 1)) s₂.surface := hstart n ▸ hround
      obtain ⟨k, hcount, hat⟩ := ih hagain running hframes
      refine ⟨k + 1, by omega, ?_⟩
      rwa [show n + (k + 1) = n + 1 + k by omega]

end Scene

/-! ## Runs -/

theorem Surface.Punctual.transcribed (h : Surface.Punctual cost At) :
    Surface.Punctual cost fun n t (u : TranscribedSurface σ ℚ) => At n t u.inner where
  size n t u hu := h.size n t u.inner hu
  put n t u mark hu := TranscribedSurface.writing_keeps (h.put n t u.inner mark hu)
  clear n t u hu := h.clear n t u.inner hu
  refresh n t u hu := TranscribedSurface.ends_writing.2 (h.refresh n t u.inner hu)
  poll n t u hu := TranscribedSurface.ends_writing.2 (h.poll n t u.inner hu)
  restore n t u hu := TranscribedSurface.writing_keeps (h.restore n t u.inner hu)
  now n t u hu := h.now n t u.inner hu
  sleep n t u d hu := TranscribedSurface.ends_writing.2 (h.sleep n t u.inner d hu)

namespace Scene

/-- The plan of a run that ends when the clock shows `deadline`. -/
def Plan.until (delay deadline : ℚ) : Plan ℚ := ⟨delay, some deadline, none⟩

theorem SeenAt.stops_iff {t₀ : ℚ} {v : Seen ℚ}
    (h : SeenAt (.until delay (t₀ + T)) cost k (t₀ + onset delay cost (k + 1)) v) (ticks : ℕ) :
    v.Stops (.until delay (t₀ + T)) ticks ↔ TimesOut delay T cost (k + 1) := by
  have htime : v.time = some (t₀ + (onset delay cost (k + 1) + cost (k + 1))) := by
    rw [h.time, ← add_assoc]
    rfl
  constructor
  · rintro (⟨hnone, hresize⟩ | ⟨_, hdeadline, time, hseen, hle⟩ | ⟨_, hmost, -⟩)
    · exact (h.harmless.elim hnone hresize).elim
    · cases hdeadline
      cases htime.symm.trans hseen
      exact ⟨Nat.le_add_left 1 k, (add_le_add_iff_left t₀).1 hle⟩
    · cases hmost
  · rintro ⟨-, hle⟩
    exact .inr (.inl ⟨_, rfl, _, htime, (add_le_add_iff_left t₀).2 hle⟩)

section First

variable (punctual : Surface.Punctual cost At) {t₀ : ℚ} {first : Scene ρ σ} (h : At 0 t₀ first.surface)

include punctual h

theorem sees_timed {v : Seen ℚ} (hv : first.sees (.until delay (t₀ + T)) k = some v) :
    SeenAt (.until delay (t₀ + T)) cost k (t₀ + onset delay cost (k + 1)) v := by
  have hfirst : At 0 (t₀ + onset delay cost (0 + 1)) first.surface := by rwa [onset_one, add_zero]
  have hseen := sees_paced punctual (fun m => t₀ + onset delay cost (m + 1)) (add_onset_succ t₀ delay cost) hfirst hv
  rwa [Nat.zero_add] at hseen

theorem frames_timed (hrunning : first.running = true) {most counted : ℕ} {s' : Scene ρ σ}
    (hframes : frames (.until delay (t₀ + T)) most 0 first = (counted, .ok () s')) (hstopped : s'.running = false) :
    At counted (t₀ + onset delay cost counted + cost counted) s'.surface := by
  have hfirst : At 0 (t₀ + onset delay cost (0 + 1)) first.surface := by rwa [onset_one, add_zero]
  obtain ⟨k, rfl, hat⟩ := frames_paced punctual (fun m => t₀ + onset delay cost (m + 1))
    (add_onset_succ t₀ delay cost) hfirst hrunning hframes hstopped
  exact hat

theorem not_timesOut_of_passes {n : ℕ} (passes : first.Passes (.until delay (t₀ + T)) 0 n) (hk : k ≤ n) :
    ¬ TimesOut delay T cost k := by
  intro hout
  obtain ⟨k, rfl⟩ := Nat.exists_eq_add_of_le' hout.1
  obtain ⟨v, hv, hgoesOn⟩ := passes k hk
  exact hgoesOn (((sees_timed punctual h hv).stops_iff _).2 hout)

end First

variable {t₀ : ℚ} {s : Scene ρ (TranscribedSurface σ ℚ)}

/--
A run has returned after frames that saw `vs`: each but the first begins when the one before has lasted for the delay,
or for its cost if that is more, and the clock stands still once the last one has taken its cost.
-/
structure KeptTime (delay deadline t₀ : ℚ) (cost : ℕ → ℚ) (vs : List (Seen ℚ)) (l : List (Exchange ℚ))
    (s s' : Scene ρ (TranscribedSurface σ ℚ)) : Prop where
  frames : Frames (.until delay deadline) vs l
  transcript : s'.surface.transcript = s.surface.transcript ++ [.clock t₀] ++ l ++ [.restore]
  begins : ∀ i v, vs[i]? = some v → v.began = t₀ + onset delay cost (i + 1)
  next : ∀ i v w, vs[i]? = some v → vs[i + 1]? = some w → w.began = v.began + max delay (cost (i + 1))
  ended : (Clock.now s'.surface).1 = t₀ + onset delay cost vs.length + cost vs.length

/-- How a run ends that times out `T` after it began at `t₀`, if it is given at most `most` frames. -/
inductive TimedRun (delay T t₀ : ℚ) (cost : ℕ → ℚ) (most : ℕ) (s : Scene ρ (TranscribedSurface σ ℚ)) :
    EStateM.Result Fault (Scene ρ (TranscribedSurface σ ℚ)) (Option Nat) → Prop where
  | returned {vs : List (Seen ℚ)} {l : List (Exchange ℚ)} {s' : Scene ρ (TranscribedSurface σ ℚ)}
      (within : vs.length ≤ most) (least : IsLeast {k | TimesOut delay T cost k} vs.length)
      (kept : KeptTime delay (t₀ + T) t₀ cost vs l s s') : TimedRun delay T t₀ cost most s (.ok (some vs.length) s')
  | goesOn {s' : Scene ρ (TranscribedSurface σ ℚ)} (early : ∀ k ≤ most, ¬ TimesOut delay T cost k) :
      TimedRun delay T t₀ cost most s (.ok none s')
  | failed {e : Fault} {s' : Scene ρ (TranscribedSurface σ ℚ)} : TimedRun delay T t₀ cost most s (.error e s')

namespace TimedRun

variable {r : EStateM.Result Fault (Scene ρ (TranscribedSurface σ ℚ)) (Option Nat)} {most : ℕ}
  (h : TimedRun delay T t₀ cost most s r) (hfaultless : ∀ e s', r ≠ .error e s')
  (hleast : IsLeast {k | TimesOut delay T cost k} k)

include h hfaultless hleast

theorem returns (hmost : k ≤ most) :
    ∃ s' vs l, r = .ok (some k) s' ∧ vs.length = k ∧ KeptTime delay (t₀ + T) t₀ cost vs l s s' := by
  cases h with
  | @returned vs l s' within least kept =>
    obtain rfl : vs.length = k := least.unique hleast
    exact ⟨s', vs, l, rfl, rfl, kept⟩
  | goesOn early => exact absurd hleast.1 (early k hmost)
  | @failed e s' => exact absurd rfl (hfaultless e s')

theorem continues (hmost : most < k) : ∃ s', r = .ok none s' := by
  cases h with
  | returned within least => exact absurd (hleast.2 least.1) (by omega)
  | goesOn => exact ⟨_, rfl⟩
  | @failed e s' => exact absurd rfl (hfaultless e s')

end TimedRun

theorem run_timed (punctual : Surface.Punctual cost At) (hrate : 0 < rate) (h : At 0 t₀ s.surface.inner) (most : ℕ) :
    TimedRun (1 / rate) T t₀ cost most s (run ⟨rate, some T⟩ none most s) := by
  have hzero : (rate == 0) = false := beq_false_of_ne hrate.ne'
  obtain ⟨htime, hnow⟩ := punctual.transcribed.now 0 t₀ s.surface h
  have hplanned : s.planned ⟨rate, some T⟩ none = .until (1 / rate) (t₀ + T) := by
    rw [← htime]
    rfl
  have hfirst : At 0 t₀ (s.started ⟨rate, some T⟩).surface.inner := hnow
  have houtcome := frames_outcome punctual.obliging (.until (1 / rate) (t₀ + T)) most 0
    (s := s.started ⟨rate, some T⟩) rfl ⟨0, t₀, hfirst⟩
  rw [run_eq hzero, hplanned]
  generalize hframes : Scene.frames (.until (1 / rate) (t₀ + T)) most 0 (s.started ⟨rate, some T⟩) = framed
    at houtcome ⊢
  cases houtcome with
  | @stopped n v vs l s' within passes seen stops count saw frames running inner transcript =>
    have hat := frames_timed punctual.transcribed hfirst rfl hframes running
    obtain ⟨s'', hclose, hwrote⟩ := close_wrote punctual.obliging inner
    have hclosed := close_paced punctual.transcribed hat
    rw [hclose] at hclosed
    obtain ⟨hended, -⟩ := punctual.transcribed.now _ _ _ hclosed
    have hleast : IsLeast {k | TimesOut (1 / rate) T cost k} vs.length := by
      rw [count]
      refine ⟨((sees_timed punctual.transcribed hfirst seen).stops_iff _).1 stops, fun k hk => ?_⟩
      exact Nat.lt_of_not_le fun hle => not_timesOut_of_passes punctual.transcribed hfirst passes hle hk
    have hbegins (i : ℕ) (v : Seen ℚ) (hv : vs[i]? = some v) : v.began = t₀ + onset (1 / rate) cost (i + 1) := by
      have hi : i < vs.length := (List.getElem?_eq_some_iff.1 hv).1
      exact (sees_timed punctual.transcribed hfirst ((saw i (by omega)).trans hv)).began
    have hnext (i : ℕ) (v w : Seen ℚ) (hv : vs[i]? = some v) (hw : vs[i + 1]? = some w) :
        w.began = v.began + max (1 / rate) (cost (i + 1)) := by
      rw [hbegins i v hv, hbegins (i + 1) w hw]
      exact add_onset_succ t₀ (1 / rate) cost i
    dsimp only
    rw [if_neg (by rw [running]; decide), bind_of_ok hclose, Nat.zero_add, ← count]
    refine .returned (by omega) hleast ⟨frames, ?_, hbegins, hnext, ?_⟩
    · rw [hwrote, transcript, ← htime]
      rfl
    · rw [hended, count, Nat.zero_add]
  | goesOn passes running =>
    dsimp only
    rw [if_pos running]
    exact .goesOn fun k hk => not_timesOut_of_passes punctual.transcribed hfirst passes hk
  | @failed n counted e s' within passes blind cut =>
    obtain ⟨s'', hfail⟩ := close_fails punctual.obliging cut.2 e
    have hfailed : TimedRun (1 / rate) T t₀ cost most s
        ((do close; Act.fail e : Act (Scene ρ (TranscribedSurface σ ℚ)) (Option Nat)) s') := by
      rw [hfail]
      exact .failed
    -- no fault of its own is an interrupt, which would end the run quietly
    cases e with
    | interrupt message => exact cut.1.elim
    | _ => exact hfailed

/-- A run that times out returns `k`, which depends on what the frames cost, and keeps time until then. -/
structure Paced (rate T t₀ : ℚ) (cost : ℕ → ℚ) (s : Scene ρ (TranscribedSurface σ ℚ)) (k : ℕ) : Prop where
  least : IsLeast {k | 1 ≤ k ∧ T ≤ onset (1 / rate) cost k + cost k} k
  returns : ∀ most ≥ k, ∃ s' vs l, run ⟨rate, some T⟩ none most s = .ok (some k) s' ∧ vs.length = k ∧
    KeptTime (1 / rate) (t₀ + T) t₀ cost vs l s s' ∧ (Clock.now s'.surface).1 < t₀ + T + (1 / rate + cost k)
  goesOn : ∀ most < k, ∃ s', run ⟨rate, some T⟩ none most s = .ok none s'
  bound : k ≤ ⌈T * rate⌉₊ + 1
  idle : (∀ j, cost j = 0) → k = ⌈T * rate⌉₊ + 1

end Scene

open Scene

/--
In exact time, on a surface where only refreshes and sleeps take time, a run with a timeout that no key stops and no
fault ends returns after the first frame that finds the timeout over, whatever the refreshes take.
-/
theorem run_paced {s : Scene ρ (TranscribedSurface σ ℚ)} {t₀ : ℚ} (punctual : Surface.Punctual cost At)
    (hcost : ∀ j, 0 ≤ cost j) (hrate : 0 < rate) (hT : 0 < T) (h : At 0 t₀ s.surface.inner)
    (hfaultless : ∀ most e s', run ⟨rate, some T⟩ none most s ≠ .error e s') : ∃ k, Paced rate T t₀ cost s k := by
  obtain ⟨k, hleast⟩ := exists_timesOut_least hrate hcost (T := T)
  have hlate := onset_lt_of_least (one_div_pos.2 hrate) hT hcost hleast
  have hceil : k ≤ ⌈T * rate⌉₊ + 1 := hleast.2 (timesOut_ceil hrate hcost)
  refine ⟨k, hleast, fun most hmost => ?_, fun most hmost => ?_, hceil, fun hidle => ?_⟩
  · obtain ⟨s', vs, l, hreturns, rfl, kept⟩ :=
      (run_timed punctual hrate h most).returns (hfaultless most) hleast hmost
    refine ⟨s', vs, l, hreturns, rfl, kept, ?_⟩
    rw [kept.ended]
    linarith
  · exact (run_timed punctual hrate h most).continues (hfaultless most) hleast hmost
  · exact Nat.le_antisymm hceil (ceil_lt_of_idle hrate hidle hleast.1)

/-- At ten frames per unit of time, each with a higher cost than the one before, the third finds a quarter over. -/
theorem run_paced_third :
    let S : Settings := { pipes := 2 }
    let costs : ℕ → ℚ := fun n => n / 20
    let script : Script ℚ := {
      width := 4, height := 3, keys := [-1, 410], sizes := [(2, 5)], time := 1, costs := costs, traps := [] }
    S.Valid ∧ script.Ticking costs 0 1 ∧ script.HasCells ∧
      ∃ s : Scene Scripted (TranscribedSurface (Script ℚ) ℚ),
        create S (.ofLists [0.25, 0.75] [3, 1, 2]) ⟨script, []⟩ = .ok s ∧ s.Framed S ∧
          Paced 10 (1 / 4) 1 (fun j => costs (j - 1)) s 3 := by
  intro S costs script
  have valid : S.Valid := by decide +kernel
  have hticking : script.Ticking costs 0 1 := ⟨rfl, by simp [script, Key.none, Key.resize], rfl, rfl, rfl⟩
  have hcells : script.HasCells := by simp [Script.HasCells, script]
  obtain ⟨s, hcreate, hframed, hsurface⟩ := exists_create valid (Scripted.ofLists [0.25, 0.75] [3, 1, 2])
    (⟨script, []⟩ : TranscribedSurface (Script ℚ) ℚ) hcells.1 hcells.2.1
  have hat : s.surface.inner.Ticking costs 0 1 := hsurface ▸ hticking
  have room := (Script.untrapped_obliging (τ := ℚ)).roomy Script.hasCells_roomy
  have hroom : s.surface.inner.Untrapped ∧ s.surface.inner.HasCells := hsurface ▸ ⟨hticking.untrapped, hcells⟩
  have hfaultless (most : ℕ) (e : Fault) (s' : Scene Scripted (TranscribedSurface (Script ℚ) ℚ)) :
      run ⟨10, some (1 / 4)⟩ none most s ≠ .error e s' := by
    have hruns : Keeps (fun _ => False) _ (run (⟨10, some (1 / 4)⟩ : Pace ℚ) none most s) :=
      (roomy_lasting room.transcribed).run ⟨hframed, hroom⟩ (.inr ⟨1 / 10, rfl⟩) none most
    obtain ⟨_, s'', hruns, -⟩ := hruns.exists_ok
    rw [hruns]
    exact fun hfails => nomatch hfails
  obtain ⟨k, hpaced⟩ := run_paced (Script.punctual costs) (fun j => by positivity) (by decide +kernel : (0 : ℚ) < 10)
    (by decide +kernel : (0 : ℚ) < 1 / 4) hat hfaultless
  have hthird : IsLeast {k | TimesOut (1 / 10) (1 / 4) (fun j => costs (j - 1)) k} 3 := by
    refine ⟨⟨by decide, by decide +kernel⟩, fun k hk => ?_⟩
    by_contra hlt
    obtain ⟨hpos, hk⟩ := hk
    have hcases : k = 1 ∨ k = 2 := by omega
    obtain rfl | rfl := hcases
    · exact absurd hk (by decide +kernel)
    · exact absurd hk (by decide +kernel)
  obtain rfl : k = 3 := hpaced.least.unique hthird
  exact ⟨valid, hticking, hcells, s, hcreate, hframed, hpaced⟩

end Pipework
