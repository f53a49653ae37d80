import Pipework.Proofs.Beside
import Pipework.Proofs.Stopping
import Pipework.Proofs.Watched

/-!
# A run in two parts

A run for some ticks and then another one draw what a single run does. Up to the last frame of the first part the two
are the same, for a frame asks for the number of ticks only at its end. There the first part gives the surface back,
where the single run sleeps. All that differs from then on is the time, and nothing that is drawn depends on it
(`Surface.Timeless`), so frame by frame the rest of the single run and the second part see the same keys and leave the
same scenes (`Scene.frames_spliced`), and they end at the same frame (`run_splits`).
-/

set_option linter.unusedSectionVars false

namespace Pipework

open Act

variable {ρ σ τ : Type} [RandomSource ρ] [Surface σ] [Clock σ τ]

/--
Surfaces that go together by `R` differ in their clocks at most: to read the time, to sleep, and to give a surface
back changes nothing else, and never fails.
-/
structure Surface.Timeless (R : σ → σ → Prop) : Prop extends Surface.InStep Eq Eq R where
  symm : ∀ t t', R t t' → R t' t
  poll : ∀ t t', R t t' → Alike Eq R (Surface.poll t) (Surface.poll t')
  now : ∀ t t', R t t' → R (Clock.now t).2 t'
  sleep : ∀ t t' d, R t t' → ∃ u, Clock.sleep d t = .ok () u ∧ R u t'
  restore : ∀ t t', R t t' → ∃ u, Surface.restore t = .ok () u ∧ R u t'

namespace Surface.Timeless

variable {R : σ → σ → Prop} {t t' : σ}

theorem now_both (h : Surface.Timeless R) (ht : R t t') : R (Clock.now t).2 (Clock.now t').2 :=
  h.symm _ _ (h.now _ _ (h.symm _ _ (h.now _ _ ht)))

theorem sleep_both (h : Surface.Timeless R) (ht : R t t') (d d' : τ) :
    Alike (fun _ _ => True) R (Clock.sleep d t) (Clock.sleep d' t') := by
  obtain ⟨u, hu, hR⟩ := h.sleep _ _ d ht
  obtain ⟨u', hu', hR'⟩ := h.sleep _ _ d' (h.symm _ _ hR)
  rw [hu, hu']
  exact ⟨trivial, h.symm _ _ hR'⟩

theorem restore_both (h : Surface.Timeless R) (ht : R t t') :
    Alike (fun _ _ => True) R (Surface.restore t) (Surface.restore t') := by
  obtain ⟨u, hu, hR⟩ := h.restore _ _ ht
  obtain ⟨u', hu', hR'⟩ := h.restore _ _ (h.symm _ _ hR)
  rw [hu, hu']
  exact ⟨trivial, h.symm _ _ hR'⟩

end Surface.Timeless

/-! ## Scripts -/

namespace Script

/-- Scripts without traps that differ in the time and in what has been slept at most. -/
structure SameButTime (t t' : Script τ) : Prop where
  untrapped : t.Untrapped
  same : ∃ time sleepLog, t' = { t with time, sleepLog }

theorem sameButTime_self {t : Script τ} (h : t.Untrapped) : t.SameButTime t := ⟨h, t.time, t.sleepLog, rfl⟩

theorem takeKey_elsewhen (t : Script τ) (time : τ) (sleepLog : List τ) :
    ({ t with time, sleepLog } : Script τ).takeKey = (t.takeKey.1, { t.takeKey.2 with time, sleepLog }) := by
  unfold takeKey
  dsimp only
  split
  · rfl
  · rfl
  · split <;> rfl

theorem timeless [Time τ] : Surface.Timeless (SameButTime (τ := τ)) where
  size t t' h := by
    obtain ⟨huntrapped, time, sleepLog, rfl⟩ := h
    exact ⟨rfl, huntrapped, time, sleepLog, rfl⟩
  put t t' m m' h _ := by
    obtain ⟨huntrapped, time, sleepLog, rfl⟩ := h
    change Alike _ _ (meet .put t) (meet .put _)
    rw [huntrapped.meet .put, Untrapped.meet (t := { t with time, sleepLog }) huntrapped .put]
    exact ⟨trivial, huntrapped, time, sleepLog, rfl⟩
  clear t t' h := h
  refresh t t' h := by
    obtain ⟨huntrapped, time, sleepLog, rfl⟩ := h
    change Alike _ _ (refresh t) (refresh _)
    rw [refresh, bind_of_ok (huntrapped.meet .refresh),
      bind_of_ok (Untrapped.meet (t := { t with time, sleepLog }) huntrapped .refresh)]
    exact ⟨trivial, huntrapped, _, sleepLog, rfl⟩
  symm t t' h := by
    obtain ⟨huntrapped, time, sleepLog, rfl⟩ := h
    exact ⟨huntrapped, t.time, t.sleepLog, rfl⟩
  poll t t' h := by
    obtain ⟨huntrapped, time, sleepLog, rfl⟩ := h
    have hpolled : t.takeKey.2.Untrapped := by rw [Untrapped, takeKey_traps, huntrapped]
    have hkey := takeKey_elsewhen t time sleepLog
    change Alike _ _ (poll t) (poll _)
    rw [poll, bind_of_ok (huntrapped.meet .poll),
      bind_of_ok (Untrapped.meet (t := { t with time, sleepLog }) huntrapped .poll)]
    exact ⟨(congrArg Prod.fst hkey).symm, hpolled, time, sleepLog, congrArg Prod.snd hkey⟩
  now t t' h := h
  sleep t t' d h := by
    obtain ⟨huntrapped, time, sleepLog, rfl⟩ := h
    have hslept : ({ t with sleepLog := d :: t.sleepLog } : Script τ).Untrapped := huntrapped
    refine ⟨{ t with sleepLog := d :: t.sleepLog, time := t.time + d }, ?_, huntrapped, time, sleepLog, rfl⟩
    change Script.sleep d t = _
    rw [Script.sleep, modify_bind, bind_of_ok (hslept.meet .sleep)]
    rfl
  restore t t' h := ⟨t, rfl, h⟩

end Script

/-! ## Logs -/

variable {R : σ → σ → Prop}

/-- Two surfaces of which the same has been asked since they had the logs `old` and `old'`. -/
structure WatchedSurface.Spliced (R : σ → σ → Prop) (old old' : List Sight) (t t' : WatchedSurface σ) : Prop where
  inner : R t.inner t'.inner
  log : ∃ later, t.log = later ++ old ∧ t'.log = later ++ old'

namespace WatchedSurface

variable {old old' : List Sight} {t t' : WatchedSurface σ}

theorem Spliced.asked (h : Spliced R old old' t t') {u u' : σ} (hR : R u u') (v : Sight) :
    Spliced R old old' ⟨u, v :: t.log⟩ ⟨u', v :: t'.log⟩ := by
  obtain ⟨later, hlog, hlog'⟩ := h.log
  exact ⟨hR, v :: later, congrArg (v :: ·) hlog, congrArg (v :: ·) hlog'⟩

theorem Spliced.watching {α : Type} {Q : α → α → Prop} (h : Spliced R old old' t t') (ask : Ask) {act act' : Act σ α}
    (hact : Alike Q R (act t.inner) (act' t'.inner)) :
    Alike Q (Spliced R old old') (watching ask act t) (watching ask act' t') := by
  unfold WatchedSurface.watching
  cases hr : act t.inner <;> cases hr' : act' t'.inner <;> rw [hr, hr'] at hact
  · exact ⟨hact.1, h.asked hact.2 _⟩
  · exact hact.elim
  · exact hact.elim
  · obtain ⟨rfl, hR⟩ := hact
    exact ⟨rfl, h.asked hR _⟩

variable (timeless : Surface.Timeless R)

include timeless

theorem spliced_inStep : Surface.InStep Eq Eq (Spliced R old old') where
  size t t' h := by
    obtain ⟨hsize, hR⟩ := timeless.size _ _ h.inner
    refine ⟨hsize, ?_⟩
    change Spliced R old old'
      ⟨_, ⟨.size (Surface.size t.inner).1.1 (Surface.size t.inner).1.2, none⟩ :: t.log⟩
      ⟨_, ⟨.size (Surface.size t'.inner).1.1 (Surface.size t'.inner).1.2, none⟩ :: t'.log⟩
    rw [← hsize]
    exact h.asked hR _
  put t t' m m' h hm := by
    cases hm
    exact h.watching (.put m) (timeless.put _ _ m m h.inner rfl)
  clear t t' h := h.asked (timeless.clear _ _ h.inner) ⟨.clear, none⟩
  refresh t t' h := h.watching .refresh (timeless.refresh _ _ h.inner)

end WatchedSurface

/-! ## Frames -/

namespace Scene

variable [Time τ]

/-- The plan of a run without a timeout. -/
def Plan.upTo (delay : τ) (most : Int) : Plan τ := ⟨delay, none, some most⟩

variable {S : Settings} {T : List GlyphTable} {old old' : List Sight} {s s' : Scene ρ (WatchedSurface σ)}

/-- Scenes that are the same but for the time and for what had been asked of their surfaces before. -/
abbrev Spliced (S : Settings) (T : List GlyphTable) (R : σ → σ → Prop) (old old' : List Sight)
    (s s' : Scene ρ (WatchedSurface σ)) : Prop :=
  s.Coupled S S T T Eq Eq (WatchedSurface.Spliced R old old') s'

variable (valid : S.Valid) (timeless : Surface.Timeless R)

include valid timeless

theorem settle_spliced (h : s.Spliced S T R old old' s') (delay began began' : τ) (a b t : Nat) :
    Alike (fun _ _ => True) (Spliced S T R old old') (settle (.upTo delay b) began t s)
      (settle (.upTo delay (a + b : Nat)) began' (a + t) s') := by
  have c : Correspondence S S T T Eq Eq := valid.corresponds rfl
  have step : Surface.InStep Eq (Mark.Twin T T Eq) (WatchedSurface.Spliced R old old') :=
    (WatchedSurface.spliced_inStep timeless).twins
  have hpolled : Alike Eq (Spliced S T R old old') (onSurface Surface.poll s) (onSurface Surface.poll s') :=
    Correspondence.onSurface_coupled h (h.surface.watching .poll (timeless.poll _ _ h.surface.inner))
  refine hpolled.bind ?_
  rintro key _ s s' rfl h
  refine (c.obey_coupled step h key).bind fun _ _ s s' _ h => ?_
  change Alike _ _ ((checkTicks _ _ >>= fun _ => pause _ _) s) ((checkTicks _ _ >>= fun _ => pause _ _) s')
  have hchecked : Alike (fun _ _ => True) (Spliced S T R old old') (checkTicks (.upTo delay b) t s)
      (checkTicks (.upTo delay (a + b : Nat)) (a + t) s') := by
    have hsame : ((a + b : Nat) : Int) ≤ ((a + t : Nat) : Int) ↔ (b : Int) ≤ (t : Int) := by omega
    simp only [checkTicks, Plan.upTo, hsame]
    split
    · exact ⟨trivial, { h with running := rfl }⟩
    · exact ⟨trivial, h⟩
  refine hchecked.bind fun _ _ s s' _ h => ?_
  rw [pause, pause, get_bind, get_bind, h.running]
  split
  · have hnow : Spliced S T R old old' (now s).2 (now s').2 :=
      { h with surface := ⟨timeless.now_both h.surface.inner, h.surface.log⟩ }
    exact Correspondence.onSurface_coupled hnow
      (hnow.surface.watching .sleep (timeless.sleep_both hnow.surface.inner _ _))
  · exact ⟨trivial, h⟩

/-- Ends of frames, the one with a number of ticks more, that leave spliced scenes. -/
def EndSpliced (S : Settings) (T : List GlyphTable) (R : σ → σ → Prop) (old old' : List Sight) (a : Nat)
    (ended ended' : Nat × EStateM.Result Fault (Scene ρ (WatchedSurface σ)) Unit) : Prop :=
  ended'.1 = a + ended.1 ∧ Alike (fun _ _ => True) (Spliced S T R old old') ended.2 ended'.2

theorem frame_spliced (h : s.Spliced S T R old old' s') (delay : τ) (a b t : Nat) :
    EndSpliced S T R old old' a (frame (.upTo delay b) t s) (frame (.upTo delay (a + b : Nat)) (a + t) s') := by
  have c : Correspondence S S T T Eq Eq := valid.corresponds rfl
  have step : Surface.InStep Eq (Mark.Twin T T Eq) (WatchedSurface.Spliced R old old') :=
    (WatchedSurface.spliced_inStep timeless).twins
  have hnow : Spliced S T R old old' (now s).2 (now s').2 :=
    { h with surface := ⟨timeless.now_both h.surface.inner, h.surface.log⟩ }
  have hticked : Alike (fun _ _ => True) (Spliced S T R old old') (tick (now s).2) (tick (now s').2) := by
    refine Correspondence.coupled_of_running (c.tick step hnow.toTwin) ?_
    rw [left_tick_running, left_tick_running]
    exact hnow.running
  cases htick : tick (now s).2 <;> cases htick' : tick (now s').2 <;> rw [htick, htick'] at hticked <;>
    simp only [frame, htick, htick']
  · exact ⟨rfl, settle_spliced valid timeless hticked.2 delay _ _ a b (t + 1)⟩
  · exact hticked.elim
  · exact hticked.elim
  · exact ⟨rfl, hticked⟩

theorem frames_spliced (h : s.Spliced S T R old old' s') (delay : τ) (a b t most : Nat) :
    EndSpliced S T R old old' a (frames (.upTo delay b) most t s)
      (frames (.upTo delay (a + b : Nat)) most (a + t) s') := by
  induction most generalizing t s s' with
  | zero => exact ⟨rfl, trivial, h⟩
  | succ most ih =>
    obtain ⟨hcount, hframe⟩ := frame_spliced valid timeless h delay a b t
    rw [frames, frames]
    generalize frame (.upTo delay b) t s = ended at hcount hframe ⊢
    generalize frame (.upTo delay (a + b : Nat)) (a + t) s' = ended' at hcount hframe ⊢
    obtain ⟨ticks, r⟩ := ended
    obtain ⟨ticks', r'⟩ := ended'
    obtain rfl : ticks' = a + ticks := hcount
    cases r <;> cases r'
    · -- both go on, or both were stopped
      obtain ⟨-, h⟩ := hframe
      dsimp only
      rw [h.running]
      split
      · exact ih h ticks
      · exact ⟨rfl, trivial, h⟩
    · exact hframe.elim
    · exact hframe.elim
    · exact ⟨rfl, hframe⟩

omit valid timeless in
theorem frame_fst (plan plan' : Plan τ) (t : Nat) (s : Scene ρ (WatchedSurface σ)) :
    (frame plan t s).1 = (frame plan' t s).1 := by
  cases htick : tick (now s).2 <;> simp only [frame, htick]

def slept (u : σ) (s : Scene ρ (WatchedSurface σ)) : Scene ρ (WatchedSurface σ) :=
  { s with surface := ⟨u, ⟨.sleep, none⟩ :: s.surface.log⟩ }

omit valid in
theorem rest_slept (h : R s.surface.inner s.surface.inner) (plan : Plan τ) (began : τ) :
    ∃ u, rest plan began s = .ok () (s.slept u) ∧ R u s.surface.inner ∧ R u u := by
  obtain ⟨u, hslept, hR⟩ := timeless.sleep _ _ (Time.positivePart (plan.delay - ((now s).1 - began)))
    (timeless.now _ _ h)
  obtain ⟨u', hslept', hself⟩ := timeless.sleep _ _ (Time.positivePart (plan.delay - ((now s).1 - began)))
    (timeless.now _ _ (timeless.symm _ _ hR))
  cases hslept.symm.trans hslept'
  have hwatched : WatchedSurface.watching .sleep (Clock.sleep (Time.positivePart (plan.delay - ((now s).1 - began))))
      (now s).2.surface = .ok () ⟨u, ⟨.sleep, none⟩ :: s.surface.log⟩ := by
    rw [WatchedSurface.watching, show Clock.sleep _ (now s).2.surface.inner = .ok () u from hslept]
    rfl
  refine ⟨u, ?_, hR, hself⟩
  change onSurface (WatchedSurface.watching .sleep _) (now s).2 = _
  exact on_of_ok hwatched

/-! ## The frame in between -/

omit valid timeless in
theorem stops_upTo_iff {v : Seen τ} (hv : v.Harmless) (delay : τ) (most : Int) (ticks : Nat) :
    v.Stops (.upTo delay most) ticks ↔ most ≤ ticks := by
  constructor
  · rintro (⟨hnone, hresize⟩ | ⟨deadline, hdeadline, -⟩ | ⟨_, hmost, hle⟩)
    · exact (hv.elim hnone hresize).elim
    · cases hdeadline
    · cases hmost
      exact hle
  · exact fun hle => .inr (.inr ⟨most, rfl, hle⟩)

theorem look_spliced (h : s.Spliced S T R [] [] s) {delay : τ} {most : Int} {v : Seen τ}
    {s₁ : Scene ρ (WatchedSurface σ)} (hlook : look (.upTo delay most) s = .ok v s₁) (hv : v.Harmless) :
    s₁.Spliced S T R [] [] s₁ := by
  -- a run for one tick ends right there
  have hframe := frame_of_look (.upTo delay ((1 : Nat) : Int)) 0 s
  rw [show look (.upTo delay ((1 : Nat) : Int)) s = .ok v s₁ from hlook] at hframe
  have hended := (hframe.2).ends (.inl ((stops_upTo_iff hv _ _ _).2 (Int.le_refl 1)))
  have hself := (frame_spliced valid timeless h delay 0 1 0).2
  rw [Nat.zero_add, hended] at hself
  exact { hself.2 with running := rfl }

/--
One frame of runs for `a` and for `a + b` ticks: both fail, or both go on alike, unless it is the last one of the
former.
-/
theorem frame_parts {a b t : Nat} (hb : 1 ≤ b) (ht : t + 1 ≤ a) (h : s.Spliced S T R [] [] s)
    (hrunning : s.running = true) {delay : τ} (hkey : ∀ v, s.sees (.upTo delay a) 0 = some v → v.Harmless) :
    (∃ ticks e s₁, s.sees (.upTo delay a) 0 = none ∧ frame (.upTo delay a) t s = (ticks, .error e s₁) ∧
      frame (.upTo delay (a + b : Nat)) t s = (ticks, .error e s₁)) ∨
    ∃ (s₁ : Scene ρ (WatchedSurface σ)) (u : σ), s₁.running = true ∧ s₁.Spliced S T R [] [] s₁ ∧
      R u s₁.surface.inner ∧ R u u ∧ round (.upTo delay a) s = .ok () (s₁.slept u) ∧
        frame (.upTo delay a) t s = (t + 1, .ok () (if t + 1 = a then { s₁ with running := false } else s₁.slept u)) ∧
        frame (.upTo delay (a + b : Nat)) t s = (t + 1, .ok () (s₁.slept u)) := by
  have hcount := frame_fst (.upTo delay a) (.upTo delay (a + b : Nat)) t s
  have hframe := frame_of_look (.upTo delay a) t s
  have hframe' := frame_of_look (.upTo delay (a + b : Nat)) t s
  have hlooked := left_look_running (.upTo delay a) s
  cases hlook : look (.upTo delay a) s with
  | error e s₁ =>
    rw [hlook] at hframe
    rw [show look (.upTo delay (a + b : Nat)) s = .error e s₁ from hlook] at hframe'
    exact .inl ⟨_, e, s₁, by rw [sees, hlook], Prod.ext rfl hframe, Prod.ext hcount.symm hframe'⟩
  | ok v s₁ =>
    rw [hlook] at hframe hlooked
    rw [show look (.upTo delay (a + b : Nat)) s = .ok v s₁ from hlook] at hframe'
    have hv : v.Harmless := hkey v (sees_zero hlook)
    have hrunning₁ : s₁.running = true := hlooked.trans hrunning
    have hself := look_spliced valid timeless h hlook hv
    obtain ⟨u, hrest, hslept, hagain⟩ := rest_slept timeless hself.surface.inner (.upTo delay a) v.began
    have hround : round (.upTo delay a) s = .ok () (s₁.slept u) := by
      rw [round, bind_of_ok hlook]
      exact hrest
    refine .inr ⟨s₁, u, hrunning₁, hself, hslept, hagain, hround, Prod.ext hframe.1 ?_, Prod.ext hframe'.1 ?_⟩
    · split
      · next hlast => exact hframe.2.ends (.inl ((stops_upTo_iff hv _ _ _).2 (by omega)))
      · next hlater =>
        rw [hframe.2.goesOn (fun hstops => hlater ?_) hrunning₁]
        · exact hrest
        · have hle := (stops_upTo_iff hv _ _ _).1 hstops
          omega
    · rw [hframe'.2.goesOn (fun hstops => ?_) hrunning₁]
      · exact hrest
      · have hle := (stops_upTo_iff hv _ _ _).1 hstops
        omega

/-- How frames up to `a` and frames up to `a + b` end that begin with the same scene. -/
inductive Parted (S : Settings) (T : List GlyphTable) (R : σ → σ → Prop) (delay : τ) (a b most left : Nat)
    (s : Scene ρ (WatchedSurface σ)) :
    (ended ended' : Nat × EStateM.Result Fault (Scene ρ (WatchedSurface σ)) Unit) → Prop where
  /-- A fault comes in one of the frames left, before the former end. -/
  | early {ended : Nat × EStateM.Result Fault (Scene ρ (WatchedSurface σ)) Unit} (k : Nat) (within : k ≤ left)
      (blind : s.sees (.upTo delay a) k = none) : Parted S T R delay a b most left s ended ended
  /-- In the last of these the one run ends, where the other one sleeps and goes on. -/
  | apart {s₁ : Scene ρ (WatchedSurface σ)} {u : σ} (running : s₁.running = true)
      (self : s₁.Spliced S T R [] [] s₁) (slept : R u s₁.surface.inner) :
      Parted S T R delay a b most left s (a, .ok () { s₁ with running := false })
        (frames (.upTo delay (a + b : Nat)) most a (s₁.slept u))

theorem frames_parted {delay : τ} {a b : Nat} (hb : 1 ≤ b) (most most' left : Nat) {t : Nat}
    (ht : t + left + 1 = a) (h : s.Spliced S T R [] [] s) (hrunning : s.running = true)
    (hkeys : ∀ k ≤ left, ∀ v, s.sees (.upTo delay a) k = some v → v.Harmless) :
    Parted S T R delay a b most' left s (frames (.upTo delay a) (left + 1 + most) t s)
      (frames (.upTo delay (a + b : Nat)) (left + 1 + most') t s) := by
  induction left generalizing t s with
  | zero =>
    rw [Nat.zero_add, Nat.add_comm 1, Nat.add_comm 1, frames, frames]
    obtain ⟨ticks, e, s₁, hblind, hframe, hframe'⟩ | ⟨s₁, u, hrunning₁, hself, hslept, -, -, hframe, hframe'⟩ :=
      frame_parts valid timeless hb (Nat.le_of_eq ht) h hrunning (hkeys 0 (Nat.le_refl 0))
    · rw [hframe, hframe']
      exact .early 0 (Nat.le_refl 0) hblind
    · obtain rfl : t + 1 = a := ht
      rw [hframe, hframe', if_pos rfl]
      dsimp only
      rw [if_neg Bool.false_ne_true, if_pos (show (s₁.slept u).running = true from hrunning₁)]
      exact .apart hrunning₁ hself hslept
  | succ left ih =>
    rw [Nat.add_right_comm (left + 1) 1, Nat.add_right_comm (left + 1) 1, frames, frames]
    obtain ⟨ticks, e, s₁, hblind, hframe, hframe'⟩ | ⟨s₁, u, hrunning₁, hself, -, hagain, hround, hframe, hframe'⟩ :=
      frame_parts valid timeless hb (show t + 1 ≤ a by omega) h hrunning (hkeys 0 (Nat.zero_le _))
    · rw [hframe, hframe']
      exact .early 0 (Nat.zero_le _) hblind
    · have hself' : (s₁.slept u).Spliced S T R [] [] (s₁.slept u) :=
        { hself with surface := ⟨hagain, _, (List.append_nil _).symm, (List.append_nil _).symm⟩ }
      have hgoes : (s₁.slept u).running = true := hrunning₁
      have hsees := sees_succ hround
      rw [hframe, hframe', if_neg (by omega)]
      dsimp only
      rw [if_pos hgoes, if_pos hgoes]
      have hlater := ih (t := t + 1) (by omega) hself' hgoes fun k hk v hv =>
        hkeys (k + 1) (by omega) v ((hsees k).trans hv)
      generalize frames (.upTo delay a) (left + 1 + most) (t + 1) (s₁.slept u) = ended at hlater ⊢
      generalize frames (.upTo delay (a + b : Nat)) (left + 1 + most') (t + 1) (s₁.slept u) = ended' at hlater ⊢
      cases hlater with
      | early k within blind => exact .early (k + 1) (by omega) ((hsees k).trans blind)
      | apart running self slept => exact .apart running self slept

/-! ## Enough frames -/

omit valid timeless in
theorem frame_running {delay : τ} {b t ticks : Nat} {s₁ : Scene ρ (WatchedSurface σ)}
    (hframe : frame (.upTo delay b) t s = (ticks, .ok () s₁)) (hrunning : s₁.running = true) :
    ticks = t + 1 ∧ t + 1 < b := by
  have hlook := frame_of_look (.upTo delay b) t s
  rw [hframe] at hlook
  split at hlook
  · next v s₂ hlooked =>
    obtain ⟨hcount, hdecides⟩ := hlook
    refine ⟨hcount, ?_⟩
    by_contra hle
    have hstops : v.Stops (.upTo delay b) (t + 1) := .inr (.inr ⟨b, rfl, by omega⟩)
    have hended := hdecides.ends (.inl hstops)
    injection hended with _ hscene
    rw [hscene] at hrunning
    exact Bool.false_ne_true hrunning
  · cases hlook

omit valid timeless in
theorem frames_enough {delay : τ} {b t n : Nat} (ht : t < b) (hn : b ≤ t + n) (more : Nat) :
    frames (.upTo delay b) (n + more) t s = frames (.upTo delay b) n t s ∧
      ∀ ticks s', frames (.upTo delay b) n t s = (ticks, .ok () s') → s'.running = false := by
  induction n generalizing t s with
  | zero => omega
  | succ n ih =>
    rw [Nat.add_right_comm n 1, frames, frames]
    cases hframe : frame (.upTo delay b) t s with
    | mk ticks r =>
      cases r with
      | error e s₁ =>
        refine ⟨rfl, fun ticks' s' heq => ?_⟩
        cases heq
      | ok _ s₁ =>
        dsimp only
        split
        · next hrunning =>
          obtain ⟨rfl, hbefore⟩ := frame_running hframe hrunning
          exact ih hbefore (by omega)
        · next hended =>
          refine ⟨rfl, fun ticks' s' heq => ?_⟩
          cases heq
          exact Bool.not_eq_true _ ▸ hended

/-! ## Runs -/

/-- What is made of the way in which frames end. -/
def finish (ended : Nat × EStateM.Result Fault (Scene ρ (WatchedSurface σ)) Unit) :
    EStateM.Result Fault (Scene ρ (WatchedSurface σ)) (Option Nat) :=
  match ended with
  | (ticks, .ok () s) => if s.running then .ok none s else (do close; return some ticks : Act _ _) s
  | (ticks, .error (.interrupt _) s) => (do close; return some ticks : Act _ _) s
  | (_, .error e s) => (do close; Act.fail e : Act _ _) s

omit valid timeless in
theorem run_upTo {pace : Pace τ} (hrate : (pace.rate == 0) = false) (htimeout : pace.timeout = none) (b most : Nat)
    (s : Scene ρ (WatchedSurface σ)) :
    run pace (some b) most s = finish (frames (.upTo (1 / pace.rate) b) most 0 { s with running := true }) := by
  obtain ⟨rate, timeout⟩ := pace
  obtain rfl : timeout = none := htimeout
  rw [run_eq hrate]
  change _ = finish (frames (planned ⟨rate, none⟩ (some (b : Int)) s) most 0 (started ⟨rate, none⟩ s))
  generalize frames (planned ⟨rate, none⟩ (some (b : Int)) s) most 0 (started ⟨rate, none⟩ s) = ended
  obtain ⟨ticks, r⟩ := ended
  cases r with
  | ok _ s => rfl
  | error e s => cases e <;> rfl

omit valid timeless in
theorem run_enough {pace : Pace τ} (hrate : (pace.rate == 0) = false) (htimeout : pace.timeout = none) {b most : Nat}
    (hb : 1 ≤ b) (hmost : b ≤ most) (s : Scene ρ (WatchedSurface σ)) :
    run pace (some b) most s = run pace (some b) b s := by
  obtain ⟨more, rfl⟩ := Nat.exists_eq_add_of_le hmost
  rw [run_upTo hrate htimeout, run_upTo hrate htimeout, (frames_enough hb (by omega) more).1]

omit valid in
theorem close_spliced (h : s.Spliced S T R old old' s') :
    Alike (fun _ _ => True) (Spliced S T R old old') (close s) (close s') := by
  have hstopped : Spliced S T R old old' { s with running := false } { s' with running := false } :=
    { h with running := rfl }
  exact Correspondence.onSurface_coupled hstopped
    (hstopped.surface.watching .restore (timeless.restore_both hstopped.surface.inner))

omit valid in
theorem finish_spliced {a : Nat} {ended ended' : Nat × EStateM.Result Fault (Scene ρ (WatchedSurface σ)) Unit}
    (h : EndSpliced S T R old old' a ended ended')
    (hended : ∀ ticks s', ended = (ticks, .ok () s') → s'.running = false) :
    Alike (fun k k' => ∃ n : Nat, k = some n ∧ k' = some (a + n)) (Spliced S T R old old') (finish ended)
      (finish ended') := by
  obtain ⟨ticks, r⟩ := ended
  obtain ⟨ticks', r'⟩ := ended'
  obtain ⟨hcount, hr⟩ := h
  obtain rfl : ticks' = a + ticks := hcount
  have hclosed {s s' : Scene ρ (WatchedSurface σ)} (h : s.Spliced S T R old old' s') :
      Alike (fun k k' => ∃ n : Nat, k = some n ∧ k' = some (a + n)) (Spliced S T R old old')
        ((do close; return some ticks : Act _ (Option Nat)) s)
        ((do close; return some (a + ticks) : Act _ (Option Nat)) s') :=
    (close_spliced timeless h).bind fun _ _ _ _ _ h => ⟨⟨ticks, rfl, rfl⟩, h⟩
  cases r with
  | ok _ s =>
    cases r' with
    | error e s' => exact hr.elim
    | ok _ s' =>
      obtain ⟨-, h⟩ := hr
      have hstopped : s.running = false := hended ticks s rfl
      simp only [finish, ← h.running, hstopped, Bool.false_eq_true, reduceIte]
      exact hclosed h
  | error e s =>
    cases r' with
    | ok _ s' => exact hr.elim
    | error e' s' =>
      obtain ⟨rfl, h⟩ := hr
      cases e with
      | interrupt details => exact hclosed h
      | _ => exact (close_spliced timeless h).bind fun _ _ _ _ _ h => ⟨rfl, h⟩

/-! ## Two parts -/

omit valid timeless in
/--
The scenes that the second part and the single run leave differ in their clocks at most. The log of the one has a
restore where that of the other has a sleep.
-/
structure Continued (R : σ → σ → Prop) (older : List Sight) (s s' : Scene ρ (WatchedSurface σ)) : Prop where
  scene : { s with surface := s'.surface } = s'
  surface : R s.surface.inner s'.surface.inner
  log : ∃ later, s.surface.log = later ++ ⟨.restore, none⟩ :: older ∧
    s'.surface.log = later ++ ⟨.sleep, none⟩ :: older

theorem run_parted {pace : Pace τ} (hrate : (pace.rate == 0) = false) (htimeout : pace.timeout = none) {a b : Nat}
    (ha : 1 ≤ a) (hb : 1 ≤ b) (h : s.Spliced S T R [] [] s)
    (hkeys : ∀ k < a, ∀ v, (s.started pace).sees (s.planned pace (some (a : Int))) k = some v → v.Harmless)
    {m₁ m₂ m : Nat} (hm₁ : a ≤ m₁) (hm₂ : b ≤ m₂) (hm : a + b ≤ m) :
    ((∃ k < a, (s.started pace).sees (s.planned pace (some (a : Int))) k = none) ∧
      run pace (some (a : Int)) m₁ s = run pace (some ((a + b : Nat) : Int)) m s) ∨
    ∃ s₁ older, run pace (some (a : Int)) m₁ s = .ok (some a) s₁ ∧ s₁.surface.log = ⟨.restore, none⟩ :: older ∧
      Alike (fun k k' => ∃ n : Nat, k = some n ∧ k' = some (a + n)) (Continued R older)
        (run pace (some (b : Int)) m₂ s₁) (run pace (some ((a + b : Nat) : Int)) m s) := by
  have hstarted : s.started pace = { s with running := true } := by
    rw [started, htimeout]
    rfl
  have hplanned : s.planned pace (some (a : Int)) = .upTo (1 / pace.rate) a := by
    rw [planned, htimeout]
    rfl
  rw [hstarted, hplanned] at hkeys ⊢
  rw [run_enough hrate htimeout ha hm₁, run_enough hrate htimeout (Nat.le_add_right_of_le ha) hm,
    run_upTo hrate htimeout, run_upTo hrate htimeout]
  have hself : Spliced S T R [] [] { s with running := true } { s with running := true } := { h with running := rfl }
  obtain ⟨left, rfl⟩ := Nat.exists_eq_add_of_le' ha
  have hparted := frames_parted valid timeless hb 0 b left (t := 0) (by omega) hself rfl
    fun k hk => hkeys k (by omega)
  rw [Nat.add_zero] at hparted
  generalize frames (.upTo (1 / pace.rate) ((left + 1 : Nat) : Int)) (left + 1) 0 { s with running := true } = ended
    at hparted ⊢
  generalize frames (.upTo (1 / pace.rate) ((left + 1 + b : Nat) : Int)) (left + 1 + b) 0 { s with running := true } =
    ended' at hparted ⊢
  cases hparted with
  | early k within blind => exact .inl ⟨⟨k, by omega, blind⟩, rfl⟩
  | @apart s₁ u running self slept =>
    obtain ⟨u', hrestored, hR⟩ := timeless.restore _ _ (timeless.symm _ _ slept)
    let s₂ : Scene ρ (WatchedSurface σ) :=
      { s₁ with running := false, surface := ⟨u', ⟨.restore, none⟩ :: s₁.surface.log⟩ }
    have hclosed : close { s₁ with running := false } = .ok () s₂ := by
      have hwatched : WatchedSurface.watching .restore Surface.restore s₁.surface =
          .ok () ⟨u', ⟨.restore, none⟩ :: s₁.surface.log⟩ := by
        rw [WatchedSurface.watching, hrestored]
      change onSurface (WatchedSurface.watching .restore Surface.restore) { s₁ with running := false } = _
      exact on_of_ok hwatched
    have hspliced : Spliced S T R (⟨.restore, none⟩ :: s₁.surface.log) (⟨.sleep, none⟩ :: s₁.surface.log)
        { s₂ with running := true } (s₁.slept u) :=
      { self with running := running.symm, surface := ⟨hR, [], rfl, rfl⟩ }
    have hends := frames_spliced valid timeless hspliced (1 / pace.rate) (left + 1) b 0 b
    have halike := finish_spliced timeless hends (frames_enough hb (by omega) 0).2
    refine .inr ⟨s₂, s₁.surface.log, ?_, rfl, ?_⟩
    · change (do close; return some (left + 1) : Act (Scene ρ (WatchedSurface σ)) (Option Nat)) _ = _
      rw [bind_of_ok hclosed]
      rfl
    · rw [run_enough hrate htimeout hb hm₂, run_upTo hrate htimeout]
      refine halike.mono (fun _ _ hk => hk) fun s s' h => ?_
      have hbeside := h.toTwin.beside h.running
      exact ⟨hbeside.scene, hbeside.surface.inner, hbeside.surface.log⟩

omit valid timeless in
/-- A run for `a` ticks and then one for `b` ticks, all with frames enough, against a single run for both. -/
structure Splits (R : σ → σ → Prop) (pace : Pace τ) (a b m₁ m₂ m : Nat) (s : Scene ρ (WatchedSurface σ)) : Prop where
  /-- A fault comes in the first part, or that runs all its ticks, and the second one ends as the single run does. -/
  parts :
    ((∃ k < a, (s.started pace).sees (s.planned pace (some (a : Int))) k = none) ∧
      run pace (some (a : Int)) m₁ s = run pace (some ((a + b : Nat) : Int)) m s) ∨
    ∃ s₁ older, run pace (some (a : Int)) m₁ s = .ok (some a) s₁ ∧ s₁.surface.log = ⟨.restore, none⟩ :: older ∧
      Alike (fun k k' => ∃ n : Nat, k = some n ∧ k' = some (a + n)) (Continued R older)
        (run pace (some (b : Int)) m₂ s₁) (run pace (some ((a + b : Nat) : Int)) m s)
  /-- On a screen with cells all of the runs return. -/
  cells : ∀ I : σ → Prop, Surface.Roomy (fun _ => False) I → I s.surface.inner → s.Framed s.settings →
    ∃ s₁ s₂ s' older n, run pace (some (a : Int)) m₁ s = .ok (some a) s₁ ∧
      s₁.surface.log = ⟨.restore, none⟩ :: older ∧ run pace (some (b : Int)) m₂ s₁ = .ok (some n) s₂ ∧
      run pace (some ((a + b : Nat) : Int)) m s = .ok (some (a + n)) s' ∧ Continued R older s₂ s'

omit valid timeless in
theorem watched_lasting {I : σ → Prop} (room : Surface.Roomy (fun _ => False) I) :
    Lasting S (fun _ => False) (Recorded (ρ := ρ) S I fun _ => True) :=
  recorded_lasting room ⟨fun _ _ _ _ _ => trivial, fun _ _ _ _ => trivial, fun _ _ _ _ _ => trivial,
    fun _ _ _ _ => trivial⟩

end Scene

open Scene

theorem Scene.spliced_self {s : Scene ρ (WatchedSurface σ)} (h : R s.surface.inner s.surface.inner)
    (htables : ∀ p ∈ s.pipes, p.glyphs ∈ s.tables) : s.Spliced s.settings s.tables R [] [] s :=
  have hlog : s.surface.log = s.surface.log ++ [] := (List.append_nil _).symm
  ⟨⟨rfl, rfl, rfl, rfl, rfl, Pipe.twins_self htables, rfl, rfl, rfl, h, s.surface.log, hlog, hlog⟩, rfl⟩

theorem Scene.create_glyphs {S : Settings} (valid : S.Valid) {g : ρ} {t : σ} {s : Scene ρ σ}
    (h : create S g t = .ok s) : ∀ p ∈ s.pipes, p.glyphs ∈ s.tables := by
  obtain ⟨T, hT, -⟩ := valid.tables
  have same : Surface.InStep Eq Eq (Eq : σ → σ → Prop) :=
    { size := fun t _ ht => ht ▸ ⟨rfl, rfl⟩
      put := fun t _ m _ ht hm => ht ▸ hm ▸ (alike_self _).mono (fun _ _ _ => trivial) fun _ _ ht => ht
      clear := fun t _ ht => ht ▸ rfl
      refresh := fun t _ ht => ht ▸ (alike_self _).mono (fun _ _ _ => trivial) fun _ _ ht => ht }
  obtain ⟨s', s'', hs', hs'', htwin⟩ | ⟨e, hfails, -⟩ :=
    (valid.corresponds rfl).create same.twins hT hT g (rfl : t = t)
  · cases h.symm.trans hs'
    cases h.symm.trans hs''
    intro p hp
    obtain ⟨-, -, -, k, hk, -⟩ := List.forall₂_same.1 htwin.pipes p hp
    rw [htwin.tables]
    exact List.mem_of_getElem? hk
  · cases h.symm.trans hfails

/--
With valid settings and no timeout, a run whose first `a` keys do not stop it goes on from there as a run that ends
after `a` ticks does when it is run again.
-/
theorem run_splits [Clock σ Float] {R : σ → σ → Prop} (timeless : Surface.Timeless R)
    {s : Scene ρ (WatchedSurface σ)} (valid : s.settings.Valid) (htimeout : s.settings.timeout = none)
    (htables : ∀ p ∈ s.pipes, p.glyphs ∈ s.tables) (hsurface : R s.surface.inner s.surface.inner) {a b : Nat}
    (ha : 1 ≤ a) (hb : 1 ≤ b)
    (hkeys : ∀ k < a, ∀ v, (s.started s.settings.pace).sees (s.planned s.settings.pace (some (a : Int))) k = some v →
      v.Harmless)
    {m₁ m₂ m : Nat} (hm₁ : a ≤ m₁) (hm₂ : b ≤ m₂) (hm : a + b ≤ m) : Splits R s.settings.pace a b m₁ m₂ m s := by
  have hrate : (s.settings.pace.rate == 0) = false :=
    Settings.beq_zero_of_isPositive ((Settings.valid_iff s.settings).1 valid).2.1
  have hparts := run_parted valid timeless hrate htimeout ha hb (spliced_self hsurface htables) hkeys hm₁ hm₂ hm
  refine ⟨hparts, fun I room h hframed => ?_⟩
  have lasting := watched_lasting (ρ := ρ) (S := s.settings) room
  have hs : Recorded s.settings I (fun _ => True) s := ⟨hframed, h, trivial⟩
  obtain ⟨⟨k, -, hblind⟩, -⟩ | ⟨s₁, older, hfirst, hlog, hlater⟩ := hparts
  · obtain ⟨v, hv⟩ := lasting.sees (lasting.enduring.framewise.started hs s.settings.pace)
      (s.planned s.settings.pace (some (a : Int))) k
    cases hv.symm.trans hblind
  · obtain ⟨_, s', hsingle, -⟩ := (lasting.run hs (.inr valid.delay) (some ((a + b : Nat) : Int)) m).exists_ok
    rw [hsingle] at hlater
    cases hsecond : run s.settings.pace (some (b : Int)) m₂ s₁ with
    | ok _ s₂ =>
      rw [hsecond] at hlater
      obtain ⟨⟨n, rfl, rfl⟩, hcontinued⟩ := hlater
      exact ⟨s₁, s₂, s', older, n, hfirst, hlog, hsecond, hsingle, hcontinued⟩
    | error e s₂ =>
      rw [hsecond] at hlater
      exact hlater.elim

/-- In the second frame the screen changes its size, and the fourth polls a key that stops the second part early. -/
theorem run_splits_resized :
    let S : Settings := { pipes := 2 }
    let g : Scripted := .ofLists [0.25, 0.75] [3, 1, 2]
    let script : Script Float := {
      width := 4, height := 3, keys := [-1, 410, -1, 113], sizes := [(2, 5)], time := 0, costs := fun _ => 1
      traps := [] }
    S.Valid ∧ script.Untrapped ∧ ∃ s : Scene Scripted (WatchedSurface (Script Float)),
      create S g ⟨script, []⟩ = .ok s ∧ s.Framed S ∧ Splits Script.SameButTime S.pace 2 3 2 3 5 s := by
  intro S g script
  have valid : S.Valid := by decide +kernel
  have huntrapped : script.Untrapped := rfl
  obtain ⟨s, hcreate, hframed, hsurface⟩ :=
    exists_create valid g (⟨script, []⟩ : WatchedSurface (Script Float)) (by decide) (by decide)
  have hself : s.surface.inner.SameButTime s.surface.inner := hsurface ▸ Script.sameButTime_self huntrapped
  have hpolled : (match create S g (⟨script, []⟩ : WatchedSurface (Script Float)) with
      | .ok s => (List.range 2).all fun k =>
          ((s.started S.pace).sees (s.planned S.pace (some (2 : Nat))) k).all fun v => decide v.Harmless
      | .error _ => false) = true := by decide +kernel
  rw [hcreate] at hpolled
  have hsplits := run_splits Script.timeless (s := s) (hframed.settings.symm ▸ valid) (hframed.settings.symm ▸ rfl)
    (create_glyphs valid hcreate) hself (a := 2) (b := 3) (by decide) (by decide) (fun k hk v hv => ?_)
    (Nat.le_refl 2) (Nat.le_refl 3) (Nat.le_refl 5)
  · rw [hframed.settings] at hsplits
    exact ⟨valid, huntrapped, s, hcreate, hframed, hsplits⟩
  · have hkey := List.all_eq_true.1 hpolled k (List.mem_range.2 hk)
    rw [hframed.settings] at hv
    rw [hv] at hkey
    exact of_decide_eq_true hkey

end Pipework
