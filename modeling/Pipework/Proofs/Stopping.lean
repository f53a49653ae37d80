import Pipework.Proofs.Faultless
import Pipework.Proofs.Transcript
import Pipework.Random.Scripted

/-!
# When runs stop

A run takes the course of its looks and rests until a frame stops it, and returns the number of that frame, the
first that does. Until then each frame is followed by one rest, and after it by none; so the transcript of a run
that returns `k` has `k` frames with a rest between any two (`Frames`), and ends when the surface is given back. A
run without a frame that stops it does not return. Only a frame that fails by itself keeps a run from its course,
and on a screen with cells none does.
-/

set_option linter.unusedSectionVars false

namespace Pipework

open Act

variable {ρ σ τ : Type} [Time τ]

/-! ## Frames in a row -/

/-- The transcript of frames that see `vs`, with a rest between any two. -/
inductive Frames (plan : Scene.Plan τ) : List (Seen τ) → List (Exchange τ) → Prop where
  | last {v : Seen τ} {l : List (Exchange τ)} (frame : v.Transcribed plan l) : Frames plan [v] l
  | next {v : Seen τ} {vs : List (Seen τ)} {l l' : List (Exchange τ)} (time : τ) (frame : v.Transcribed plan l)
      (rest : Frames plan vs l') :
      Frames plan (v :: vs)
        (l ++ [.clock time, .sleep (Time.positivePart (plan.delay - (time - v.began)))] ++ l')

namespace Frames

variable {plan : Scene.Plan τ} {vs : List (Seen τ)} {l : List (Exchange τ)}

/-- As many ticks and polls as frames, one sleep less, and as many readings of the size as resize keys. -/
theorem counts (h : Frames plan vs l) :
    (l.map Exchange.kind).count .refresh = vs.length ∧ (l.map Exchange.kind).count .poll = vs.length ∧
      (l.map Exchange.kind).count .sleep + 1 = vs.length ∧
      (l.map Exchange.kind).count .size = vs.countP fun v => v.key = Key.resize := by
  induction h with
  | @last v l frame =>
    obtain ⟨hrefresh, hpoll, hsleep, hsize⟩ := frame.counts
    refine ⟨hrefresh, hpoll, by rw [hsleep]; rfl, ?_⟩
    rw [hsize, List.countP_singleton]
    simp only [decide_eq_true_eq]
  | @next v vs l l' time frame rest ih =>
    obtain ⟨hrefresh, hpoll, hsleep, hsize⟩ := frame.counts
    obtain ⟨hrefresh', hpoll', hsleep', hsize'⟩ := ih
    simp only [List.map_append, List.count_append, hrefresh, hpoll, hsleep, hsize, hrefresh', hpoll', hsize',
      List.length_cons, List.countP_cons, decide_eq_true_eq]
    refine ⟨Nat.add_comm _ _, Nat.add_comm _ _, ?_, Nat.add_comm _ _⟩
    rw [← hsleep']
    exact congrArg (· + 1) (Nat.add_comm _ _)

theorem sleep_eq (h : Frames plan vs l) {d : τ} (hd : .sleep d ∈ l) : ∃ t, d = Time.positivePart t := by
  have hnone {v : Seen τ} {l : List (Exchange τ)} (frame : v.Transcribed plan l) : .sleep d ∉ l := by
    intro hmem
    have hcount : (l.map Exchange.kind).count .sleep = 0 := frame.counts.2.2.1
    exact List.count_eq_zero.1 hcount (List.mem_map_of_mem hmem)
  induction h with
  | last frame => exact absurd hd (hnone frame)
  | @next v vs l l' time frame rest ih =>
    rcases List.mem_append.1 hd with hd | hd
    · rcases List.mem_append.1 hd with hd | hd
      · exact absurd hd (hnone frame)
      · simp only [List.mem_cons, reduceCtorEq, Exchange.sleep.injEq, List.not_mem_nil, or_false, false_or] at hd
        exact ⟨_, hd⟩
    · exact ih hd

end Frames

namespace Scene

variable [RandomSource ρ] [Surface σ] [Clock σ τ] {plan : Plan τ} {ticks n : Nat}

/-! ## Frames of a run -/

/-- How at most `most` frames end that begin with `s` after `ticks` ticks. -/
inductive Outcome (plan : Plan τ) (I : σ → Prop) (ticks most : Nat) (s : Scene ρ (TranscribedSurface σ τ)) :
    Nat × EStateM.Result Fault (Scene ρ (TranscribedSurface σ τ)) Unit → Prop where
  /-- Frame `n + 1` is the first that stops the run. -/
  | stopped {n : Nat} {v : Seen τ} {vs : List (Seen τ)} {l : List (Exchange τ)}
      {s' : Scene ρ (TranscribedSurface σ τ)} (within : n < most) (passes : s.Passes plan ticks n)
      (seen : s.sees plan n = some v) (stops : v.Stops plan (ticks + n + 1)) (count : vs.length = n + 1)
      (saw : ∀ m ≤ n, s.sees plan m = vs[m]?) (frames : Frames plan vs l) (running : s'.running = false)
      (inner : I s'.surface.inner) (transcript : s'.surface.transcript = s.surface.transcript ++ l) :
      Outcome plan I ticks most s (ticks + n + 1, .ok () s')
  /-- No frame stops it. -/
  | goesOn {s' : Scene ρ (TranscribedSurface σ τ)} (passes : s.Passes plan ticks most) (running : s'.running = true) :
      Outcome plan I ticks most s (ticks + most, .ok () s')
  /-- Frame `n + 1` fails before any stops it. -/
  | failed {n counted : Nat} {e : Fault} {s' : Scene ρ (TranscribedSurface σ τ)} (within : n < most)
      (passes : s.Passes plan ticks n) (blind : s.sees plan n = none) (cut : CutShort I e s') :
      Outcome plan I ticks most s (counted, .error e s')

variable {I : σ → Prop} {s s₁ s' : Scene ρ (TranscribedSurface σ τ)} {most : Nat}

theorem Outcome.next {v : Seen τ} {l : List (Exchange τ)} {time : τ}
    {r : Nat × EStateM.Result Fault (Scene ρ (TranscribedSurface σ τ)) Unit}
    (hlook : look plan s = .ok v s₁) (hframe : v.Transcribed plan l) (hl : Wrote I l s s₁)
    (hstops : ¬ v.Stops plan (ticks + 1)) (hrest : rest plan v.began s₁ = .ok () s')
    (hl' : Wrote I [.clock time, .sleep (Time.positivePart (plan.delay - (time - v.began)))] s₁ s')
    (h : Outcome plan I (ticks + 1) most s' r) : Outcome plan I ticks (most + 1) s r := by
  have hround : round plan s = .ok () s' := by rw [round, bind_of_ok hlook, hrest]
  have hzero := sees_zero hlook
  cases h with
  | @stopped n v' vs l' s'' within passes seen stops count saw frames running inner transcript =>
    rw [show ticks + 1 + n + 1 = ticks + (n + 1) + 1 by omega] at stops ⊢
    refine .stopped (by omega) (passes.round hzero hstops hround) ((sees_succ hround n).trans seen)
      stops (by rw [List.length_cons, count]) (fun m hm => ?_) (.next time hframe frames) running inner ?_
    · cases m with
      | zero => exact hzero
      | succ m => exact (sees_succ hround m).trans (saw m (by omega))
    · rw [transcript, hl'.transcript, hl.transcript, List.append_assoc, List.append_assoc, List.append_assoc]
  | goesOn passes running =>
    rw [show ticks + 1 + most = ticks + (most + 1) by omega]
    exact .goesOn (passes.round hzero hstops hround) running
  | failed within passes blind cut =>
    exact .failed (by omega) (passes.round hzero hstops hround) ((sees_succ hround _).trans blind) cut

theorem frames_outcome (calm : Surface.Obliging I) (plan : Plan τ) (most ticks : Nat) (hrunning : s.running = true)
    (h : I s.surface.inner) : Outcome plan I ticks most s (frames plan most ticks s) := by
  induction most generalizing ticks s with
  | zero => exact .goesOn (passes_zero s) hrunning
  | succ most ih =>
    have hlook := look_wrote calm h plan
    have htaken := frames_succ plan ticks most hrunning
    generalize frames plan (most + 1) ticks s = r at htaken ⊢
    cases htaken with
    | blind looked =>
      rw [looked] at hlook
      exact .failed (Nat.succ_pos most) (passes_zero s) (by rw [sees, looked]) hlook
    | stopped looked stops =>
      rw [looked] at hlook
      obtain ⟨l, htranscribed, hl⟩ := hlook
      exact .stopped (n := 0) (Nat.succ_pos most) (passes_zero s) (sees_zero looked) stops rfl
        (fun m hm => by rw [Nat.le_zero.1 hm]; exact sees_zero looked) (.last htranscribed) rfl hl.inner hl.transcript
    | @restless v e s₁ s₂ looked passes rested =>
      -- on an obliging surface every rest succeeds
      rw [looked] at hlook
      obtain ⟨l, -, hl⟩ := hlook
      obtain ⟨time, s₃, hrest, -⟩ := rest_wrote calm hl.inner plan v.began
      cases hrest.symm.trans rested
    | @next v s₁ s₂ looked passes rested running =>
      rw [looked] at hlook
      obtain ⟨l, htranscribed, hl⟩ := hlook
      obtain ⟨time, s₃, hrest, hl'⟩ := rest_wrote calm hl.inner plan v.began
      cases rested.symm.trans hrest
      exact Outcome.next looked htranscribed hl passes rested hl' (ih (ticks + 1) running hl'.inner)

/-! ## Runs -/

/-- If a frame sees nothing, then the run has met a fault, and no later frame sees anything. -/
theorem sees_none_of_le {m : Nat} (h : s.sees plan n = none) (hle : n ≤ m) : s.sees plan m = none := by
  induction n generalizing m s with
  | zero =>
    rw [sees] at h
    cases hlook : look plan s with
    | ok v s' =>
      rw [hlook] at h
      cases h
    | error e s' =>
      cases m with
      | zero => rw [sees, hlook]
      | succ m => rw [sees, round, bind_of_error hlook]
  | succ n ih =>
    obtain ⟨m, rfl⟩ : ∃ k, m = k + 1 := ⟨m - 1, by omega⟩
    -- if the first round fails, both are blind; otherwise they see what comes after it
    rw [sees] at h ⊢
    cases hround : round plan s with
    | ok _ s' =>
      rw [hround] at h
      exact ih h (by omega)
    | error e s' => rfl

theorem close_wrote (calm : Surface.Obliging I) (h : I s.surface.inner) :
    ∃ s', close s = .ok () s' ∧ s'.surface.transcript = s.surface.transcript ++ [.restore] := by
  have hrestore : Ends (fun _ s' => Wrote I [.restore] { s with running := false } s') (fun _ _ => False)
      (onSurface Surface.restore { s with running := false }) := wrote_writing (calm.restore _ h)
  obtain ⟨_, s', hclose, hs'⟩ := hrestore.exists_ok
  exact ⟨s', hclose, hs'.transcript⟩

theorem close_fails (calm : Surface.Obliging I) (h : I s.surface.inner) (e : Fault) :
    ∃ s', (do close; Act.fail e : Act (Scene ρ (TranscribedSurface σ τ)) (Option Nat)) s = .error e s' := by
  obtain ⟨s', hclose, -⟩ := close_wrote calm h
  exact ⟨s', by rw [bind_of_ok hclose]; rfl⟩

/-- How a run ends that is given at most `most` frames, the first of which begins with `s`. -/
inductive RunOutcome (plan : Plan τ) (most : Nat) (s : Scene ρ (TranscribedSurface σ τ)) :
    EStateM.Result Fault (Scene ρ (TranscribedSurface σ τ)) (Option Nat) → Prop where
  | returned {n : Nat} {vs : List (Seen τ)} {l : List (Exchange τ)} {s' : Scene ρ (TranscribedSurface σ τ)}
      (within : n < most) (least : IsLeast {k | s.StopsAt plan k} (n + 1)) (count : vs.length = n + 1)
      (saw : ∀ m ≤ n, s.sees plan m = vs[m]?) (frames : Frames plan vs l)
      (transcript : s'.surface.transcript = s.surface.transcript ++ l ++ [.restore]) :
      RunOutcome plan most s (.ok (some (n + 1)) s')
  | goesOn {s' : Scene ρ (TranscribedSurface σ τ)} (passes : s.Passes plan 0 most) :
      RunOutcome plan most s (.ok none s')
  | failed {n : Nat} {e : Fault} {s' : Scene ρ (TranscribedSurface σ τ)} (within : n < most)
      (passes : s.Passes plan 0 n) (blind : s.sees plan n = none) (own : e.IsOwn) :
      RunOutcome plan most s (.error e s')

theorem run_outcome (calm : Surface.Obliging I) (h : I s.surface.inner) {pace : Pace τ}
    (hrate : (pace.rate == 0) = false) (maxTicks : Option Int) (most : Nat) :
    RunOutcome (s.planned pace maxTicks) most (s.started pace) (run pace maxTicks most s) := by
  have hstarted : I (s.started pace).surface.inner := by
    unfold started
    split
    · exact calm.now _ h
    · exact h
  have hframes := frames_outcome calm (s.planned pace maxTicks) most 0 (s := s.started pace) rfl hstarted
  rw [run_eq hrate]
  generalize frames (s.planned pace maxTicks) most 0 (s.started pace) = framed at hframes ⊢
  cases hframes with
  | @stopped n v vs l s' within passes seen stops count saw frames running inner transcript =>
    obtain ⟨s'', hclose, hwrote⟩ := close_wrote calm inner
    have hstops : (s.started pace).StopsAt (s.planned pace maxTicks) (n + 1) := by
      rw [Nat.zero_add] at stops
      exact ⟨n, v, rfl, seen, stops⟩
    dsimp only
    rw [if_neg (by rw [running]; decide), bind_of_ok hclose, Nat.zero_add]
    exact .returned within (passes.isLeast hstops) count saw frames (by rw [hwrote, transcript])
  | goesOn passes running =>
    dsimp only
    rw [if_pos running]
    exact .goesOn passes
  | @failed n counted e s' within passes blind cut =>
    obtain ⟨s'', hfail⟩ := close_fails calm cut.2 e
    have hrun : RunOutcome (s.planned pace maxTicks) most (s.started pace)
        ((do close; Act.fail e : Act (Scene ρ (TranscribedSurface σ τ)) (Option Nat)) s') := by
      rw [hfail]
      exact .failed within passes blind cut.1
    -- an interrupt would end the run quietly, but no fault of its own is one
    cases e with
    | interrupt message => exact cut.1.elim
    | _ => exact hrun

end Scene

/-! ## Screens with cells -/

section Cells

variable [RandomSource ρ] [Surface σ] [Clock σ τ] {F : Fault → Prop} {S : Settings} {P : Scene ρ σ → Prop} {s : Scene ρ σ}

namespace Scene.Lasting

theorem look (h : Lasting S F P) (hs : P s) (plan : Plan τ) : Keeps F P (look plan s) := by
  rw [Scene.look]
  refine (show Keeps F P (readClock s) from h.now s hs).bind fun began s hs => ?_
  refine (h.tick hs).bind fun _ s hs => (h.poll s hs).bind fun key s hs => ?_
  have hresize : Keeps F P (resizeOn key s) := by
    unfold resizeOn
    split
    · exact h.resize hs
    · exact hs
  refine hresize.bind fun _ s hs => ?_
  have hclock : Keeps F P (lookAtClock plan s) := by
    unfold lookAtClock
    cases plan.deadline with
    | none => exact hs
    | some deadline => exact h.now s hs
  exact hclock.bind fun time s hs => hs

theorem round (h : Lasting S F P) (hs : P s) (plan : Plan τ) : Keeps F P (round plan s) := by
  refine (h.look hs plan).bind fun v s hs => ?_
  exact (show Keeps F P (readClock s) from h.now s hs).bind fun time s hs => h.sleep s _ hs

theorem sees (h : Lasting S (fun _ => False) P) (hs : P s) (plan : Plan τ) (n : Nat) :
    ∃ v, s.sees plan n = some v := by
  induction n generalizing s with
  | zero =>
    obtain ⟨v, s', hlook, -⟩ := (h.look hs plan).exists_ok
    exact ⟨v, sees_zero hlook⟩
  | succ n ih =>
    obtain ⟨_, s', hround, hs'⟩ := (h.round hs plan).exists_ok
    obtain ⟨v, hv⟩ := ih hs'
    exact ⟨v, (sees_succ hround n).trans hv⟩

end Scene.Lasting

end Cells

theorem Script.untrapped_obliging : Surface.Obliging (Script.Untrapped (τ := τ)) where
  size _ h := h
  put t mark h := by
    change Keeps _ _ (Script.meet .put t)
    rw [h.meet .put]
    exact h
  clear _ h := h
  refresh _ h := h.refresh
  poll _ h := h.poll
  restore _ h := h
  now _ h := h
  sleep _ d h := h.sleep d

/-! ## The stop rule -/

namespace Scene

variable [RandomSource ρ] [Surface σ]

/-- The transcript `l` of the frames of a run that saw `vs`, one after another, and returned. -/
structure Returned (plan : Plan Float) (first : Scene ρ (TranscribedSurface σ Float)) [Clock σ Float]
    (vs : List (Seen Float)) (l : List (Exchange Float)) (s' : Scene ρ (TranscribedSurface σ Float)) : Prop where
  saw : ∀ m < vs.length, first.sees plan m = vs[m]?
  frames : Frames plan vs l
  transcript : s'.surface.transcript = first.surface.transcript ++ l ++ [.restore]
  ticks : (l.map Exchange.kind).count .refresh = vs.length
  polls : (l.map Exchange.kind).count .poll = vs.length
  sleeps : (l.map Exchange.kind).count .sleep + 1 = vs.length
  /-- Within a run, only a resize reads the size. -/
  resizes : (l.map Exchange.kind).count .size = vs.countP fun v => v.key = Key.resize
  durations : ∀ d, .sleep d ∈ l → d.isNaN = false ∧ 0 ≤ d

/-- How a run of at most `most` frames ends. -/
structure StopRule [Clock σ Float] (maxTicks : Option Int) (most : Nat) (s : Scene ρ (TranscribedSurface σ Float))
    (plan : Plan Float) (first : Scene ρ (TranscribedSurface σ Float)) : Prop where
  returns : ∀ k, (∃ s', run s.settings.pace maxTicks most s = .ok (some k) s') ↔
    IsLeast {k | first.StopsAt plan k} k ∧ k ≤ most
  returned : ∀ k s', run s.settings.pace maxTicks most s = .ok (some k) s' →
    ∃ vs l, vs.length = k ∧ Returned plan first vs l s'
  goesOn : ∀ s', run s.settings.pace maxTicks most s = .ok none s' → first.Passes plan 0 most
  /-- A run fails only if a frame does so by itself, and no frame before it has stopped the run. -/
  failed : ∀ e s', run s.settings.pace maxTicks most s = .error e s' →
    e.IsOwn ∧ ∃ n < most, first.sees plan n = none ∧ first.Passes plan 0 n
  /-- On a screen with cells no frame fails. -/
  cells : ∀ I : σ → Prop, Surface.Roomy (fun _ => False) I → I s.surface.inner → s.Framed s.settings →
    ∀ n, ∃ v, first.sees plan n = some v

variable [Clock σ Float] {I : σ → Prop} {s : Scene ρ (TranscribedSurface σ Float)}

theorem returns_iff {plan : Plan Float} {first : Scene ρ (TranscribedSurface σ Float)} {most k : Nat}
    {r : EStateM.Result Fault (Scene ρ (TranscribedSurface σ Float)) (Option Nat)}
    (h : RunOutcome plan most first r) :
    (∃ s', r = .ok (some k) s') ↔ IsLeast {k | first.StopsAt plan k} k ∧ k ≤ most := by
  cases h with
  | returned within least count saw frames transcript =>
    constructor
    · rintro ⟨s', hr⟩
      cases hr
      exact ⟨least, within⟩
    · rintro ⟨hleast, -⟩
      rw [hleast.unique least]
      exact ⟨_, rfl⟩
  | goesOn passes =>
    refine ⟨fun ⟨s', hr⟩ => (by cases hr), ?_⟩
    rintro ⟨⟨hstops, -⟩, hle⟩
    exact absurd hstops (passes.not_stopsAt hle)
  | @failed n e s' within passes blind own =>
    refine ⟨fun ⟨s', hr⟩ => (by cases hr), ?_⟩
    rintro ⟨⟨hstops, -⟩, -⟩
    by_cases hk : k ≤ n
    · exact absurd hstops (passes.not_stopsAt hk)
    · -- from the frame that failed on, nothing is seen
      obtain ⟨m, v, rfl, hv, -⟩ := hstops
      rw [sees_none_of_le blind (by omega)] at hv
      cases hv

/--
With valid settings and no faults of its surroundings, a run returns the number of the first frame that stops it,
and fails only if a frame does.
-/
theorem run_stop_rule (calm : Surface.Obliging I) (valid : s.settings.Valid) (h : I s.surface.inner)
    (maxTicks : Option Int) (most : Nat) :
    StopRule maxTicks most s (s.planned s.settings.pace maxTicks) (s.started s.settings.pace) := by
  have hrate : (s.settings.pace.rate == 0) = false :=
    Settings.beq_zero_of_isPositive ((Settings.valid_iff s.settings).1 valid).2.1
  have hrun := run_outcome calm h hrate maxTicks most
  refine { returns := fun k => returns_iff hrun, returned := ?_, goesOn := ?_, failed := ?_, cells := ?_ }
  · intro k s' hr
    rw [hr] at hrun
    cases hrun with
    | @returned n vs l s' within least count saw frames transcript =>
      obtain ⟨hticks, hpolls, hsleeps, hresizes⟩ := frames.counts
      refine ⟨vs, l, count, fun m hm => saw m (by omega), frames, transcript, hticks, hpolls, hsleeps, hresizes, ?_⟩
      intro d hd
      obtain ⟨t, rfl⟩ := frames.sleep_eq hd
      exact Time.positivePart_nonneg t
  · intro s' hr
    rw [hr] at hrun
    cases hrun with
    | goesOn passes => exact passes
  · intro e s' hr
    rw [hr] at hrun
    cases hrun with
    | failed within passes blind own => exact ⟨own, _, within, blind, passes⟩
  · intro I' room h' hframed n
    have hstarted : (s.started s.settings.pace).Framed s.settings ∧ I' (s.started s.settings.pace).surface.inner := by
      unfold started
      split
      · exact ⟨hframed.elsewhere, room.now _ h'⟩
      · exact ⟨hframed.elsewhere, h'⟩
    exact (roomy_lasting room.transcribed).sees hstarted _ n

theorem create_transcribed {S : Settings} (calm : Surface.Obliging I) (valid : S.Valid) (source : ρ) {t : σ} (h : I t)
    (hw : 1 ≤ (Surface.size t).1.1) (hh : 1 ≤ (Surface.size t).1.2) :
    ∃ s : Scene ρ (TranscribedSurface σ Float), create S source ⟨t, []⟩ = .ok s ∧ s.Framed S ∧ I s.surface.inner := by
  obtain ⟨tables, pipes, g, hcreate, hframed⟩ :=
    create_eq valid source (⟨t, []⟩ : TranscribedSurface σ Float) hw hh
  exact ⟨_, hcreate, hframed, calm.size t h⟩

/-- Two pipes, a resize in the second frame, and a key that stops the run in the third. -/
theorem run_stop_rule_resized :
    let S : Settings := { pipes := 2, timeout := some 5 }
    let script : Script Float := {
      width := 4, height := 3, keys := [-1, 410, 113], sizes := [(2, 5)], time := 0, costs := fun _ => 1, traps := [] }
    S.Valid ∧ script.Untrapped ∧ ∃ s : Scene Scripted (TranscribedSurface (Script Float) Float),
      create S (.ofLists [0.25, 0.75] [3, 1, 2]) ⟨script, []⟩ = .ok s ∧ s.Framed S ∧
        StopRule (some 7) 10 s (s.planned S.pace (some 7)) (s.started S.pace) := by
  intro S script
  have valid : S.Valid := by decide +kernel
  have huntrapped : script.Untrapped := rfl
  have hwidth : 1 ≤ (Surface.size script).1.1 := by decide
  have hheight : 1 ≤ (Surface.size script).1.2 := by decide
  obtain ⟨s, hcreate, hframed, h⟩ := create_transcribed Script.untrapped_obliging valid
    (Scripted.ofLists [0.25, 0.75] [3, 1, 2]) huntrapped hwidth hheight
  have hrule := run_stop_rule Script.untrapped_obliging (hframed.settings.symm ▸ valid) h (some 7) 10
  rw [hframed.settings] at hrule
  exact ⟨valid, huntrapped, s, hcreate, hframed, hrule⟩

/-- On a screen without cells the first tick of a pipe that wraps fails, so a run for one tick never returns. -/
theorem run_raises_without_cells :
    let S : Settings := {}
    let script : Script Float := {
      width := 0, height := 0, keys := [], sizes := [], time := 0, costs := fun _ => 0, traps := [] }
    S.Valid ∧ script.Untrapped ∧ IsLeast {k : Nat | 1 ≤ k ∧ (1 : Int) ≤ k} 1 ∧
      ∃ s : Scene Scripted (Script Float), create S (.ofLists [] []) script = .ok s ∧
        (∀ most k s', run S.pace (some 1) most s ≠ .ok (some k) s') ∧
        ∀ most, ∃ s', run S.pace (some 1) (most + 1) s = .error .zeroModulus s' := by
  intro S script
  have valid : S.Valid := by decide +kernel
  have hrate : (S.pace.rate == 0) = false := by decide +kernel
  have hleast : IsLeast {k : Nat | 1 ≤ k ∧ (1 : Int) ≤ k} 1 := ⟨⟨Nat.le_refl 1, Int.le_refl 1⟩, fun _ hk => hk.1⟩
  have hraises (s : Scene Scripted (Script Float)) (hcreate : create S (.ofLists [] []) script = .ok s) (most : Nat) :
      ∃ s', run S.pace (some 1) (most + 1) s = .error .zeroModulus s' := by
    cases hcreate
    rw [run_eq hrate]
    exact ⟨_, rfl⟩
  refine ⟨valid, rfl, hleast, _, rfl, fun most k s' hr => ?_, hraises _ rfl⟩
  cases most with
  | zero =>
    rw [run_eq hrate] at hr
    cases hr
  | succ most =>
    obtain ⟨s'', hfails⟩ := hraises _ rfl most
    rw [hfails] at hr
    cases hr

end Scene

end Pipework
