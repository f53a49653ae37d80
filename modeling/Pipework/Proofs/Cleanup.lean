import Pipework.Proofs.Stage
import Pipework.Proofs.Watched
import Pipework.Random.Scripted

/-!
# Runs give the surface back

Whichever way a run ends, the surface is given back once, after all else that is asked of it, and the ticks
counted are the refreshes that succeeded. An act within a run only adds to the log (`Adds`): it asks for things
other than to give the surface back, nothing fails if it has a result, and if it ends in a fault then nothing
else failed. Only the refresh at the end of a tick counts, and after it a tick cannot fail, so a tick that fails
adds no refresh. All acts have this in common, valid settings or not.
-/

set_option linter.unusedSectionVars false

namespace Pipework

open Act

def Fault.IsInterrupt : Fault → Prop
  | .interrupt _ => True
  | _ => False

/-! ## Logs that grow -/

def Sight.isShown : Sight → Bool
  | ⟨.refresh, none⟩ => true
  | _ => false

/-- The refreshes that succeeded. -/
def shown (events : List Sight) : Nat := events.countP Sight.isShown

/-- Whatever failed did so in a fault with `F`. -/
def OnlyFaults (F : Fault → Prop) (events : List Sight) : Prop := ∀ v ∈ events, ∀ e, v.fault = some e → F e

/-- The log grew by `events`, with `n` refreshes among them that succeeded, and the surface was not given back. -/
structure Grew (F : Fault → Prop) (n : Nat) (events old new : List Sight) : Prop where
  grew : new = events ++ old
  shown : shown events = n
  kept : ∀ v ∈ events, v.ask ≠ .restore
  faults : OnlyFaults F events

def Grown (F : Fault → Prop) (n : Nat) (old new : List Sight) : Prop := ∃ events, Grew F n events old new

variable {F G : Fault → Prop} {m n : Nat} {old mid new : List Sight}

theorem Grown.refl : Grown F 0 old old := ⟨[], rfl, rfl, by simp, by simp [OnlyFaults]⟩

theorem Grown.mono (h : Grown F n old new) (hFG : ∀ e, F e → G e) : Grown G n old new := by
  obtain ⟨events, grew, shown, kept, faults⟩ := h
  exact ⟨events, grew, shown, kept, fun v hv e he => hFG e (faults v hv e he)⟩

theorem Grown.trans (h : Grown F m old mid) (h' : Grown F n mid new) : Grown F (m + n) old new := by
  obtain ⟨events, rfl, rfl, hkept, hfaults⟩ := h
  obtain ⟨events', rfl, rfl, hkept', hfaults'⟩ := h'
  refine ⟨events' ++ events, (List.append_assoc _ _ _).symm, ?_, ?_, ?_⟩
  · rw [shown, List.countP_append, Nat.add_comm]
    rfl
  · intro v hv
    rcases List.mem_append.1 hv with hv | hv
    · exact hkept' v hv
    · exact hkept v hv
  · intro v hv
    rcases List.mem_append.1 hv with hv | hv
    · exact hfaults' v hv
    · exact hfaults v hv

theorem grown_cons {v : Sight} (hask : v.ask ≠ .restore) (hfault : ∀ e, v.fault = some e → F e) :
    Grown F (shown [v]) old (v :: old) := by
  refine ⟨[v], rfl, rfl, ?_, ?_⟩
  · intro v' hv'
    rw [List.mem_singleton.1 hv']
    exact hask
  · intro v' hv'
    rw [List.mem_singleton.1 hv']
    exact hfault

namespace Scene

variable {ρ σ τ α β : Type} {r : EStateM.Result Fault (Scene ρ (WatchedSurface σ)) α}
  {s : Scene ρ (WatchedSurface σ)}

/-! ## Acts that add to the log -/

/-- The act added to the log, with `n` refreshes if it has a result and none if it ends in a fault. -/
def Adds (n : Nat) (old : List Sight) (r : EStateM.Result Fault (Scene ρ (WatchedSurface σ)) α) : Prop :=
  Ends (fun _ s => Grown (fun _ => False) n old s.surface.log) (fun e s => Grown (· = e) 0 old s.surface.log) r

theorem Adds.after (h : Grown (fun _ => False) 0 old mid) (h' : Adds n mid r) : Adds n old r := by
  refine Ends.mono h' (fun _ s hs => ?_) fun e s hs => ?_
  · rw [← Nat.zero_add n]
    exact h.trans hs
  · exact (h.mono fun _ => False.elim).trans hs

theorem Adds.bind {act : Act (Scene ρ (WatchedSurface σ)) α} {f : α → Act (Scene ρ (WatchedSurface σ)) β}
    (h : Adds 0 old (act s)) (hf : ∀ a s, Adds n s.surface.log (f a s)) : Adds n old ((act >>= f) s) :=
  ends_bind.2 (Ends.mono h (fun a s hs => Adds.after hs (hf a s)) fun _ _ he => he)

theorem adds_of_left (h : (left r).surface.log = old) : Adds 0 old r := by
  cases r <;> (rw [← h]; exact Grown.refl)

theorem adds_watching {ask : Ask} (hask : ask ≠ .restore) (hn : shown [⟨ask, none⟩] = n) (act : Act σ α) :
    Adds n s.surface.log (onSurface (WatchedSurface.watching ask act) s) := by
  subst hn
  refine ends_on.2 (WatchedSurface.ends_watching.2 ?_)
  cases act s.surface.inner with
  | ok a t => exact grown_cons hask (by simp)
  | error e t =>
    have hshown : shown [⟨ask, some e⟩] = 0 := by cases ask <;> rfl
    rw [← hshown]
    exact grown_cons hask fun e' he' => (Option.some.inj he').symm

/-! ## Ticks -/

variable [RandomSource ρ] [Surface σ]

theorem grown_persistent (old : List Sight) :
    Persistent (fun s : Scene ρ (WatchedSurface σ) => Grown (fun _ => False) 0 old s.surface.log)
      (fun e s => Grown (· = e) 0 old s.surface.log) where
  elsewhere s s' hs hsame := by rwa [hsame.surface]
  own e s hs _ := hs.mono fun _ => False.elim
  clear s hs := hs.trans (grown_cons (v := ⟨.clear, none⟩) (by simp) (by simp))
  put s mark hs := Adds.after hs (adds_watching (by simp) rfl _)

theorem resize_adds : Adds 0 s.surface.log (resize s) := by
  have hread : Grown (fun _ => False) 0 s.surface.log (Surface.size s.surface).2.log :=
    grown_cons (v := ⟨.size _ _, none⟩) (by simp) (by simp)
  have hclear := hread.trans (grown_cons (v := ⟨.clear, none⟩) (by simp) (by simp))
  exact (grown_persistent _).spawn (s := s.resized s.pipes s.source) hclear

theorem tick_adds : Adds 1 s.surface.log (tick s) := by
  rw [tick, get_bind]
  refine Adds.bind ((grown_persistent _).steps Grown.refl _) fun _ s => ?_
  exact adds_watching (by simp) rfl Surface.refresh

/-! ## Frames -/

variable [Clock σ τ] [Time τ]

theorem obey_adds (key : Key) : Adds 0 s.surface.log (obey key s) := by
  unfold obey
  split
  · exact resize_adds
  · split <;> exact adds_of_left rfl

theorem checkDeadline_adds (plan : Plan τ) : Adds 0 s.surface.log (checkDeadline plan s) := by
  unfold checkDeadline
  cases plan.deadline with
  | none => exact adds_of_left rfl
  | some deadline =>
    refine Adds.bind (adds_of_left rfl) fun t s => ?_
    split <;> exact adds_of_left rfl

theorem checkTicks_adds (plan : Plan τ) (ticks : Nat) : Adds 0 s.surface.log (checkTicks plan ticks s) := by
  unfold checkTicks
  cases plan.maxTicks with
  | none => exact adds_of_left rfl
  | some most =>
    dsimp only
    split <;> exact adds_of_left rfl

theorem pause_adds (plan : Plan τ) (start : τ) : Adds 0 s.surface.log (pause plan start s) := by
  refine Adds.bind (adds_of_left rfl) fun settings s => ?_
  split
  · refine Adds.bind (adds_of_left rfl) fun t s => ?_
    exact adds_watching (by simp) rfl _
  · exact adds_of_left rfl

theorem settle_adds (plan : Plan τ) (start : τ) (ticks : Nat) : Adds 0 s.surface.log (settle plan start ticks s) := by
  have hpoll : Adds 0 s.surface.log (onSurface Surface.poll s) := adds_watching (by simp) rfl _
  refine hpoll.bind fun key s => ?_
  refine (obey_adds key).bind fun _ s => ?_
  refine (checkDeadline_adds plan).bind fun _ s => ?_
  exact (checkTicks_adds plan ticks).bind fun _ s => pause_adds plan start

/-- Frames ran from `ticks` ticks on, and added as many refreshes as ticks. -/
def Ticked (ticks : Nat) (old : List Sight)
    (r : Nat × EStateM.Result Fault (Scene ρ (WatchedSurface σ)) Unit) : Prop :=
  ∃ n, r.1 = ticks + n ∧
    Ends (fun _ s => Grown (fun _ => False) n old s.surface.log) (fun e s => Grown (· = e) n old s.surface.log) r.2

theorem frame_ticked (plan : Plan τ) (ticks : Nat) : Ticked ticks s.surface.log (frame plan ticks s) := by
  have htick : Adds 1 s.surface.log (tick (now s).2) := tick_adds
  simp only [frame]
  cases hr : tick (now s).2 with
  | ok _ s' =>
    rw [hr] at htick
    have hsettle : Adds 0 s'.surface.log (settle plan (now s).1 (ticks + 1) s') := settle_adds plan _ _
    refine ⟨1, rfl, Ends.mono hsettle (fun _ s hs => ?_) fun e s hs => ?_⟩
    · exact Grown.trans htick hs
    · exact (Grown.mono htick fun _ => False.elim).trans hs
  | error e s' =>
    rw [hr] at htick
    exact ⟨0, rfl, htick⟩

theorem frames_ticked (plan : Plan τ) (n ticks : Nat) : Ticked ticks s.surface.log (frames plan n ticks s) := by
  -- only the last of the frames can fail, so what came before it is free of faults
  induction n generalizing ticks s with
  | zero => exact ⟨0, rfl, Grown.refl⟩
  | succ n ih =>
    have hframe := frame_ticked plan ticks (s := s)
    rw [frames]
    split
    · next ticks' s' heq =>
      rw [heq] at hframe
      split
      · obtain ⟨m, hm, hgrown⟩ := hframe
        obtain ⟨k, hk, hends⟩ := ih (s := s') ticks'
        obtain rfl : ticks' = ticks + m := hm
        refine ⟨m + k, by rw [hk, Nat.add_assoc], Ends.mono hends (fun _ s hs => ?_) fun e s hs => ?_⟩
        · exact Grown.trans hgrown hs
        · exact (Grown.mono hgrown fun _ => False.elim).trans hs
      · exact hframe
    · exact hframe

/-! ## Runs -/

/-- The surface was given back after all that is in `log`, and the run is over. -/
structure GivenBack (fault : Option Fault) (log : List Sight) (s : Scene ρ (WatchedSurface σ)) : Prop where
  running : s.running = false
  log : s.surface.log = ⟨.restore, fault⟩ :: log

theorem close_givesBack : Ends (fun _ s' => GivenBack none s.surface.log s')
    (fun e s' => GivenBack (some e) s.surface.log s') (close s) := by
  change Ends _ _ (onSurface Surface.restore { s with running := false })
  refine ends_on.2 (WatchedSurface.ends_watching.2 ?_)
  cases (Surface.restore s.surface.inner : EStateM.Result Fault σ Unit) with
  | ok _ t => exact ⟨rfl, rfl⟩
  | error e t => exact ⟨rfl, rfl⟩

/-- The ticks that a run counts, whichever way it ends. -/
def counted (pace : Pace τ) (maxTicks : Option Int) (most : Nat) (s : Scene ρ σ) : Nat :=
  match plan? pace maxTicks s with
  | (none, _) => 0
  | (some plan, s) => (frames plan most 0 { s with running := true }).1

/--
How a run ends that began with `log` and then asked for `events`. If it ends with its ticks, then nothing failed
but for interrupts. If it ends in a fault, then that is no interrupt and nothing else failed; only a fault of
giving the surface back takes the place of the fault that was met. If it would go on, then nothing failed.
-/
def CleanEnd (log events : List Sight) (ticks : Nat) :
    EStateM.Result Fault (Scene ρ (WatchedSurface σ)) (Option Nat) → Prop
  | .ok none s => s.running = true ∧ s.surface.log = events ++ log ∧ OnlyFaults (fun _ => False) events
  | .ok (some n) s => n = ticks ∧ GivenBack none (events ++ log) s ∧ OnlyFaults Fault.IsInterrupt events
  | .error e s => GivenBack (some e) (events ++ log) s ∨
      GivenBack none (events ++ log) s ∧ ¬ e.IsInterrupt ∧ OnlyFaults (· = e) events

theorem plan?_log (pace : Pace τ) (maxTicks : Option Int) :
    (plan? pace maxTicks s).2.surface.log = s.surface.log := by
  unfold plan?
  split
  · rfl
  · split <;> rfl

theorem plan?_isSome {pace : Pace τ} (hrate : (pace.rate == 0) = false) (maxTicks : Option Int) :
    ∃ plan, (plan? pace maxTicks s).1 = some plan := by
  have hdelay : pace.delay? = some (1 / pace.rate) := by
    rw [Pace.delay?, hrate]
    rfl
  unfold plan?
  rw [hdelay]
  cases pace.timeout with
  | none => exact ⟨_, rfl⟩
  | some timeout => exact ⟨_, rfl⟩

variable {log events : List Sight}

/-- A run that closes ends as `f` says, or in a fault of giving the surface back. -/
theorem close_cleanEnd {ticks : Nat} {f : Act (Scene ρ (WatchedSurface σ)) (Option Nat)}
    (hlog : s.surface.log = events ++ log)
    (hf : ∀ s', GivenBack none (events ++ log) s' → CleanEnd log events ticks (f s')) :
    CleanEnd log events ticks ((do close; f : Act _ _) s) := by
  have hclose := close_givesBack (s := s)
  rw [hlog] at hclose
  cases hr : close s with
  | ok _ s' =>
    rw [hr] at hclose
    rw [bind_of_ok hr]
    exact hf s' hclose
  | error e s' =>
    rw [hr] at hclose
    rw [bind_of_error hr]
    exact .inl hclose

/-- However a run ends, the surface is given back once and last, and the ticks counted are the refreshes. -/
theorem run_gives_back {pace : Pace τ} (hrate : (pace.rate == 0) = false) (maxTicks : Option Int) (most : Nat)
    (s : Scene ρ (WatchedSurface σ)) :
    ∃ events, (∀ v ∈ events, v.ask ≠ .restore) ∧ shown events = counted pace maxTicks most s ∧
      CleanEnd s.surface.log events (counted pace maxTicks most s) (run pace maxTicks most s) := by
  obtain ⟨plan, hplan⟩ := plan?_isSome (s := s) hrate maxTicks
  have hlog := plan?_log (s := s) pace maxTicks
  unfold counted run
  generalize plan? pace maxTicks s = planned at hplan hlog ⊢
  obtain ⟨plan', s₁⟩ := planned
  obtain rfl : plan' = some plan := hplan
  have hframes := frames_ticked plan most 0 (s := { s₁ with running := true })
  rw [show s₁.surface.log = s.surface.log from hlog] at hframes
  dsimp only
  generalize frames plan most 0 { s₁ with running := true } = framed at hframes ⊢
  obtain ⟨ticks, r⟩ := framed
  obtain ⟨n, hn, hends⟩ := hframes
  obtain rfl : ticks = n := hn.trans (Nat.zero_add n)
  cases r with
  | ok _ s₂ =>
    obtain ⟨events, hgrew, hshown, hkept, hfaults⟩ := hends
    refine ⟨events, hkept, hshown, ?_⟩
    dsimp only
    split
    · next hrunning => exact ⟨hrunning, hgrew, hfaults⟩
    · refine close_cleanEnd hgrew fun s' hs' => ⟨rfl, hs', ?_⟩
      intro v hv e he
      exact (hfaults v hv e he).elim
  | error e s₂ =>
    obtain ⟨events, hgrew, hshown, hkept, hfaults⟩ := hends
    refine ⟨events, hkept, hshown, ?_⟩
    by_cases he : e.IsInterrupt
    · have hinterrupts : OnlyFaults Fault.IsInterrupt events := by
        intro v hv e' he'
        rw [hfaults v hv e' he']
        exact he
      cases e with
      | interrupt message => exact close_cleanEnd hgrew fun s' hs' => ⟨rfl, hs', hinterrupts⟩
      | _ => exact he.elim
    · have hfail : CleanEnd s.surface.log events ticks ((do close; Act.fail e : Act _ _) s₂) :=
        close_cleanEnd hgrew fun s' hs' => .inr ⟨hs', he, hfaults⟩
      cases e with
      | interrupt message => exact absurd trivial he
      | _ => exact hfail

/-- A run of two pipes that is interrupted between them, in its second tick. -/
theorem run_gives_back_interrupted :
    let S : Settings := { pipes := 2 }
    let script : Script Float := {
      width := 4, height := 3, keys := [-1, 410, 113], sizes := [(2, 5)], time := 0, costs := fun _ => 1
      traps := [⟨.put, .interrupt "put", 3⟩] }
    let pace : Pace Float := ⟨75, some 9⟩
    (pace.rate == 0) = false ∧ ∃ s : Scene Scripted (WatchedSurface (Script Float)),
      create S (Scripted.ofLists [] []) ⟨script, []⟩ = .ok s ∧
        ∃ events, (∀ v ∈ events, v.ask ≠ .restore) ∧ shown events = counted pace (some 5) 10 s ∧
          CleanEnd s.surface.log events (counted pace (some 5) 10 s) (run pace (some 5) 10 s) := by
  intro S script pace
  have valid : S.Valid := by decide +kernel
  have hrate : (pace.rate == 0) = false := by decide +kernel
  obtain ⟨tables, pipes, g, hcreate, -⟩ := create_eq valid (Scripted.ofLists [] [])
    (⟨script, []⟩ : WatchedSurface (Script Float)) (by decide) (by decide)
  exact ⟨hrate, _, hcreate, run_gives_back hrate (some 5) 10 _⟩

end Scene

end Pipework
