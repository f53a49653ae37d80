import Pipework.Proofs.Course
import Pipework.Proofs.Roomy
import Pipework.Proofs.Stage

/-!
# Transcripts

A transcribed surface writes down each call with its answer. On an obliging surface, on which no call fails, a
look writes down a frame (`Seen.Transcribed`): the time, the draws of one tick and its refresh, the key polled, the
new size if the key is a resize, and the time again if there is a deadline. A rest writes down a sleep. Nothing but
a fault of the animation itself cuts a frame short.
-/

set_option linter.unusedSectionVars false

namespace Pipework

open Act

variable {ρ σ τ α : Type}

/-- A call on a surface or a clock, with its answer. -/
inductive Exchange (τ : Type) where
  | size (width height : Int)
  | put (mark : Mark)
  | clear
  | refresh
  | poll (key : Key)
  | clock (time : τ)
  | sleep (duration : τ)
  | restore

inductive Exchange.Kind where
  | size
  | put
  | clear
  | refresh
  | poll
  | clock
  | sleep
  | restore
deriving DecidableEq

def Exchange.kind : Exchange τ → Kind
  | size .. => .size
  | put _ => .put
  | clear => .clear
  | refresh => .refresh
  | poll _ => .poll
  | clock _ => .clock
  | sleep _ => .sleep
  | restore => .restore

def Exchange.IsDraw : Exchange τ → Prop
  | put _ | clear => True
  | _ => False

/-- A surface with the calls made on it that had an answer, in order. -/
structure TranscribedSurface (σ τ : Type) where
  inner : σ
  transcript : List (Exchange τ) := []

namespace TranscribedSurface

def write (x : Exchange τ) (inner : σ) (s : TranscribedSurface σ τ) : TranscribedSurface σ τ :=
  ⟨inner, s.transcript ++ [x]⟩

/-- An act on the surface that is written down with its answer. -/
def writing (exchange : α → Exchange τ) (act : Act σ α) : Act (TranscribedSurface σ τ) α := fun s =>
  match act s.inner with
  | .ok a inner => .ok a (s.write (exchange a) inner)
  | .error e inner => .error e { s with inner }

instance [Surface σ] : Surface (TranscribedSurface σ τ) where
  size s :=
    let (size, inner) := Surface.size s.inner
    (size, s.write (.size size.1 size.2) inner)
  put m := writing (fun _ => .put m) (Surface.put m)
  clear s := s.write .clear (Surface.clear s.inner)
  refresh := writing (fun _ => .refresh) Surface.refresh
  poll := writing .poll Surface.poll
  restore := writing (fun _ => .restore) Surface.restore

instance [Clock σ τ] : Clock (TranscribedSurface σ τ) τ where
  now s :=
    let (t, inner) := Clock.now s.inner
    (t, s.write (.clock t) inner)
  sleep d := writing (fun _ => .sleep d) (Clock.sleep d)

end TranscribedSurface

section Roomy

variable [Surface σ] [Clock σ τ] {F : Fault → Prop} {I : σ → Prop}

theorem TranscribedSurface.ends_writing {exchange : α → Exchange τ} {act : Act σ α}
    {Q : α → TranscribedSurface σ τ → Prop} {E : Fault → TranscribedSurface σ τ → Prop} {t : TranscribedSurface σ τ} :
    Ends Q E (writing exchange act t) ↔
      Ends (fun a u => Q a (t.write (exchange a) u)) (fun e u => E e { t with inner := u }) (act t.inner) := by
  unfold writing
  cases act t.inner <;> rfl

theorem TranscribedSurface.writing_keeps {exchange : α → Exchange τ} {act : Act σ α}
    {t : TranscribedSurface σ τ} (h : Keeps F I (act t.inner)) :
    Keeps F (fun t : TranscribedSurface σ τ => I t.inner) (writing exchange act t) :=
  ends_writing.2 h

theorem Surface.Roomy.transcribed (room : Surface.Roomy F I) :
    Surface.Roomy F fun t : TranscribedSurface σ τ => I t.inner where
  width t h := room.width t.inner h
  height t h := room.height t.inner h
  size t h := room.size t.inner h
  put t mark h := TranscribedSurface.writing_keeps (room.put t.inner mark h)
  clear t h := room.clear t.inner h
  refresh t h := TranscribedSurface.writing_keeps (room.refresh t.inner h)
  poll t h := TranscribedSurface.writing_keeps (room.poll t.inner h)
  restore t h := TranscribedSurface.writing_keeps (room.restore t.inner h)
  now t h := room.now t.inner h
  sleep t d h := TranscribedSurface.writing_keeps (room.sleep t.inner d h)

end Roomy

/-- With `I` no call on a surface fails, nor does it break `I`. -/
structure Surface.Obliging [Surface σ] [Clock σ τ] (I : σ → Prop) : Prop where
  size : ∀ t, I t → I (size t).2
  put : ∀ t mark, I t → Keeps (fun _ => False) I (put mark t)
  clear : ∀ t, I t → I (clear t)
  refresh : ∀ t, I t → Keeps (fun _ => False) I (refresh t)
  poll : ∀ t, I t → Keeps (fun _ => False) I (poll t)
  restore : ∀ t, I t → Keeps (fun _ => False) I (restore t)
  now : ∀ t, I t → I (Clock.now t).2
  sleep : ∀ t d, I t → Keeps (fun _ => False) I (Clock.sleep d t)

theorem Surface.Obliging.roomy [Surface σ] [Clock σ τ] {F : Fault → Prop} {I I' : σ → Prop}
    (calm : Surface.Obliging I) (room : Surface.Roomy F I') : Surface.Roomy (fun _ => False) fun t => I t ∧ I' t where
  width t h := room.width t h.2
  height t h := room.height t h.2
  size t h := ⟨calm.size t h.1, room.size t h.2⟩
  put t mark h := (calm.put t mark h.1).also (room.put t mark h.2)
  clear t h := ⟨calm.clear t h.1, room.clear t h.2⟩
  refresh t h := (calm.refresh t h.1).also (room.refresh t h.2)
  poll t h := (calm.poll t h.1).also (room.poll t h.2)
  restore t h := (calm.restore t h.1).also (room.restore t h.2)
  now t h := ⟨calm.now t h.1, room.now t h.2⟩
  sleep t d h := (calm.sleep t d h.1).also (room.sleep t d h.2)

namespace Scene

/-! ## What acts write -/

/-- From `s` to `s'` the transcript got longer by `l`. -/
structure Wrote (I : σ → Prop) (l : List (Exchange τ)) (s s' : Scene ρ (TranscribedSurface σ τ)) : Prop where
  running : s'.running = s.running
  inner : I s'.surface.inner
  transcript : s'.surface.transcript = s.surface.transcript ++ l

/-- A fault of the animation itself has cut an act short. -/
def CutShort (I : σ → Prop) (e : Fault) (s : Scene ρ (TranscribedSurface σ τ)) : Prop := e.IsOwn ∧ I s.surface.inner

variable {I : σ → Prop} {l l' : List (Exchange τ)} {s s' s'' : Scene ρ (TranscribedSurface σ τ)}

theorem wrote_nil (h : I s.surface.inner) : Wrote I [] s s := ⟨rfl, h, (List.append_nil _).symm⟩

theorem Wrote.trans (h : Wrote I l s s') (h' : Wrote I l' s' s'') : Wrote I (l ++ l') s s'' where
  running := h'.running.trans h.running
  inner := h'.inner
  transcript := by rw [h'.transcript, h.transcript, List.append_assoc]

theorem Wrote.elsewhere (h : Wrote I l s s') (hsame : s'.SameStage s'') : Wrote I l s s'' where
  running := hsame.running.trans h.running
  inner := by rw [hsame.surface]; exact h.inner
  transcript := by rw [hsame.surface]; exact h.transcript

theorem wrote_writing {exchange : α → Exchange τ} {act : Act σ α}
    (h : Keeps (fun _ => False) I (act s.surface.inner)) :
    Ends (fun a s' => Wrote I [exchange a] s s') (fun _ _ => False)
      (onSurface (TranscribedSurface.writing exchange act) s) := by
  refine ends_on.2 ?_
  unfold TranscribedSurface.writing
  cases hr : act s.surface.inner <;> rw [hr] at h
  · exact ⟨rfl, h, rfl⟩
  · exact h.1

/-! ## Ticks -/

variable [RandomSource ρ] [Surface σ] [Clock σ τ]

theorem wrote_persistent (calm : Surface.Obliging I) (s : Scene ρ (TranscribedSurface σ τ)) :
    Persistent (fun s' => ∃ draws : List (Exchange τ), (∀ x ∈ draws, x.IsDraw) ∧ Wrote I draws s s')
      (CutShort I) where
  elsewhere s₁ s₂ := fun ⟨draws, hdraws, h⟩ hsame => ⟨draws, hdraws, h.elsewhere hsame⟩
  own e s₁ := fun ⟨_, _, h⟩ he => ⟨he, h.inner⟩
  clear s₁ := fun ⟨draws, hdraws, h⟩ => by
    refine ⟨draws ++ [.clear], fun x hx => ?_, h.trans ⟨rfl, calm.clear _ h.inner, rfl⟩⟩
    rcases List.mem_append.1 hx with hx | hx
    · exact hdraws x hx
    · rw [List.mem_singleton.1 hx]
      trivial
  put s₁ mark := fun ⟨draws, hdraws, h⟩ => by
    refine Ends.mono (wrote_writing (calm.put _ mark h.inner)) (fun _ s₂ hput => ?_) fun _ _ he => he.elim
    refine ⟨draws ++ [.put mark], fun x hx => ?_, h.trans hput⟩
    rcases List.mem_append.1 hx with hx | hx
    · exact hdraws x hx
    · rw [List.mem_singleton.1 hx]
      trivial

theorem tick_wrote (calm : Surface.Obliging I) (h : I s.surface.inner) :
    Ends (fun _ s' => ∃ draws : List (Exchange τ), (∀ x ∈ draws, x.IsDraw) ∧ Wrote I (draws ++ [.refresh]) s s')
      (CutShort I) (tick s) := by
  rw [tick, get_bind]
  refine ((wrote_persistent calm s).steps ⟨[], by simp, wrote_nil h⟩ _).bind ?_
  rintro _ s₁ ⟨draws, hdraws, hs₁⟩
  refine Ends.mono (wrote_writing (calm.refresh _ hs₁.inner)) (fun _ s₂ hs₂ => ?_) fun _ _ he => he.elim
  exact ⟨draws, hdraws, hs₁.trans hs₂⟩

/-! ## Frames -/

variable [Time τ] {plan : Plan τ}

/-- The calls that a key asks for: a resize reads the new size and wipes the canvas, once. -/
def IsResize (key : Key) (l : List (Exchange τ)) : Prop :=
  if key = Key.resize then ∃ width height, l = [.size width height, .clear] else l = []

theorem isResize_nil {key : Key} (h : key ≠ Key.resize) : IsResize key ([] : List (Exchange τ)) := by
  rw [IsResize, if_neg h]

theorem resizeOn_wrote (calm : Surface.Obliging I) (h : I s.surface.inner) (key : Key) :
    Ends (fun _ s' => ∃ sized, IsResize key sized ∧ Wrote I sized s s') (CutShort I) (resizeOn key s) := by
  unfold resizeOn
  by_cases hkey : key = Key.resize
  · rw [if_pos hkey]
    let size := (Surface.size s.surface.inner).1
    have hresized : Wrote I [.size size.1 size.2, .clear] s (s.resized s.pipes s.source) :=
      ⟨rfl, calm.clear _ (calm.size _ h), List.append_assoc _ _ _⟩
    have offstage : Offstage (Wrote I [.size size.1 size.2, .clear] s) (CutShort I) :=
      ⟨fun _ _ hs hsame => hs.elsewhere hsame, fun _ _ hs he => ⟨he, hs.inner⟩⟩
    refine Ends.mono (offstage.spawn hresized) (fun _ s' hs' => ⟨_, ?_, hs'⟩) fun _ _ he => he
    rw [IsResize, if_pos hkey]
    exact ⟨size.1, size.2, rfl⟩
  · rw [if_neg hkey]
    exact ⟨[], isResize_nil hkey, wrote_nil h⟩

theorem readClock_wrote (calm : Surface.Obliging I) (h : I s.surface.inner) :
    ∃ time s', readClock s = .ok time s' ∧ Wrote I [.clock time] s s' :=
  ⟨_, _, rfl, rfl, calm.now _ h, rfl⟩

theorem lookAtClock_wrote (calm : Surface.Obliging I) (h : I s.surface.inner) (plan : Plan τ) :
    ∃ time s', lookAtClock plan s = .ok time s' ∧ time.isSome = plan.deadline.isSome ∧
      Wrote I (time.map Exchange.clock).toList s s' := by
  unfold lookAtClock
  cases plan.deadline with
  | none => exact ⟨none, s, rfl, rfl, wrote_nil h⟩
  | some deadline => exact ⟨some _, _, rfl, rfl, rfl, calm.now _ h, rfl⟩

end Scene

/-- A frame in a transcript, up to its sleep: one tick, one poll, and a resize exactly if the key asks for it. -/
def Seen.Transcribed (plan : Scene.Plan τ) (v : Seen τ) (l : List (Exchange τ)) : Prop :=
  ∃ draws sized : List (Exchange τ), (∀ x ∈ draws, x.IsDraw) ∧ Scene.IsResize v.key sized ∧
    v.time.isSome = plan.deadline.isSome ∧
    l = [.clock v.began] ++ (draws ++ [.refresh]) ++ [.poll v.key] ++ sized ++ (v.time.map Exchange.clock).toList

theorem count_draws {draws : List (Exchange τ)} (h : ∀ x ∈ draws, x.IsDraw) {kind : Exchange.Kind}
    (hput : kind ≠ .put) (hclear : kind ≠ .clear) : (draws.map Exchange.kind).count kind = 0 := by
  refine List.count_eq_zero.2 fun hmem => ?_
  obtain ⟨x, hx, rfl⟩ := List.mem_map.1 hmem
  have hdraw := h x hx
  cases x <;> first | exact hdraw | exact hput rfl | exact hclear rfl

theorem Seen.Transcribed.counts {plan : Scene.Plan τ} {v : Seen τ} {l : List (Exchange τ)} (h : v.Transcribed plan l) :
    (l.map Exchange.kind).count .refresh = 1 ∧ (l.map Exchange.kind).count .poll = 1 ∧
      (l.map Exchange.kind).count .sleep = 0 ∧
      (l.map Exchange.kind).count .size = if v.key = Key.resize then 1 else 0 := by
  obtain ⟨draws, sized, hdraws, hsized, -, rfl⟩ := h
  have hclock (kind : Exchange.Kind) (hkind : kind ≠ .clock) :
      ((v.time.map Exchange.clock).toList.map Exchange.kind).count kind = 0 := by
    cases v.time with
    | none => rfl
    | some time => exact List.count_singleton.trans (if_neg (by simpa [Exchange.kind] using hkind.symm))
  have hsizes : (sized.map Exchange.kind).count .refresh = 0 ∧ (sized.map Exchange.kind).count .poll = 0 ∧
      (sized.map Exchange.kind).count .sleep = 0 ∧
      (sized.map Exchange.kind).count .size = if v.key = Key.resize then 1 else 0 := by
    unfold Scene.IsResize at hsized
    split at hsized
    · next hkey =>
      obtain ⟨width, height, rfl⟩ := hsized
      rw [if_pos hkey]
      exact ⟨rfl, rfl, rfl, rfl⟩
    · next hkey =>
      subst hsized
      rw [if_neg hkey]
      exact ⟨rfl, rfl, rfl, rfl⟩
  simp (disch := decide) only [List.map_append, List.count_append, hsizes, hclock, count_draws hdraws]
  refine ⟨rfl, rfl, rfl, ?_⟩
  exact Nat.zero_add _

namespace Scene

variable [RandomSource ρ] [Surface σ] [Clock σ τ] [Time τ] {plan : Plan τ} {I : σ → Prop}
  {s : Scene ρ (TranscribedSurface σ τ)}

theorem look_wrote (calm : Surface.Obliging I) (h : I s.surface.inner) (plan : Plan τ) :
    Ends (fun v s' => ∃ l, v.Transcribed plan l ∧ Wrote I l s s') (CutShort I) (look plan s) := by
  obtain ⟨began, s₁, hread, hs₁⟩ := readClock_wrote calm h
  rw [look, bind_of_ok hread]
  refine ends_bind.2 (Ends.mono (tick_wrote calm hs₁.inner) ?_ fun _ _ he => he)
  rintro _ s₂ ⟨draws, hdraws, hs₂⟩
  refine ends_bind.2 (Ends.mono (wrote_writing (calm.poll _ hs₂.inner)) ?_ fun _ _ he => he.elim)
  rintro key s₃ hs₃
  refine ends_bind.2 (Ends.mono (resizeOn_wrote calm hs₃.inner key) ?_ fun _ _ he => he)
  rintro _ s₄ ⟨sized, hsized, hs₄⟩
  obtain ⟨time, s₅, hclock, htime, hs₅⟩ := lookAtClock_wrote calm hs₄.inner plan
  rw [bind_of_ok hclock]
  exact ⟨_, ⟨draws, sized, hdraws, hsized, htime, rfl⟩, (((hs₁.trans hs₂).trans hs₃).trans hs₄).trans hs₅⟩

theorem rest_wrote (calm : Surface.Obliging I) (h : I s.surface.inner) (plan : Plan τ) (began : τ) :
    ∃ time s', rest plan began s = .ok () s' ∧
      Wrote I [.clock time, .sleep (Time.positivePart (plan.delay - (time - began)))] s s' := by
  obtain ⟨time, s₁, hread, hs₁⟩ := readClock_wrote calm h
  let d := Time.positivePart (plan.delay - (time - began))
  have hsleep : Ends (fun _ s' => Wrote I [.sleep d] s₁ s') (fun _ _ => False) (onSurface (Clock.sleep d) s₁) :=
    wrote_writing (calm.sleep _ d hs₁.inner)
  obtain ⟨_, s₂, hslept, hs₂⟩ := hsleep.exists_ok
  refine ⟨time, s₂, ?_, hs₁.trans hs₂⟩
  rw [rest, bind_of_ok hread]
  exact hslept

end Scene

end Pipework
