import Pipework.Proofs.Run
import Pipework.Terminal

/-!
# Roomy surfaces

A surface is roomy if at all times it reports at least one cell. That is a property of its state which no call
on it breaks: a terminal reports one cell even if its window has none, and a scripted surface is roomy if all
the sizes in its script are. An animation on a roomy surface stays in frame.
-/

set_option linter.unusedSectionVars false

namespace Pipework

open Act

variable {σ τ : Type}

/-- With `I` a surface reports at least one cell, and no call on it breaks `I`; only faults with `F` end one. -/
structure Surface.Roomy [Surface σ] [Clock σ τ] (F : Fault → Prop) (I : σ → Prop) : Prop where
  width : ∀ t, I t → 1 ≤ (size t).1.1
  height : ∀ t, I t → 1 ≤ (size t).1.2
  size : ∀ t, I t → I (size t).2
  put : ∀ t mark, I t → Keeps F I (put mark t)
  clear : ∀ t, I t → I (clear t)
  refresh : ∀ t, I t → Keeps F I (refresh t)
  poll : ∀ t, I t → Keeps F I (poll t)
  restore : ∀ t, I t → Keeps F I (restore t)
  now : ∀ t, I t → I (Clock.now t).2
  sleep : ∀ t d, I t → Keeps F I (Clock.sleep d t)

/--
With `I` a surface reports at least one cell, and nothing that a frame does with it breaks `I`; a fault that ends a
call on it leaves `E`.
-/
structure Surface.Enduring [Surface σ] [Clock σ τ] (I : σ → Prop) (E : Fault → σ → Prop) : Prop where
  width : ∀ t, I t → 1 ≤ (size t).1.1
  height : ∀ t, I t → 1 ≤ (size t).1.2
  size : ∀ t, I t → I (size t).2
  put : ∀ t mark, I t → Ends (fun _ => I) E (put mark t)
  clear : ∀ t, I t → I (clear t)
  refresh : ∀ t, I t → Ends (fun _ => I) E (refresh t)
  poll : ∀ t, I t → Ends (fun _ => I) E (poll t)
  now : ∀ t, I t → I (Clock.now t).2
  sleep : ∀ t d, I t → Ends (fun _ => I) E (Clock.sleep d t)

/-! ## Scripts -/

namespace Script

def HasCells (t : Script τ) : Prop := 1 ≤ t.width ∧ 1 ≤ t.height ∧ ∀ size ∈ t.sizes, 1 ≤ size.1 ∧ 1 ≤ size.2

theorem meet_keeps {I : Script τ → Prop} (point : Point) {t : Script τ} (h : I t)
    (hI : ∀ traps sprung, I t → I { t with traps, sprung }) : Keeps (fun _ => True) I (meet point t) := by
  unfold meet
  split
  · exact ⟨trivial, hI _ _ h⟩
  · exact hI _ _ h

theorem takeKey_hasCells {t : Script τ} (h : t.HasCells) : t.takeKey.2.HasCells := by
  obtain ⟨hw, hh, hsizes⟩ := h
  unfold takeKey
  split
  · exact ⟨hw, hh, hsizes⟩
  · exact ⟨hw, hh, hsizes⟩
  · next heq =>
    rw [heq] at hsizes
    split
    · have hsize := hsizes _ List.mem_cons_self
      exact ⟨hsize.1, hsize.2, fun size hmem => hsizes size (List.mem_cons_of_mem _ hmem)⟩
    · exact ⟨hw, hh, fun size hmem => hsizes size (by rwa [heq] at hmem)⟩

variable [Time τ]

theorem hasCells_roomy : Surface.Roomy (fun _ => True) (HasCells (τ := τ)) where
  width _ h := h.1
  height _ h := h.2.1
  size _ h := h
  put _ _ h := meet_keeps .put h fun _ _ h => h
  clear _ h := h
  refresh _ h := (meet_keeps .refresh h fun _ _ h => h).bind fun _ _ h => h
  poll _ h := (meet_keeps .poll h fun _ _ h => h).bind fun _ _ h => takeKey_hasCells h
  restore _ h := h
  now _ h := h
  sleep t d h :=
    (meet_keeps .sleep (t := { t with sleepLog := d :: t.sleepLog }) h fun _ _ h => h).bind fun _ _ h => h

end Script

/-! ## Terminals -/

/-- Terminals are roomy whatever the size of their windows. -/
theorem Terminal.roomy [Time τ] : Surface.Roomy (fun _ => True) fun _ : Terminal τ => True where
  width t _ := Int.le_max_left 1 t.window.width
  height t _ := Int.le_max_left 1 t.window.height
  size _ _ := trivial
  put _ _ _ := keeps_of_left trivial
  clear _ _ := trivial
  refresh _ _ := keeps_of_left trivial
  poll _ _ := keeps_of_left trivial
  restore _ _ := keeps_of_left trivial
  now _ _ := trivial
  sleep _ _ _ := keeps_of_left trivial

theorem Terminal.exists_attributes {t : Terminal τ} (h : t.palette ≠ []) (color : Int) :
    ∃ attributes, t.attributes? color = some attributes := by
  unfold attributes?
  dsimp only
  split
  · rw [if_neg (by simpa using h)]
    exact ⟨_, rfl⟩
  · exact ⟨_, rfl⟩

/-! ## Logged surfaces -/

section Logged

variable [Surface σ] [Clock σ τ] {F : Fault → Prop} {I : σ → Prop}

theorem LoggedSurface.silently_keeps {α : Type} {act : Act σ α} {t : LoggedSurface σ} (h : Keeps F I (act t.inner)) :
    Keeps F (fun t : LoggedSurface σ => I t.inner) (silently act t) :=
  ends_on.2 h

theorem LoggedSurface.noting_keeps {act : Act σ Unit} {t : LoggedSurface σ} (e : Event)
    (h : Keeps F I (act t.inner)) : Keeps F (fun t : LoggedSurface σ => I t.inner) (noting e act t) :=
  (silently_keeps h).bind fun _ _ ht => ht

theorem Surface.Roomy.logged (room : Surface.Roomy F I) :
    Surface.Roomy F fun t : LoggedSurface σ => I t.inner where
  width t h := room.width t.inner h
  height t h := room.height t.inner h
  size t h := room.size t.inner h
  put t mark h := LoggedSurface.noting_keeps (.put mark) (room.put t.inner mark h)
  clear t h := room.clear t.inner h
  refresh t h := LoggedSurface.noting_keeps .refresh (room.refresh t.inner h)
  poll t h := LoggedSurface.silently_keeps (room.poll t.inner h)
  restore t h := LoggedSurface.noting_keeps .restore (room.restore t.inner h)
  now t h := room.now t.inner h
  sleep t d h := LoggedSurface.silently_keeps (room.sleep t.inner d h)

end Logged

/-! ## Animations on roomy surfaces -/

namespace Scene

variable {ρ : Type} [RandomSource ρ] [Surface σ] [Clock σ τ] {S : Settings} {F : Fault → Prop} {I : σ → Prop}

theorem onSurface_keeps {α : Type} {act : Act σ α} {s : Scene ρ σ} (hs : s.Framed S)
    (h : Keeps F I (act s.surface)) : Keeps F (fun s : Scene ρ σ => s.Framed S ∧ I s.surface) (onSurface act s) :=
  ends_on.2 (Ends.mono h (fun _ _ ht => ⟨hs.elsewhere, ht⟩) fun _ _ ht => ⟨ht.1, hs.elsewhere, ht.2⟩)

theorem roomy_lasting (room : Surface.Roomy F I) :
    Lasting S F fun s : Scene ρ σ => s.Framed S ∧ I s.surface where
  framed _ hs := hs.1
  pipes _ _ _ hs hframed := ⟨hframed, hs.2⟩
  running _ _ hs := ⟨hs.1.elsewhere, hs.2⟩
  now s hs := ⟨hs.1.elsewhere, room.now s.surface hs.2⟩
  draw s mark hs _ := by
    have hsurface : I s.withRoom.surface := by
      unfold withRoom
      split
      · exact room.clear s.surface hs.2
      · exact hs.2
    exact (onSurface_keeps hs.1.withRoom (room.put _ mark hsurface)).bind fun _ _ hs => ⟨hs.1.elsewhere, hs.2⟩
  refresh s hs := onSurface_keeps hs.1 (room.refresh s.surface hs.2)
  poll s hs := onSurface_keeps hs.1 (room.poll s.surface hs.2)
  sleep s t hs := onSurface_keeps hs.1 (room.sleep s.surface t hs.2)
  restore s hs := onSurface_keeps hs.1 (room.restore s.surface hs.2)
  size s hs := ⟨room.width s.surface hs.2, room.height s.surface hs.2⟩
  resized s _ _ hs hframed := ⟨hframed, room.clear _ (room.size s.surface hs.2)⟩

theorem create_framed (room : Surface.Roomy F I) (valid : S.Valid) (source : ρ) {surface : σ} (h : I surface) :
    ∃ s, create S source surface = .ok s ∧ s.Framed S ∧ I s.surface := by
  obtain ⟨tables, pipes, g, hcreate, hframed⟩ :=
    create_eq valid source surface (room.width surface h) (room.height surface h)
  exact ⟨_, hcreate, hframed, room.size surface h⟩

theorem create_logged (room : Surface.Roomy F I) (valid : S.Valid) (source : ρ) {t : σ} (h : I t) :
    ∃ s : Scene ρ (LoggedSurface σ), create S source ⟨t, []⟩ = .ok s ∧ s.Framed S ∧ I s.surface.inner := by
  have hlogged : I (⟨t, []⟩ : LoggedSurface σ).inner := h
  exact create_framed room.logged valid source hlogged

end Scene

/-! ## Runs on surfaces that endure -/

namespace Surface.Enduring

open Scene

variable {ρ : Type} [RandomSource ρ] [Surface σ] [Clock σ τ] {S : Settings} {I : σ → Prop} {E : Fault → σ → Prop}
  {s : Scene ρ σ}

theorem onSurface {α : Type} {act : Act σ α} (hs : s.Framed S) (h : Ends (fun _ => I) E (act s.surface)) :
    Ends (fun _ s => s.Framed S ∧ I s.surface) (fun e s => E e s.surface) (onSurface act s) :=
  ends_on.2 (h.mono (fun _ _ ht => ⟨hs.elsewhere, ht⟩) fun _ _ he => he)

theorem stepPipe (h : Surface.Enduring I E) (hs : s.Framed S) (ht : I s.surface) {i : Nat}
    (hi : i < s.pipes.length) :
    Ends (fun _ s => s.Framed S ∧ I s.surface) (fun e s => E e s.surface) (stepPipe i s) := by
  obtain ⟨p, entering, pipes, g, hstep, hframed, -⟩ := stepPipe_eq hs hi
  have hroom : I s.withRoom.surface := by
    unfold withRoom
    split
    · exact h.clear s.surface ht
    · exact ht
  rw [hstep]
  exact (onSurface hframed (h.put _ (p.mark entering) hroom)).bind fun _ _ hs => ⟨hs.1.elsewhere, hs.2⟩

theorem attend (h : Surface.Enduring I E) (hs : s.Framed S) (ht : I s.surface) :
    Ends (fun _ s => s.Framed S ∧ I s.surface) (fun e s => E e s.surface) (attend s) := by
  refine (onSurface hs (h.poll _ ht)).bind fun key s hs => ?_
  unfold obey
  split
  · obtain ⟨pipes, g, hresize, hframed⟩ := resize_eq hs.1.toReady (h.width _ hs.2) (h.height _ hs.2)
    rw [hresize]
    exact ⟨hframed, h.clear _ (h.size _ hs.2)⟩
  · split
    · exact hs
    · exact ⟨hs.1.elsewhere, hs.2⟩

theorem scene (h : Surface.Enduring I E) :
    Scene.Enduring (fun s : Scene ρ σ => s.Framed S ∧ I s.surface) fun e s => E e s.surface where
  count := ⟨S.pipes.toNat, fun _ hs => hs.1.length_pipes⟩
  step _ _ hs hi := h.stepPipe hs.1 hs.2 hi
  refresh _ hs := onSurface hs.1 (h.refresh _ hs.2)
  attend _ hs := h.attend hs.1 hs.2
  now _ hs := ⟨hs.1.elsewhere, h.now _ hs.2⟩
  running _ _ hs := ⟨hs.1.elsewhere, hs.2⟩
  sleep _ d hs := onSurface hs.1 (h.sleep _ d hs.2)

end Surface.Enduring

end Pipework
