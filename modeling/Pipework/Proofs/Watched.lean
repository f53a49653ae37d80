import Pipework.Proofs.Roomy

/-!
# Watched surfaces

A watched surface keeps a record of everything that is asked of it, also of what ends in a fault. Together with
what a scene itself counts, that makes a `Record`, which each step of a pipe and each resize change in a fixed
way. So a property of records that these changes keep (`Record.Kept`) lasts, whatever is done with the scene and
whichever calls on the surface fail (`Record.Kept.after`).
-/

set_option linter.unusedSectionVars false

namespace Pipework

open Act

/-- What is asked of a surface. -/
inductive Ask where
  /-- The size, with the size reported. -/
  | size (width height : Int)
  | put (mark : Mark)
  | clear
  | refresh
  | poll
  | sleep
  | restore

/-- What is asked of a surface between the draws. -/
def Ask.IsQuiet : Ask → Prop
  | refresh | poll | sleep | restore => True
  | size .. | put _ | clear => False

/-- Something asked of a surface, and the fault in which that ended, if it did. -/
structure Sight where
  ask : Ask
  fault : Option Fault := none

/-- A surface with all that has been asked of it, the latest first. -/
structure WatchedSurface (σ : Type) where
  inner : σ
  log : List Sight := []

namespace WatchedSurface

variable {σ τ α : Type}

/-- An act on the surface, asked for in a given way. -/
def watching (ask : Ask) (act : Act σ α) : Act (WatchedSurface σ) α := fun s =>
  match act s.inner with
  | .ok a t => .ok a ⟨t, ⟨ask, none⟩ :: s.log⟩
  | .error e t => .error e ⟨t, ⟨ask, some e⟩ :: s.log⟩

instance [Surface σ] : Surface (WatchedSurface σ) where
  size s :=
    let ((width, height), inner) := Surface.size s.inner
    ((width, height), ⟨inner, ⟨.size width height, none⟩ :: s.log⟩)
  put m := watching (.put m) (Surface.put m)
  clear s := ⟨Surface.clear s.inner, ⟨.clear, none⟩ :: s.log⟩
  refresh := watching .refresh Surface.refresh
  poll := watching .poll Surface.poll
  restore := watching .restore Surface.restore

instance [Clock σ τ] : Clock (WatchedSurface σ) τ where
  now s :=
    let (t, inner) := Clock.now s.inner
    (t, { s with inner })
  sleep t := watching .sleep (Clock.sleep t)

theorem left_watching (ask : Ask) (act : Act σ α) (s : WatchedSurface σ) :
    ∃ inner fault, left (watching ask act s) = ⟨inner, ⟨ask, fault⟩ :: s.log⟩ := by
  unfold watching
  cases act s.inner <;> exact ⟨_, _, rfl⟩

theorem ends_watching {ask : Ask} {act : Act σ α} {Q : α → WatchedSurface σ → Prop}
    {E : Fault → WatchedSurface σ → Prop} {s : WatchedSurface σ} :
    Ends Q E (watching ask act s) ↔
      Ends (fun a t => Q a ⟨t, ⟨ask, none⟩ :: s.log⟩) (fun e t => E e ⟨t, ⟨ask, some e⟩ :: s.log⟩)
        (act s.inner) := by
  unfold watching
  cases act s.inner <;> rfl

end WatchedSurface

/-! ## Records -/

/-- What a scene counts, and what has been asked of its surface, the latest first. -/
structure Record where
  width : Int
  height : Int
  drawn : Nat
  resets : Nat
  log : List Sight

def Scene.record {ρ σ : Type} (s : Scene ρ (WatchedSurface σ)) : Record :=
  ⟨s.width, s.height, s.drawn, s.resets, s.surface.log⟩

namespace Record

def note (v : Sight) (r : Record) : Record := { r with log := v :: r.log }

def wiped (r : Record) : Record := { r with drawn := 0, resets := r.resets + 1, log := ⟨.clear, none⟩ :: r.log }

/-- The canvas is wiped if the limit is reached. -/
def withRoom (limit : Int) (r : Record) : Record := if limit ≠ 0 ∧ limit ≤ r.drawn then r.wiped else r

theorem withRoom_of_wiped {J : Record → Prop} {r : Record} (h : J r) (hwiped : J r.wiped) (limit : Int) :
    J (r.withRoom limit) := by
  unfold withRoom
  split
  · exact hwiped
  · exact h

def drew (mark : Mark) (r : Record) : Record :=
  { r with drawn := r.drawn + 1, log := ⟨.put mark, none⟩ :: r.log }

def resized (width height : Int) (r : Record) : Record :=
  ⟨width, height, 0, r.resets, ⟨.clear, none⟩ :: ⟨.size width height, none⟩ :: r.log⟩

def start (width height : Int) : Record := ⟨width, height, 0, 0, [⟨.size width height, none⟩]⟩

/-- A property of records that steps of pipes and resizes keep. -/
structure Kept (limit : Int) (J : Record → Prop) : Prop where
  quiet : ∀ r ask fault, ask.IsQuiet → J r → J (r.note ⟨ask, fault⟩)
  drew : ∀ r mark, OnScreen r.width r.height mark.x mark.y → J r → J ((r.withRoom limit).drew mark)
  missed : ∀ r mark e, OnScreen r.width r.height mark.x mark.y → J r →
    J ((r.withRoom limit).note ⟨.put mark, some e⟩)
  resized : ∀ r width height, J r → J (r.resized width height)

end Record

/-! ## Records of animations -/

namespace Scene

variable {ρ σ τ : Type} [RandomSource ρ] [Surface σ] [Clock σ τ] {S : Settings} {F : Fault → Prop} {I : σ → Prop}
  {J : Record → Prop} {s : Scene ρ (WatchedSurface σ)}

/-- A framed scene on a roomy surface, whose record has a property. -/
def Recorded (S : Settings) (I : σ → Prop) (J : Record → Prop) (s : Scene ρ (WatchedSurface σ)) : Prop :=
  s.Framed S ∧ I s.surface.inner ∧ J s.record

theorem quiet_keeps {α : Type} {ask : Ask} {act : Act σ α} (kept : Record.Kept S.limit J) (hask : ask.IsQuiet)
    (hs : Recorded S I J s) (h : Keeps F I (act s.surface.inner)) :
    Keeps F (Recorded S I J) (onSurface (WatchedSurface.watching ask act) s) := by
  refine ends_on.2 (WatchedSurface.ends_watching.2 (Ends.mono h (fun _ t ht => ?_) fun e t ht => ?_))
  · exact ⟨hs.1.elsewhere, ht, kept.quiet _ ask none hask hs.2.2⟩
  · exact ⟨ht.1, hs.1.elsewhere, ht.2, kept.quiet _ ask (some e) hask hs.2.2⟩

theorem record_withRoom (hs : s.Framed S) : s.withRoom.record = s.record.withRoom S.limit := by
  have hfull : s.isFull = true ↔ S.limit ≠ 0 ∧ S.limit ≤ s.record.drawn := by
    rw [← hs.settings]
    simp [isFull, record]
  unfold withRoom Record.withRoom
  by_cases h : s.isFull = true
  · rw [if_pos h, if_pos (hfull.1 h)]
    rfl
  · rw [if_neg h, if_neg fun h' => h (hfull.2 h')]

theorem draw_record (mark : Mark) (s : Scene ρ (WatchedSurface σ)) :
    Ends (fun _ t => t.record = s.record.drew mark) (fun e t => t.record = s.record.note ⟨.put mark, some e⟩)
      (draw mark s) := by
  refine ends_bind.2 (ends_on.2 (WatchedSurface.ends_watching.2 ?_))
  cases Surface.put mark s.surface.inner <;> rfl

theorem draw_keeps (room : Surface.Roomy F I) (kept : Record.Kept S.limit J) (hs : Recorded S I J s) {mark : Mark}
    (hon : OnScreen s.width s.height mark.x mark.y) : Keeps F (Recorded S I J) (draw mark s.withRoom) := by
  obtain ⟨hframed, hI, hJ⟩ := hs
  have hI' : I s.withRoom.surface.inner := by
    unfold withRoom
    split
    · exact room.clear _ hI
    · exact hI
  have hrecord := record_withRoom hframed
  have hput := room.put s.withRoom.surface.inner mark hI'
  refine ends_bind.2 (ends_on.2 (WatchedSurface.ends_watching.2 (Ends.mono hput (fun _ t ht => ?_) fun e t ht => ?_)))
  · refine ⟨hframed.withRoom.elsewhere, ht, ?_⟩
    have hdrew := kept.drew s.record mark hon hJ
    rw [← hrecord] at hdrew
    exact hdrew
  · refine ⟨ht.1, hframed.withRoom.elsewhere, ht.2, ?_⟩
    have hmissed := kept.missed s.record mark e hon hJ
    rw [← hrecord] at hmissed
    exact hmissed

theorem recorded_lasting (room : Surface.Roomy F I) (kept : Record.Kept S.limit J) :
    Lasting S F (Recorded (ρ := ρ) S I J) where
  framed _ hs := hs.1
  pipes _ _ _ hs hframed := ⟨hframed, hs.2⟩
  running _ _ hs := ⟨hs.1.elsewhere, hs.2⟩
  now s hs := ⟨hs.1.elsewhere, room.now s.surface.inner hs.2.1, hs.2.2⟩
  draw _ _ hs hdrawn := draw_keeps room kept hs hdrawn.onScreen
  refresh _ hs := quiet_keeps kept trivial hs (room.refresh _ hs.2.1)
  poll _ hs := quiet_keeps kept trivial hs (room.poll _ hs.2.1)
  sleep _ t hs := quiet_keeps kept trivial hs (room.sleep _ t hs.2.1)
  restore _ hs := quiet_keeps kept trivial hs (room.restore _ hs.2.1)
  size _ hs := ⟨room.width _ hs.2.1, room.height _ hs.2.1⟩
  resized _ _ _ hs hframed := ⟨hframed, room.clear _ (room.size _ hs.2.1), kept.resized _ _ _ hs.2.2⟩

end Scene

/-- With valid settings and a roomy surface there is a scene to start with, and what is kept lasts from there. -/
theorem Record.Kept.after {ρ σ τ : Type} [RandomSource ρ] [Surface σ] [Clock σ τ] [Time τ] {S : Settings}
    {I : σ → Prop} {J : Record → Prop} (kept : Kept S.limit J) (room : Surface.Roomy (fun _ => True) I)
    (valid : S.Valid) (start : ∀ width height, J (start width height)) (source : ρ) {surface : σ} (h : I surface) :
    ∃ s : Scene ρ (WatchedSurface σ), Scene.create S source ⟨surface, []⟩ = .ok s ∧
      ∀ deeds : List (Deed τ), (.reset ∈ deeds → ∀ r, J r → J r.wiped) → Scene.Recorded S I J (s.after deeds) := by
  obtain ⟨tables, pipes, g, hcreate, hframed⟩ := Scene.create_eq valid source
    (⟨surface, []⟩ : WatchedSurface σ) (room.width surface h) (room.height surface h)
  refine ⟨_, hcreate, fun deeds hwipe => ?_⟩
  refine (Scene.recorded_lasting room kept).after (fun hmem s hs => ?_) ⟨hframed, room.size surface h, start _ _⟩
  exact ⟨hs.1.wiped, room.clear _ hs.2.1, hwipe hmem _ hs.2.2⟩

end Pipework
