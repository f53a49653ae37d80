import Pipework.Proofs.Watched
import Pipework.Random.Scripted

/-!
# Pipes stay in bounds

Whatever is done with a scene, and whichever calls on its surface end in faults, it has all of its pipes, each
on the screen and in a style that the settings allow, and everything put so far was put on the screen of that
time. A scene takes over a size when it reads it, so the screen at any time is the size reported last.
-/

namespace Pipework

open Scene

/-- The size that a surface reported last. -/
def told : List Sight → Option (Int × Int)
  | [] => none
  | ⟨.size width height, _⟩ :: _ => some (width, height)
  | _ :: log => told log

/-- Everything put, or asked to be put, was so on the screen of that time. -/
def PutInside (log : List Sight) : Prop :=
  ∀ older mark fault, ⟨.put mark, fault⟩ :: older <:+ log →
    ∃ width height, told older = some (width, height) ∧ OnScreen width height mark.x mark.y

namespace Record

/-- A scene knows the size reported last, and all was put inside. -/
def InBounds (r : Record) : Prop := told r.log = some (r.width, r.height) ∧ PutInside r.log

variable {r : Record}

theorem InBounds.put (h : r.InBounds) {mark : Mark} (hon : OnScreen r.width r.height mark.x mark.y)
    (fault : Option Fault) : (r.note ⟨.put mark, fault⟩).InBounds := by
  obtain ⟨htold, hinside⟩ := h
  refine ⟨htold, fun older mark' fault' hsuffix => ?_⟩
  rcases List.suffix_cons_iff.1 hsuffix with heq | hsuffix
  · cases heq
    exact ⟨r.width, r.height, htold, hon⟩
  · exact hinside older mark' fault' hsuffix

theorem InBounds.note (h : r.InBounds) {ask : Ask} (hask : ask.IsQuiet ∨ ask = .clear) (fault : Option Fault) :
    (r.note ⟨ask, fault⟩).InBounds := by
  obtain ⟨htold, hinside⟩ := h
  constructor
  · cases ask <;> first | exact htold | simp [Ask.IsQuiet] at hask
  · intro older mark fault' hsuffix
    rcases List.suffix_cons_iff.1 hsuffix with heq | hsuffix
    · cases heq
      simp [Ask.IsQuiet] at hask
    · exact hinside older mark fault' hsuffix

theorem InBounds.wiped (h : r.InBounds) : r.wiped.InBounds := h.note (.inr rfl) none

theorem InBounds.withRoom (h : r.InBounds) (limit : Int) : (r.withRoom limit).InBounds :=
  withRoom_of_wiped h h.wiped limit

theorem InBounds.resized (h : r.InBounds) (width height : Int) : (r.resized width height).InBounds := by
  have hread : (⟨width, height, 0, r.resets, ⟨.size width height, none⟩ :: r.log⟩ : Record).InBounds := by
    refine ⟨rfl, fun older mark fault hsuffix => ?_⟩
    rcases List.suffix_cons_iff.1 hsuffix with heq | hsuffix
    · cases heq
    · exact h.2 older mark fault hsuffix
  exact hread.note (.inr rfl) none

theorem inBounds_start (width height : Int) : (start width height).InBounds := by
  refine ⟨rfl, fun older mark fault hsuffix => ?_⟩
  rcases List.suffix_cons_iff.1 hsuffix with heq | hsuffix
  · cases heq
  · simp at hsuffix

theorem onScreen_withRoom {limit x y : Int} (h : OnScreen r.width r.height x y) :
    OnScreen (r.withRoom limit).width (r.withRoom limit).height x y := by
  unfold Record.withRoom
  split <;> exact h

theorem inBounds_kept (limit : Int) : Kept limit InBounds where
  quiet _ _ fault hask h := h.note (.inl hask) fault
  drew _ _ hon h := (h.withRoom limit).put (onScreen_withRoom hon) none
  missed _ _ e hon h := (h.withRoom limit).put (onScreen_withRoom hon) (some e)
  resized _ width height h := h.resized width height

end Record

variable {ρ σ τ : Type} [RandomSource ρ] [Surface σ] [Clock σ τ] [Time τ]

/-- A scene with pipes in bounds, and all that it put so far. -/
structure Scene.InBounds (S : Settings) (s : Scene ρ (WatchedSurface σ)) : Prop where
  count : (s.pipes.length : Int) = S.pipes
  position : ∀ p ∈ s.pipes, OnScreen s.width s.height p.x p.y
  color : ∀ p ∈ s.pipes, ∃ colors, S.palette.colors? = some colors ∧ p.color < colors.length
  glyphs : ∀ p ∈ s.pipes, p.glyphs ∈ s.tables
  size : told s.surface.log = some (s.width, s.height)
  puts : PutInside s.surface.log

/-- With valid settings and a roomy surface there is a scene to start with, and whatever is done stays in bounds. -/
theorem stays_in_bounds {S : Settings} {I : σ → Prop} (room : Surface.Roomy (fun _ => True) I) (valid : S.Valid)
    (source : ρ) {surface : σ} (h : I surface) :
    ∃ s : Scene ρ (WatchedSurface σ), create S source ⟨surface, []⟩ = .ok s ∧
      ∀ deeds : List (Deed τ), (s.after deeds).InBounds S := by
  obtain ⟨s, hcreate, hafter⟩ := (Record.inBounds_kept S.limit).after room valid Record.inBounds_start source h
  refine ⟨s, hcreate, fun deeds => ?_⟩
  obtain ⟨hframed, -, htold, hinside⟩ := hafter deeds fun _ _ h => h.wiped
  have hstyled : ∀ p ∈ (s.after deeds).pipes, Styled S (s.after deeds).tables p.color p.glyphs :=
    fun p hp => (hframed.fits p hp).styled
  exact {
    count := hframed.count
    position := fun p hp => (hframed.fits p hp).onScreen
    color := fun p hp => (hstyled p hp).color
    glyphs := fun p hp => (hstyled p hp).glyphs
    size := htold
    puts := hinside }

/-- Three bouncing pipes on a screen that shrinks to one cell, with a fault of each kind of call. -/
theorem stays_in_bounds_shrinking :
    let S : Settings := { pipes := 3, limit := 2, boundary := .bounce, randomStart := true }
    let script : Script Float := {
      width := 4, height := 3, keys := [410, -1, 410, 113], sizes := [(1, 1), (2, 5)], time := 0, costs := fun _ => 1
      traps := [⟨.put, .failure "put", 4⟩, ⟨.refresh, .terminal "refresh", 2⟩, ⟨.poll, .interrupt "poll", 1⟩,
        ⟨.sleep, .terminate, 0⟩] }
    S.Valid ∧ script.HasCells ∧
      ∃ s : Scene Scripted (WatchedSurface (Script Float)),
        create S (Scripted.ofLists [0, 0.75] [3, 1, 2]) ⟨script, []⟩ = .ok s ∧
        ∀ deeds : List (Deed Float), (s.after deeds).InBounds S := by
  intro S script
  have valid : S.Valid := by decide +kernel
  have hcells : script.HasCells := by simp [Script.HasCells, script]
  exact ⟨valid, hcells, stays_in_bounds Script.hasCells_roomy valid _ hcells⟩

end Pipework
