import Pipework.Proofs.Opening
import Pipework.Random.Scripted

/-!
# Colours

A pipe holds the place of a colour in its palette, a terminal registers pairs from one on, and a write packs the
number of a pair and a bit for bold into one number (`packed`). In an animation all three agree: every write has the
attributes of the pair that was registered for the colour of its pipe, before anything was written (`colors_agree`).
-/

namespace Pipework

open Act

variable {ρ τ : Type}

/-! ## Attributes -/

/-- The attributes of a pair, where zero stands for no pair, in bold or not. -/
def packed (pair : Nat) (bold : Bool) : Nat := 256 * pair + if bold then 2097152 else 0

theorem packed_eq {pair : Nat} (h : pair ≤ 8191) (bold : Bool) :
    pairAttribute pair ||| (if bold then boldAttribute else 0) = packed pair bold := by
  cases bold with
  | false => simp [pairAttribute, packed, Nat.mul_comm]
  | true =>
    have hbelow : 256 * pair < 2 ^ 21 := by omega
    have hdisjoint : 2097152 + 256 * pair = 2097152 ||| 256 * pair := Nat.two_pow_add_eq_or_of_lt hbelow 1
    calc pair * 256 ||| 2097152
      _ = 2097152 ||| 256 * pair := by rw [Nat.or_comm, Nat.mul_comm pair]
      _ = 2097152 + 256 * pair := hdisjoint.symm
      _ = 256 * pair + 2097152 := Nat.add_comm _ _

/-- The numbers of pairs below 8192 do not reach the bit for bold. -/
theorem packed_inj {pair pair' : Nat} {bold bold' : Bool} (hpair : pair ≤ 8191) (hpair' : pair' ≤ 8191)
    (h : packed pair bold = packed pair' bold') : pair = pair' ∧ bold = bold' := by
  unfold packed at h
  cases bold <;> cases bold' <;> simp at h ⊢ <;> omega

namespace Terminal

/-- The pair in which a terminal draws a palette entry, zero without colours. -/
def pairOf (t : Terminal τ) (color : Int) : Nat :=
  if t.color then (color % t.palette.length).toNat + 1 else 0

variable {t : Terminal τ}

theorem pairOf_le (h : t.palette ≠ []) (color : Int) : t.pairOf color ≤ t.palette.length := by
  have hpos := List.length_pos_iff.2 h
  have hlt := Int.emod_lt_of_pos color (show (0 : Int) < t.palette.length by omega)
  unfold pairOf
  split <;> omega

theorem one_le_pairOf (h : t.color) (color : Int) : 1 ≤ t.pairOf color := by
  rw [pairOf, if_pos h]
  omega

theorem pairOf_entry {color : Nat} (h : color < t.palette.length) :
    t.pairOf color = if t.color then color + 1 else 0 := by
  rw [pairOf, Int.emod_eq_of_lt (by omega) (by omega), Int.toNat_natCast]

theorem attributes?_eq (h : t.palette ≠ []) (hlength : t.palette.length ≤ 8191) (color : Int) :
    t.attributes? color = some (packed (t.pairOf color) t.bold) := by
  have hle := pairOf_le h color
  rw [← packed_eq (by omega), attributes?, pairOf]
  split
  · rw [if_neg (by simpa using h)]
  · simp [pairAttribute]

end Terminal

/-! ## Calls -/

def Call.written? : Call → Option (Int × Int × Nat)
  | write y x _ attributes => some (y, x, attributes)
  | _ => none

/-- The number, the foreground and the background of a pair that is registered. -/
def Call.registered? : Call → Option (Nat × Int × Int)
  | pair number foreground background => some (number, foreground, background)
  | _ => none

/-- The pairs of some colours, the first as pair one, each on the background that the terminal has. -/
def pairsOf (colors : List Color) : List (Nat × Int × Int) :=
  colors.zipIdx.map fun (color, i) => (i + 1, color.number, -1)

theorem mem_pairsOf {colors : List Color} {i : Nat} {color : Color} (h : colors[i]? = some color) :
    (i + 1, color.number, -1) ∈ pairsOf colors :=
  List.mem_map.2 ⟨(color, i), List.mem_zipIdx_iff_getElem?.2 h, rfl⟩

theorem pairCalls_registered (colors : List Color) :
    (pairCalls (colors.map Color.number)).filterMap Call.registered? = pairsOf colors := by
  simp [pairCalls, pairsOf, List.zipIdx_map, List.filterMap_map, Function.comp_def, Call.registered?]

theorem setupCalls_registered (palette : List Color) (wanted colors : Bool) :
    (setupCalls (palette.map Color.number) wanted colors).filterMap Call.registered? =
      if wanted && colors then pairsOf palette else [] := by
  match wanted, colors with
  | false, _ => rfl
  | true, false => rfl
  | true, true =>
    change (pairCalls (palette.map Color.number) ++ [Call.clear]).filterMap Call.registered? = pairsOf palette
    rw [List.filterMap_append, pairCalls_registered]
    exact List.append_nil _

theorem setupCalls_plain (palette : List Int) {wanted colors : Bool} (h : (wanted && colors) = false) :
    ∀ c ∈ setupCalls palette wanted colors, ¬ c.IsColorSetup := by
  cases wanted <;> cases colors <;> simp_all [setupCalls, colorCalls, Call.IsColorSetup]

/-! ## Writes -/

/-- A single write of a text, whatever its colour: its attributes stand for one pair only, with or without bold. -/
def Terminal.WritesDecodably (t : Terminal τ) (x y : Int) (text : String) (color : Int) : Prop :=
  ∃ pair attributes,
    (left (write x y text color t)).window.log.filterMap Call.written? =
      (y, x, attributes) :: t.window.log.filterMap Call.written? ∧
    (if t.color then 1 ≤ pair ∧ pair ≤ t.palette.length else pair = 0) ∧
    ∀ pair' ≤ 8191, ∀ bold', attributes = packed pair' bold' ↔ pair' = pair ∧ bold' = t.bold

theorem Terminal.writesDecodably {t : Terminal τ} (h : t.palette ≠ []) (hlength : t.palette.length ≤ 8191)
    (x y : Int) (text : String) (color : Int) : t.WritesDecodably x y text color := by
  obtain ⟨attributes, traps, sprung, refusal, hattributes, hwrite, hrefusal⟩ := left_write h x y text color
  rw [attributes?_eq h hlength] at hattributes
  cases hattributes
  have hle := pairOf_le h color
  refine ⟨t.pairOf color, packed (t.pairOf color) t.bold, ?_, ?_, fun pair' hpair' bold' => ⟨fun hsame => ?_, ?_⟩⟩
  · rw [hwrite]
    rcases hrefusal with rfl | ⟨rfl, -⟩ <;> rfl
  · split
    · next hcolor => exact ⟨one_le_pairOf hcolor color, hle⟩
    · next hcolor => exact if_neg hcolor
  · exact packed_inj hpair' (by omega) hsame.symm
  · rintro ⟨rfl, rfl⟩
    rfl

def Trace.written? : Trace → Option (Int × Int × Nat)
  | written y x attributes => some (y, x, attributes)
  | refused => none

theorem filterMap_written (calls : List Call) :
    calls.filterMap Call.written? = (calls.filterMap Call.trace?).filterMap Trace.written? := by
  rw [List.filterMap_filterMap]
  congr 1
  funext c
  cases c <;> rfl

theorem Stroke.traces_written (ks : List (Stroke ρ (Terminal τ))) :
    (ks.flatMap traces).filterMap Trace.written? =
      ks.map fun k => (k.pipe.y, k.pipe.x, (k.scene.surface.attributes? k.pipe.color).getD 0) := by
  induction ks with
  | nil => rfl
  | cons k ks ih =>
    have hk : k.traces.filterMap Trace.written? =
        [(k.pipe.y, k.pipe.x, (k.scene.surface.attributes? k.pipe.color).getD 0)] := by
      unfold traces
      cases k.scene.surface.window.refuses <;> rfl
    rw [List.flatMap_cons, List.filterMap_append, ih, hk]
    rfl

theorem Palette.colors?_length_le {palette : Palette} {colors : List Color} (h : palette.colors? = some colors) :
    colors.length ≤ 7 := by
  cases palette <;> cases h <;> decide

theorem Stroke.color_lt {s : Settings} {colors : List Color} (hcolors : s.palette.colors? = some colors)
    {k : Stroke ρ (Terminal τ)} (h : k.scene.Framed s) : k.pipe.color < colors.length := by
  obtain ⟨colors', hcolors', hlt⟩ := (h.fits k.pipe (List.get_mem _ _)).styled.color
  rw [hcolors] at hcolors'
  cases hcolors'
  exact hlt

/-- How the calls of an animation agree on colours. Pairs are registered in the opening, and writes follow it. -/
structure Coloured (s : Settings) (colors : List Color) (window : Window τ) (ks : List (Stroke ρ (Terminal τ)))
    (opening later : List Call) : Prop where
  unwritten : opening.filterMap Call.written? = []
  settled : ∀ c ∈ later, ¬ c.IsColorSetup
  /-- Each write has the attributes of the colour of its pipe. -/
  writes : later.filterMap Call.written? = ks.map fun k =>
    (k.pipe.y, k.pipe.x, packed (if s.color && window.colors then k.pipe.color + 1 else 0) s.bold)
  /-- The pairs are those of the palette, unless a trap has broken off the opening. -/
  registered : s.color && window.colors → opening.filterMap Call.registered? = pairsOf colors ∨
    (opening.filterMap Call.registered? = [] ∧ ks = []) ∧ ¬ window.Unhindered
  /-- The pair of each pipe has been registered for its colour. -/
  known : s.color && window.colors → ∀ k ∈ ks, ∃ color, colors[k.pipe.color]? = some color ∧
    (k.pipe.color + 1, color.number, -1) ∈ opening.filterMap Call.registered?
  plain : ¬ (s.color && window.colors) → ∀ c ∈ opening, ¬ c.IsColorSetup

section Animate

variable [RandomSource ρ] [Time τ]

theorem Played.coloured {s : Settings} {colors : List Color} (hcolors : s.palette.colors? = some colors)
    {pace : Pace τ} {source : Except Fault ρ} {most : Nat} {window : Window τ} {ks : List (Stroke ρ (Terminal τ))}
    {opening later : List Call} (h : Played s pace source most window (colors.map Color.number) ks opening later) :
    Coloured s colors window ks opening later where
  unwritten := by
    rw [filterMap_written, h.opening_trace]
    rfl
  settled := h.later
  writes := by
    rw [filterMap_written, h.traces, Stroke.traces_written]
    refine List.map_congr_left fun k hk => ?_
    obtain ⟨hframed, hpalette, hbold, hcolor, -⟩ := h.scenes k hk
    have hlt := Stroke.color_lt hcolors hframed
    have hle := Palette.colors?_length_le hcolors
    have hlength : k.scene.surface.palette.length = colors.length := by rw [hpalette, List.length_map]
    have hne : k.scene.surface.palette ≠ [] := List.ne_nil_of_length_pos (by omega)
    rw [Terminal.attributes?_eq hne (by omega), Terminal.pairOf_entry (by omega), hbold, hcolor]
    rfl
  registered := by
    intro hwanted
    rcases h.opens with hopening | ⟨⟨hopening, hks⟩, hindered⟩
    · rw [hopening, setupCalls_registered, if_pos hwanted]
      exact .inl rfl
    · refine .inr ⟨⟨?_, hks⟩, hindered⟩
      rcases hopening with rfl | ⟨-, rfl⟩ <;> rfl
  known := by
    intro hwanted k hk
    have hlt := Stroke.color_lt hcolors (h.scenes k hk).1
    refine ⟨colors[k.pipe.color], List.getElem?_eq_getElem hlt, ?_⟩
    rcases h.opens with hopening | ⟨⟨-, rfl⟩, -⟩
    · rw [hopening, setupCalls_registered, if_pos hwanted]
      exact mem_pairsOf (List.getElem?_eq_getElem hlt)
    · cases hk
  plain := by
    intro hplain
    rcases h.opens with hopening | ⟨⟨hopening | ⟨hcolored, -⟩, -⟩, -⟩
    · rw [hopening]
      exact setupCalls_plain _ (Bool.not_eq_true _ ▸ hplain)
    · rw [hopening]
      simp [Call.IsColorSetup]
    · exact absurd hcolored hplain

/--
In every animation the pairs registered, the attributes of all writes and the colours of the pipes agree. A write by
itself decodes to one pair in any colour, even one beyond the palette.
-/
theorem colors_agree {s : Settings} (valid : s.Valid) (pace : Pace τ) (source : Except Fault ρ) (most : Nat)
    (window : Window τ) :
    (∃ colors ks opening later, s.palette.colors? = some colors ∧ Draws s pace source most window ks ∧
      (left (animate s pace source most window)).calls = window.calls ++ (opening ++ later) ∧
      Coloured s colors window ks opening later) ∧
    ∀ t : Terminal τ, t.palette ≠ [] → t.palette.length ≤ 8191 →
      ∀ x y text color, t.WritesDecodably x y text color := by
  constructor
  · obtain ⟨colors, hcolors⟩ := valid.colors
    have hnumbers : s.palette.numbers? = some (colors.map Color.number) := by rw [Palette.numbers?, hcolors]; rfl
    obtain ⟨ks, opening, later, hplayed⟩ := animate_played valid hnumbers pace source most window
    exact ⟨colors, ks, opening, later, hcolors, hplayed.draws, hplayed.calls, hplayed.coloured hcolors⟩
  · intro t hpalette hlength x y text color
    exact Terminal.writesDecodably hpalette hlength x y text color

end Animate

/-- Ice on a window that is resized and springs a trap, and a terminal of three colours asked for the last but one. -/
theorem colors_agree_ice :
    let S : Settings := { pipes := 2, limit := 3, palette := .ice, randomStart := true }
    let script : Script Float := {
      width := 4, height := 3, keys := [-1, 410, 113], sizes := [(2, 5)], time := 0, costs := fun _ => 1
      traps := [⟨.put, .failure "put", 9⟩] }
    let window : Window Float := { script, cursor := some 1, colors := true }
    let source : Except Fault Scripted := .ok (.ofLists [0, 0.75] [3, 1, 2])
    let t : Terminal Float := ⟨window, [4, 6, 7], true, true, none⟩
    S.Valid ∧
      (∃ ks opening later, Draws S S.pace source 9 window ks ∧
        (left (animate S S.pace source 9 window)).calls = window.calls ++ (opening ++ later) ∧
        Coloured S [.blue, .cyan, .white] window ks opening later) ∧
      t.palette ≠ [] ∧ t.palette.length ≤ 8191 ∧ t.WritesDecodably 1 2 "x" (-2) := by
  intro S script window source t
  have valid : S.Valid := by decide +kernel
  obtain ⟨⟨colors, ks, opening, later, hcolors, hdraws, hcalls, hcolored⟩, hwrites⟩ :=
    colors_agree valid S.pace source 9 window
  cases hcolors
  have hne : t.palette ≠ [] := by simp [t]
  have hlength : t.palette.length ≤ 8191 := by simp [t]
  exact ⟨valid, ⟨ks, opening, later, hdraws, hcalls, hcolored⟩, hne, hlength, hwrites t hne hlength 1 2 "x" (-2)⟩

end Pipework
