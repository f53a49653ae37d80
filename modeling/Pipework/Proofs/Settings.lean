import Pipework.Pipe
import Pipework.Tables
import Pipework.Time

/-!
# What valid settings provide

The rules for settings are checked once, far from where they matter. Valid settings name a palette with colours
and at least one glyph table, their chance of a turn can be drawn against, and a frame has a duration.
-/

namespace Pipework

/-! ## Tables -/

theorem GlyphTable.ofText_of_length {text : String} (h : text.length = 16) : ∃ table, ofText text = .ok table := by
  have hlist : text.toList.length = 16 := by rwa [String.length_toList]
  refine ⟨.ofSet ⟨text.toList.toArray, by simpa using hlist⟩, ?_⟩
  simp only [ofText, GlyphSet.ofText?, dif_pos hlist]

theorem Kind.lookup_of_isKind {number : Int} (h : Settings.isKind number) : ∃ table, lookup number = .ok table := by
  simp only [Settings.isKind, Bool.and_eq_true, decide_eq_true_eq] at h
  have hlt : number.toNat < Kind.all.length := by omega
  refine ⟨Kind.all[number.toNat].table, ?_⟩
  simp [lookup, table?, h.1, List.getElem?_eq_getElem hlt]

theorem Kind.mapM_lookup {numbers : List Int} (h : ∀ number ∈ numbers, Settings.isKind number) :
    ∃ tables, numbers.mapM lookup = .ok tables ∧ tables.length = numbers.length := by
  induction numbers with
  | nil => exact ⟨[], rfl, rfl⟩
  | cons number numbers ih =>
    obtain ⟨table, htable⟩ := lookup_of_isKind (h number (by simp))
    obtain ⟨tables, htables, hlength⟩ := ih fun n hn => h n (by simp [hn])
    refine ⟨table :: tables, ?_, by simp [hlength]⟩
    rw [List.mapM_cons, htable, htables]
    rfl

/-! ## Palettes -/

theorem Palette.colors?_length_pos {p : Palette} {colors : List Color} (h : p.colors? = some colors) :
    0 < colors.length := by
  cases p <;> cases h <;> decide

/-! ## Positive numbers -/

/-- All tests of a double against another go by the comparison of unpacked doubles. -/
theorem compare_zero_of_pos {f : Float} (h : 0 < f) :
    (0 : Float).toModel.unpack.compare f.toModel.unpack = some .lt := by
  have hlt : Float.lt 0 f = true := h
  rw [Float.lt, decide_eq_true_eq] at hlt
  exact beq_iff_eq.1 (show (0 : Float).toModel.unpack.lt f.toModel.unpack = true from hlt)

theorem Settings.beq_zero_of_isPositive {f : Float} (h : isPositive f) : (f == 0) = false := by
  simp only [isPositive, Bool.and_eq_true, decide_eq_true_eq] at h
  have hzero : (0 : Float).toModel.unpack = .zero .positive := rfl
  have hlt := compare_zero_of_pos h.2
  change (f.toModel.unpack.compare (0 : Float).toModel.unpack == some .eq) = false
  rw [hzero] at hlt ⊢
  cases hf : f.toModel.unpack with
  | infinity s => cases s <;> rfl
  | notANumber => rfl
  | zero s =>
    rw [hf] at hlt
    have heq : some Ordering.eq = some Ordering.lt := by cases s <;> exact hlt
    cases heq
  | finite s m e hm => cases s <;> rfl

theorem not_lt_zero_of_nonneg {f : Float} (h : 0 ≤ f) : ¬ f < 0 := by
  have hle : (0 : Float).toModel.unpack.le f.toModel.unpack = true := by
    have hle : Float.le 0 f = true := h
    rwa [Float.le, decide_eq_true_eq] at hle
  intro hneg
  have hlt : f.toModel.unpack.lt (0 : Float).toModel.unpack = true := by
    have hlt : Float.lt f 0 = true := hneg
    rwa [Float.lt, decide_eq_true_eq] at hlt
  have hzero : (0 : Float).toModel.unpack = .zero .positive := rfl
  rw [hzero] at hle hlt
  -- a number with a sign fails one of the tests, and zero and what is no number fail the second
  cases hf : f.toModel.unpack with
  | notANumber =>
    rw [hf] at hlt
    cases hlt
  | zero s =>
    rw [hf] at hlt
    cases s <;> cases hlt
  | infinity s =>
    rw [hf] at hle hlt
    cases s with
    | positive => cases hlt
    | negative => cases hle
  | finite s m e hm =>
    rw [hf] at hle hlt
    cases s with
    | positive => cases hlt
    | negative => cases hle

/-- The positive part of a double is a number, and not negative, even if the double is neither. -/
theorem Time.positivePart_nonneg (f : Float) : (positivePart f).isNaN = false ∧ 0 ≤ positivePart f := by
  unfold positivePart
  split
  · next hpos =>
    have hlt := compare_zero_of_pos hpos
    constructor
    · change f.toModel.unpack.isNaN = false
      cases hf : f.toModel.unpack with
      | notANumber =>
        rw [hf] at hlt
        cases hlt
      | _ => rfl
    · change decide (Option.any Ordering.isLE _ = true) = true
      rw [hlt]
      rfl
  · exact ⟨by decide +kernel, by decide +kernel⟩

/-! ## Valid settings -/

namespace Settings.Valid

variable {s : Settings}

theorem one_le_pipes (h : s.Valid) : 1 ≤ s.pipes := ((valid_iff s).1 h).1

theorem limit_nonneg (h : s.Valid) : 0 ≤ s.limit := ((valid_iff s).1 h).2.2.2.1

theorem wrap_or_bounce (h : s.Valid) : s.boundary = .wrap ∨ s.boundary = .bounce := by
  obtain ⟨-, -, -, -, -, -, -, -, -, hknown⟩ := (valid_iff s).1 h
  cases hb : s.boundary with
  | wrap => exact .inl rfl
  | bounce => exact .inr rfl
  | unknown name =>
    rw [hb] at hknown
    cases hknown

theorem threshold (h : s.Valid) : ∃ threshold, s.turnThreshold? = some threshold :=
  Option.isSome_iff_exists.1 (turnThreshold?_isSome ((valid_iff s).1 h).2.2.1)

theorem colors (h : s.Valid) : ∃ colors, s.palette.colors? = some colors :=
  Option.isSome_iff_exists.1 ((valid_iff s).1 h).2.2.2.2.2.1

theorem tables_length (h : s.Valid) :
    ∃ tables, s.tables = .ok tables ∧ tables.length = if s.custom.isSome then 1 else s.kinds.length := by
  obtain ⟨-, -, -, -, -, -, -, hkind, hcustom, -⟩ := (valid_iff s).1 h
  unfold Settings.tables
  cases hc : s.custom with
  | some text =>
    obtain ⟨table, htable⟩ := GlyphTable.ofText_of_length (hcustom text hc)
    exact ⟨[table], by simp only [htable]; rfl, rfl⟩
  | none =>
    obtain ⟨tables, htables, hlength⟩ := Kind.mapM_lookup hkind
    exact ⟨tables, htables, hlength⟩

theorem tables (h : s.Valid) : ∃ tables, s.tables = .ok tables ∧ 0 < tables.length := by
  obtain ⟨tables, htables, hlength⟩ := h.tables_length
  have hkinds : s.kinds ≠ [] := ((valid_iff s).1 h).2.2.2.2.2.2.1
  refine ⟨tables, htables, ?_⟩
  rw [hlength]
  split
  · exact Nat.one_pos
  · exact List.length_pos_iff.2 hkinds

theorem delay (h : s.Valid) : ∃ delay, s.pace.delay? = some delay := by
  have hrate : ¬(s.fps == 0) = true := by rw [beq_zero_of_isPositive ((valid_iff s).1 h).2.1]; decide
  exact ⟨1 / s.fps, if_neg hrate⟩

end Settings.Valid

end Pipework
