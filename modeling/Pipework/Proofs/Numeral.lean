import Pipework.Decimal.Layout
import Pipework.Decimal.Numeral

/-!
# Integers read back

An integer written in decimal is read as that integer, as long as it has no more digits than a numeral may have.
-/

namespace Pipework.Decimal

open Text

theorem isDigit_bounds {c : Char} (h : c.isDigit) : 48 ≤ c.toNat ∧ c.toNat ≤ 57 :=
  Char.isDigit_iff_toNat.1 h

theorem digit?_of_isDigit {c : Char} (h : c.isDigit) : digit? c = some (c.toNat - '0'.toNat) := by
  obtain ⟨hlow, hhigh⟩ := isDigit_bounds h
  have hfind : zeros.find? (fun z => z ≤ c.toNat && c.toNat < z + 10) = some 48 :=
    List.find?_cons_of_pos (by simp; omega)
  rw [digit?, hfind]
  rfl

theorem spanDigits_of_forall_isDigit {cs : List Char} (h : ∀ c ∈ cs, c.isDigit) :
    spanDigits cs = (cs.map fun c => c.toNat - '0'.toNat, []) := by
  induction cs with
  | nil => rfl
  | cons c cs ih =>
    have hc := digit?_of_isDigit (h c (by simp))
    have hcs := ih fun c hc => h c (by simp [hc])
    have hscore : ∀ rest, cs ≠ '_' :: rest := by
      rintro rest rfl
      exact absurd (h '_' (by simp)) (by decide)
    rw [spanDigits.eq_def]
    split
    · next heq => cases heq
    · next heq =>
      cases heq
      exact absurd rfl (hscore _)
    · next heq =>
      cases heq
      rw [hc, hcs]
      rfl

theorem ofDigits_map (cs : List Char) :
    ofDigits (cs.map fun c => c.toNat - '0'.toNat) = Nat.ofDigitChars 10 cs 0 := by
  rw [ofDigits, Nat.ofDigitChars_eq_foldl, List.foldl_map]

theorem isBlank_of_isDigit {c : Char} (h : c.isDigit) : isBlank c = false := by
  obtain ⟨hlow, hhigh⟩ := isDigit_bounds h
  simp only [isBlank, Runs.contains, blankRuns, List.any_eq_false, List.mem_cons, List.not_mem_nil, or_false,
    Bool.and_eq_true, decide_eq_true_eq]
  rintro run (rfl | rfl | rfl | rfl | rfl | rfl | rfl | rfl | rfl | rfl) <;> dsimp only <;> omega

theorem trim_eq_self {cs : List Char} (h : ∀ c ∈ cs, isBlank c = false) : trim cs = cs := by
  have hkeep (l : List Char) (hl : ∀ c ∈ l, isBlank c = false) : l.dropWhile isBlank = l := by
    cases l with
    | nil => rfl
    | cons c l => rw [List.dropWhile_cons_of_neg (by simp [hl c])]
  rw [trim, hkeep cs h, hkeep cs.reverse (by simpa using h), List.reverse_reverse]

theorem toList_toString (n : Int) :
    (toString n).toList = if 0 ≤ n then digits n.natAbs else '-' :: digits n.natAbs := by
  rw [Int.toString_eq_repr, Int.repr_eq_if]
  split
  · rw [Nat.toList_repr, digits, show n.toNat = n.natAbs by omega]
  · rw [String.toList_append, Nat.toList_repr, digits, show (-n).toNat = n.natAbs by omega]
    rfl

theorem isDigit_of_mem_digits {n : Nat} {c : Char} (h : c ∈ digits n) : c.isDigit :=
  Nat.isDigit_of_mem_toDigits (by decide) (by decide) h

theorem spanSign_of_forall_isDigit {cs : List Char} (h : ∀ c ∈ cs, c.isDigit) : spanSign cs = (false, cs) := by
  unfold spanSign
  split
  · exact absurd (h '-' List.mem_cons_self) (by decide)
  · exact absurd (h '+' List.mem_cons_self) (by decide)
  · rfl

theorem spanSign_toString (n : Int) : spanSign (toString n).toList = (decide (n < 0), digits n.natAbs) := by
  rw [toList_toString]
  split
  · rw [spanSign_of_forall_isDigit fun c => isDigit_of_mem_digits, decide_eq_false (by omega)]
  · rw [decide_eq_true (by omega)]
    rfl

theorem isBlank_of_mem_toString {n : Int} {c : Char} (h : c ∈ (toString n).toList) : isBlank c = false := by
  rw [toList_toString] at h
  split at h
  · exact isBlank_of_isDigit (isDigit_of_mem_digits h)
  · rcases List.mem_cons.1 h with rfl | h
    · decide
    · exact isBlank_of_isDigit (isDigit_of_mem_digits h)

theorem int?_toString {n : Int} (h : (digits n.natAbs).length ≤ digitLimit) :
    int? (toString n).toList = some n := by
  have hvalue : ofDigits ((digits n.natAbs).map fun c => c.toNat - '0'.toNat) = n.natAbs := by
    rw [ofDigits_map, digits, Nat.ofDigitChars_ten_toDigits]
  have hne : (digits n.natAbs).map (fun c => c.toNat - '0'.toNat) ≠ [] := by
    rw [Ne, List.map_eq_nil_iff]
    exact Nat.toDigits_ne_nil
  rw [int?, trim_eq_self fun c => isBlank_of_mem_toString, spanSign_toString]
  dsimp only
  rw [spanDigits_of_forall_isDigit fun c => isDigit_of_mem_digits]
  split
  · next heq => exact absurd (Prod.ext_iff.1 heq).1 hne
  · next heq =>
    cases heq
    rw [if_pos (by rwa [List.length_map]), hvalue]
    by_cases hn : n < 0
    · rw [if_pos (decide_eq_true hn), show -(n.natAbs : Int) = n by omega]
    · rw [if_neg (by simpa using hn), show (n.natAbs : Int) = n by omega]
  · next hnil => exact absurd rfl (hnil _)

end Pipework.Decimal
