import ChordRules.Text.Word
import Mathlib.Data.List.Induction

/-! # Numerals and the characters they are made of

The characters of words, digits among them, are not blank. The digits written for a number are a
canonical numeral, the only one that denotes it (`digits_readDigits`). -/
namespace ChordRules

theorem toNat_of_isWordChar {c : Char} (h : isWordChar c = true) :
    (48 ≤ c.toNat ∧ c.toNat ≤ 57) ∨ (65 ≤ c.toNat ∧ c.toNat ≤ 90) ∨
      (97 ≤ c.toNat ∧ c.toNat ≤ 122) ∨ c.toNat = 95 := by
  simp only [isWordChar, isLetterOrDigit, isLetter, isDigit, Bool.or_eq_true, Bool.and_eq_true,
    decide_eq_true_eq, beq_iff_eq, Char.le_def, UInt32.le_iff_toNat_le] at h
  rcases h with ((⟨h₁, h₂⟩ | ⟨h₁, h₂⟩) | ⟨h₁, h₂⟩) | rfl
  · exact .inr (.inr (.inl ⟨h₁, h₂⟩))
  · exact .inr (.inl ⟨h₁, h₂⟩)
  · exact .inl ⟨h₁, h₂⟩
  · exact .inr (.inr (.inr rfl))

theorem isWordChar_of_isBlank {c : Char} (h : isBlank c = true) : isWordChar c = false := by
  rw [Bool.eq_false_iff]
  intro hw
  have hn := toNat_of_isWordChar hw
  simp only [isBlank, blankRanges, inRanges_cons, inRanges_nil, Bool.or_eq_true, Bool.and_eq_true,
    decide_eq_true_eq, Bool.or_false] at h
  omega

theorem isBlank_of_isWordChar {c : Char} (h : isWordChar c = true) : isBlank c = false := by
  rw [Bool.eq_false_iff]
  intro hblank
  rw [isWordChar_of_isBlank hblank] at h
  cases h

theorem isWordChar_of_isDigit {c : Char} (h : isDigit c = true) : isWordChar c = true := by
  rw [isWordChar, isLetterOrDigit, h, Bool.or_true, Bool.true_or]

theorem digitChar_digitValue {c : Char} (h : isDigit c = true) :
    digitValue c < 10 ∧ digitChar (digitValue c) = c := by
  simp only [isDigit, Bool.and_eq_true, decide_eq_true_eq, Char.le_def,
    UInt32.le_iff_toNat_le] at h
  have hlow : 48 ≤ c.toNat := h.1
  have hhigh : c.toNat ≤ 57 := h.2
  have hzero : '0'.toNat = 48 := rfl
  have hback : 48 + (c.toNat - 48) = c.toNat := by omega
  simp only [digitValue, digitChar, hzero, hback, Char.ofNat_toNat, and_true]
  omega

theorem digits_ne_nil (n : Nat) : digits n ≠ [] := by
  rw [digits]
  split <;> simp

theorem head?_digits {n : Nat} (h : 0 < n) : (digits n).head? ≠ some '0' := by
  induction n using Nat.strongRecOn with
  | _ n ih =>
    rw [digits]
    split
    · next hlt =>
      have hdigit := digitValue_digitChar hlt
      intro hzero
      rw [List.head?_cons, Option.some.injEq] at hzero
      rw [hzero] at hdigit
      have : digitValue '0' = 0 := rfl
      omega
    · have hrest := ih (n / 10) (by omega) (by omega)
      obtain ⟨c, cs, hcs⟩ := List.exists_cons_of_ne_nil (digits_ne_nil (n / 10))
      rw [hcs] at hrest ⊢
      exact hrest

theorem isCanonicalNumeral_iff {cs : List Char} : isCanonicalNumeral cs = true ↔
    cs ≠ [] ∧ (∀ c ∈ cs, isDigit c = true) ∧ (cs = ['0'] ∨ cs.head? ≠ some '0') := by
  simp only [isCanonicalNumeral, Bool.and_eq_true, Bool.or_eq_true, Bool.not_eq_true',
    List.isEmpty_eq_false_iff, List.all_eq_true, bne_iff_ne, beq_iff_eq, and_assoc]

theorem isCanonicalNumeral_digits (n : Nat) : isCanonicalNumeral (digits n) = true := by
  refine isCanonicalNumeral_iff.2 ⟨digits_ne_nil n, List.all_eq_true.1 (all_isDigit_digits n), ?_⟩
  by_cases h : n = 0
  · exact .inl (by simp [h, digits, digitChar])
  · exact .inr (head?_digits (by omega))

/-- A canonical numeral is the numeral of the number it denotes. -/
theorem digits_readDigits {cs : List Char} (h : isCanonicalNumeral cs = true) :
    digits (readDigits cs) = cs := by
  obtain ⟨hne, hdigits, hzero⟩ := isCanonicalNumeral_iff.1 h
  induction cs using List.reverseRecOn with
  | nil => exact absurd rfl hne
  | append_singleton front c ih =>
    obtain ⟨hlt, hback⟩ := digitChar_digitValue (hdigits c (by simp))
    rw [readDigits_concat]
    by_cases hfront : front = []
    · subst hfront
      rw [readDigits_nil, Nat.mul_zero, Nat.zero_add, digits, if_pos hlt, hback]
      rfl
    · have hhead : front.head? ≠ some '0' := by
        obtain ⟨d, ds, rfl⟩ := List.exists_cons_of_ne_nil hfront
        rcases hzero with hzero | hzero
        · simp at hzero
        · exact hzero
      have hdigits' : ∀ d ∈ front, isDigit d = true := fun d hd => hdigits d (by simp [hd])
      have hih := ih (isCanonicalNumeral_iff.2 ⟨hfront, hdigits', .inr hhead⟩) hfront hdigits'
        (.inr hhead)
      have hpos : readDigits front ≠ 0 := by
        intro h0
        rw [h0] at hih
        rw [← hih] at hhead
        exact hhead (by simp [digits, digitChar])
      have hdiv : (10 * readDigits front + digitValue c) / 10 = readDigits front := by omega
      have hmod : (10 * readDigits front + digitValue c) % 10 = digitValue c := by omega
      rw [digits, if_neg (by omega), hdiv, hmod, hih, hback]

theorem showInt_natCast (n : Nat) : showInt n = showNat n := by
  simp [showInt]

theorem toList_showNat (n : Nat) : (showNat n).toList = digits n := String.toList_ofList

theorem toList_showInt_natCast (n : Nat) : (showInt n).toList = digits n := by
  rw [showInt_natCast, toList_showNat]

theorem toList_showInt_of_neg {i : Int} (h : i < 0) :
    (showInt i).toList = '-' :: digits i.natAbs := by
  rw [showInt, if_pos h, String.toList_append, toList_showNat]
  rfl

end ChordRules
