import ChordRules.Proofs.Text.Numeral
import Mathlib.Data.Nat.Digits.Defs

/-! # Numerals with a sign

What a numeral is and which number it denotes is told here by the places of its digits, and
`readSigned?` reads just these numerals (`readSigned?_eq_some_iff`). Many numerals denote one
number, for a plus sign and leading zeros do not matter; `showInt` writes one of them
(`isNumeral_showInt`). -/
namespace ChordRules

structure IsDigits (ds : List Char) : Prop where
  ne_nil : ds ≠ []
  all_digits : ∀ c ∈ ds, isDigit c = true

/-- The number that digits denote by their places, the last digit standing for the ones. -/
def placeValue (ds : List Char) : Nat := Nat.ofDigits 10 (ds.reverse.map digitValue)

theorem readDigits_eq_placeValue (ds : List Char) : readDigits ds = placeValue ds := by
  induction ds using List.reverseRecOn with
  | nil => rfl
  | append_singleton ds c ih =>
    rw [readDigits_concat, ih, placeValue, placeValue, List.reverse_append,
      List.reverse_singleton, List.singleton_append, List.map_cons, Nat.ofDigits_cons]
    omega

/-- `IsNumeral cs i`: the characters are digits, with a sign before them or none, and denote the
number. -/
inductive IsNumeral : List Char → Int → Prop
  | unsigned {ds : List Char} (hds : IsDigits ds) : IsNumeral ds (placeValue ds)
  | plus {ds : List Char} (hds : IsDigits ds) : IsNumeral ('+' :: ds) (placeValue ds)
  | minus {ds : List Char} (hds : IsDigits ds) : IsNumeral ('-' :: ds) (-placeValue ds)

theorem unsigned?_eq_some_iff {ds : List Char} {n : Nat} :
    readSigned?.unsigned? ds = some n ↔ IsDigits ds ∧ placeValue ds = n := by
  have hdigits : (!ds.isEmpty && ds.all isDigit) = true ↔ IsDigits ds := by
    rw [Bool.and_eq_true, Bool.not_eq_true', List.isEmpty_eq_false_iff, List.all_eq_true]
    exact ⟨fun h => ⟨h.1, h.2⟩, fun h => ⟨h.1, h.2⟩⟩
  rw [readSigned?.unsigned?, readDigits_eq_placeValue]
  split
  · next h => simp [hdigits.1 h]
  · next h =>
    have hds : ¬ IsDigits ds := fun hds => h (hdigits.2 hds)
    simp [hds]

/-- Digits begin with no sign. -/
theorem IsDigits.ne_cons {ds : List Char} (h : IsDigits ds) {sign : Char}
    (hsign : isDigit sign = false) (rest : List Char) : ds ≠ sign :: rest := by
  rintro rfl
  rw [h.all_digits sign List.mem_cons_self] at hsign
  cases hsign

theorem IsDigits.read_eq {ds : List Char} (h : IsDigits ds) :
    readSigned? ds = some (placeValue ds : Int) := by
  rw [readSigned?, unsigned?_eq_some_iff.2 ⟨h, rfl⟩]
  · rfl
  · exact fun rest => h.ne_cons (by decide) rest
  · exact fun rest => h.ne_cons (by decide) rest

/-- What is read is a numeral, as the number it denotes, and every numeral is read. -/
theorem readSigned?_eq_some_iff {cs : List Char} {i : Int} :
    readSigned? cs = some i ↔ IsNumeral cs i := by
  constructor
  · intro h
    unfold readSigned? at h
    split at h
    all_goals
      obtain ⟨n, hn, rfl⟩ := Option.map_eq_some_iff.1 h
      obtain ⟨m, hm, ⟨⟩⟩ := Option.bind_eq_some_iff.1 hn
      obtain ⟨hds, rfl⟩ := unsigned?_eq_some_iff.1 hm
    · exact .minus hds
    · exact .plus hds
    · exact .unsigned hds
  · rintro (hds | hds | hds)
    · exact hds.read_eq
    · rw [readSigned?, unsigned?_eq_some_iff.2 ⟨hds, rfl⟩]
      rfl
    · rw [readSigned?, unsigned?_eq_some_iff.2 ⟨hds, rfl⟩]
      rfl

theorem isDigits_digits (n : Nat) : IsDigits (digits n) :=
  ⟨digits_ne_nil n, List.all_eq_true.1 (all_isDigit_digits n)⟩

theorem placeValue_digits (n : Nat) : placeValue (digits n) = n := by
  rw [← readDigits_eq_placeValue, readDigits_digits]

/-- The numeral written for a number denotes it. -/
theorem isNumeral_showInt (i : Int) : IsNumeral (showInt i).toList i := by
  by_cases h : i < 0
  · have hnumeral := IsNumeral.minus (isDigits_digits i.natAbs)
    have habs : -(i.natAbs : Int) = i := by omega
    rwa [placeValue_digits, habs, ← toList_showInt_of_neg h] at hnumeral
  · obtain ⟨n, rfl⟩ := Int.eq_ofNat_of_zero_le (Int.not_lt.1 h)
    have hnumeral := IsNumeral.unsigned (isDigits_digits n)
    rwa [placeValue_digits, ← toList_showInt_natCast] at hnumeral

theorem IsDigits.not_blank {ds : List Char} (h : IsDigits ds) : ∀ c ∈ ds, isBlank c = false :=
  fun c hc => isBlank_of_isWordChar (isWordChar_of_isDigit (h.all_digits c hc))

/-- A numeral holds no blank. -/
theorem IsNumeral.not_blank {cs : List Char} {i : Int} (h : IsNumeral cs i) :
    ∀ c ∈ cs, isBlank c = false := by
  cases h with
  | unsigned hds => exact hds.not_blank
  | plus hds => exact List.forall_mem_cons.2 ⟨by decide, hds.not_blank⟩
  | minus hds => exact List.forall_mem_cons.2 ⟨by decide, hds.not_blank⟩

theorem IsNumeral.ne_nil {cs : List Char} {i : Int} (h : IsNumeral cs i) : cs ≠ [] := by
  cases h with
  | unsigned hds => exact hds.ne_nil
  | plus | minus => exact List.cons_ne_nil _ _

end ChordRules
