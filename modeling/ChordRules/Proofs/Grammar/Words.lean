import ChordRules.Grammar.Reading
import ChordRules.Proofs.Text.Numeral

/-! # The words of the grammar

A word is a text in quotes, a numeral without sign or leading zeros, or a name. Main statement:
`classify_eq_ok_iff`, which says that a single token is taken for exactly the rule it spells. -/
namespace ChordRules

theorem isDigit_of_isLetter {c : Char} (h : isLetter c = true) : isDigit c = false := by
  rw [Bool.eq_false_iff]
  intro hdigit
  simp only [isLetter, isDigit, Bool.or_eq_true, Bool.and_eq_true, decide_eq_true_eq,
    Char.le_def, UInt32.le_iff_toNat_le] at h hdigit
  have hnine : '9'.val.toNat = 57 := rfl
  have ha : 'a'.val.toNat = 97 := rfl
  have hA : 'A'.val.toNat = 65 := rfl
  omega

/-- A letter with letters and digits behind it that is not reserved. -/
def IsName (x : String) : Prop :=
  (∃ c cs, x.toList = c :: cs ∧ isLetter c = true ∧ ∀ d ∈ cs, isLetterOrDigit d = true) ∧
    x ∉ reservedWords

/-- A word without a fault is a name. -/
theorem nameFault?_eq_none_iff {x : String} : nameFault? x = none ↔ IsName x := by
  constructor
  · intro h
    simp only [nameFault?] at h
    split at h
    · cases h
    · next hletter =>
      split at h
      · cases h
      · next hall =>
        split at h
        · cases h
        · next hreserved =>
          simp only [Bool.not_eq_true', Bool.not_eq_false] at hletter hall
          rw [List.all_eq_true] at hall
          refine ⟨?_, by simpa using hreserved⟩
          cases hx : x.toList with
          | nil => simp [hx] at hletter
          | cons c cs =>
            rw [hx] at hletter hall
            exact ⟨c, cs, rfl, hletter, fun d hd => hall d (by simp [hd])⟩
  · rintro ⟨⟨c, cs, hx, hc, hcs⟩, hreserved⟩
    have hall : (x.toList.all isLetterOrDigit) = true := by
      rw [hx, List.all_eq_true]
      intro d hd
      rcases List.mem_cons.1 hd with rfl | hd
      · simp [isLetterOrDigit, hc]
      · exact hcs d hd
    have hletter : (x.toList.head?.any isLetter) = true := by rw [hx]; exact hc
    simp [nameFault?, hletter, hall, hreserved]

/-- `Word x r`: the token text spells the rule. -/
inductive Word : String → Rule → Prop
  | text (s : String) : Word ("\"" ++ s ++ "\"") (.text s)
  | number (n : Int64) (h : 0 ≤ n.toInt) : Word (showInt n.toInt) (.number n)
  | name (x : String) (h : IsName x) : Word x (.symbol x)

/-- A quoted text is what stands between its quotes. -/
theorem unquoted?_eq_some_iff {cs s : List Char} :
    unquoted? cs = some s ↔ cs = '"' :: (s ++ ['"']) := by
  constructor
  · intro h
    unfold unquoted? at h
    split at h
    · next rest =>
      split at h
      · next hlast =>
        obtain ⟨front, rfl⟩ := List.getLast?_eq_some_iff.1 hlast
        rw [List.dropLast_concat, Option.some.injEq] at h
        rw [h]
      · cases h
    · cases h
  · rintro rfl
    simp [unquoted?]

theorem unquoted?_eq_none_of_head {c : Char} {cs : List Char} (h : c ≠ '"') :
    unquoted? (c :: cs) = none := by
  rw [unquoted?]
  intro rest heq
  exact h (List.cons.inj heq).1

/-- A number is not negative exactly if it is below the limit of numerals. -/
theorem toInt_ofNat_of_lt_limit {n : Nat} (h : n < numeralLimit) : (Int64.ofNat n).toInt = n :=
  Int64.toInt_ofNat_of_lt h

theorem unquoted?_digits (n : Nat) : unquoted? (digits n) = none := by
  obtain ⟨c, cs, hcs⟩ := List.exists_cons_of_ne_nil (digits_ne_nil n)
  have hc : isDigit c = true := by
    refine List.all_eq_true.1 (all_isDigit_digits n) c ?_
    rw [hcs]
    exact List.mem_cons_self
  rw [hcs]
  refine unquoted?_eq_none_of_head ?_
  rintro rfl
  simp [show isDigit '"' = false by decide] at hc

/-- A numeral below the limit is taken for its number. -/
theorem classify_of_digits {l : Lexeme} {n : Nat} (h : l.text.toList = digits n)
    (hlimit : n < numeralLimit) : l.classify = .ok (.number (Int64.ofNat n)) := by
  simp only [Lexeme.classify, h, unquoted?_digits, isCanonicalNumeral_digits, if_true,
    readDigits_digits, hlimit]

/-- A name is neither a text nor a numeral, so it is taken for a symbol. -/
theorem classify_of_isName {l : Lexeme} (h : IsName l.text) :
    l.classify = .ok (.symbol l.text) := by
  obtain ⟨⟨c, cs, hlist, hc, -⟩, -⟩ := id h
  have hunquoted : unquoted? l.text.toList = none := by
    rw [hlist]
    refine unquoted?_eq_none_of_head ?_
    rintro rfl
    simp [show isLetter '"' = false by decide] at hc
  have hnumeral : isCanonicalNumeral l.text.toList = false := by
    rw [Bool.eq_false_iff]
    intro h
    have hdigit := (isCanonicalNumeral_iff.1 h).2.1 c (by simp [hlist])
    simp [isDigit_of_isLetter hc] at hdigit
  simp only [Lexeme.classify, hunquoted, hnumeral, Bool.false_eq_true, if_false,
    nameFault?_eq_none_iff.2 h]

/-- What a token is taken for is spelled by its text. -/
theorem word_of_classify {l : Lexeme} {r : Rule} (h : l.classify = .ok r) : Word l.text r := by
  rw [Lexeme.classify] at h
  split at h
  · next s hs =>
    have htext : l.text = "\"" ++ String.ofList s ++ "\"" := by
      apply String.toList_inj.1
      simpa using unquoted?_eq_some_iff.1 hs
    rw [← Except.ok.inj h, htext]
    exact .text _
  · split at h
    · next hnumeral =>
      split at h
      · next hlimit =>
        have hint := toInt_ofNat_of_lt_limit hlimit
        have htext : l.text = showInt (Int64.ofNat (readDigits l.text.toList)).toInt := by
          rw [hint, showInt_natCast]
          apply String.toList_inj.1
          rw [toList_showNat, digits_readDigits hnumeral]
        have hword := Word.number (Int64.ofNat (readDigits l.text.toList)) (by omega)
        rw [← htext] at hword
        rw [← Except.ok.inj h]
        exact hword
      · cases h
    · split at h
      · cases h
      · next hname =>
        rw [← Except.ok.inj h]
        exact .name _ (nameFault?_eq_none_iff.1 hname)

/-- A token that stands alone is taken for a rule exactly if its text spells that rule. -/
theorem classify_eq_ok_iff {l : Lexeme} {r : Rule} : l.classify = .ok r ↔ Word l.text r := by
  refine ⟨word_of_classify, fun h => ?_⟩
  generalize htext : l.text = x at h
  cases h with
  | text s =>
    have hquoted : unquoted? l.text.toList = some s.toList := by
      rw [unquoted?_eq_some_iff, htext]
      simp
    simp only [Lexeme.classify, hquoted, String.ofList_toList]
  | number n hn =>
    obtain ⟨k, hk⟩ := Int.eq_ofNat_of_zero_le hn
    have hlimit : k < numeralLimit := by
      have := Int64.toInt_lt n
      rw [hk] at this
      exact Int.ofNat_lt.1 this
    have hback : Int64.ofNat k = n := by
      apply Int64.toInt.inj
      rw [toInt_ofNat_of_lt_limit hlimit, hk]
    have hlist : l.text.toList = digits k := by
      rw [htext, hk]
      exact toList_showInt_natCast k
    rw [classify_of_digits hlist hlimit, hback]
  | name x hx =>
    subst htext
    exact classify_of_isName hx

end ChordRules
