import ChordRules.Proofs.Grammar.Spelling
import ChordRules.Proofs.Text.SignedNumeral

/-! # What words are taken for

A token of letters, digits and underscores is a number, a numeral that is too large, a name, or
none of these, and then it has a fault (`TakenFor`). Main statement: `Reader.word_kinds`, which says
that the reader of words tells these apart, however long the word is. -/
namespace ChordRules

structure IsWordText (x : String) : Prop where
  ne_empty : x ≠ ""
  all_word : ∀ c ∈ x.toList, isWordChar c = true

/-- `SpellsNumber x n`: the text is the numeral of a number that is not negative. -/
structure SpellsNumber (x : String) (n : Int64) : Prop where
  not_negative : 0 ≤ n.toInt
  text : x = showInt n.toInt

/-- Digits without a leading zero that denote more than the greatest number. -/
structure IsTooLarge (x : String) : Prop where
  digits : IsDigits x.toList
  no_zero : x.toList.head? ≠ some '0'
  above : Int64.maxValue.toInt < placeValue x.toList

def BeginsWithLetter (x : String) : Prop := ∃ c ∈ x.toList.head?, isLetter c = true

structure IsPlainName (x : String) : Prop where
  letter : BeginsWithLetter x
  no_underscore : '_' ∉ x.toList
  not_reserved : x ∉ reservedWords

/-- The fault of a word that is neither a numeral nor a name. -/
inductive HasFault (x : String) : NameFault → Prop
  | notALetterFirst (h : ¬ BeginsWithLetter x) : HasFault x .notALetterFirst
  | otherCharacter (letter : BeginsWithLetter x) (h : '_' ∈ x.toList) : HasFault x .otherCharacter
  | reserved (letter : BeginsWithLetter x) (h : '_' ∉ x.toList) : HasFault x .reserved

theorem beginsWithLetter_iff {x : String} :
    BeginsWithLetter x ↔ x.toList.head?.any isLetter = true := by
  rw [Option.any_eq_true]
  rfl

/-- Among word characters only the underscore is neither a letter nor a digit. -/
theorem IsWordText.all_isLetterOrDigit_iff {x : String} (h : IsWordText x) :
    x.toList.all isLetterOrDigit = true ↔ '_' ∉ x.toList := by
  rw [List.all_eq_true]
  constructor
  · intro hall hmem
    exact absurd (hall '_' hmem) (by decide)
  · intro hnone c hc
    have hword := h.all_word c hc
    rw [isWordChar, Bool.or_eq_true, beq_iff_eq] at hword
    rcases hword with hword | rfl
    · exact hword
    · exact absurd hc hnone

/-- The first thing that keeps a word from being a name is its fault. -/
theorem IsWordText.nameFault?_spec {x : String} (h : IsWordText x) :
    (IsPlainName x ∧ nameFault? x = none) ∨
      ∃ fault, ¬ IsPlainName x ∧ HasFault x fault ∧ nameFault? x = some fault := by
  by_cases hletter : BeginsWithLetter x
  · have hfirst := beginsWithLetter_iff.1 hletter
    by_cases hmem : '_' ∈ x.toList
    · have hall : x.toList.all isLetterOrDigit = false := by
        rw [Bool.eq_false_iff, ne_eq, h.all_isLetterOrDigit_iff, not_not]
        exact hmem
      refine .inr ⟨_, fun hplain => hplain.no_underscore hmem, .otherCharacter hletter hmem, ?_⟩
      simp [nameFault?, hfirst, hall]
    · have hall := h.all_isLetterOrDigit_iff.2 hmem
      by_cases hreserved : x ∈ reservedWords
      · refine .inr ⟨_, fun hplain => hplain.not_reserved hreserved, .reserved hletter hmem, ?_⟩
        simp [nameFault?, hfirst, hall, hreserved]
      · refine .inl ⟨⟨hletter, hmem, hreserved⟩, ?_⟩
        simp [nameFault?, hfirst, hall, hreserved]
  · have hfirst : x.toList.head?.any isLetter = false := by
      rwa [Bool.eq_false_iff, ne_eq, ← beginsWithLetter_iff]
    refine .inr ⟨_, fun hplain => hletter hplain.letter, .notALetterFirst hletter, ?_⟩
    simp [nameFault?, hfirst]

theorem IsWordText.isPlainName_iff {x : String} (h : IsWordText x) : IsPlainName x ↔ IsName x := by
  rw [← nameFault?_eq_none_iff]
  rcases h.nameFault?_spec with ⟨hplain, hnone⟩ | ⟨fault, hplain, -, hsome⟩
  · simp [hplain, hnone]
  · simp [hplain, hsome]

/-- A word has one fault at most. -/
theorem HasFault.unique {x : String} {fault fault' : NameFault} (h : HasFault x fault)
    (h' : HasFault x fault') : fault = fault' := by
  cases h <;> cases h' <;> trivial

/-- The numeral of a number is that number. -/
theorem SpellsNumber.classify_eq {l : Lexeme} {n : Int64} (h : SpellsNumber l.text n) :
    l.classify = .ok (.number n) := by
  rw [classify_eq_ok_iff, h.text]
  exact .number n h.not_negative

/-- The limit of numerals is the first number above the greatest. -/
theorem numeralLimit_le_iff {n : Nat} : numeralLimit ≤ n ↔ Int64.maxValue.toInt < n := by
  have hmax : Int64.maxValue.toInt = (numeralLimit : Int) - 1 := by decide
  omega

theorem IsTooLarge.isCanonicalNumeral {x : String} (h : IsTooLarge x) :
    isCanonicalNumeral x.toList = true :=
  isCanonicalNumeral_iff.2 ⟨h.digits.ne_nil, h.digits.all_digits, .inr h.no_zero⟩

/-- A numeral that is too large is refused. -/
theorem IsTooLarge.classify_eq {l : Lexeme} (h : IsTooLarge l.text) :
    l.classify = .error (.numberOutOfRange l.text l.start) := by
  have hcanonical := h.isCanonicalNumeral
  have hunquoted : unquoted? l.text.toList = none := by
    rw [← digits_readDigits hcanonical, unquoted?_digits]
  have hlimit : ¬ readDigits l.text.toList < numeralLimit := by
    rw [Nat.not_lt, numeralLimit_le_iff, readDigits_eq_placeValue]
    exact h.above
  simp only [Lexeme.classify, hunquoted, hcanonical, hlimit, if_true, if_false]

/-- A numeral that is refused is too large. -/
theorem isTooLarge_of_isCanonicalNumeral {x : String} (h : isCanonicalNumeral x.toList = true)
    (hlimit : ¬ readDigits x.toList < numeralLimit) : IsTooLarge x := by
  obtain ⟨hne, hdigits, hzero⟩ := isCanonicalNumeral_iff.1 h
  refine ⟨⟨hne, hdigits⟩, ?_, ?_⟩
  · refine hzero.resolve_left fun hx => hlimit ?_
    rw [hx]
    decide
  · rwa [Nat.not_lt, numeralLimit_le_iff, readDigits_eq_placeValue] at hlimit

inductive TakenFor (l : Lexeme) : Except ParseError Rule → Prop
  | number {n : Int64} (h : SpellsNumber l.text n) : TakenFor l (.ok (.number n))
  | tooLarge (h : IsTooLarge l.text) : TakenFor l (.error (.numberOutOfRange l.text l.start))
  | name (h : IsPlainName l.text) : TakenFor l (.ok (.symbol l.text))
  | none {fault : NameFault} (number : ∀ n, ¬ SpellsNumber l.text n)
      (tooLarge : ¬ IsTooLarge l.text) (name : ¬ IsPlainName l.text)
      (h : HasFault l.text fault) : TakenFor l (.error (.invalidName l.text fault l.start))

/-- A word is no quoted text. -/
theorem IsWordText.not_quoted {s : String} : ¬ IsWordText ("\"" ++ s ++ "\"") := by
  intro h
  have hquote := h.all_word '"' (by simp)
  exact absurd hquote (by decide)

/-- Every word is taken for what it is. -/
theorem IsWordText.takenFor_classify {l : Lexeme} (h : IsWordText l.text) :
    TakenFor l l.classify := by
  cases hclassify : l.classify with
  | ok r =>
    have hword := word_of_classify hclassify
    generalize htext : l.text = x at hword
    cases hword with
    | text s => exact absurd (htext ▸ h) not_quoted
    | number n hn => exact .number ⟨hn, htext⟩
    | name x hx =>
      subst htext
      exact .name (h.isPlainName_iff.2 hx)
  | error e =>
    have hnumber : ∀ n, ¬ SpellsNumber l.text n := by
      intro n hn
      rw [hn.classify_eq] at hclassify
      cases hclassify
    rw [Lexeme.classify] at hclassify
    split at hclassify
    · cases hclassify
    · split at hclassify
      · next hcanonical =>
        split at hclassify
        · cases hclassify
        · next hlimit =>
          cases hclassify
          exact .tooLarge (isTooLarge_of_isCanonicalNumeral hcanonical hlimit)
      · next hcanonical =>
        rcases h.nameFault?_spec with ⟨-, hnone⟩ | ⟨fault, hname, hfault, hsome⟩
        · rw [hnone] at hclassify
          cases hclassify
        · rw [hsome] at hclassify
          cases hclassify
          exact .none hnumber (fun h => hcanonical h.isCanonicalNumeral) hname hfault

/-- A word is taken for nothing else. -/
theorem TakenFor.classify_eq {l : Lexeme} {r : Except ParseError Rule} (h : TakenFor l r)
    (hl : IsWordText l.text) : l.classify = r := by
  cases h with
  | number h => exact h.classify_eq
  | tooLarge h => exact h.classify_eq
  | name h => exact classify_of_isName (hl.isPlainName_iff.1 h)
  | none hnumber htooLarge hname hfault =>
    have hl' := hl.takenFor_classify
    generalize l.classify = r at hl'
    cases hl' with
    | number h => exact absurd h (hnumber _)
    | tooLarge h => exact absurd h htooLarge
    | name h => exact absurd h hname
    | none _ _ _ h => rw [h.unique hfault]

theorem IsWordText.classify_eq_iff {l : Lexeme} (h : IsWordText l.text)
    {r : Except ParseError Rule} : l.classify = r ↔ TakenFor l r :=
  ⟨fun hr => hr ▸ h.takenFor_classify, fun hr => hr.classify_eq h⟩

/-- A numeral that stands alone as a text is read as its number. -/
theorem ofText_showInt {n : Int64} (h : 0 ≤ n.toInt) :
    Rule.ofText (showInt n.toInt) = .ok (.block [.number n]) := by
  rw [ofText_eq_block_iff]
  refine ⟨[showInt n.toInt], ?_, ?_⟩
  · have htoken := CutInto.token (isToken_showInt h) .nil
    rwa [List.append_nil, String.ofList_toList] at htoken
  · have hword : Derives .operand [showInt n.toInt] (.number n) [] :=
      (Word.number n h).derives nofun
    exact .program_of_block (.bare (.plain (.alone hword nofun)))

namespace Reader

theorem word_eq_ok_iff {l : Lexeme} {r : Rule} {ls : List Lexeme} {ending : Ending} :
    word ⟨l :: ls, ending⟩ = .ok r ⟨ls, ending⟩ ↔ l.classify = .ok r := by
  cases hl : l.classify with
  | ok r' => simp [word_of_ok hl]
  | error e => simp [word_of_error hl]

theorem word_eq_error_iff {l : Lexeme} {e : ParseError} {ls : List Lexeme} {ending : Ending} :
    word ⟨l :: ls, ending⟩ = .error e ↔ l.classify = .error e := by
  cases hl : l.classify with
  | ok r => simp [word_of_ok hl]
  | error e' => simp [word_of_error hl]

/-- A word in front is read as a number exactly if it is the numeral of one, and as a name exactly
if it is a letter with letters and digits behind it and not reserved. It is refused as too large
exactly if its digits, without a leading zero, denote more than the greatest number. Any other word
is refused with the first fault that it has as a name. And every numeral is read back, also when it
is a whole text. -/
theorem word_kinds :
    (∀ (l : Lexeme) (ls : List Lexeme) (ending : Ending), IsWordText l.text →
      (∀ n, word ⟨l :: ls, ending⟩ = .ok (.number n) ⟨ls, ending⟩ ↔ SpellsNumber l.text n) ∧
      (word ⟨l :: ls, ending⟩ = .error (.numberOutOfRange l.text l.start) ↔ IsTooLarge l.text) ∧
      (word ⟨l :: ls, ending⟩ = .ok (.symbol l.text) ⟨ls, ending⟩ ↔ IsPlainName l.text) ∧
      (∀ fault, word ⟨l :: ls, ending⟩ = .error (.invalidName l.text fault l.start) ↔
        (∀ n, ¬ SpellsNumber l.text n) ∧ ¬ IsTooLarge l.text ∧ ¬ IsPlainName l.text ∧
          HasFault l.text fault)) ∧
    (∀ n : Int64, 0 ≤ n.toInt → Rule.ofText (showInt n.toInt) = .ok (.block [.number n])) := by
  refine ⟨fun l ls ending h => ⟨fun n => ?_, ?_, ?_, fun fault => ?_⟩, fun n => ofText_showInt⟩
  · rw [word_eq_ok_iff, h.classify_eq_iff]
    exact ⟨fun | .number h => h, .number⟩
  · rw [word_eq_error_iff, h.classify_eq_iff]
    exact ⟨fun | .tooLarge h => h, .tooLarge⟩
  · rw [word_eq_ok_iff, h.classify_eq_iff]
    exact ⟨fun | .name h => h, .name⟩
  · rw [word_eq_error_iff, h.classify_eq_iff]
    exact ⟨fun | .none h₁ h₂ h₃ h₄ => ⟨h₁, h₂, h₃, h₄⟩, fun ⟨h₁, h₂, h₃, h₄⟩ => .none h₁ h₂ h₃ h₄⟩

/-- The first numeral that is too large, and the greatest number. -/
theorem word_kinds_limit :
    IsWordText "9223372036854775808" ∧ IsTooLarge "9223372036854775808" ∧
    word ⟨[⟨"9223372036854775808", ⟨1, 5⟩⟩], .endOfInput ⟨1, 24⟩⟩ =
      .error (.numberOutOfRange "9223372036854775808" ⟨1, 5⟩) ∧
    Rule.ofText "9223372036854775807" = .ok (.block [.number 9223372036854775807]) := by
  have hword : IsWordText "9223372036854775808" :=
    ⟨by decide, List.all_eq_true.1 (by decide)⟩
  have hlarge : IsTooLarge "9223372036854775808" := by
    refine ⟨⟨by decide, List.all_eq_true.1 (by decide)⟩, by decide, ?_⟩
    rw [← readDigits_eq_placeValue]
    decide
  have hkinds := word_kinds.1 ⟨"9223372036854775808", ⟨1, 5⟩⟩ [] (.endOfInput ⟨1, 24⟩) hword
  have hgreatest := word_kinds.2 9223372036854775807 (by decide)
  have hshow : showInt (9223372036854775807 : Int64).toInt = "9223372036854775807" := by
    decide +kernel
  rw [hshow] at hgreatest
  exact ⟨hword, hlarge, hkinds.2.1.2 hlarge, hgreatest⟩

end Reader
end ChordRules
