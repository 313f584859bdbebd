import ChordRules.Proofs.Token.Layout

/-! # Other gaps between the same tokens

Gaps keep tokens apart and are no part of them. So the tokens of a text can be laid out with any
other gaps between them, as long as none of these is empty, and are cut apart again
(`tokenTexts_withGaps`). Strings are tokens too: the number signs and line feeds inside them begin
and end no comment, and quotes in a comment open no string. -/
namespace ChordRules

def tokenTexts (source : String) : Except UnclosedString (List String) :=
  (TokenStream.ofText source).drain.1.map fun lexemes => lexemes.map (·.text)

def respaced (source : String) : Except UnclosedString String :=
  (tokenTexts source).map fun xs => " ".intercalate xs

/-- The token texts of a text are those that it is cut into. -/
theorem tokenTexts_eq_ok_iff {source : String} {xs : List String} :
    tokenTexts source = .ok xs ↔ CutInto source.toList xs := by
  rw [tokenTexts, TokenStream.drain_ofText, cutInto_iff]
  constructor
  · intro h
    cases hlexemes : (Tape.ofText source).lexemes? with
    | error e => simp [hlexemes, Except.map] at h
    | ok lexemes =>
      obtain ⟨hstop, rfl⟩ := Tape.lexemes?_eq_ok_iff.1 hlexemes
      rw [hlexemes] at h
      exact ⟨hstop, Except.ok.inj h⟩
  · rintro ⟨hstop, rfl⟩
    rw [Tape.lexemes?_eq_ok_iff.2 ⟨hstop, rfl⟩]
    rfl

/-- A text of gaps and tokens: one gap in front, and one behind each token. -/
def withGaps (first : List Char) (pieces : List (String × List Char)) : String :=
  String.ofList (first ++ pieces.flatMap fun p => p.1.toList ++ p.2)

/-- Tokens with gaps behind them are cut apart if no gap but the last is empty. -/
theorem AreTokens.cutInto_flatMap {pieces : List (String × List Char)}
    (h : AreTokens (pieces.map Prod.fst)) (hgaps : ∀ p ∈ pieces, IsGap p.2)
    (hne : ∀ p ∈ pieces.dropLast, p.2 ≠ []) :
    CutInto (pieces.flatMap fun p => p.1.toList ++ p.2) (pieces.map Prod.fst) := by
  induction pieces with
  | nil => exact .nil
  | cons p pieces ih =>
    obtain ⟨x, gap⟩ := p
    obtain ⟨hgap, hgaps⟩ := List.forall_mem_cons.1 hgaps
    obtain ⟨hx, hxs⟩ := List.forall_mem_cons.1 h
    have hrest : CutInto (gap ++ pieces.flatMap fun p => p.1.toList ++ p.2)
        (pieces.map Prod.fst) := by
      refine .gap hgap (ih hxs hgaps fun q hq => hne q ?_)
      cases pieces with
      | nil => cases hq
      | cons q' pieces => exact List.mem_cons_of_mem _ hq
    have hhead : ∀ c ∈ (gap ++ pieces.flatMap fun p => p.1.toList ++ p.2).head?,
        isWordChar c = false := by
      cases pieces with
      | nil => simpa using hgap.head?_not_isWordChar
      | cons q pieces =>
        exact hgap.head?_append_not_isWordChar (hne (x, gap) List.mem_cons_self) _
    have htoken := CutInto.token (hx.before hhead) hrest
    rwa [String.ofList_toList, ← List.append_assoc] at htoken

/-- However the tokens of a text are laid out, with any gaps between them that are not empty and
any gaps at the ends, they are cut apart again. Joined with single blanks they are the tokens of
the joined text, and joining these changes nothing. -/
theorem tokenTexts_withGaps {source : String} {xs : List String} (h : tokenTexts source = .ok xs) :
    (∀ first pieces, pieces.map Prod.fst = xs → IsGap first → (∀ p ∈ pieces, IsGap p.2) →
      (∀ p ∈ pieces.dropLast, p.2 ≠ []) → tokenTexts (withGaps first pieces) = .ok xs) ∧
    tokenTexts (" ".intercalate xs) = .ok xs ∧
    (respaced source).bind respaced = respaced source := by
  have htokens : AreTokens xs := by
    obtain ⟨-, rfl⟩ := cutInto_iff.1 (tokenTexts_eq_ok_iff.1 h)
    exact areTokens_ofText source
  have hjoined : tokenTexts (" ".intercalate xs) = .ok xs :=
    tokenTexts_eq_ok_iff.2 htokens.laysOut_intercalate.cutInto
  refine ⟨fun first pieces hpieces hfirst hgaps hne => ?_, hjoined, ?_⟩
  · subst hpieces
    rw [tokenTexts_eq_ok_iff, withGaps, String.toList_ofList]
    exact .gap hfirst (htokens.cutInto_flatMap hgaps hne)
  · have hrespaced : respaced source = .ok (" ".intercalate xs) := by
      rw [respaced, h]
      rfl
    rw [hrespaced]
    change respaced (" ".intercalate xs) = _
    rw [respaced, hjoined]
    rfl

/-- So it is with a number sign in a string, and with a quote in a comment that has no blank before
it. -/
theorem tokenTexts_withGaps_comment :
    ∃ first pieces, tokenTexts "x=\"# a\"" = .ok ["x", "=", "\"# a\""] ∧
      withGaps first pieces = " x#\"\n=\t\"# a\"" ∧
      IsGap first ∧ (∀ p ∈ pieces, IsGap p.2) ∧ (∀ p ∈ pieces.dropLast, p.2 ≠ []) ∧
      tokenTexts (withGaps first pieces) = .ok ["x", "=", "\"# a\""] := by
  let pieces : List (String × List Char) :=
    [("x", '#' :: (['"'] ++ '\n' :: [])), ("=", ['\t']), ("\"# a\"", [])]
  have hsource : tokenTexts "x=\"# a\"" = .ok ["x", "=", "\"# a\""] := by decide +kernel
  have hfirst : IsGap [' '] := .blank (by decide) .nil
  have hgaps : ∀ p ∈ pieces, IsGap p.2 := by
    refine List.forall_mem_cons.2 ⟨.comment (by decide) .nil, ?_⟩
    refine List.forall_mem_cons.2 ⟨.blank (by decide) .nil, ?_⟩
    exact List.forall_mem_singleton.2 .nil
  have hne : ∀ p ∈ pieces.dropLast, p.2 ≠ [] :=
    List.forall_mem_cons.2 ⟨by simp, List.forall_mem_singleton.2 (by simp)⟩
  exact ⟨[' '], pieces, hsource, by decide +kernel, hfirst, hgaps, hne,
    (tokenTexts_withGaps hsource).1 [' '] pieces rfl hfirst hgaps hne⟩

end ChordRules
