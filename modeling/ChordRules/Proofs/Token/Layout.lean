import ChordRules.Proofs.Token.Splitting

/-! # Texts laid out from tokens

Tokens with blanks between them are cut apart again, so every list of tokens is what some text is
cut into (`ofText_spaced`). Where one token is still a token in front of the next, there need be no
blank (`LaysOut`), and texts can be put together out of parts (`CutBehind`, `CutInto`). -/
namespace ChordRules

/-- The texts are those of tokens. In particular no string among them has a quote inside. -/
def AreTokens (xs : List String) : Prop := ∀ x ∈ xs, IsToken x.toList []

theorem AreTokens.nil : AreTokens [] := nofun

theorem AreTokens.cons {x : String} {xs : List String} (hx : IsToken x.toList [])
    (hxs : AreTokens xs) : AreTokens (x :: xs) := List.forall_mem_cons.2 ⟨hx, hxs⟩

theorem AreTokens.append {xs ys : List String} (hxs : AreTokens xs) (hys : AreTokens ys) :
    AreTokens (xs ++ ys) := List.forall_mem_append.2 ⟨hxs, hys⟩

theorem AreTokens.suffix {xs ys : List String} (h : AreTokens xs) (hys : ys <:+ xs) :
    AreTokens ys := fun x hx => h x (hys.subset hx)

/-- The texts on the tape of a text are those of tokens. -/
theorem areTokens_ofText (source : String) : AreTokens (Tape.ofText source).texts := by
  obtain ⟨pieces, last, hsplits, hend⟩ := exists_splits source.toList
  have hlexemes : (Tape.ofText source).lexemes = lexemesOf [] pieces := by
    rcases hend with hlast | ⟨gap, body, rfl, hgap, hbody⟩
    · rw [Tape.ofText_of_lastGap hsplits hlast]
    · rw [Tape.ofText_of_openString hsplits hgap hbody]
  rw [Tape.texts, hlexemes, texts_lexemesOf]
  intro x hx
  obtain ⟨p, hp, rfl⟩ := List.mem_map.1 hx
  rw [String.toList_ofList]
  exact hsplits.isToken p hp

/-- A token stays one in front of what no word goes on with. -/
theorem IsToken.before {token rest : List Char} (h : IsToken token [])
    (hrest : ∀ c ∈ rest.head?, isWordChar c = false) : IsToken token rest :=
  h.append fun _ => hrest

theorem IsGap.head?_not_isWordChar {gap : List Char} (h : IsGap gap) :
    ∀ c ∈ gap.head?, isWordChar c = false := by
  cases h with
  | nil => nofun
  | blank hc _ =>
    rintro c ⟨⟩
    exact isWordChar_of_isBlank hc
  | comment _ _ =>
    rintro c ⟨⟩
    decide

/-- A gap that is not empty ends a word. -/
theorem IsGap.head?_append_not_isWordChar {gap : List Char} (h : IsGap gap) (hne : gap ≠ [])
    (rest : List Char) : ∀ c ∈ (gap ++ rest).head?, isWordChar c = false := by
  have hhead := h.head?_not_isWordChar
  obtain ⟨c, cs, rfl⟩ := List.exists_cons_of_ne_nil hne
  exact hhead

/-- `LaysOut cs xs`: the characters are the tokens with the given texts, and blanks. Between two
tokens there may be none, where the first is one token still in front of the second. -/
inductive LaysOut : List Char → List String → Prop
  | nil : LaysOut [] []
  | blank {c : Char} {cs : List Char} {xs : List String} (hc : isBlank c = true)
      (h : LaysOut cs xs) : LaysOut (c :: cs) xs
  | token {token rest : List Char} {xs : List String} (htoken : IsToken token rest)
      (h : LaysOut rest xs) : LaysOut (token ++ rest) (String.ofList token :: xs)

def isMark (c : Char) : Bool := !isBlank c && !isWordChar c && c != '#' && c != '"'

theorem isWordChar_of_isMark {c : Char} (h : isMark c = true) : isWordChar c = false := by
  simp only [isMark, Bool.and_eq_true, Bool.not_eq_true'] at h
  exact h.1.1.2

/-- No word goes on with a text that begins so. -/
theorem head?_cons_not_isWordChar {c : Char} (hc : isWordChar c = false) (cs : List Char) :
    ∀ d ∈ (c :: cs).head?, isWordChar d = false := by
  rintro d ⟨⟩
  exact hc

namespace LaysOut

theorem mark {c : Char} {rest : List Char} {xs : List String} (hc : isMark c = true)
    (h : LaysOut rest xs) : LaysOut (c :: rest) (String.ofList [c] :: xs) := by
  simp only [isMark, Bool.and_eq_true, Bool.not_eq_true', bne_iff_ne] at hc
  obtain ⟨⟨⟨hblank, hword⟩, hcomment⟩, hquote⟩ := hc
  exact .token (.single hblank hword hcomment hquote) h

/-- A token in front of what no word goes on with. -/
theorem text {x : String} {rest : List Char} {xs : List String} (hx : IsToken x.toList [])
    (hrest : ∀ c ∈ rest.head?, isWordChar c = false) (h : LaysOut rest xs) :
    LaysOut (x.toList ++ rest) (x :: xs) := by
  have htoken := LaysOut.token (hx.before hrest) h
  rwa [String.ofList_toList] at htoken

/-- A token in front of a blank. -/
theorem spaced {x : String} {rest : List Char} {xs : List String} (hx : IsToken x.toList [])
    (h : LaysOut rest xs) : LaysOut (x.toList ++ ' ' :: rest) (x :: xs) :=
  .text hx (head?_cons_not_isWordChar (by decide) rest) (.blank (by decide) h)

theorem exists_splits {cs : List Char} {xs : List String} (h : LaysOut cs xs) :
    ∃ pieces last, Splits cs pieces last ∧ IsGap last ∧
      pieces.map (fun p => String.ofList p.2) = xs := by
  induction h with
  | nil => exact ⟨[], [], .nil, .nil, rfl⟩
  | @blank c cs xs hc _ ih =>
    obtain ⟨pieces, last, hsplits, hlast, htexts⟩ := ih
    cases hsplits with
    | nil => exact ⟨[], c :: cs, .nil, .blank hc hlast, htexts⟩
    | cons hgap htoken hrest => exact ⟨_, last, .cons (.blank hc hgap) htoken hrest, hlast, htexts⟩
  | @token token rest xs htoken _ ih =>
    obtain ⟨pieces, last, hsplits, hlast, rfl⟩ := ih
    exact ⟨([], token) :: pieces, last, .cons .nil htoken hsplits, hlast, rfl⟩

/-- A text is cut into the tokens that it lays out. -/
theorem ofText {source : String} {xs : List String} (h : LaysOut source.toList xs) :
    (Tape.ofText source).texts = xs ∧
      ∃ stop, (Tape.ofText source).ending = .endOfInput stop := by
  obtain ⟨pieces, last, hsplits, hlast, rfl⟩ := h.exists_splits
  rw [Tape.ofText_of_lastGap hsplits (.ended hlast), Tape.texts, texts_lexemesOf]
  exact ⟨rfl, _, rfl⟩

end LaysOut

def spaced (xs : List String) : String := String.ofList (xs.flatMap fun x => ' ' :: x.toList)

theorem AreTokens.laysOut_spaced {xs : List String} (h : AreTokens xs) :
    LaysOut (spaced xs).toList xs := by
  rw [spaced, String.toList_ofList]
  induction xs with
  | nil => exact .nil
  | cons x xs ih =>
    obtain ⟨hx, hxs⟩ := List.forall_mem_cons.1 h
    have hhead : ∀ c ∈ (xs.flatMap fun x => ' ' :: x.toList).head?, isWordChar c = false := by
      cases xs with
      | nil => simp
      | cons y xs => exact head?_cons_not_isWordChar (by decide) _
    exact .blank (by decide) (.text hx hhead (ih hxs))

/-- A spaced text is cut into the tokens it was made of. -/
theorem ofText_spaced {xs : List String} (h : AreTokens xs) :
    (Tape.ofText (spaced xs)).texts = xs ∧
      ∃ stop, (Tape.ofText (spaced xs)).ending = .endOfInput stop := h.laysOut_spaced.ofText

/-- Tokens joined with single blanks are cut apart again. -/
theorem AreTokens.laysOut_intercalate {xs : List String} (h : AreTokens xs) :
    LaysOut (" ".intercalate xs).toList xs := by
  match xs with
  | [] => exact .nil
  | [x] =>
    have hx : LaysOut (x.toList ++ []) [x] := .text (h x List.mem_cons_self) nofun .nil
    simpa using hx
  | x :: y :: xs =>
    have hmore : LaysOut (" ".intercalate (y :: xs)).toList (y :: xs) :=
      laysOut_intercalate (h.suffix (List.suffix_cons x _))
    have hx := LaysOut.spaced (h x List.mem_cons_self) hmore
    simpa [String.intercalate_cons_cons] using hx

theorem Splits.append {text last rest last' : List Char}
    {pieces pieces' : List (List Char × List Char)} (h : Splits text pieces last)
    (hhead : ∀ c ∈ (last ++ rest).head?, isWordChar c = false)
    (hrest : Splits (last ++ rest) pieces' last') :
    Splits (text ++ rest) (pieces ++ pieces') last' := by
  induction h with
  | nil => exact hrest
  | @cons gap token more last pieces hgap htoken hmore ih =>
    have hend : more = [] → ∀ c ∈ rest.head?, isWordChar c = false := by
      rintro rfl
      have hlast : last = [] := (List.append_eq_nil_iff.1 hmore.join.symm).2
      rwa [hlast] at hhead
    rw [List.append_assoc, List.append_assoc]
    exact .cons hgap (htoken.append hend) (ih hhead hrest)

theorem IsLastGap.lineFeed {last : List Char} (h : IsLastGap last) : IsGap (last ++ ['\n']) := by
  have hfeed : IsGap ['\n'] := .blank (by decide) .nil
  cases h with
  | ended hgap => exact hgap.append hfeed
  | openComment hgap hbody =>
    rw [List.append_assoc]
    exact hgap.append (.comment hbody .nil)

/-- Behind the given text, the characters are cut into the lexemes, up to a proper end. -/
def CutBehind (before cs : List Char) (ls : List Lexeme) : Prop :=
  ∃ pieces last, Splits cs pieces last ∧ IsLastGap last ∧ lexemesOf before pieces = ls

namespace CutBehind

variable {before cs ds : List Char} {ls : List Lexeme}

theorem ofText {source : String} (h : CutBehind [] source.toList ls) :
    Tape.ofText source = ⟨ls, .endOfInput (.behind source.toList)⟩ := by
  obtain ⟨pieces, last, hsplits, hlast, rfl⟩ := h
  exact Tape.ofText_of_lastGap hsplits hlast

/-- A gap in front becomes part of the first gap. -/
theorem gap {gap : List Char} (hgap : IsGap gap) (h : CutBehind (before ++ gap) cs ls) :
    CutBehind before (gap ++ cs) ls := by
  obtain ⟨pieces, last, hsplits, hlast, rfl⟩ := h
  cases hsplits with
  | nil => exact ⟨[], gap ++ cs, .nil, hlast.append hgap, rfl⟩
  | @cons gap' token rest _ pieces hgap' htoken hrest =>
    refine ⟨(gap ++ gap', token) :: pieces, last, ?_, hlast, ?_⟩
    · rw [← List.append_assoc]
      exact .cons (hgap.append hgap') htoken hrest
    · simp only [lexemesOf, List.append_assoc]

/-- What ends in a gap is followed by what is cut behind it. -/
theorem append {gap last : List Char} {pieces : List (List Char × List Char)}
    (h : Splits cs pieces last) (hgap : IsGap (last ++ gap)) (hne : gap ≠ [])
    (hd : CutBehind (before ++ (cs ++ gap)) ds ls) :
    CutBehind before (cs ++ (gap ++ ds)) (lexemesOf before pieces ++ ls) := by
  have hjoin : before ++ (cs ++ gap) = before ++ joinPieces pieces ++ (last ++ gap) := by
    simp only [h.join, List.append_assoc]
  rw [hjoin] at hd
  obtain ⟨pieces', last', hsplits', hlast', rfl⟩ := hd.gap hgap
  rw [List.append_assoc] at hsplits'
  have hhead : ∀ c ∈ (last ++ (gap ++ ds)).head?, isWordChar c = false := by
    rw [← List.append_assoc]
    exact hgap.head?_append_not_isWordChar (List.append_ne_nil_of_right_ne_nil last hne) ds
  exact ⟨pieces ++ pieces', last', h.append hhead hsplits', hlast', lexemesOf_append _ _ _⟩

/-- A blank divides what is laid out from what follows. -/
theorem blank {xs : List String} (h : LaysOut cs xs)
    (hd : CutBehind (before ++ (cs ++ [' '])) ds ls) :
    ∃ front, front.map (·.text) = xs ∧ CutBehind before (cs ++ ' ' :: ds) (front ++ ls) := by
  obtain ⟨pieces, last, hsplits, hlast, rfl⟩ := h.exists_splits
  have hgap : IsGap (last ++ [' ']) := hlast.append (.blank (by decide) .nil)
  exact ⟨_, texts_lexemesOf before pieces, append hsplits hgap (List.cons_ne_nil _ []) hd⟩

/-- A text that does not begin with a gap has its first token at its front. -/
theorem head?_start {c : Char} (h : CutBehind before (c :: cs) ls) (hblank : isBlank c = false)
    (hhash : c ≠ '#') : ∀ l ∈ ls.head?, l.start = .behind before := by
  obtain ⟨pieces, last, hsplits, -, rfl⟩ := h
  generalize htext : c :: cs = text at hsplits
  cases hsplits with
  | nil => nofun
  | cons hgap =>
    rintro l ⟨⟩
    cases hgap with
    | nil => rw [List.append_nil]
    | blank hc =>
      cases htext
      simp [hc] at hblank
    | comment =>
      cases htext
      exact absurd rfl hhash

end CutBehind

def CutInto (cs : List Char) (xs : List String) : Prop :=
  ∃ pieces last, Splits cs pieces last ∧ IsLastGap last ∧
    pieces.map (fun p => String.ofList p.2) = xs

/-- Tokens that are laid out are cut at their ends. -/
theorem LaysOut.cutInto {cs : List Char} {xs : List String} (h : LaysOut cs xs) :
    CutInto cs xs := by
  obtain ⟨pieces, last, hsplits, hlast, htexts⟩ := h.exists_splits
  exact ⟨pieces, last, hsplits, .ended hlast, htexts⟩

/-- What the characters are cut into does not depend on what stands before them, but for the
places. -/
theorem cutInto_iff_cutBehind {cs : List Char} {xs : List String} (before : List Char) :
    CutInto cs xs ↔ ∃ ls, CutBehind before cs ls ∧ ls.map (·.text) = xs := by
  constructor
  · rintro ⟨pieces, last, hsplits, hlast, rfl⟩
    exact ⟨_, ⟨pieces, last, hsplits, hlast, rfl⟩, texts_lexemesOf before pieces⟩
  · rintro ⟨_, ⟨pieces, last, hsplits, hlast, rfl⟩, rfl⟩
    exact ⟨pieces, last, hsplits, hlast, (texts_lexemesOf before pieces).symm⟩

/-- A text is cut into its tokens and nothing else. -/
theorem cutInto_iff {source : String} {xs : List String} :
    CutInto source.toList xs ↔
      (∃ stop, (Tape.ofText source).ending = .endOfInput stop) ∧
        (Tape.ofText source).texts = xs := by
  constructor
  · intro h
    obtain ⟨ls, hcut, rfl⟩ := (cutInto_iff_cutBehind []).1 h
    rw [hcut.ofText]
    exact ⟨⟨_, rfl⟩, rfl⟩
  · rintro ⟨⟨stop, hstop⟩, rfl⟩
    obtain ⟨pieces, last, hsplits, hlast | ⟨gap, body, rfl, hgap, hbody⟩⟩ :=
      exists_splits source.toList
    · refine ⟨pieces, last, hsplits, hlast, ?_⟩
      rw [Tape.ofText_of_lastGap hsplits hlast, Tape.texts, texts_lexemesOf]
    · rw [Tape.ofText_of_openString hsplits hgap hbody] at hstop
      cases hstop

namespace CutInto

theorem nil : CutInto [] [] := ⟨[], [], .nil, .ended .nil, rfl⟩

/-- A gap in front changes nothing. -/
theorem gap {gap cs : List Char} {xs : List String} (hgap : IsGap gap) (h : CutInto cs xs) :
    CutInto (gap ++ cs) xs := by
  obtain ⟨ls, hcut, htexts⟩ := (cutInto_iff_cutBehind ([] ++ gap)).1 h
  exact (cutInto_iff_cutBehind []).2 ⟨ls, .gap hgap hcut, htexts⟩

theorem blankBefore {c : Char} {cs : List Char} {xs : List String} (hc : isBlank c = true)
    (h : CutInto cs xs) : CutInto (c :: cs) xs := h.gap (.blank hc .nil)

/-- What is one token in front of the rest is cut off as that. -/
theorem token {token rest : List Char} {xs : List String} (htoken : IsToken token rest)
    (h : CutInto rest xs) : CutInto (token ++ rest) (String.ofList token :: xs) := by
  obtain ⟨pieces, last, hsplits, hlast, rfl⟩ := h
  exact ⟨([], token) :: pieces, last, .cons .nil htoken hsplits, hlast, rfl⟩

/-- A mark in front is one token more. -/
theorem mark {c : Char} {cs : List Char} {xs : List String} (hc : isMark c = true)
    (h : CutInto cs xs) : CutInto (c :: cs) (String.ofList [c] :: xs) := by
  simp only [isMark, Bool.and_eq_true, Bool.not_eq_true', bne_iff_ne] at hc
  obtain ⟨⟨⟨hblank, hword⟩, hcomment⟩, hquote⟩ := hc
  exact h.token (.single hblank hword hcomment hquote)

/-- Texts on lines of their own are cut one after the other, also if a comment ends the first. -/
theorem lineFeed {cs ds : List Char} {xs ys : List String} (h : CutInto cs xs)
    (hd : CutInto ds ys) : CutInto (cs ++ '\n' :: ds) (xs ++ ys) := by
  obtain ⟨pieces, last, hsplits, hlast, rfl⟩ := h
  obtain ⟨ls, hcut, rfl⟩ := (cutInto_iff_cutBehind (cs ++ ['\n'])).1 hd
  have happend : CutBehind [] (cs ++ (['\n'] ++ ds)) (lexemesOf [] pieces ++ ls) :=
    .append hsplits hlast.lineFeed (List.cons_ne_nil _ []) hcut
  exact (cutInto_iff_cutBehind []).2 ⟨_, happend, by rw [List.map_append, texts_lexemesOf]⟩

/-- A blank divides what is laid out from what follows. -/
theorem blank {cs ds : List Char} {xs ys : List String} (h : LaysOut cs xs)
    (hd : CutInto ds ys) : CutInto (cs ++ ' ' :: ds) (xs ++ ys) := by
  obtain ⟨ls, hcut, rfl⟩ := (cutInto_iff_cutBehind ([] ++ (cs ++ [' ']))).1 hd
  obtain ⟨front, rfl, hblank⟩ := CutBehind.blank h hcut
  exact (cutInto_iff_cutBehind []).2 ⟨_, hblank, List.map_append⟩

end CutInto
end ChordRules
