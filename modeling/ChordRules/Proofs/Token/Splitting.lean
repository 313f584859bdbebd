import ChordRules.Proofs.Text.Numeral
import ChordRules.Token.Stream

/-! # How a text splits into gaps and tokens

Gaps, tokens and the places of tokens are told here by what they look like, without a scan. A
text alternates gaps and tokens and ends in a gap, or in a string that is left open. Every text
has such a split (`exists_splits`), and cutting tokens follows it (`ofCursor_of_splits`), so the
split decides what `drain` gives. -/
namespace ChordRules

/-- Blanks, and comments together with the line feeds that end them. -/
inductive IsGap : List Char → Prop
  | nil : IsGap []
  | blank {c : Char} {gap : List Char} (hc : isBlank c = true) (hgap : IsGap gap) :
      IsGap (c :: gap)
  | comment {body gap : List Char} (hbody : '\n' ∉ body) (hgap : IsGap gap) :
      IsGap ('#' :: (body ++ '\n' :: gap))

/-- A gap at the end of a text. Its last comment may lack a line feed. -/
inductive IsLastGap : List Char → Prop
  | ended {gap : List Char} (hgap : IsGap gap) : IsLastGap gap
  | openComment {gap body : List Char} (hgap : IsGap gap) (hbody : '\n' ∉ body) :
      IsLastGap (gap ++ '#' :: body)

/-- `IsToken token rest`: the characters are one token where the rest of the text follows. A word
takes in all word characters that stand together. -/
inductive IsToken : List Char → List Char → Prop
  | string {body rest : List Char} (hbody : '"' ∉ body) :
      IsToken ('"' :: (body ++ ['"'])) rest
  | word {w rest : List Char} (hne : w ≠ []) (hw : ∀ c ∈ w, isWordChar c = true)
      (hrest : ∀ c ∈ rest.head?, isWordChar c = false) : IsToken w rest
  | single {c : Char} {rest : List Char} (hblank : isBlank c = false)
      (hword : isWordChar c = false) (hcomment : c ≠ '#') (hquote : c ≠ '"') :
      IsToken [c] rest

/-- `Splits text pieces last`: the text is made of the pieces, each a gap and a token, and of what
comes last. -/
inductive Splits : List Char → List (List Char × List Char) → List Char → Prop
  | nil {last : List Char} : Splits last [] last
  | cons {gap token rest last : List Char} {pieces : List (List Char × List Char)}
      (hgap : IsGap gap) (htoken : IsToken token rest) (hrest : Splits rest pieces last) :
      Splits (gap ++ (token ++ rest)) ((gap, token) :: pieces) last

def joinPieces (pieces : List (List Char × List Char)) : List Char :=
  pieces.flatMap fun p => p.1 ++ p.2

@[simp] theorem joinPieces_nil : joinPieces [] = [] := rfl
@[simp] theorem joinPieces_cons (gap token : List Char) (ps : List (List Char × List Char)) :
    joinPieces ((gap, token) :: ps) = gap ++ (token ++ joinPieces ps) := by simp [joinPieces]

/-- Pieces make up the text that is split into them. -/
theorem Splits.join {text last : List Char} {pieces : List (List Char × List Char)}
    (h : Splits text pieces last) : text = joinPieces pieces ++ last := by
  induction h with
  | nil => rfl
  | cons hgap htoken hrest ih =>
    rw [joinPieces_cons, List.append_assoc, List.append_assoc, ← ih]

def sinceLineFeed (before : List Char) : Nat := (before.reverse.takeWhile (· != '\n')).length

namespace Position

/-- The place behind the beginning of a text: lines are counted by line feeds, columns from the
last of them. -/
def behind (before : List Char) : Position :=
  ⟨1 + before.count '\n', 1 + sinceLineFeed before⟩

@[simp] theorem behind_nil : behind [] = start := rfl

theorem behind_concat (before : List Char) (c : Char) :
    behind (before ++ [c]) = (behind before).after c := by
  by_cases hc : c = '\n'
  · subst hc
    simp [behind, after, sinceLineFeed, Nat.add_assoc]
  · simp [behind, after, sinceLineFeed, hc, Nat.add_comm]

/-- Counting on from a place leads to the place behind all that was counted. -/
theorem afterAll_behind (before cs : List Char) :
    (behind before).afterAll cs = behind (before ++ cs) := by
  induction cs generalizing before with
  | nil => simp
  | cons c cs ih =>
    rw [afterAll_cons, ← behind_concat, ih, List.append_assoc]
    rfl

/-- Lines and columns never pass the number of characters by more than one. -/
theorem behind_le (before : List Char) :
    (behind before).line ≤ before.length + 1 ∧ (behind before).column ≤ before.length + 1 := by
  have hline : before.count '\n' ≤ before.length := List.count_le_length
  have hcolumn : sinceLineFeed before ≤ before.length := by
    have := (List.takeWhile_prefix (· != '\n') (l := before.reverse)).length_le
    simpa [sinceLineFeed] using this
  simp only [behind]
  omega

/-- Behind more text is another place. -/
theorem behind_append_ne (before : List Char) {more : List Char} (h : more ≠ []) :
    behind (before ++ more) ≠ behind before := by
  intro heq
  simp only [behind, Position.mk.injEq, List.count_append] at heq
  have hfeeds : '\n' ∉ more := List.count_eq_zero.1 (by omega)
  have hpos : 0 < more.length := List.length_pos_iff.2 h
  have hsince : sinceLineFeed (before ++ more) = more.length + sinceLineFeed before := by
    rw [sinceLineFeed, List.reverse_append, List.takeWhile_append_of_pos, List.length_append,
      List.length_reverse, sinceLineFeed]
    intro c hc
    have hne : c ≠ '\n' := by
      rintro rfl
      exact hfeeds (List.mem_reverse.1 hc)
    simpa using hne
  omega

end Position

def lexemesOf (before : List Char) : List (List Char × List Char) → List Lexeme
  | [] => []
  | (gap, token) :: pieces =>
    ⟨String.ofList token, Position.behind (before ++ gap)⟩ ::
      lexemesOf (before ++ (gap ++ token)) pieces

theorem IsGap.append {g₁ g₂ : List Char} (h₁ : IsGap g₁) (h₂ : IsGap g₂) : IsGap (g₁ ++ g₂) := by
  induction h₁ with
  | nil => exact h₂
  | blank hc _ ih => exact .blank hc ih
  | comment hbody _ ih =>
    rw [List.cons_append, List.append_assoc, List.cons_append]
    exact .comment hbody ih

theorem IsLastGap.append {gap last : List Char} (h₁ : IsGap gap) (h₂ : IsLastGap last) :
    IsLastGap (gap ++ last) := by
  cases h₂ with
  | ended h => exact .ended (h₁.append h)
  | openComment h hbody =>
    rw [← List.append_assoc]
    exact .openComment (h₁.append h) hbody

namespace Cursor

theorem gapLength_comment {body : List Char} (h : '\n' ∉ body) (rest : List Char) :
    gapLength true (body ++ '\n' :: rest) = body.length + 1 + gapLength false rest := by
  induction body with
  | nil => simp [gapLength, Nat.add_comm]
  | cons c cs ih =>
    simp only [List.mem_cons, not_or] at h
    have hc : (c != '\n') = true := by simp [Ne.symm h.1]
    simp only [List.cons_append, gapLength, if_true, hc, ih h.2, List.length_cons]
    omega

theorem gapLength_openComment {body : List Char} (h : '\n' ∉ body) :
    gapLength true body = body.length := by
  induction body with
  | nil => rfl
  | cons c cs ih =>
    simp only [List.mem_cons, not_or] at h
    have hc : (c != '\n') = true := by simp [Ne.symm h.1]
    simp only [gapLength, if_true, hc, ih h.2, List.length_cons]

/-- A gap is skipped as a whole. -/
theorem gapLength_gap {gap : List Char} (h : IsGap gap) (rest : List Char) :
    gapLength false (gap ++ rest) = gap.length + gapLength false rest := by
  have hash : isBlank '#' = false := by decide
  induction h with
  | nil => simp
  | blank hc _ ih =>
    simp only [List.cons_append, gapLength, hc, if_true, ih, List.length_cons]
    simp only [Bool.false_eq_true, if_false]
    omega
  | comment hbody _ ih =>
    simp only [List.cons_append, List.append_assoc, gapLength, hash, Bool.false_eq_true, if_false,
      if_true, gapLength_comment hbody, ih, List.length_cons, List.length_append]
    omega

theorem gapLength_lastGap {last : List Char} (h : IsLastGap last) :
    gapLength false last = last.length := by
  have hash : isBlank '#' = false := by decide
  cases h with
  | ended hgap => simpa [gapLength] using gapLength_gap hgap []
  | openComment hgap hbody =>
    rw [gapLength_gap hgap]
    simp only [gapLength, hash, Bool.false_eq_true, if_false, if_true,
      gapLength_openComment hbody, List.length_append, List.length_cons]

end Cursor

/-- A text is one gap, or a gap in front of a character that belongs to no gap. -/
theorem exists_gap (cs : List Char) :
    IsLastGap cs ∨ ∃ gap c rest, cs = gap ++ c :: rest ∧ IsGap gap ∧
      isBlank c = false ∧ c ≠ '#' := by
  induction h : cs.length using Nat.strongRecOn generalizing cs with
  | _ n ih =>
    have extend : ∀ front rest, cs = front ++ rest → front ≠ [] → IsGap front →
        IsLastGap cs ∨ ∃ gap c rest, cs = gap ++ c :: rest ∧ IsGap gap ∧
          isBlank c = false ∧ c ≠ '#' := by
      intro front rest hcs hne hfront
      have hpos := List.length_pos_iff.2 hne
      have hlen : rest.length < n := by
        rw [← h, hcs, List.length_append]
        omega
      rcases ih _ hlen rest rfl with hlast | ⟨gap, c, rest', hrest, hgap, hc⟩
      · exact .inl (hcs ▸ hlast.append hfront)
      · exact .inr ⟨front ++ gap, c, rest', by rw [hcs, hrest, List.append_assoc],
          hfront.append hgap, hc⟩
    cases cs with
    | nil => exact .inl (.ended .nil)
    | cons c cs =>
      by_cases hblank : isBlank c = true
      · exact extend [c] cs rfl (by simp) (.blank hblank .nil)
      · by_cases hhash : c = '#'
        · subst hhash
          by_cases hfeed : '\n' ∈ cs
          · obtain ⟨body, rest, rfl, hbody⟩ := List.eq_append_cons_of_mem hfeed
            exact extend ('#' :: (body ++ '\n' :: [])) rest (by simp) (by simp)
              (.comment hbody .nil)
          · exact .inl (.openComment .nil hfeed)
        · exact .inr ⟨[], c, cs, rfl, .nil, by simpa using hblank, hhash⟩

/-- A token's first character belongs to no gap. -/
theorem IsToken.head {token rest : List Char} (h : IsToken token rest) :
    ∃ c cs, token = c :: cs ∧ isBlank c = false ∧ c ≠ '#' := by
  cases h with
  | string => exact ⟨'"', _, rfl, by decide, by decide⟩
  | single hblank _ hcomment _ => exact ⟨_, [], rfl, hblank, hcomment⟩
  | word hne hw _ =>
    obtain ⟨c, cs, rfl⟩ := List.exists_cons_of_ne_nil hne
    have hc := hw c (by simp)
    refine ⟨c, cs, rfl, ?_, ?_⟩
    · rw [Bool.eq_false_iff]
      intro hblank
      simp [isWordChar_of_isBlank hblank] at hc
    · rintro rfl
      simp [show isWordChar '#' = false by decide] at hc

/-- A token is a token as well where nothing follows. -/
theorem IsToken.alone {token rest : List Char} (h : IsToken token rest) : IsToken token [] := by
  cases h with
  | string hbody => exact .string hbody
  | word hne hw _ => exact .word hne hw nofun
  | single hblank hword hcomment hquote => exact .single hblank hword hcomment hquote

/-- A token stays one in front of more text, unless it is a word that goes on. -/
theorem IsToken.append {token rest more : List Char} (h : IsToken token rest)
    (hmore : rest = [] → ∀ c ∈ more.head?, isWordChar c = false) :
    IsToken token (rest ++ more) := by
  cases h with
  | string hbody => exact .string hbody
  | single hblank hword hcomment hquote => exact .single hblank hword hcomment hquote
  | word hne hw hrest =>
    refine .word hne hw ?_
    cases rest with
    | nil => exact hmore rfl
    | cons c cs => exact hrest

theorem Splits.isToken {text last : List Char} {pieces : List (List Char × List Char)}
    (h : Splits text pieces last) : ∀ p ∈ pieces, IsToken p.2 [] := by
  induction h with
  | nil => nofun
  | cons _ htoken _ ih => exact List.forall_mem_cons.2 ⟨htoken.alone, ih⟩

/-- The lexemes of pieces have the texts of their tokens. -/
theorem texts_lexemesOf (before : List Char) (pieces : List (List Char × List Char)) :
    (lexemesOf before pieces).map (·.text) = pieces.map fun p => String.ofList p.2 := by
  induction pieces generalizing before with
  | nil => rfl
  | cons p pieces ih => rw [lexemesOf, List.map_cons, List.map_cons, ih]

theorem lexemesOf_append (before : List Char) (ps qs : List (List Char × List Char)) :
    lexemesOf before (ps ++ qs) =
      lexemesOf before ps ++ lexemesOf (before ++ joinPieces ps) qs := by
  induction ps generalizing before with
  | nil => simp [lexemesOf]
  | cons p ps ih =>
    obtain ⟨gap, token⟩ := p
    simp only [List.cons_append, lexemesOf, ih, joinPieces_cons, List.append_assoc]

theorem start_of_mem_lexemesOf {before : List Char} {pieces : List (List Char × List Char)}
    {l : Lexeme} (h : l ∈ lexemesOf before pieces) :
    ∃ more, l.start = .behind (before ++ more) := by
  induction pieces generalizing before with
  | nil => cases h
  | cons p pieces ih =>
    rw [lexemesOf, List.mem_cons] at h
    rcases h with rfl | h
    · exact ⟨p.1, rfl⟩
    · obtain ⟨more, hmore⟩ := ih h
      exact ⟨p.1 ++ p.2 ++ more, by rw [hmore, List.append_assoc]⟩

/-- No two tokens of a text start at one place. -/
theorem Splits.nodup_starts {text last : List Char} {pieces : List (List Char × List Char)}
    (h : Splits text pieces last) (before : List Char) :
    ((lexemesOf before pieces).map (·.start)).Nodup := by
  induction h generalizing before with
  | nil => exact List.nodup_nil
  | @cons gap token rest last pieces _ htoken _ ih =>
    rw [lexemesOf, List.map_cons, List.nodup_cons]
    refine ⟨fun hmem => ?_, ih _⟩
    obtain ⟨l, hl, hstart⟩ := List.mem_map.1 hmem
    obtain ⟨more, hmore⟩ := start_of_mem_lexemesOf hl
    obtain ⟨c, cs, rfl, -⟩ := htoken.head
    rw [hmore, ← List.append_assoc, List.append_assoc] at hstart
    exact Position.behind_append_ne _ (List.cons_ne_nil c (cs ++ more)) hstart

/-- A character that belongs to no gap begins a token, or a string that nothing closes. -/
theorem exists_token {c : Char} (cs : List Char) (hblank : isBlank c = false) (hhash : c ≠ '#') :
    (∃ token rest, c :: cs = token ++ rest ∧ IsToken token rest) ∨ (c = '"' ∧ '"' ∉ cs) := by
  by_cases hquote : c = '"'
  · subst hquote
    by_cases hclose : '"' ∈ cs
    · obtain ⟨body, rest, rfl, hbody⟩ := List.eq_append_cons_of_mem hclose
      exact .inl ⟨'"' :: (body ++ ['"']), rest, by simp, .string hbody⟩
    · exact .inr ⟨rfl, hclose⟩
  · refine .inl ?_
    by_cases hword : isWordChar c = true
    · refine ⟨c :: cs.takeWhile isWordChar, cs.dropWhile isWordChar, by simp,
        .word (by simp) ?_ ?_⟩
      · intro d hd
        rcases List.mem_cons.1 hd with rfl | hd
        · exact hword
        · exact List.all_eq_true.1 (List.all_takeWhile (p := isWordChar) (l := cs)) d hd
      · intro d hd
        have := List.head?_dropWhile_not isWordChar cs
        rw [Option.mem_def.1 hd] at this
        simpa using this
    · exact ⟨[c], cs, rfl, .single hblank (by simpa using hword) hhash hquote⟩

/-- Every text splits, and behind the pieces comes a gap or one string that is left open. -/
theorem exists_splits (cs : List Char) :
    ∃ pieces last, Splits cs pieces last ∧
      (IsLastGap last ∨
        ∃ gap body, last = gap ++ '"' :: body ∧ IsGap gap ∧ '"' ∉ body) := by
  induction h : cs.length using Nat.strongRecOn generalizing cs with
  | _ n ih =>
    rcases exists_gap cs with hlast | ⟨gap, c, rest, rfl, hgap, hblank, hhash⟩
    · exact ⟨[], cs, .nil, .inl hlast⟩
    · rcases exists_token rest hblank hhash with ⟨token, rest', heq, htoken⟩ | ⟨rfl, hopen⟩
      · obtain ⟨d, ds, rfl, -⟩ := htoken.head
        have hlen : rest'.length < n := by
          rw [← h, heq]
          simp only [List.length_append, List.length_cons]
          omega
        obtain ⟨pieces, last, hsplits, hend⟩ := ih _ hlen rest' rfl
        exact ⟨(gap, d :: ds) :: pieces, last, heq ▸ .cons hgap htoken hsplits, hend⟩
      · exact ⟨[], _, .nil, .inr ⟨gap, rest, rfl, hgap, hopen⟩⟩

namespace Cursor

theorem stringLength?_closed {body : List Char} (h : '"' ∉ body) (rest : List Char) :
    stringLength? (body ++ '"' :: rest) = some (body.length + 2) := by
  induction body with
  | nil => rfl
  | cons c cs ih =>
    simp only [List.mem_cons, not_or] at h
    simp [stringLength?, Ne.symm h.1, ih h.2]

theorem stringLength?_open {body : List Char} (h : '"' ∉ body) : stringLength? body = none := by
  induction body with
  | nil => rfl
  | cons c cs ih =>
    simp only [List.mem_cons, not_or] at h
    simp [stringLength?, Ne.symm h.1, ih h.2]

theorem takeWhile_eq_nil_of_head {p : α → Bool} {l : List α} (h : ∀ a ∈ l.head?, p a = false) :
    l.takeWhile p = [] := by
  cases l with
  | nil => rfl
  | cons a l => simp [h a rfl]

/-- A token is cut where it ends. -/
theorem tokenLength?_token {token rest : List Char} (h : IsToken token rest) :
    tokenLength? (token ++ rest) = some token.length := by
  cases h with
  | string hbody => simp [tokenLength?, stringLength?_closed hbody]
  | single _ hword _ hquote => simp [tokenLength?, hword, hquote]
  | word hne hw hrest =>
    obtain ⟨c, cs, rfl⟩ := List.exists_cons_of_ne_nil hne
    have hc := hw c (by simp)
    have hquote : c ≠ '"' := by
      rintro rfl
      simp [show isWordChar '"' = false by decide] at hc
    have htake : (cs ++ rest).takeWhile isWordChar = cs := by
      rw [List.takeWhile_append_of_pos fun d hd => hw d (by simp [hd]),
        takeWhile_eq_nil_of_head hrest, List.append_nil]
    simp [tokenLength?, hquote, hc, htake]

theorem gapLength_eq_zero {c : Char} (hblank : isBlank c = false) (hhash : c ≠ '#')
    (cs : List Char) : gapLength false (c :: cs) = 0 := by
  simp [gapLength, hblank, hhash]

/-- A gap in front is passed over. -/
theorem next_gap {gap cs : List Char} (hgap : IsGap gap) (hcs : gapLength false cs = 0)
    (p : Position) : next ⟨gap ++ cs, p⟩ = next ⟨cs, p.afterAll gap⟩ := by
  simp [next, gapLength_gap hgap, hcs, advance]

/-- A token behind a gap is cut out, and the cursor stands behind it. -/
theorem next_token {gap token rest : List Char} (hgap : IsGap gap) (htoken : IsToken token rest)
    (p : Position) :
    next ⟨gap ++ (token ++ rest), p⟩ =
      (.ok (.lexeme ⟨String.ofList token, p.afterAll gap⟩),
        ⟨rest, p.afterAll (gap ++ token)⟩) := by
  have hlen := tokenLength?_token htoken
  obtain ⟨c, cs, rfl, hblank, hhash⟩ := htoken.head
  rw [List.cons_append] at hlen ⊢
  have hzero := gapLength_eq_zero hblank hhash (cs ++ rest)
  rw [next_gap hgap hzero]
  simp [next, hzero, hlen, advance, Position.afterAll_append]

/-- In a gap that ends the text there is no token. -/
theorem next_lastGap {last : List Char} (h : IsLastGap last) (p : Position) :
    next ⟨last, p⟩ = (.ok (.endOfInput (p.afterAll last)), ⟨[], p.afterAll last⟩) := by
  simp [next, gapLength_lastGap h, advance]

/-- A string that nothing closes is an error at its quote, and the text is used up. -/
theorem next_openString {gap body : List Char} (hgap : IsGap gap) (hbody : '"' ∉ body)
    (p : Position) :
    next ⟨gap ++ '"' :: body, p⟩ =
      (.error ⟨p.afterAll gap⟩, ⟨[], p.afterAll (gap ++ '"' :: body)⟩) := by
  have hzero : gapLength false ('"' :: body) = 0 :=
    gapLength_eq_zero (by decide) (by decide) body
  rw [next_gap hgap hzero]
  simp [next, hzero, tokenLength?, stringLength?_open hbody, advance, Position.afterAll_append]

end Cursor

namespace Tape

theorem ofCursor_of_lexeme {k k' : Cursor} {l : Lexeme} (h : k.next = (.ok (.lexeme l), k')) :
    ofCursor k = (ofCursor k').cons l := by
  rw [ofCursor]
  split <;> simp_all

theorem ofCursor_of_end {k k' : Cursor} {p : Position} (h : k.next = (.ok (.endOfInput p), k')) :
    ofCursor k = ⟨[], .endOfInput p⟩ := by
  rw [ofCursor]
  split <;> simp_all

theorem ofCursor_of_error {k k' : Cursor} {e : UnclosedString} (h : k.next = (.error e, k')) :
    ofCursor k = ⟨[], .unclosed e⟩ := by
  rw [ofCursor]
  split <;> simp_all

/-- The tape of a text holds the lexemes of its pieces, and ends as what comes last does. -/
theorem ofCursor_of_splits {text last : List Char} {pieces : List (List Char × List Char)}
    (h : Splits text pieces last) (before : List Char) {ending : Ending}
    (hlast : ofCursor ⟨last, .behind (before ++ joinPieces pieces)⟩ = ⟨[], ending⟩) :
    ofCursor ⟨text, .behind before⟩ = ⟨lexemesOf before pieces, ending⟩ := by
  induction h generalizing before with
  | nil => simpa [lexemesOf] using hlast
  | @cons gap token rest last pieces hgap htoken hrest ih =>
    rw [ofCursor_of_lexeme (Cursor.next_token hgap htoken _), Position.afterAll_behind,
      Position.afterAll_behind, ih (before ++ (gap ++ token))]
    · rfl
    · rw [joinPieces_cons] at hlast
      simpa only [List.append_assoc] using hlast

/-- A text that ends in a gap has the tokens of its pieces. -/
theorem ofText_of_lastGap {source : String} {last : List Char}
    {pieces : List (List Char × List Char)} (h : Splits source.toList pieces last)
    (hlast : IsLastGap last) :
    ofText source = ⟨lexemesOf [] pieces, .endOfInput (.behind source.toList)⟩ := by
  refine ofCursor_of_splits h [] ?_
  rw [ofCursor_of_end (Cursor.next_lastGap hlast _), Position.afterAll_behind, h.join,
    List.nil_append]

/-- A text with an open string has the tokens before it. -/
theorem ofText_of_openString {source : String} {gap body : List Char}
    {pieces : List (List Char × List Char)}
    (h : Splits source.toList pieces (gap ++ '"' :: body)) (hgap : IsGap gap)
    (hbody : '"' ∉ body) :
    ofText source = ⟨lexemesOf [] pieces, .unclosed ⟨.behind (joinPieces pieces ++ gap)⟩⟩ := by
  refine ofCursor_of_splits h [] ?_
  rw [ofCursor_of_error (Cursor.next_openString hgap hbody _), Position.afterAll_behind,
    List.nil_append]

theorem lexemes?_eq_ok_iff {t : Tape} {lexemes : List Lexeme} :
    t.lexemes? = .ok lexemes ↔ (∃ stop, t.ending = .endOfInput stop) ∧ lexemes = t.lexemes := by
  rw [lexemes?]
  cases t.ending <;> simp [eq_comm]

end Tape

namespace TokenStream

/-- Draining gives the lexemes of the tape, or tells of the open string at its end. -/
theorem cutAll_eq_lexemes? (k : Cursor) : (cutAll k).1 = (Tape.ofCursor k).lexemes? := by
  fun_induction cutAll k with
  | case1 k e k' h => rw [Tape.ofCursor_of_error h]; rfl
  | case2 k p k' h => rw [Tape.ofCursor_of_end h]; rfl
  | case3 k l k' h r ih =>
    rw [Tape.ofCursor_of_lexeme h, ih]
    cases hending : (Tape.ofCursor k').ending <;> simp [Tape.lexemes?, hending, Except.map]

/-- Draining a stream takes the tokens of the whole text. -/
theorem drain_ofText (source : String) :
    (ofText source).drain.1 = (Tape.ofText source).lexemes? := cutAll_eq_lexemes? _

/-- Draining a text gives its tokens, each at its place, exactly when the text is gaps and tokens
in turn. Otherwise a string is left open, and it tells the place of its quote. No line or column
passes the length of the text by more than one. -/
theorem drain_ofText_iff (source : String) :
    (∀ lexemes, (ofText source).drain.1 = .ok lexemes ↔
      ∃ pieces last, Splits source.toList pieces last ∧ IsLastGap last ∧
        lexemes = lexemesOf [] pieces) ∧
    (∀ e, (ofText source).drain.1 = .error e ↔
      ∃ pieces gap body, Splits source.toList pieces (gap ++ '"' :: body) ∧ IsGap gap ∧
        '"' ∉ body ∧ e = ⟨.behind (joinPieces pieces ++ gap)⟩) ∧
    (∀ n, (Position.behind (source.toList.take n)).line ≤ source.toList.length + 1 ∧
      (Position.behind (source.toList.take n)).column ≤ source.toList.length + 1) := by
  rw [drain_ofText]
  obtain ⟨pieces, last, hsplits, hend⟩ := exists_splits source.toList
  refine ⟨fun lexemes => ⟨fun h => ?_, ?_⟩, fun e => ⟨fun h => ?_, ?_⟩, fun n => ?_⟩
  · rcases hend with hlast | ⟨gap, body, rfl, hgap, hbody⟩
    · rw [Tape.ofText_of_lastGap hsplits hlast] at h
      exact ⟨pieces, last, hsplits, hlast, (Except.ok.inj h).symm⟩
    · rw [Tape.ofText_of_openString hsplits hgap hbody] at h
      cases h
  · rintro ⟨pieces', last', hsplits', hlast', rfl⟩
    rw [Tape.ofText_of_lastGap hsplits' hlast']
    rfl
  · rcases hend with hlast | ⟨gap, body, rfl, hgap, hbody⟩
    · rw [Tape.ofText_of_lastGap hsplits hlast] at h
      cases h
    · rw [Tape.ofText_of_openString hsplits hgap hbody] at h
      exact ⟨pieces, gap, body, hsplits, hgap, hbody, (Except.error.inj h).symm⟩
  · rintro ⟨pieces', gap', body', hsplits', hgap', hbody', rfl⟩
    rw [Tape.ofText_of_openString hsplits' hgap' hbody']
    rfl
  · have hlen : (source.toList.take n).length ≤ source.toList.length :=
      (List.take_prefix n source.toList).length_le
    have hle := Position.behind_le (source.toList.take n)
    omega

end TokenStream
end ChordRules
