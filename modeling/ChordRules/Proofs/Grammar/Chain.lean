import ChordRules.Proofs.Grammar.Printing
import ChordRules.Proofs.Grammar.ViablePrefix

/-! # Chains of operations

Operands with operators between them group to the right, whatever the operators are, and the first
operand that an assignment is to but that is no symbol is refused at its place. An operand is a
printed expression, or a chain of operands in parentheses. Main statement: `ofText_chain`. -/
namespace ChordRules

structure Link where
  text : String
  operand : Rule
  op : Operator

def Link.Assignable (l : Link) : Prop := l.op = .assign → l.operand.isSymbol = true

def Link.render (l : Link) : String := l.text ++ " " ++ l.op.symbol ++ " "

def chainText (links : List Link) (last : String) : String :=
  links.foldr (fun l rest => l.render ++ rest) last

/-- Each link takes all that stands behind it as its right operand. -/
def chainRule (links : List Link) (last : Rule) : Rule :=
  links.foldr (fun l rest => .binary l.op l.operand rest) last

theorem chainText_cons (l : Link) (links : List Link) (last : String) :
    chainText (l :: links) last = l.render ++ chainText links last := rfl

theorem chainText_append (links more : List Link) (last : String) :
    chainText (links ++ more) last = chainText links (chainText more last) :=
  List.foldr_append

/-- `WrittenOperand text r`: the text is a way to write the operand `r` of a chain. -/
inductive WrittenOperand : String → Rule → Prop
  | printed {r : Rule} (h : r.IsExpression) : WrittenOperand r.render r
  | parenthesized {links : List Link} {last : String} {r : Rule}
      (hlinks : ∀ l ∈ links, WrittenOperand l.text l.operand) (target : ∀ l ∈ links, l.Assignable)
      (hlast : WrittenOperand last r) :
      WrittenOperand ("(" ++ chainText links last ++ ")") (chainRule links r)

/-- The text is cut into the tokens `xs` in front of anything that does not lengthen its last word,
and it begins as an operand does. -/
structure WrittenAs (text : String) (xs : List String) : Prop where
  laysOut : ∀ ⦃rest : List Char⦄ ⦃ys : List String⦄, (∀ c ∈ rest.head?, isWordChar c = false) →
    LaysOut rest ys → LaysOut (text.toList ++ rest) (xs ++ ys)
  headChar : ∃ c cs, text.toList = c :: cs ∧ isBlank c = false ∧ c ≠ '#'
  headText : ∃ x zs, xs = x :: zs ∧ OpensOperand x

/-- The first character of a printed expression belongs to a token. -/
theorem Rule.IsExpression.headChar {r : Rule} (h : r.IsExpression) :
    ∃ c cs, r.render.toList = c :: cs ∧ isBlank c = false ∧ c ≠ '#' := by
  cases h with
  | @text s => exact ⟨'"', (s ++ "\"").toList, by simp [render], by decide, by decide⟩
  | number h => exact (isToken_showInt h).head
  | symbol h => exact h.isToken.head
  | @call name args h =>
    obtain ⟨c, cs, hname, hc⟩ := h.isToken.head
    exact ⟨c, cs ++ ("(" ++ renderAll ", " args ++ ")").toList, by simp [render, hname], hc⟩
  | @binary op l r =>
    exact ⟨'(', (l.render ++ " " ++ op.symbol ++ " " ++ r.render ++ ")").toList,
      by simp [render], by decide, by decide⟩

theorem Rule.IsExpression.writtenAs {r : Rule} (h : r.IsExpression) :
    WrittenAs r.render r.tokens where
  laysOut rest ys hhead hrest := by
    rw [← h.printedTokens_eq]
    exact h.laysOutTokens hhead hrest
  headChar := h.headChar
  headText := h.head_tokens

theorem WrittenAs.laysOut_blank {text : String} {xs : List String} (h : WrittenAs text xs)
    {rest : List Char} {ys : List String} (hrest : LaysOut rest ys) :
    LaysOut (text.toList ++ ' ' :: rest) (xs ++ ys) :=
  h.laysOut (head?_cons_not_isWordChar (by decide) rest) (.blank (by decide) hrest)

theorem WrittenAs.laysOut_alone {text : String} {xs : List String} (h : WrittenAs text xs) :
    LaysOut text.toList xs := by
  have hend : ∀ c ∈ ([] : List Char).head?, isWordChar c = false := nofun
  simpa using h.laysOut hend .nil

/-- A link and more behind it. -/
theorem WrittenAs.link {l : Link} {rest : String} {xs ys : List String} (h : WrittenAs l.text xs)
    (hrest : WrittenAs rest ys) : WrittenAs (l.render ++ rest) (xs ++ (l.op.texts ++ ys)) where
  laysOut more zs hhead hmore := by
    have hop := l.op.laysOut_blank (hrest.laysOut hhead hmore)
    have htext := h.laysOut_blank hop
    simpa [Link.render] using htext
  headChar := by
    obtain ⟨c, cs, hcs, hc⟩ := h.headChar
    exact ⟨c, cs ++ (" " ++ l.op.symbol ++ " " ++ rest).toList, by simp [Link.render, hcs], hc⟩
  headText := by
    obtain ⟨x, zs, rfl, hx⟩ := h.headText
    exact ⟨x, zs ++ (l.op.texts ++ ys), rfl, hx⟩

theorem WrittenAs.parenthesized {text : String} {xs : List String} (h : WrittenAs text xs) :
    WrittenAs ("(" ++ text ++ ")") ("(" :: (xs ++ [")"])) where
  laysOut rest ys _ hrest := by
    have hclose : LaysOut (')' :: rest) (")" :: ys) := .mark (by decide) hrest
    have hopen : LaysOut ('(' :: (text.toList ++ ')' :: rest)) ("(" :: (xs ++ ")" :: ys)) :=
      .mark (by decide) (h.laysOut (head?_cons_not_isWordChar (by decide) rest) hclose)
    simpa using hopen
  headChar := ⟨'(', (text ++ ")").toList, by simp, by decide, by decide⟩
  headText := ⟨"(", xs ++ [")"], rfl, .inl rfl⟩

/-- In front of a written operand, an operator is read as it stands. -/
theorem WrittenAs.leadsWith {text : String} {xs : List String} (h : WrittenAs text xs)
    (op : Operator) (ys : List String) : LeadsWith op (op.texts ++ (xs ++ ys)) (xs ++ ys) := by
  obtain ⟨x, zs, rfl, hx⟩ := h.headText
  exact op.leadsWith_of_head hx (zs ++ ys)

def IsOperand (text : String) (r : Rule) : Prop :=
  ∃ xs, WrittenAs text xs ∧ ∀ ys : List String, ys.head? ≠ some "(" →
    Derives .operand (xs ++ ys) r ys

/-- A chain is read as an expression that groups to the right, where no operator follows. -/
theorem exists_chainTokens {links : List Link} {last : String} {r : Rule}
    (hlinks : ∀ l ∈ links, IsOperand l.text l.operand) (hlast : IsOperand last r) :
    ∃ xs, WrittenAs (chainText links last) xs ∧ ((∀ l ∈ links, l.Assignable) →
      ∀ ys : List String, ys.head? ≠ some "(" → (∀ op zs, ¬ LeadsWith op ys zs) →
        Derives .expression (xs ++ ys) (chainRule links r) ys) := by
  induction links with
  | nil =>
    obtain ⟨xs, hwritten, hderives⟩ := hlast
    exact ⟨xs, hwritten, fun _ ys hcall hgreedy => .alone (hderives ys hcall) hgreedy⟩
  | cons l links ih =>
    obtain ⟨⟨xs, hwritten, hderives⟩, hlinks⟩ := List.forall_mem_cons.1 hlinks
    obtain ⟨ys, hrest, hright⟩ := ih hlinks
    refine ⟨xs ++ (l.op.texts ++ ys), hwritten.link hrest, fun htargets zs hcall hgreedy => ?_⟩
    obtain ⟨htarget, htargets⟩ := List.forall_mem_cons.1 htargets
    have hleft := hderives (l.op.texts ++ (ys ++ zs)) (l.op.head?_texts_ne _)
    rw [List.append_assoc, List.append_assoc]
    exact .binary hleft (hrest.leadsWith l.op zs) htarget (hright htargets zs hcall hgreedy)

theorem WrittenOperand.isOperand {text : String} {r : Rule} (h : WrittenOperand text r) :
    IsOperand text r := by
  induction h with
  | @printed r h => exact ⟨r.tokens, h.writtenAs, h.readsBack⟩
  | parenthesized _ target _ ih ihlast =>
    obtain ⟨xs, hwritten, hderives⟩ := exists_chainTokens ih ihlast
    refine ⟨"(" :: (xs ++ [")"]), hwritten.parenthesized, fun ys _ => ?_⟩
    have hinner := hderives target (")" :: ys) (by simp) fun op zs =>
      not_leadsWith_of_mem_punctuation (by decide) op ys zs
    have hoperand := Derives.parenthesized hinner
    simpa using hoperand

namespace Reader

/-- The reader gives the value and leaves the rest of the tape, unless its fuel is spent. -/
def Leaves (p : Reader α) (t : Tape) (a : α) (rest : Tape) : Prop :=
  p t = .spent ∨ p t = .ok a rest

def Refuses (p : Reader α) (t : Tape) (e : ParseError) : Prop := p t = .spent ∨ p t = .error e

theorem bind_of_spent {p : Reader α} {t : Tape} (f : α → Reader β) (h : p t = .spent) :
    (p >>= f) t = .spent := by
  change Reader.bind p f t = .spent
  simp only [Reader.bind, h]

theorem Refuses.bind {p : Reader α} {t : Tape} {e : ParseError} (h : p.Refuses t e)
    (f : α → Reader β) : (p >>= f).Refuses t e := by
  rcases h with h | h
  · exact .inl (bind_of_spent f h)
  · exact .inr (bind_of_error f h)

theorem Leaves.bind {p : Reader α} {f : α → Reader β} {t rest : Tape} {a : α} {e : ParseError}
    (h : p.Leaves t a rest) (hf : (f a).Refuses rest e) : (p >>= f).Refuses t e := by
  rcases h with h | h
  · exact .inl (bind_of_spent f h)
  · rw [Refuses, bind_of_ok f h]
    exact hf

variable {front middle left : List Lexeme} {stop : Position}

/-- An exact reader that leaves the end of the tape leaves that end which it is to leave. -/
theorem Exact.leaves {p : Reader α} {P : List String → α → List String → Prop} {a : α}
    (hexact : p.Exact P)
    (hsuffix : ∀ rest, p ⟨front ++ left, .endOfInput stop⟩ = .ok a rest →
      rest.lexemes <:+ front ++ left)
    (h : P ((front ++ left).map (·.text)) a (left.map (·.text))) :
    p.Leaves ⟨front ++ left, .endOfInput stop⟩ a ⟨left, .endOfInput stop⟩ := by
  by_cases hspent : p ⟨front ++ left, .endOfInput stop⟩ = .spent
  · exact .inl hspent
  · obtain ⟨⟨ls, ending⟩, hok, htexts⟩ :=
      (hexact ⟨front ++ left, .endOfInput stop⟩).2 stop a _ rfl h hspent
    obtain ⟨hending, -⟩ := (hexact _).1 a _ hok
    have hlength : ls.length = left.length := by
      simpa [Tape.texts] using congrArg List.length htexts
    have hls : ls <:+ left := List.suffix_of_suffix_length_le (hsuffix _ hok)
      (List.suffix_append front left) (Nat.le_of_eq hlength)
    cases hending
    cases hls.eq_of_length hlength
    exact .inr hok

theorem operand_leaves {r : Rule} (n : Nat)
    (h : Derives .operand ((front ++ left).map (·.text)) r (left.map (·.text))) :
    (operand n).Leaves ⟨front ++ left, .endOfInput stop⟩ r ⟨left, .endOfInput stop⟩ := by
  refine (readsPhrases n).operand.leaves (fun rest hok => ?_) h
  have hreply := (mendsPhrases n).operand (front ++ left) stop
  rw [hok] at hreply
  cases hreply with
  | ok hrest => exact hrest

theorem operator?_leaves {op : Operator}
    (h : LeadsWith op ((front ++ left).map (·.text)) (left.map (·.text))) :
    operator?.Leaves ⟨front ++ left, .endOfInput stop⟩ (some op) ⟨left, .endOfInput stop⟩ := by
  refine exact_operator?.leaves (fun rest hok => ?_) (.inl ⟨op, rfl, h⟩)
  obtain ⟨o, rest', hok', hsuffix⟩ := exists_operator? (front ++ left) stop
  cases hok.symm.trans hok'
  exact hsuffix

/-- What an expression meets behind an operand and an operator. -/
theorem expression_refuses {f : Lexeme} {l : Rule} {op : Operator} {e : ParseError}
    (hoperand : Derives .operand ((f :: front ++ (middle ++ left)).map (·.text)) l
      ((middle ++ left).map (·.text)))
    (hleads : LeadsWith op ((middle ++ left).map (·.text)) (left.map (·.text)))
    (hmore : ∀ n, (if op = .assign ∧ l.isSymbol = false then fail (.notAssignable l.render f.start)
      else do return Rule.binary op l (← expression n) : Reader Rule).Refuses
        ⟨left, .endOfInput stop⟩ e)
    (n : Nat) : (expression n).Refuses ⟨f :: front ++ (middle ++ left), .endOfInput stop⟩ e := by
  cases n with
  | zero => exact .inl rfl
  | succ n =>
    rw [expression]
    have hposition : position.Leaves ⟨f :: front ++ (middle ++ left), .endOfInput stop⟩ f.start
        ⟨f :: front ++ (middle ++ left), .endOfInput stop⟩ := .inr rfl
    refine hposition.bind ((operand_leaves n hoperand).bind ?_)
    exact (operator?_leaves hleads).bind (hmore n)

/-- What an expression meets at the front of a text, the program meets. -/
theorem program_refuses {f : Lexeme} {ls : List Lexeme} {e : ParseError}
    (hbrace : f.text ≠ "\x7b") (hif : f.text ≠ "if")
    (h : ∀ n, (expression n).Refuses ⟨f :: ls, .endOfInput stop⟩ e) (n : Nat) :
    (program n).Refuses ⟨f :: ls, .endOfInput stop⟩ e := by
  have hsees : ∀ x, f.text ≠ x → (sees x).Leaves ⟨f :: ls, .endOfInput stop⟩ false
      ⟨f :: ls, .endOfInput stop⟩ := by
    intro x hx
    have hfalse : (f.text == x) = false := by simpa using hx
    exact .inr (by rw [← hfalse]; rfl)
  have hstatement : ∀ n, (statement n).Refuses ⟨f :: ls, .endOfInput stop⟩ e := by
    intro n
    cases n with
    | zero => exact .inl rfl
    | succ n =>
      rw [statement]
      exact (hsees "if" hif).bind (h n)
  have hblock : ∀ n, (block n).Refuses ⟨f :: ls, .endOfInput stop⟩ e := by
    intro n
    cases n with
    | zero => exact .inl rfl
    | succ n =>
      rw [block]
      exact (hsees "\x7b" hbrace).bind ((hstatement n).bind _)
  cases n with
  | zero => exact .inl rfl
  | succ n =>
    rw [program]
    have hatEnd : atEnd.Leaves ⟨f :: ls, .endOfInput stop⟩ false ⟨f :: ls, .endOfInput stop⟩ :=
      .inr rfl
    exact hatEnd.bind ((hblock n).bind _)

end Reader

/-- The lexemes of a link: those of the operand, of which the first is where the link is, and those
of the operator. -/
theorem WrittenAs.exists_lexemes {l : Link} {xs : List String} (h : WrittenAs l.text xs)
    {before : List Char} {rest : String} {ls : List Lexeme}
    (hrest : CutBehind (before ++ l.render.toList) rest.toList ls) :
    ∃ f front middle, (f :: front).map (·.text) = xs ∧ middle.map (·.text) = l.op.texts ∧
      f.start = .behind before ∧
      CutBehind before (l.render ++ rest).toList (f :: front ++ (middle ++ ls)) := by
  have hlink : LaysOut (l.text.toList ++ ' ' :: l.op.symbol.toList) (xs ++ l.op.texts) := by
    have hop : LaysOut (l.op.symbol.toList ++ []) (l.op.texts ++ []) := l.op.laysOut nofun .nil
    rw [List.append_nil, List.append_nil] at hop
    exact h.laysOut_blank hop
  have hbehind : CutBehind (before ++ (l.text.toList ++ ' ' :: l.op.symbol.toList ++ [' ']))
      rest.toList ls := by simpa [Link.render] using hrest
  obtain ⟨row, hrow, hcut⟩ := CutBehind.blank hlink hbehind
  obtain ⟨front, middle, rfl, hfront, hmiddle⟩ := List.map_eq_append_iff.1 hrow
  obtain ⟨x, zs, rfl, -⟩ := h.headText
  obtain ⟨f, front, rfl, -, -⟩ := List.map_eq_cons_iff.1 hfront
  obtain ⟨c, cs, hcs, hblank, hhash⟩ := h.headChar
  rw [hcs, List.append_assoc] at hcut
  refine ⟨f, front, middle, hfront, hmiddle, hcut.head?_start hblank hhash f rfl, ?_⟩
  simpa [Link.render, hcs] using hcut

/-- Wherever the text stands, to read it as an expression meets the fault that there is nothing to
assign to. The target of the assignment stands in the text behind `ahead`. -/
def Refused (text : String) (ahead : List Char) (target : String) : Prop :=
  ∀ before, ∃ f ls, CutBehind before text.toList (f :: ls) ∧ OpensOperand f.text ∧
    ∀ stop n, (Reader.expression n).Refuses ⟨f :: ls, .endOfInput stop⟩
      (.notAssignable target (.behind (before ++ ahead)))

/-- What is met behind a link, is met from the link on. -/
theorem IsOperand.refuses {l : Link} (h : IsOperand l.text l.operand) {before : List Char}
    {rest : String} {g : Lexeme} {ls : List Lexeme} {e : ParseError}
    (hrest : CutBehind (before ++ l.render.toList) rest.toList (g :: ls))
    (hg : OpensOperand g.text)
    (hmore : ∀ stop n, (if l.op = .assign ∧ l.operand.isSymbol = false then
        Reader.fail (.notAssignable l.operand.render (.behind before))
      else do return Rule.binary l.op l.operand (← Reader.expression n) : Reader Rule).Refuses
        ⟨g :: ls, .endOfInput stop⟩ e) :
    ∃ f fs, CutBehind before (l.render ++ rest).toList (f :: fs) ∧
      OpensOperand f.text ∧
      ∀ stop n, (Reader.expression n).Refuses ⟨f :: fs, .endOfInput stop⟩ e := by
  obtain ⟨xs, hwritten, hderives⟩ := h
  obtain ⟨f, front, middle, rfl, hmiddle, hstart, hcut⟩ := hwritten.exists_lexemes hrest
  obtain ⟨_, _, ⟨rfl, -⟩, hf⟩ := hwritten.headText
  refine ⟨f, front ++ (middle ++ g :: ls), hcut, hf, fun stop => ?_⟩
  have hleads : LeadsWith l.op ((middle ++ g :: ls).map (·.text)) ((g :: ls).map (·.text)) := by
    rw [List.map_append, hmiddle]
    exact l.op.leadsWith_of_head hg _
  have hoperand : Derives .operand ((f :: front ++ (middle ++ g :: ls)).map (·.text)) l.operand
      ((middle ++ g :: ls).map (·.text)) := by
    rw [List.map_append]
    refine hderives _ ?_
    rw [List.map_append, hmiddle]
    exact l.op.head?_texts_ne _
  rw [← hstart] at hmore
  exact Reader.expression_refuses hoperand hleads (hmore stop)

theorem refused_of_not_assignable {l : Link} {rest : String} {ys : List String}
    (h : IsOperand l.text l.operand) (htarget : ¬ l.Assignable) (hrest : WrittenAs rest ys) :
    Refused (l.render ++ rest) [] l.operand.render := by
  intro before
  obtain ⟨ls, hcut, htexts⟩ :=
    (cutInto_iff_cutBehind (before ++ l.render.toList)).1 hrest.laysOut_alone.cutInto
  obtain ⟨x, zs, rfl, hx⟩ := hrest.headText
  obtain ⟨g, ls, rfl, rfl, -⟩ := List.map_eq_cons_iff.1 htexts
  refine h.refuses hcut hx fun stop n => ?_
  have hassign : l.op = .assign ∧ l.operand.isSymbol = false := by
    simpa [Link.Assignable] using htarget
  rw [if_pos hassign, List.append_nil]
  exact .inr rfl

theorem Refused.behind {l : Link} {rest target : String} {ahead : List Char}
    (hrest : Refused rest ahead target) (h : IsOperand l.text l.operand)
    (htarget : l.Assignable) :
    Refused (l.render ++ rest) (l.render.toList ++ ahead) target := by
  intro before
  obtain ⟨g, ls, hcut, hg, hrefuses⟩ := hrest (before ++ l.render.toList)
  refine h.refuses hcut hg fun stop n => ?_
  have hassign : ¬ (l.op = .assign ∧ l.operand.isSymbol = false) := by
    rintro ⟨hop, hsymbol⟩
    simp [htarget hop] at hsymbol
  rw [if_neg hassign, ← List.append_assoc]
  exact (hrefuses stop n).bind _

/-- Behind links that assign to symbols only, the first one that does not is refused. -/
theorem refused_chain {before : List Link} {l : Link} {rest : String} {ys : List String}
    (hbefore : ∀ m ∈ before, IsOperand m.text m.operand) (htargets : ∀ m ∈ before, m.Assignable)
    (h : IsOperand l.text l.operand) (htarget : ¬ l.Assignable) (hrest : WrittenAs rest ys) :
    Refused (chainText before (l.render ++ rest)) (chainText before "").toList
      l.operand.render := by
  induction before with
  | nil => exact refused_of_not_assignable h htarget hrest
  | cons m before ih =>
    obtain ⟨hm, hbefore⟩ := List.forall_mem_cons.1 hbefore
    obtain ⟨hmtarget, htargets⟩ := List.forall_mem_cons.1 htargets
    rw [chainText_cons, chainText_cons, String.toList_append]
    exact (ih hbefore htargets).behind hm hmtarget

theorem Refused.ofText {source target : String} {ahead : List Char}
    (h : Refused source ahead target) :
    Rule.ofText source = .error (.notAssignable target (.behind ahead)) := by
  obtain ⟨f, ls, hcut, hf, hrefuses⟩ := h []
  have hbrace : f.text ≠ "\x7b" := hf.ne_of_mem_punctuation (by decide) (by decide)
  have hif : f.text ≠ "if" := hf.ne_of_mem_punctuation (by decide) (by decide)
  rw [Rule.ofText_eq_error_iff_read, Tape.read_eq_error_iff, hcut.ofText]
  have hprogram := Reader.program_refuses hbrace hif (hrefuses (.behind source.toList))
  exact (hprogram _).resolve_left (Reader.program_ne_spent _)

/-- Operands with operators between them, whichever these are, are one statement that groups to the
right, if every operand that is assigned to is a symbol. Otherwise the first that is none is
refused, with its printed form and the place where it begins. -/
theorem ofText_chain {links : List Link} {last : String} {r : Rule}
    (hlinks : ∀ l ∈ links, WrittenOperand l.text l.operand) (hlast : WrittenOperand last r) :
    ((∀ l ∈ links, l.Assignable) →
      Rule.ofText (chainText links last) = .ok (.block [chainRule links r])) ∧
    ∀ before l after, links = before ++ l :: after → (∀ m ∈ before, m.Assignable) →
      ¬ l.Assignable →
      Rule.ofText (chainText links last) =
        .error (.notAssignable l.operand.render (.behind (chainText before "").toList)) := by
  have hoperands : ∀ l ∈ links, IsOperand l.text l.operand := fun l hl => (hlinks l hl).isOperand
  constructor
  · intro htargets
    obtain ⟨xs, hwritten, hderives⟩ := exists_chainTokens hoperands hlast.isOperand
    have hexpression := hderives htargets [] nofun nofun
    rw [List.append_nil] at hexpression
    have hblock : Derives .block xs [chainRule links r] [] := .bare (.plain hexpression)
    exact ofText_eq_block_iff.2 ⟨xs, hwritten.laysOut_alone.cutInto, hblock.program_of_block⟩
  · rintro before l after rfl htargets htarget
    obtain ⟨hbefore, hmore⟩ := List.forall_mem_append.1 hoperands
    obtain ⟨hl, hafter⟩ := List.forall_mem_cons.1 hmore
    obtain ⟨ys, hrest, -⟩ := exists_chainTokens hafter hlast.isOperand
    rw [chainText_append, chainText_cons]
    exact (refused_chain hbefore htargets hl htarget hrest).ofText

/-- The same operands with one more assignment, which is to the call. -/
theorem ofText_chain_call :
    Rule.ofText "x = (y) = 1 + f(2)" =
      .ok (.block [.binary .assign (.symbol "x") (.binary .assign (.symbol "y")
        (.binary (.arithmetic .add) (.number 1) (.call "f" [.number 2])))]) ∧
    Rule.ofText "x = (y) = 1 + f(2) = 3" = .error (.notAssignable "f(2)" ⟨1, 15⟩) := by
  let call : Rule := .call "f" [.number 2]
  have hcallText : call.render = "f(2)" := by decide +kernel
  have hx : Rule.IsExpression (.symbol "x") := .symbol (nameFault?_eq_none_iff.1 (by decide))
  have hy : Rule.IsExpression (.symbol "y") := .symbol (nameFault?_eq_none_iff.1 (by decide))
  have hone : Rule.IsExpression (.number 1) := .number (by decide)
  have hthree : Rule.IsExpression (.number 3) := .number (by decide)
  have hcall : call.IsExpression :=
    .call (nameFault?_eq_none_iff.1 (by decide))
      (List.forall_mem_singleton.2 (.number (by decide)))
  have hparenthesized : WrittenOperand "(y)" (.symbol "y") :=
    .parenthesized (List.forall_mem_nil _) (List.forall_mem_nil _) (.printed hy)
  let links : List Link :=
    [⟨"x", .symbol "x", .assign⟩, ⟨"(y)", .symbol "y", .assign⟩,
      ⟨(Rule.number 1).render, .number 1, .arithmetic .add⟩]
  have hlinks : ∀ l ∈ links, WrittenOperand l.text l.operand :=
    List.forall_mem_cons.2 ⟨.printed hx, List.forall_mem_cons.2 ⟨hparenthesized,
      List.forall_mem_singleton.2 (.printed hone)⟩⟩
  have hother : Operator.arithmetic .add ≠ .assign := by decide
  have htargets : ∀ l ∈ links, l.Assignable :=
    List.forall_mem_cons.2 ⟨fun _ => rfl, List.forall_mem_cons.2 ⟨fun _ => rfl,
      List.forall_mem_singleton.2 fun h => absurd h hother⟩⟩
  have hmore : ∀ l ∈ links ++ [⟨call.render, call, .assign⟩], WrittenOperand l.text l.operand :=
    List.forall_mem_append.2 ⟨hlinks, List.forall_mem_singleton.2 (.printed hcall)⟩
  have htarget : ¬ Link.Assignable ⟨call.render, call, .assign⟩ := by
    intro h
    exact absurd (h rfl) (by decide)
  have hok := (ofText_chain hlinks (.printed hcall)).1 htargets
  have herror := (ofText_chain hmore (.printed hthree)).2 links _ [] rfl htargets htarget
  have htext₁ : chainText links call.render = "x = (y) = 1 + f(2)" := by decide +kernel
  have htext₂ : chainText (links ++ [⟨call.render, call, .assign⟩]) (Rule.number 3).render =
      "x = (y) = 1 + f(2) = 3" := by decide +kernel
  have hplace : Position.behind (chainText links "").toList = ⟨1, 15⟩ := by decide +kernel
  rw [htext₁] at hok
  rw [htext₂, hplace, hcallText] at herror
  exact ⟨hok, herror⟩

end ChordRules
