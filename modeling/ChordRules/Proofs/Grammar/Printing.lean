import ChordRules.Proofs.Grammar.Spelling

/-! # Reading back what is printed

The line that a rule is printed as is read back as that rule exactly if the rule is a program whose
blocks hold at most one statement each (`ofText_render_iff`). The semicolon that divides more
statements is no part of the language. -/
namespace ChordRules

/-- The symbol of an operator lays out its texts, in front of anything that does not lengthen it to
another word. -/
theorem Operator.laysOut (op : Operator) {rest : List Char} {xs : List String}
    (hhead : ∀ c ∈ rest.head?, isWordChar c = false) (h : LaysOut rest xs) :
    LaysOut (op.symbol.toList ++ rest) (op.texts ++ xs) := by
  have single : op.texts = [op.symbol] → LaysOut (op.symbol.toList ++ rest) (op.texts ++ xs) := by
    intro htexts
    have htoken : IsToken op.symbol.toList [] := op.areTokens_texts op.symbol (by simp [htexts])
    rw [htexts]
    exact .text htoken hhead h
  rcases op with (_ | _ | _ | _) | (_ | _ | _ | _) | _ | _ | _ | _
  case comparison.lessEqual => exact .mark (by decide) (.mark (by decide) h)
  case comparison.greaterEqual => exact .mark (by decide) (.mark (by decide) h)
  case equal => exact .mark (by decide) (.mark (by decide) h)
  all_goals exact single rfl

/-- The symbol of an operator and a blank. -/
theorem Operator.laysOut_blank (op : Operator) {rest : List Char} {xs : List String}
    (h : LaysOut rest xs) : LaysOut (op.symbol.toList ++ ' ' :: rest) (op.texts ++ xs) :=
  op.laysOut (head?_cons_not_isWordChar (by decide) rest) (.blank (by decide) h)

namespace Rule

def SingleStatements (r : Rule) : Prop := ∀ ss, block ss ∈ r.subtrees → ss.length ≤ 1

theorem SingleStatements.child {r c : Rule} (h : r.SingleStatements) (hc : c ∈ r.children) :
    c.SingleStatements := fun ss hss => h ss (mem_subtrees_of_child hc hss)

mutual

def printedTokens : Rule → List String
  | block ss => "\x7b" :: (separatedTokens ";" ss ++ ["\x7d"])
  | ifThen c t => "if" :: "(" :: (c.printedTokens ++ ")" :: t.printedTokens)
  | ifElse c t e =>
    "if" :: "(" :: (c.printedTokens ++ ")" :: (t.printedTokens ++ "else" :: e.printedTokens))
  | binary op l r => "(" :: (l.printedTokens ++ (op.texts ++ (r.printedTokens ++ [")"])))
  | call name args => name :: "(" :: (separatedTokens "," args ++ [")"])
  | text s => ["\"" ++ s ++ "\""]
  | number n => [showInt n.toInt]
  | symbol name => [name]

def separatedTokens (separator : String) : List Rule → List String
  | [] => []
  | [r] => r.printedTokens
  | r :: rs => r.printedTokens ++ separator :: separatedTokens separator rs

end

theorem separatedTokens_cons_cons (separator : String) (r s : Rule) (rs : List Rule) :
    separatedTokens separator (r :: s :: rs) =
      r.printedTokens ++ separator :: separatedTokens separator (s :: rs) := by
  rw [separatedTokens]
  nofun

theorem renderAll_cons_cons (separator : String) (r s : Rule) (rs : List Rule) :
    renderAll separator (r :: s :: rs) =
      r.render ++ separator ++ renderAll separator (s :: rs) := by
  rw [renderAll]
  nofun

/-- The printed rule lays out its tokens, in front of anything that does not lengthen its last
word. -/
def LaysOutTokens (r : Rule) : Prop :=
  ∀ ⦃rest : List Char⦄ ⦃xs : List String⦄, (∀ c ∈ rest.head?, isWordChar c = false) →
    LaysOut rest xs → LaysOut (r.render.toList ++ rest) (r.printedTokens ++ xs)

/-- A mark behind the printed rule, and what follows. -/
theorem LaysOutTokens.mark {r : Rule} (h : r.LaysOutTokens) {c : Char} (hc : isMark c = true)
    {rest : List Char} {xs : List String} (hrest : LaysOut rest xs) :
    LaysOut (r.render.toList ++ c :: rest) (r.printedTokens ++ String.ofList [c] :: xs) := by
  exact h (head?_cons_not_isWordChar (isWordChar_of_isMark hc) rest) (.mark hc hrest)

/-- A blank behind the printed rule, and what follows. -/
theorem LaysOutTokens.blank {r : Rule} (h : r.LaysOutTokens) {rest : List Char}
    {xs : List String} (hrest : LaysOut rest xs) :
    LaysOut (r.render.toList ++ ' ' :: rest) (r.printedTokens ++ xs) := by
  exact h (head?_cons_not_isWordChar (by decide) rest) (.blank (by decide) hrest)

theorem laysOut_separatedTokens {rs : List Rule} (h : ∀ r ∈ rs, r.LaysOutTokens) {c : Char}
    (hc : isMark c = true) {rest : List Char} {xs : List String}
    (hhead : ∀ c ∈ rest.head?, isWordChar c = false) (hrest : LaysOut rest xs) :
    LaysOut ((renderAll (String.ofList [c, ' ']) rs).toList ++ rest)
      (separatedTokens (String.ofList [c]) rs ++ xs) := by
  match rs with
  | [] => simpa [renderAll, separatedTokens] using hrest
  | [r] =>
    rw [renderAll, separatedTokens]
    exact h r List.mem_cons_self hhead hrest
  | r :: s :: rs =>
    obtain ⟨hr, hrs⟩ := List.forall_mem_cons.1 h
    have hmore := laysOut_separatedTokens hrs hc hhead hrest
    rw [renderAll_cons_cons, separatedTokens_cons_cons]
    simpa using hr.mark hc (.blank (by decide) hmore)

theorem IsExpression.laysOutTokens {r : Rule} (h : r.IsExpression) : r.LaysOutTokens := by
  induction h with
  | @text s h =>
    intro rest xs hhead hrest
    have htext : IsToken ("\"" ++ s ++ "\"").toList [] := by
      simpa using IsToken.string h
    rw [render, printedTokens]
    exact .text htext hhead hrest
  | number h =>
    intro rest xs hhead hrest
    rw [render, printedTokens]
    exact .text (isToken_showInt h) hhead hrest
  | symbol h =>
    intro rest xs hhead hrest
    rw [render, printedTokens]
    exact .text h.isToken hhead hrest
  | @call name args h _ ih =>
    intro rest xs _ hrest
    have hclose : LaysOut (')' :: rest) (")" :: xs) := .mark (by decide) hrest
    have hargs := laysOut_separatedTokens ih (c := ',') (by decide)
      (head?_cons_not_isWordChar (by decide) rest) hclose
    have hopen : LaysOut ('(' :: _) ("(" :: _) := .mark (by decide) hargs
    have hname := LaysOut.text h.isToken (head?_cons_not_isWordChar (by decide) _) hopen
    simpa [render, printedTokens] using hname
  | @binary op l r _ _ _ ihl ihr =>
    intro rest xs _ hrest
    have hright := ihr.mark (c := ')') (by decide) hrest
    have hleft := ihl.blank (op.laysOut_blank hright)
    have hopen : LaysOut ('(' :: _) ("(" :: _) := .mark (by decide) hleft
    simpa [render, printedTokens] using hopen

/-- A block closes itself, so anything may follow. -/
theorem laysOut_block {ss : List Rule} (h : ∀ s ∈ ss, s.LaysOutTokens) {rest : List Char}
    {xs : List String} (hrest : LaysOut rest xs) :
    LaysOut ((block ss).render.toList ++ rest) ((block ss).printedTokens ++ xs) := by
  have hclose : LaysOut (' ' :: '\x7d' :: rest) ("\x7d" :: xs) :=
    .blank (by decide) (.mark (by decide) hrest)
  have hstatements := laysOut_separatedTokens h (c := ';') (by decide)
    (head?_cons_not_isWordChar (by decide) _) hclose
  have hopen : LaysOut ('\x7b' :: ' ' :: _) ("\x7b" :: _) :=
    .mark (by decide) (.blank (by decide) hstatements)
  simpa [render, printedTokens] using hopen

/-- The condition in front of what a conditional does. -/
theorem IsExpression.laysOut_condition {c : Rule} (hc : c.IsExpression) {rest : List Char}
    {xs : List String} (hrest : LaysOut rest xs) :
    LaysOut ("if".toList ++ ' ' :: '(' :: (c.render.toList ++ ')' :: ' ' :: rest))
      ("if" :: "(" :: (c.printedTokens ++ ")" :: xs)) := by
  have hbody : LaysOut (' ' :: rest) xs := .blank (by decide) hrest
  have hcondition := hc.laysOutTokens.mark (c := ')') (by decide) hbody
  exact .spaced (isToken_of_mem_punctuation (by decide)) (.mark (by decide) hcondition)

theorem IsStatement.laysOutTokens {s : Rule} (h : s.IsStatement) : s.LaysOutTokens := by
  induction h with
  | expression h => exact h.laysOutTokens
  | @ifThen c ss hc _ ih =>
    intro rest xs _ hrest
    have hif := hc.laysOut_condition (laysOut_block ih hrest)
    simpa [render, printedTokens] using hif
  | @ifElse c ss ts hc _ _ ih₁ ih₂ =>
    intro rest xs _ hrest
    have helse := LaysOut.spaced (x := "else") (isToken_of_mem_punctuation (by decide))
      (laysOut_block ih₂ hrest)
    have hbranches := laysOut_block ih₁ (.blank (c := ' ') (by decide) helse)
    have hif := hc.laysOut_condition hbranches
    simpa [render, printedTokens] using hif

/-- The line of a program is cut into the tokens it was printed from. -/
theorem texts_ofText_render {r : Rule} (h : r.IsProgram) :
    (Tape.ofText r.render).texts = r.printedTokens ∧
      ∃ stop, (Tape.ofText r.render).ending = .endOfInput stop := by
  obtain ⟨ss, rfl, hss⟩ := h
  have hblock := laysOut_block (fun s hs => (hss s hs).laysOutTokens) .nil
  rw [List.append_nil, List.append_nil] at hblock
  exact hblock.ofText

theorem separatedTokens_append_eq {as : List Rule}
    (h : ∀ a ∈ as, a.printedTokens = a.tokens) :
    separatedTokens "," as ++ [")"] = argumentTokens as := by
  match as with
  | [] => rw [separatedTokens, argumentTokens, List.nil_append]
  | [a] =>
    rw [separatedTokens, argumentTokens, moreArgumentTokens, h a List.mem_cons_self]
  | a :: b :: as =>
    obtain ⟨ha, has⟩ := List.forall_mem_cons.1 h
    have hmore := separatedTokens_append_eq has
    rw [argumentTokens] at hmore
    rw [separatedTokens_cons_cons, argumentTokens, moreArgumentTokens, ← hmore, ha,
      List.append_assoc, List.cons_append]

theorem IsExpression.printedTokens_eq {r : Rule} (h : r.IsExpression) :
    r.printedTokens = r.tokens := by
  induction h with
  | text | number | symbol => rw [printedTokens, tokens]
  | call _ _ ih => rw [printedTokens, tokens, separatedTokens_append_eq ih]
  | binary _ _ _ ihl ihr => rw [printedTokens, tokens, ihl, ihr]

theorem printedTokens_block_eq {ss : List Rule} (hlength : ss.length ≤ 1)
    (h : ∀ s ∈ ss, s.printedTokens = s.tokens) :
    (block ss).printedTokens = (block ss).tokens := by
  match ss with
  | [] => rw [printedTokens, tokens, separatedTokens, statementTokens, List.nil_append]
  | [s] => rw [printedTokens, tokens, separatedTokens, statementTokens, h s List.mem_cons_self]

/-- Where no semicolon is needed, the line has the tokens of the spelling. -/
theorem IsStatement.printedTokens_eq {s : Rule} (h : s.IsStatement) (hs : s.SingleStatements) :
    s.printedTokens = s.tokens := by
  have branch : ∀ {r : Rule} {ss : List Rule}, r.SingleStatements → block ss ∈ r.children →
      (∀ s ∈ ss, s.SingleStatements → s.printedTokens = s.tokens) →
      (block ss).printedTokens = (block ss).tokens := by
    intro r ss hr hss ih
    have hblock := hr.child hss
    exact printedTokens_block_eq (hblock ss (self_mem_subtrees _)) fun s hs =>
      ih s hs (hblock.child hs)
  induction h with
  | expression h => exact h.printedTokens_eq
  | ifThen hc _ ih =>
    rw [printedTokens, tokens, hc.printedTokens_eq, branch hs (by simp [children]) ih]
  | ifElse hc _ _ ih₁ ih₂ =>
    rw [printedTokens, tokens, hc.printedTokens_eq, branch hs (by simp [children]) ih₁,
      branch hs (by simp [children]) ih₂]

theorem mem_separatedTokens {x separator : String} {r : Rule} {rs : List Rule}
    (hr : r ∈ rs) (hx : x ∈ r.printedTokens) : x ∈ separatedTokens separator rs := by
  match rs with
  | [s] =>
    rw [separatedTokens]
    rwa [List.mem_singleton.1 hr] at hx
  | s :: t :: rs =>
    rw [separatedTokens_cons_cons]
    rcases List.mem_cons.1 hr with rfl | hr
    · exact List.mem_append_left _ hx
    · exact List.mem_append_right _ (List.mem_cons_of_mem _ (mem_separatedTokens hr hx))

theorem mem_printedTokens_of_child {x : String} {c r : Rule} (hc : c ∈ r.children)
    (hx : x ∈ c.printedTokens) : x ∈ r.printedTokens := by
  cases r with
  | block ss =>
    have hmem : x ∈ separatedTokens ";" ss := mem_separatedTokens hc hx
    simp [printedTokens, hmem]
  | call name args =>
    have hmem : x ∈ separatedTokens "," args := mem_separatedTokens hc hx
    simp [printedTokens, hmem]
  | ifThen | ifElse | binary =>
    simp only [children, List.mem_cons, List.not_mem_nil, or_false] at hc
    rcases hc with rfl | rfl | rfl <;> simp [printedTokens, hx]
  | text | number | symbol => cases hc

theorem mem_printedTokens_of_mem_subtrees {x : String} {p r : Rule} (hp : p ∈ r.subtrees)
    (hx : x ∈ p.printedTokens) : x ∈ r.printedTokens := by
  induction r using children_induction with
  | step r ih =>
    rcases mem_subtrees_iff.1 hp with rfl | ⟨c, hc, hp⟩
    · exact hx
    · exact mem_printedTokens_of_child hc (ih c hc hp)

/-- A block of more than one statement is printed with a semicolon. -/
theorem singleStatements_of_semicolon_not_mem {r : Rule} (h : ";" ∉ r.printedTokens) :
    r.SingleStatements := by
  intro ss hss
  match ss with
  | [] => exact Nat.zero_le 1
  | [s] => exact Nat.le_refl 1
  | s :: t :: ss =>
    refine absurd (mem_printedTokens_of_mem_subtrees hss ?_) h
    rw [printedTokens, separatedTokens_cons_cons]
    simp

end Rule

theorem semicolon_not_inVocabulary : ¬ InVocabulary ";" := by
  have hoperators : ∀ op ∈ Operator.all, ¬ ";".toList ⊆ op.symbol.toList := by decide
  rintro (h | ⟨r, h⟩ | ⟨op, h⟩)
  · exact absurd h (by decide)
  · exact h.ne_of_refused (by decide) rfl
  · exact hoperators op op.mem_all h.subset

/-- A rule is what its printed line is read as exactly if it is a program and none of its blocks,
at any depth, holds more than one statement. -/
theorem ofText_render_iff (r : Rule) :
    Rule.ofText r.render = .ok r ↔ r.IsProgram ∧ r.SingleStatements := by
  constructor
  · intro h
    have hprogram := isProgram_of_ofText h
    obtain ⟨ss, hread, rfl⟩ := Rule.ofText_eq_ok_iff_read.1 h
    obtain ⟨-, hderives⟩ := Tape.read_eq_ok_iff.1 hread
    rw [(Rule.texts_ofText_render hprogram).1] at hderives
    obtain ⟨front, hfront, hvocabulary⟩ := hderives.consumes
    rw [List.append_nil] at hfront
    refine ⟨hprogram, Rule.singleStatements_of_semicolon_not_mem fun hmem => ?_⟩
    exact semicolon_not_inVocabulary (hvocabulary _ (hfront ▸ hmem))
  · rintro ⟨hprogram, hsingle⟩
    obtain ⟨htexts, hstop⟩ := Rule.texts_ofText_render hprogram
    obtain ⟨ss, rfl, hss⟩ := hprogram
    have hprinted : (Rule.block ss).printedTokens = (Rule.block ss).tokens :=
      Rule.printedTokens_block_eq (hsingle ss (Rule.self_mem_subtrees _)) fun s hs =>
        (hss s hs).printedTokens_eq (hsingle.child hs)
    have hderives := Rule.derives_program hss
    rw [← hprinted, ← htexts] at hderives
    exact Rule.ofText_eq_ok_iff_read.2 ⟨ss, Tape.read_eq_ok_iff.2 ⟨hstop, hderives⟩, rfl⟩

/-- So it is with a conditional whose texts hold what means something outside of them. -/
theorem ofText_render_marks :
    ∃ r : Rule, r = .block [.ifElse (.binary .equal (.symbol "key") (.text "# \x7b ; \n"))
        (.block [.call "say" [.text "if (", .symbol "key"]]) (.block [])] ∧
      r.render =
        "\x7b if ((key == \"# \x7b ; \n\")) \x7b say(\"if (\", key) \x7d else \x7b  \x7d \x7d" ∧
      Rule.ofText r.render = .ok r := by
  have hkey : Rule.IsExpression (.symbol "key") :=
    .symbol (nameFault?_eq_none_iff.1 (by decide))
  have hcondition : Rule.IsExpression (.binary .equal (.symbol "key") (.text "# \x7b ; \n")) :=
    .binary (fun h => absurd h (by decide)) hkey (.text (by decide))
  have hcall : Rule.IsExpression (.call "say" [.text "if (", .symbol "key"]) :=
    .call (nameFault?_eq_none_iff.1 (by decide))
      (List.forall_mem_cons.2 ⟨.text (by decide), List.forall_mem_singleton.2 hkey⟩)
  have hstatement := Rule.IsStatement.ifElse hcondition
    (List.forall_mem_singleton.2 (.expression hcall)) (List.forall_mem_nil _)
  have hprogram : Rule.IsProgram _ := ⟨_, rfl, List.forall_mem_singleton.2 hstatement⟩
  refine ⟨_, rfl, by decide, (ofText_render_iff _).2 ⟨hprogram, fun ss hss => ?_⟩⟩
  simp only [Rule.subtrees, Rule.subtreesAll, List.mem_cons, List.mem_append, List.not_mem_nil,
    Rule.block.injEq, reduceCtorEq, or_false, false_or] at hss
  rcases hss with rfl | rfl | rfl <;> decide

end ChordRules
