import ChordRules.Proofs.Grammar.WellFormed

/-! # Writing programs down

Every program has a text that is read as that program (`ofText_spelling`). In it operations are
parenthesised, and where a block has more than one statement each of them has braces of its own,
so that no statement goes on into the next. -/
namespace ChordRules

def Operator.texts : Operator → List String
  | .comparison .lessEqual => ["<", "="]
  | .comparison .greaterEqual => [">", "="]
  | .equal => ["=", "="]
  | op => [op.symbol]

namespace Rule

mutual

def tokens : Rule → List String
  | block ss => "\x7b" :: statementTokens ss
  | ifThen c t => "if" :: "(" :: (c.tokens ++ ")" :: t.tokens)
  | ifElse c t e => "if" :: "(" :: (c.tokens ++ ")" :: (t.tokens ++ "else" :: e.tokens))
  | binary op l r => "(" :: (l.tokens ++ (op.texts ++ (r.tokens ++ [")"])))
  | call name args => name :: "(" :: argumentTokens args
  | text s => ["\"" ++ s ++ "\""]
  | number n => [showInt n.toInt]
  | symbol name => [name]

/-- What stands behind the opening brace of a block. -/
def statementTokens : List Rule → List String
  | [] => ["\x7d"]
  | [s] => s.tokens ++ ["\x7d"]
  | s :: t :: ss => "\x7b" :: (s.tokens ++ "\x7d" :: bracedTokens (t :: ss))

def bracedTokens : List Rule → List String
  | [] => ["\x7d"]
  | s :: ss => "\x7b" :: (s.tokens ++ "\x7d" :: bracedTokens ss)

/-- What stands behind the opening parenthesis of a call. -/
def argumentTokens : List Rule → List String
  | [] => [")"]
  | a :: as => a.tokens ++ moreArgumentTokens as

def moreArgumentTokens : List Rule → List String
  | [] => [")"]
  | a :: as => "," :: (a.tokens ++ moreArgumentTokens as)

end

def spelling (r : Rule) : String := spaced r.tokens

end Rule

/-- No operator begins with punctuation. -/
theorem not_leadsWith_of_mem_punctuation {x : String} (hx : x ∈ punctuation) (op : Operator)
    (ys zs : List String) : ¬ LeadsWith op (x :: ys) zs := by
  have hprefix : ∀ x ∈ punctuation, ∀ op ∈ Operator.all,
      ¬ x.toList <+: op.symbol.toList := by decide
  intro h
  cases h with
  | @pair _ y _ h =>
    refine hprefix x hx op op.mem_all ⟨y.toList, ?_⟩
    rw [← h, String.toList_append]
  | single _ h => exact hprefix x hx op op.mem_all (h ▸ List.prefix_rfl)

/-- What joins the symbol of an operator to that of another is an equality sign, or nothing. -/
theorem Operator.eq_of_symbol_append {op other : Operator} {y : String}
    (h : op.symbol ++ y = other.symbol) : y = "" ∨ y = "=" := by
  have hdrop : ∀ op ∈ Operator.all, ∀ other ∈ Operator.all,
      op.symbol.toList <+: other.symbol.toList →
      String.ofList (other.symbol.toList.drop op.symbol.toList.length) ∈ ["", "="] := by decide
  have hlist : op.symbol.toList ++ y.toList = other.symbol.toList := by
    rw [← h, String.toList_append]
  have hy := hdrop op op.mem_all other other.mem_all ⟨y.toList, hlist⟩
  rw [← hlist, List.drop_left, String.ofList_toList] at hy
  simpa using hy

/-- An operator's own tokens lead as that operator, unless what follows could lengthen them. -/
theorem Operator.leadsWith_texts (op : Operator) {y : String} (hempty : y ≠ "") (hequal : y ≠ "=")
    (ys : List String) : LeadsWith op (op.texts ++ y :: ys) (y :: ys) := by
  have single : op.texts = [op.symbol] → LeadsWith op (op.texts ++ y :: ys) (y :: ys) := by
    intro htexts
    rw [htexts]
    refine .single ?_ rfl
    rintro z ⟨⟩ other h
    rcases Operator.eq_of_symbol_append h with rfl | rfl
    · exact hempty rfl
    · exact hequal rfl
  rcases op with (_ | _ | _ | _) | (_ | _ | _ | _) | _ | _ | _ | _
  case comparison.lessEqual => exact .pair rfl
  case comparison.greaterEqual => exact .pair rfl
  case equal => exact .pair rfl
  all_goals exact single rfl

def OpensOperand (x : String) : Prop := x = "(" ∨ ∃ w, Word x w

theorem OpensOperand.ne_of_mem_punctuation {x y : String} (hx : OpensOperand x)
    (hy : y ∈ punctuation) (hne : y ≠ "(") : x ≠ y := by
  rintro rfl
  rcases hx with rfl | ⟨w, hw⟩
  · exact hne rfl
  · exact hw.not_mem_punctuation hy

/-- The tokens of an operator are read as that operator in front of an operand. -/
theorem Operator.leadsWith_of_head (op : Operator) {x : String} (hx : OpensOperand x)
    (ys : List String) : LeadsWith op (op.texts ++ x :: ys) (x :: ys) := by
  rcases hx with rfl | ⟨w, hw⟩
  · exact op.leadsWith_texts (by decide) (by decide) ys
  · exact op.leadsWith_texts (hw.ne_of_refused (by decide)) (hw.ne_of_refused (by decide)) ys

theorem Operator.head?_texts_ne (op : Operator) (ys : List String) :
    (op.texts ++ ys).head? ≠ some "(" := by
  rcases op with (_ | _ | _ | _) | (_ | _ | _ | _) | _ | _ | _ | _ <;> simp [texts, symbol]

theorem Word.derives {x : String} {r : Rule} (h : Word x r) {ys : List String}
    (greedy : r.isSymbol = true → ys.head? ≠ some "(") : Derives .operand (x :: ys) r ys :=
  .unparenthesized (.word h greedy)

/-- What is read as an operand in front of punctuation is a whole expression. -/
theorem Derives.expression_of_operand {xs ys : List String} {r : Rule} {x : String}
    (h : Derives .operand xs r (x :: ys)) (hx : x ∈ punctuation) :
    Derives .expression xs r (x :: ys) :=
  .alone h fun op zs => not_leadsWith_of_mem_punctuation hx op ys zs

namespace Rule

/-- The text in front of an expression is a parenthesis or a word. -/
theorem IsExpression.head_tokens {r : Rule} (h : r.IsExpression) :
    ∃ x xs, r.tokens = x :: xs ∧ OpensOperand x := by
  cases h with
  | text => exact ⟨_, _, by rw [tokens], .inr ⟨_, .text _⟩⟩
  | number h => exact ⟨_, _, by rw [tokens], .inr ⟨_, .number _ h⟩⟩
  | symbol h => exact ⟨_, _, by rw [tokens], .inr ⟨_, .name _ h⟩⟩
  | call h _ => exact ⟨_, _, by rw [tokens], .inr ⟨_, .name _ h⟩⟩
  | binary => exact ⟨_, _, by rw [tokens], .inl rfl⟩

/-- The tokens of an operator are read as that operator in front of an expression. -/
theorem IsExpression.leadsWith_texts {r : Rule} (h : r.IsExpression) (op : Operator)
    (ys : List String) : LeadsWith op (op.texts ++ (r.tokens ++ ys)) (r.tokens ++ ys) := by
  obtain ⟨x, xs, hxs, hx⟩ := h.head_tokens
  rw [hxs]
  exact op.leadsWith_of_head hx (xs ++ ys)

theorem head_moreArgumentTokens (as : List Rule) :
    ∃ x xs, moreArgumentTokens as = x :: xs ∧ x ∈ punctuation ∧ x ≠ "(" := by
  cases as with
  | nil => exact ⟨_, _, by rw [moreArgumentTokens], by decide, by decide⟩
  | cons => exact ⟨_, _, by rw [moreArgumentTokens], by decide, by decide⟩

/-- The rule is read as an operand from its tokens, unless they go on as a call does. -/
def ReadsBack (r : Rule) : Prop :=
  ∀ ys : List String, ys.head? ≠ some "(" → Derives .operand (r.tokens ++ ys) r ys

theorem ReadsBack.derives_expression {r : Rule} (h : r.ReadsBack) {x : String}
    (hx : x ∈ punctuation) (hne : x ≠ "(") (ys : List String) :
    Derives .expression (r.tokens ++ x :: ys) r (x :: ys) := by
  have hhead : (x :: ys).head? ≠ some "(" := by simpa using hne
  exact (h (x :: ys) hhead).expression_of_operand hx

theorem ReadsBack.derives_closed {r : Rule} (h : r.ReadsBack) (ys : List String) :
    Derives .expression (r.tokens ++ ")" :: ys) r (")" :: ys) :=
  h.derives_expression (by decide) (by decide) ys

/-- An argument ends where the next one or the end of the call begins. -/
theorem ReadsBack.derives_argument {a : Rule} (h : a.ReadsBack) (as : List Rule)
    (ys : List String) :
    Derives .expression (a.tokens ++ (moreArgumentTokens as ++ ys)) a
      (moreArgumentTokens as ++ ys) := by
  obtain ⟨x, xs, hxs, hx, hne⟩ := head_moreArgumentTokens as
  rw [hxs, List.cons_append]
  exact h.derives_expression hx hne (xs ++ ys)

theorem derives_moreArgumentTokens {as : List Rule} (h : ∀ a ∈ as, a.ReadsBack)
    (ys : List String) : Derives .argumentsRest (moreArgumentTokens as ++ ys) as ys := by
  induction as with
  | nil =>
    rw [moreArgumentTokens]
    exact .lastArgument
  | cons a as ih =>
    obtain ⟨ha, has⟩ := List.forall_mem_cons.1 h
    rw [moreArgumentTokens, List.cons_append, List.append_assoc]
    exact .nextArgument (ha.derives_argument as ys) (ih has)

/-- The tokens of arguments are read as those arguments. -/
theorem derives_argumentTokens {as : List Rule} (h : ∀ a ∈ as, a.ReadsBack)
    (ys : List String) : Derives .arguments (argumentTokens as ++ ys) as ys := by
  cases as with
  | nil =>
    rw [argumentTokens]
    exact .noArgument
  | cons a as =>
    obtain ⟨ha, has⟩ := List.forall_mem_cons.1 h
    rw [argumentTokens, List.append_assoc]
    exact .argument (ha.derives_argument as ys) (derives_moreArgumentTokens has ys)

/-- Every expression is read back from its tokens. -/
theorem IsExpression.readsBack {r : Rule} (h : r.IsExpression) : r.ReadsBack := by
  induction h with
  | text =>
    intro ys _
    rw [tokens]
    exact (Word.text _).derives nofun
  | number h =>
    intro ys _
    rw [tokens]
    exact (Word.number _ h).derives nofun
  | symbol h =>
    intro ys hys
    rw [tokens]
    exact (Word.name _ h).derives fun _ => hys
  | call h _ ih =>
    intro ys _
    rw [tokens]
    exact .unparenthesized (.call h (derives_argumentTokens ih ys))
  | @binary op l r target hl hr ihl ihr =>
    intro ys _
    have htokens : (Rule.binary op l r).tokens ++ ys =
        "(" :: (l.tokens ++ (op.texts ++ (r.tokens ++ ")" :: ys))) := by simp [tokens]
    rw [htokens]
    have left := ihl (op.texts ++ (r.tokens ++ ")" :: ys)) (op.head?_texts_ne _)
    have right := ihr.derives_closed ys
    exact .parenthesized (.binary left (hr.leadsWith_texts op _) target right)

/-- The rule is read as a statement from its tokens in front of a closing brace. -/
def ReadsBackInBlock (s : Rule) : Prop :=
  ∀ ys : List String, Derives .statement (s.tokens ++ "\x7d" :: ys) s ("\x7d" :: ys)

/-- A statement in braces of its own and what follows. -/
theorem ReadsBackInBlock.derives_cons {s : Rule} (h : s.ReadsBackInBlock) {ss : List Rule}
    {xs ys : List String} (hrest : Derives .blockRest xs ss ys) :
    Derives .blockRest ("\x7b" :: (s.tokens ++ "\x7d" :: xs)) (s :: ss) ys :=
  .more (.braced (.more (.bare (h xs)) .closed)) hrest

theorem derives_bracedTokens {ss : List Rule} (h : ∀ s ∈ ss, s.ReadsBackInBlock)
    (ys : List String) : Derives .blockRest (bracedTokens ss ++ ys) ss ys := by
  induction ss with
  | nil =>
    rw [bracedTokens]
    exact .closed
  | cons s ss ih =>
    obtain ⟨hs, hss⟩ := List.forall_mem_cons.1 h
    rw [bracedTokens, List.cons_append, List.append_assoc, List.cons_append]
    exact hs.derives_cons (ih hss)

/-- The tokens of a block are read as its statements. -/
theorem derives_statementTokens {ss : List Rule} (h : ∀ s ∈ ss, s.ReadsBackInBlock)
    (ys : List String) : Derives .blockRest (statementTokens ss ++ ys) ss ys := by
  match ss with
  | [] =>
    rw [statementTokens]
    exact .closed
  | [s] =>
    rw [statementTokens, List.append_assoc, List.singleton_append]
    exact .more (.bare (h s List.mem_cons_self ys)) .closed
  | s :: t :: ss =>
    obtain ⟨hs, hss⟩ := List.forall_mem_cons.1 h
    rw [statementTokens, List.cons_append, List.append_assoc, List.cons_append]
    exact hs.derives_cons (derives_bracedTokens hss ys)

/-- A block is read from its tokens, whatever follows. -/
theorem derives_block {ss : List Rule} (h : ∀ s ∈ ss, s.ReadsBackInBlock) (ys : List String) :
    Derives .block ((block ss).tokens ++ ys) ss ys := by
  rw [tokens]
  exact .braced (derives_statementTokens h ys)

/-- Every statement is read back from its tokens in a block. -/
theorem IsStatement.readsBackInBlock {s : Rule} (h : s.IsStatement) : s.ReadsBackInBlock := by
  induction h with
  | expression h =>
    intro ys
    exact .plain (h.readsBack.derives_expression (by decide) (by decide) ys)
  | @ifThen c ss hc _ ih =>
    intro ys
    have htokens : (Rule.ifThen c (.block ss)).tokens ++ "\x7d" :: ys =
        "if" :: "(" :: (c.tokens ++ ")" :: ((block ss).tokens ++ "\x7d" :: ys)) := by
      simp [tokens]
    rw [htokens]
    have condition := hc.readsBack.derives_closed ((block ss).tokens ++ "\x7d" :: ys)
    exact .ifThen condition (derives_block ih _) (by simp)
  | @ifElse c ss ts hc _ _ ih₁ ih₂ =>
    intro ys
    have htokens : (Rule.ifElse c (.block ss) (.block ts)).tokens ++ "\x7d" :: ys =
        "if" :: "(" :: (c.tokens ++ ")" :: ((block ss).tokens ++
          "else" :: ((block ts).tokens ++ "\x7d" :: ys))) := by
      simp [tokens]
    rw [htokens]
    have condition := hc.readsBack.derives_closed
      ((block ss).tokens ++ "else" :: ((block ts).tokens ++ "\x7d" :: ys))
    exact .ifElse condition (derives_block ih₁ _) (derives_block ih₂ _)

/-- The tokens of a program derive its statements. -/
theorem derives_program {ss : List Rule} (h : ∀ s ∈ ss, s.IsStatement) :
    Derives .program (block ss).tokens ss [] := by
  have hblock := derives_block (fun s hs => (h s hs).readsBackInBlock) []
  rw [List.append_nil] at hblock
  exact hblock.program_of_block

end Rule

/-- What makes a text a token without regard to its length: it is a word, or one mark. -/
def isPlainToken (cs : List Char) : Bool :=
  !cs.isEmpty && cs.all isWordChar ||
    match cs with
    | [c] => !isBlank c && !isWordChar c && c != '#' && c != '"'
    | _ => false

/-- A word and a mark are tokens of their own. -/
theorem isToken_of_isPlainToken {cs : List Char} (h : isPlainToken cs = true) :
    IsToken cs [] := by
  unfold isPlainToken at h
  rw [Bool.or_eq_true, Bool.and_eq_true] at h
  rcases h with ⟨hne, hw⟩ | h
  · exact .word (by simpa using hne) (List.all_eq_true.1 hw) nofun
  · split at h
    · simp only [Bool.and_eq_true, Bool.not_eq_true', bne_iff_ne] at h
      obtain ⟨⟨⟨hblank, hword⟩, hcomment⟩, hquote⟩ := h
      exact .single hblank hword hcomment hquote
    · cases h

theorem isToken_of_mem_punctuation {x : String} (hx : x ∈ punctuation) : IsToken x.toList [] := by
  have hplain : ∀ x ∈ punctuation, isPlainToken x.toList = true := by decide
  exact isToken_of_isPlainToken (hplain x hx)

/-- The pieces of an operator are tokens. -/
theorem Operator.areTokens_texts (op : Operator) : AreTokens op.texts := by
  have hplain : ∀ op ∈ Operator.all, ∀ x ∈ op.texts, isPlainToken x.toList = true := by decide
  exact fun x hx => isToken_of_isPlainToken (hplain op op.mem_all x hx)

theorem IsName.isToken {x : String} (h : IsName x) : IsToken x.toList [] := by
  obtain ⟨⟨c, cs, hx, hc, hcs⟩, -⟩ := h
  rw [hx]
  refine .word (List.cons_ne_nil c cs) ?_ nofun
  intro d hd
  rcases List.mem_cons.1 hd with rfl | hd
  · simp [isWordChar, isLetterOrDigit, hc]
  · simp [isWordChar, hcs d hd]

theorem isToken_showInt {n : Int} (h : 0 ≤ n) : IsToken (showInt n).toList [] := by
  obtain ⟨k, rfl⟩ := Int.eq_ofNat_of_zero_le h
  rw [toList_showInt_natCast]
  refine .word (digits_ne_nil k) ?_ nofun
  intro c hc
  have hdigit := List.all_eq_true.1 (all_isDigit_digits k) c hc
  simp [isWordChar, isLetterOrDigit, hdigit]

/-- Punctuation in front of tokens is one token more. -/
theorem AreTokens.mark {x : String} {xs : List String} (hx : x ∈ punctuation)
    (hxs : AreTokens xs) : AreTokens (x :: xs) :=
  hxs.cons (isToken_of_mem_punctuation hx)

namespace Rule

theorem areTokens_moreArgumentTokens {as : List Rule} (h : ∀ a ∈ as, AreTokens a.tokens) :
    AreTokens (moreArgumentTokens as) := by
  induction as with
  | nil =>
    rw [moreArgumentTokens]
    exact .mark (by decide) .nil
  | cons a as ih =>
    obtain ⟨ha, has⟩ := List.forall_mem_cons.1 h
    rw [moreArgumentTokens]
    exact .mark (by decide) (ha.append (ih has))

theorem areTokens_argumentTokens {as : List Rule} (h : ∀ a ∈ as, AreTokens a.tokens) :
    AreTokens (argumentTokens as) := by
  cases as with
  | nil =>
    rw [argumentTokens]
    exact .mark (by decide) .nil
  | cons a as =>
    obtain ⟨ha, has⟩ := List.forall_mem_cons.1 h
    rw [argumentTokens]
    exact ha.append (areTokens_moreArgumentTokens has)

/-- What an expression is spelled with are tokens. -/
theorem IsExpression.areTokens {r : Rule} (h : r.IsExpression) : AreTokens r.tokens := by
  induction h with
  | @text s h =>
    have htext : IsToken ("\"" ++ s ++ "\"").toList [] := by
      simpa using IsToken.string h
    rw [tokens]
    exact .cons htext .nil
  | number h =>
    rw [tokens]
    exact .cons (isToken_showInt h) .nil
  | symbol h =>
    rw [tokens]
    exact .cons h.isToken .nil
  | call h _ ih =>
    rw [tokens]
    exact .cons h.isToken (.mark (by decide) (areTokens_argumentTokens ih))
  | @binary op l r _ _ _ ihl ihr =>
    rw [tokens]
    have hright : AreTokens (r.tokens ++ [")"]) := ihr.append (.mark (by decide) .nil)
    exact .mark (by decide) (ihl.append (op.areTokens_texts.append hright))

/-- A statement in braces and what follows. -/
theorem areTokens_braced {xs ys : List String} (hxs : AreTokens xs) (hys : AreTokens ys) :
    AreTokens ("\x7b" :: (xs ++ "\x7d" :: ys)) :=
  .mark (by decide) (hxs.append (.mark (by decide) hys))

theorem areTokens_bracedTokens {ss : List Rule} (h : ∀ s ∈ ss, AreTokens s.tokens) :
    AreTokens (bracedTokens ss) := by
  induction ss with
  | nil =>
    rw [bracedTokens]
    exact .mark (by decide) .nil
  | cons s ss ih =>
    obtain ⟨hs, hss⟩ := List.forall_mem_cons.1 h
    rw [bracedTokens]
    exact areTokens_braced hs (ih hss)

theorem areTokens_block {ss : List Rule} (h : ∀ s ∈ ss, AreTokens s.tokens) :
    AreTokens (block ss).tokens := by
  rw [tokens]
  refine .mark (by decide) ?_
  match ss with
  | [] =>
    rw [statementTokens]
    exact .mark (by decide) .nil
  | [s] =>
    rw [statementTokens]
    exact (h s List.mem_cons_self).append (.mark (by decide) .nil)
  | s :: t :: ss =>
    obtain ⟨hs, hss⟩ := List.forall_mem_cons.1 h
    rw [statementTokens]
    exact areTokens_braced hs (areTokens_bracedTokens hss)

/-- What a statement is spelled with are tokens. -/
theorem IsStatement.areTokens {s : Rule} (h : s.IsStatement) : AreTokens s.tokens := by
  induction h with
  | expression h => exact h.areTokens
  | ifThen hc _ ih =>
    rw [tokens]
    have hbody := areTokens_block ih
    exact .mark (by decide) (.mark (by decide) (hc.areTokens.append (.mark (by decide) hbody)))
  | ifElse hc _ _ ih₁ ih₂ =>
    rw [tokens]
    have hbranches := (areTokens_block ih₁).append (.mark (x := "else") (by decide)
      (areTokens_block ih₂))
    exact .mark (by decide) (.mark (by decide) (hc.areTokens.append (.mark (by decide) hbranches)))

/-- A program is what its spelling is read as. -/
theorem ofText_spelling {r : Rule} (h : r.IsProgram) : Rule.ofText r.spelling = .ok r := by
  obtain ⟨ss, rfl, hss⟩ := h
  have htokens : AreTokens (block ss).tokens := areTokens_block fun s hs => (hss s hs).areTokens
  obtain ⟨htexts, hstop⟩ := ofText_spaced htokens
  have hderives : Derives .program (Tape.ofText (spelling (.block ss))).texts ss [] := by
    rw [spelling, htexts]
    exact derives_program hss
  exact Rule.ofText_eq_ok_iff_read.2 ⟨ss, Tape.read_eq_ok_iff.2 ⟨hstop, hderives⟩, rfl⟩

end Rule

/-- The rules that texts are read as are exactly the programs, each of which its own spelling is
read as. Evaluating what a text is read as never fails for want of something to assign to, for
any host functions and any variables. -/
theorem exists_ofText_iff :
    (∀ r, (∃ source, Rule.ofText source = .ok r) ↔ r.IsProgram) ∧
    (∀ r, r.IsProgram → Rule.ofText r.spelling = .ok r) ∧
    (∀ source r, Rule.ofText source = .ok r → ∀ (σ : Type) (fs : Registry σ) (w : World σ) target,
      (r.eval fs w).1 ≠ .error (.notAssignable target)) := by
  refine ⟨fun r => ⟨?_, fun h => ?_⟩, fun r h => ?_, fun source r h σ fs w target => ?_⟩
  · rintro ⟨source, h⟩
    exact isProgram_of_ofText h
  · exact ⟨r.spelling, Rule.ofText_spelling h⟩
  · exact Rule.ofText_spelling h
  · exact (isProgram_of_ofText h).eval_ne_notAssignable fs w target

/-- So it is with a conditional that assigns and then calls a function. -/
theorem exists_ofText_conditional :
    ∃ r : Rule, r = .block [.ifThen (.symbol "lamp") (.block
        [.binary .assign (.symbol "lamp") (.number 0), .call "log" [.text "off"]])] ∧
      r.IsProgram ∧ Rule.ofText r.spelling = .ok r ∧
      ∀ (fs : Registry Unit) (w : World Unit) target,
        (r.eval fs w).1 ≠ .error (.notAssignable target) := by
  have hlamp : IsName "lamp" := nameFault?_eq_none_iff.1 (by decide)
  have hlog : IsName "log" := nameFault?_eq_none_iff.1 (by decide)
  have hassign : Rule.IsExpression (.binary .assign (.symbol "lamp") (.number 0)) :=
    .binary (fun _ => rfl) (.symbol hlamp) (.number (by decide))
  have hcall : Rule.IsExpression (.call "log" [.text "off"]) :=
    .call hlog (List.forall_mem_singleton.2 (.text (by decide)))
  have hbody := List.forall_mem_cons.2
    ⟨Rule.IsStatement.expression hassign, List.forall_mem_singleton.2 (.expression hcall)⟩
  have hprogram : Rule.IsProgram (.block [.ifThen (.symbol "lamp") (.block
      [.binary .assign (.symbol "lamp") (.number 0), .call "log" [.text "off"]])]) :=
    ⟨_, rfl, List.forall_mem_singleton.2 (.ifThen (.symbol hlamp) hbody)⟩
  have hread := exists_ofText_iff.2.1 _ hprogram
  exact ⟨_, rfl, hprogram, hread, exists_ofText_iff.2.2 _ _ hread Unit⟩

end ChordRules
