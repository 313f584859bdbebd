import ChordRules.Proofs.Grammar.Spelling
import Mathlib.Data.List.Chain

/-! # Operators that are words

The operators `and` and `or` come from the tokens of these names, and the joined operators from
`<`, `>` and `=` in front of `=`. Any two tokens are tried as one operator, so this holds for texts
in which no two tokens that stand together make up `and` or `or` (`word_operators`). A text where
some do is read otherwise (`word_operators_split`). -/
namespace ChordRules

/-- No two of the texts that stand together make up the given one. -/
def NoneJoinTo (s : String) (xs : List String) : Prop := xs.IsChain fun x y => x ++ y ≠ s

instance (s : String) (xs : List String) : Decidable (NoneJoinTo s xs) :=
  inferInstanceAs (Decidable (xs.IsChain _))

namespace NoneJoinTo

variable {s x y : String} {xs ys : List String}

theorem suffix (h : NoneJoinTo s xs) (hys : ys <:+ xs) : NoneJoinTo s ys :=
  List.IsChain.suffix h hys

theorem tail (h : NoneJoinTo s (x :: xs)) : NoneJoinTo s xs := List.IsChain.tail h

theorem pair (h : NoneJoinTo s (x :: y :: xs)) : x ++ y ≠ s :=
  (List.isChain_cons_cons.1 h).1

end NoneJoinTo

def Rule.isOperation (op : Operator) : Rule → Bool
  | binary other _ _ => other == op
  | _ => false

namespace Rule

def operations (op : Operator) (r : Rule) : Nat := r.subtrees.countP (·.isOperation op)

def operationsAll (op : Operator) (rs : List Rule) : Nat :=
  (subtreesAll rs).countP (·.isOperation op)

@[simp] theorem operationsAll_nil (op : Operator) : operationsAll op [] = 0 := rfl

@[simp] theorem operationsAll_cons (op : Operator) (r : Rule) (rs : List Rule) :
    operationsAll op (r :: rs) = r.operations op + operationsAll op rs := by
  rw [operationsAll, subtreesAll, List.countP_append]
  rfl

@[simp] theorem operationsAll_append (op : Operator) (rs ss : List Rule) :
    operationsAll op (rs ++ ss) = operationsAll op rs + operationsAll op ss := by
  induction rs with
  | nil => simp
  | cons r rs ih => simp [ih, Nat.add_assoc]

/-- Operations are counted at a rule and below it. -/
theorem operations_eq (op : Operator) (r : Rule) :
    r.operations op = operationsAll op r.children + if r.isOperation op then 1 else 0 := by
  rw [operations, subtrees_eq, List.countP_cons, ← subtreesAll_eq_flatMap]
  rfl

@[simp] theorem operations_block (op : Operator) (ss : List Rule) :
    (block ss).operations op = operationsAll op ss := operations_eq op (block ss)

@[simp] theorem operations_call (op : Operator) (name : String) (args : List Rule) :
    (call name args).operations op = operationsAll op args := operations_eq op (call name args)

@[simp] theorem operations_ifThen (op : Operator) (c t : Rule) :
    (ifThen c t).operations op = c.operations op + t.operations op := by
  rw [operations_eq]
  simp [children, isOperation]

@[simp] theorem operations_ifElse (op : Operator) (c t e : Rule) :
    (ifElse c t e).operations op = c.operations op + (t.operations op + e.operations op) := by
  rw [operations_eq]
  simp [children, isOperation]

@[simp] theorem operations_binary (op other : Operator) (l r : Rule) :
    (binary other l r).operations op =
      l.operations op + r.operations op + if other == op then 1 else 0 := by
  rw [operations_eq]
  simp [children, isOperation]

end Rule

def Phrase.operations (op : Operator) : (p : Phrase) → p.Tree → Nat
  | .statement | .expression | .operand | .term => Rule.operations op
  | .program | .block | .blockRest | .arguments | .argumentsRest => Rule.operationsAll op

theorem Word.operations_eq_zero {x : String} {r : Rule} (h : Word x r) (op : Operator) :
    r.operations op = 0 := by
  cases h <;> exact Rule.operations_eq op _

def Operator.IsWord (op : Operator) : Prop := op = .and ∨ op = .or

namespace Operator.IsWord

variable {op : Operator}

theorem ne_of_mem_punctuation (h : op.IsWord) {x : String} (hx : x ∈ punctuation) :
    x ≠ op.symbol := by
  rintro rfl
  rcases h with rfl | rfl <;> exact absurd hx (by decide)

/-- An operator that is a word stands for nothing else. -/
theorem ne_of_word (h : op.IsWord) {x : String} {r : Rule} (hx : Word x r) : x ≠ op.symbol := by
  rcases h with rfl | rfl <;> exact hx.ne_of_refused (by decide)

/-- The symbol is a piece of no other symbol. -/
theorem eq_of_infix (h : op.IsWord) {other : Operator}
    (hpiece : op.symbol.toList <:+: other.symbol.toList) : other = op := by
  have hpieces : ∀ op ∈ [Operator.and, .or], ∀ other ∈ Operator.all,
      op.symbol.toList <:+: other.symbol.toList → other = op := by decide
  refine hpieces op ?_ other other.mem_all hpiece
  rcases h with rfl | rfl <;> decide

end Operator.IsWord

/-- Where nothing makes it up, a word is read as an operator from the token that it is. -/
theorem LeadsWith.count_eq {op other : Operator} {xs ys : List String} (hop : op.IsWord)
    (h : LeadsWith other xs ys) (hjoin : NoneJoinTo op.symbol xs) :
    xs.count op.symbol = (if other == op then 1 else 0) + ys.count op.symbol := by
  cases h with
  | @pair x y _ h =>
    have hother : other ≠ op := by
      rintro rfl
      exact hjoin.pair h
    have hlist : x.toList ++ y.toList = other.symbol.toList := by rw [← h, String.toList_append]
    have hx : x ≠ op.symbol := by
      rintro rfl
      exact hother (hop.eq_of_infix ⟨[], y.toList, hlist⟩)
    have hy : y ≠ op.symbol := by
      rintro rfl
      exact hother (hop.eq_of_infix ⟨x.toList, [], by rw [List.append_nil, hlist]⟩)
    rw [List.count_cons_of_ne hx, List.count_cons_of_ne hy]
    simp [hother]
  | single _ h =>
    rw [h]
    by_cases hother : other = op
    · rw [hother, List.count_cons_self, beq_self_eq_true, if_pos rfl, Nat.add_comm]
    · have hsymbol : other.symbol ≠ op.symbol := fun heq =>
        hother (hop.eq_of_infix (heq ▸ List.infix_rfl))
      rw [List.count_cons_of_ne hsymbol]
      simp [hother]

/-- Where no two tokens make it up, a phrase has as many operations with a word as it takes tokens
that are the word. -/
theorem Derives.count_eq {op : Operator} (hop : op.IsWord) {p : Phrase} {xs ys : List String}
    {a : p.Tree} (h : Derives p xs a ys) (hjoin : NoneJoinTo op.symbol xs) :
    xs.count op.symbol = p.operations op a + ys.count op.symbol := by
  have hmark : ∀ {x : String}, x ∈ punctuation → ∀ ys : List String,
      (x :: ys).count op.symbol = ys.count op.symbol := fun hx ys =>
    List.count_cons_of_ne (hop.ne_of_mem_punctuation hx)
  induction h with
  | noStatement => rfl
  | statements h₁ _ ih₁ ih₂ | more h₁ _ ih₁ ih₂ =>
    have first := ih₁ hjoin
    have rest := ih₂ (hjoin.suffix h₁.suffix)
    simp only [Phrase.operations, Rule.operationsAll_append] at first rest ⊢
    omega
  | braced _ ih =>
    rw [hmark (by decide)]
    exact ih hjoin.tail
  | bare _ ih =>
    simpa [Phrase.operations] using ih hjoin
  | plain _ ih | alone _ _ ih | unparenthesized _ ih => exact ih hjoin
  | closed | noArgument | lastArgument =>
    rw [hmark (by decide)]
    exact (Nat.zero_add _).symm
  | ifThen h₁ _ _ ih₁ ih₂ =>
    have condition := ih₁ hjoin.tail.tail
    have body := ih₂ (hjoin.tail.tail.suffix h₁.suffix).tail
    rw [hmark (by decide)] at condition
    rw [hmark (by decide), hmark (by decide)]
    simp only [Phrase.operations, Rule.operations_ifThen, Rule.operations_block] at condition body ⊢
    omega
  | ifElse h₁ h₂ _ ih₁ ih₂ ih₃ =>
    have behind := (hjoin.tail.tail.suffix h₁.suffix).tail
    have condition := ih₁ hjoin.tail.tail
    have body := ih₂ behind
    have other := ih₃ (behind.suffix h₂.suffix).tail
    rw [hmark (by decide)] at condition body
    rw [hmark (by decide), hmark (by decide)]
    simp only [Phrase.operations, Rule.operations_ifElse, Rule.operations_block]
      at condition body other ⊢
    omega
  | binary h₁ hleads _ _ ih₁ ih₂ =>
    have left := ih₁ hjoin
    have operator := hleads.count_eq hop (hjoin.suffix h₁.suffix)
    have right := ih₂ (hjoin.suffix (hleads.suffix.trans h₁.suffix))
    simp only [Phrase.operations, Rule.operations_binary] at left right ⊢
    omega
  | parenthesized _ ih =>
    have inner := ih hjoin.tail
    rw [hmark (by decide)] at inner
    rw [hmark (by decide)]
    exact inner
  | word h _ =>
    rw [List.count_cons_of_ne (hop.ne_of_word h), Phrase.operations, h.operations_eq_zero,
      Nat.zero_add]
  | call h _ ih =>
    have arguments := ih hjoin.tail.tail
    rw [List.count_cons_of_ne (hop.ne_of_word (.name _ h)), hmark (by decide)]
    simp only [Phrase.operations, Rule.operations_call] at arguments ⊢
    exact arguments
  | argument h₁ _ ih₁ ih₂ =>
    have first := ih₁ hjoin
    have rest := ih₂ (hjoin.suffix h₁.suffix)
    simp only [Phrase.operations, Rule.operationsAll_cons] at first rest ⊢
    omega
  | nextArgument h₁ _ ih₁ ih₂ =>
    have first := ih₁ hjoin.tail
    have rest := ih₂ (hjoin.tail.suffix h₁.suffix)
    rw [hmark (by decide)]
    simp only [Phrase.operations, Rule.operationsAll_cons] at first rest ⊢
    omega

def joinedOperators : List (String × String) := [("<", "="), (">", "="), ("=", "=")]

/-- Two texts that make up a symbol which is no word are those of a joined operator. -/
theorem Operator.mem_joinedOperators {op : Operator} (hand : op ≠ .and) (hor : op ≠ .or)
    {x y : String} (hx : x ≠ "") (hy : y ≠ "") (h : x ++ y = op.symbol) :
    (x, y) ∈ joinedOperators := by
  have hcuts : ∀ op ∈ Operator.all, op ≠ .and → op ≠ .or → ∀ n < op.symbol.toList.length, n ≠ 0 →
      (String.ofList (op.symbol.toList.take n), String.ofList (op.symbol.toList.drop n)) ∈
        joinedOperators := by decide
  have hlist : op.symbol.toList = x.toList ++ y.toList := by rw [← h, String.toList_append]
  have hcut := hcuts op op.mem_all hand hor x.toList.length ?_ ?_
  · rwa [hlist, List.take_left, List.drop_left, String.ofList_toList, String.ofList_toList] at hcut
  · rw [hlist, List.length_append]
    have hpos : 0 < y.toList.length := by simpa [List.length_pos_iff] using hy
    omega
  · simpa using hx

/-- An operator that is found was one token, or two that together make up its symbol. -/
theorem Reader.lexemes_of_operator? {t rest : Tape} {op : Operator}
    (h : operator? t = .ok (some op) rest) :
    (∃ l, t.lexemes = l :: rest.lexemes ∧ l.text = op.symbol) ∨
      ∃ l m, t.lexemes = l :: m :: rest.lexemes ∧ l.text ++ m.text = op.symbol := by
  obtain ⟨_ | ⟨l, _ | ⟨m, ls⟩⟩, ending⟩ := t
  · cases ending <;> cases h
  · cases ending with
    | unclosed => cases h
    | endOfInput stop =>
      rw [operator?_one] at h
      split at h
      · next op' hop =>
        cases h
        exact .inl ⟨l, rfl, Operator.ofSymbol?_eq_some_iff.1 hop⟩
      · cases h
  · rw [operator?_two] at h
    split at h
    · next op' hop =>
      cases h
      exact .inr ⟨l, m, rfl, Operator.ofSymbol?_eq_some_iff.1 hop⟩
    · next op' _ hop =>
      cases h
      exact .inl ⟨l, rfl, Operator.ofSymbol?_eq_some_iff.1 hop⟩
    · cases h

/-- In a rule text where no two tokens that stand together make up `and` or `or`, there are as many
operations with these as there are tokens that are. And wherever on the tape an operator is looked
for, what is found is one token, or two of those that make up a joined operator. -/
theorem word_operators {source : String} {lexemes : List Lexeme} {r : Rule}
    (htokens : (TokenStream.ofText source).drain.1 = .ok lexemes)
    (h : Rule.ofText source = .ok r) (hand : NoneJoinTo "and" (lexemes.map (·.text)))
    (hor : NoneJoinTo "or" (lexemes.map (·.text))) :
    r.operations .and = (lexemes.map (·.text)).count "and" ∧
    r.operations .or = (lexemes.map (·.text)).count "or" ∧
    ∀ (t rest : Tape) (op : Operator), t.lexemes <:+ lexemes →
      Reader.operator? t = .ok (some op) rest →
      (∃ l, t.lexemes = l :: rest.lexemes ∧ l.text = op.symbol) ∨
        ∃ l m, t.lexemes = l :: m :: rest.lexemes ∧ l.text ++ m.text = op.symbol ∧
          (l.text, m.text) ∈ joinedOperators := by
  rw [TokenStream.drain_ofText, Tape.lexemes?_eq_ok_iff] at htokens
  obtain ⟨-, rfl⟩ := htokens
  obtain ⟨ss, hread, rfl⟩ := Rule.ofText_eq_ok_iff_read.1 h
  obtain ⟨-, hderives⟩ := Tape.read_eq_ok_iff.1 hread
  have hempty : ∀ x ∈ (Tape.ofText source).texts, x ≠ "" := by
    intro x hx
    obtain ⟨c, cs, hcs, -⟩ := (areTokens_ofText source x hx).head
    rintro rfl
    cases hcs
  refine ⟨?_, ?_, ?_⟩
  · rw [Rule.operations_block]
    exact (hderives.count_eq (.inl rfl) hand).symm
  · rw [Rule.operations_block]
    exact (hderives.count_eq (.inr rfl) hor).symm
  · intro t rest op hsuffix hfound
    rcases Reader.lexemes_of_operator? hfound with hone | ⟨l, m, hlexemes, hsymbol⟩
    · exact .inl hone
    · have htexts : l.text :: m.text :: rest.texts <:+ (Tape.ofText source).texts := by
        rw [hlexemes] at hsuffix
        exact hsuffix.map (·.text)
      have hnotAnd : op ≠ .and := by
        rintro rfl
        exact (hand.suffix htexts).pair hsymbol
      have hnotOr : op ≠ .or := by
        rintro rfl
        exact (hor.suffix htexts).pair hsymbol
      have hl : l.text ≠ "" := hempty _ (htexts.subset List.mem_cons_self)
      have hm : m.text ≠ "" :=
        hempty _ (htexts.subset (List.mem_cons_of_mem _ List.mem_cons_self))
      exact .inr ⟨l, m, hlexemes, hsymbol,
        Operator.mem_joinedOperators hnotAnd hnotOr hl hm hsymbol⟩

/-- Both words and a joined operator in one chain. -/
theorem word_operators_chain :
    ∃ lexemes r, (TokenStream.ofText "a = b and c <= 1 or d").drain.1 = .ok lexemes ∧
      Rule.ofText "a = b and c <= 1 or d" = .ok r ∧
      NoneJoinTo "and" (lexemes.map (·.text)) ∧ NoneJoinTo "or" (lexemes.map (·.text)) ∧
      r.operations .and = 1 ∧ r.operations .or = 1 := by
  let lexemes : List Lexeme :=
    [⟨"a", ⟨1, 1⟩⟩, ⟨"=", ⟨1, 3⟩⟩, ⟨"b", ⟨1, 5⟩⟩, ⟨"and", ⟨1, 7⟩⟩, ⟨"c", ⟨1, 11⟩⟩, ⟨"<", ⟨1, 13⟩⟩,
      ⟨"=", ⟨1, 14⟩⟩, ⟨"1", ⟨1, 16⟩⟩, ⟨"or", ⟨1, 18⟩⟩, ⟨"d", ⟨1, 21⟩⟩]
  let r : Rule := .block [.binary .assign (.symbol "a") (.binary .and (.symbol "b")
    (.binary (.comparison .lessEqual) (.symbol "c") (.binary .or (.number 1) (.symbol "d"))))]
  have htokens : (TokenStream.ofText "a = b and c <= 1 or d").drain.1 = .ok lexemes := by
    decide +kernel
  have htape : Tape.ofText "a = b and c <= 1 or d" = ⟨lexemes, .endOfInput ⟨1, 22⟩⟩ := by
    decide +kernel
  have hread : Rule.ofText "a = b and c <= 1 or d" = .ok r := by
    rw [Rule.ofText, htape]
    rfl
  have hand : NoneJoinTo "and" (lexemes.map (·.text)) := by decide
  have hor : NoneJoinTo "or" (lexemes.map (·.text)) := by decide
  obtain ⟨hands, hors, -⟩ := word_operators htokens hread hand hor
  exact ⟨lexemes, r, htokens, hread, hand, hor, hands, hors⟩

/-- Two names that make up `and` are read as it behind an operand. -/
theorem word_operators_split :
    ∃ lexemes r, (TokenStream.ofText "1 an d 2").drain.1 = .ok lexemes ∧
      Rule.ofText "1 an d 2" = .ok r ∧
      r.operations .and ≠ (lexemes.map (·.text)).count "and" := by
  let lexemes : List Lexeme :=
    [⟨"1", ⟨1, 1⟩⟩, ⟨"an", ⟨1, 3⟩⟩, ⟨"d", ⟨1, 6⟩⟩, ⟨"2", ⟨1, 8⟩⟩]
  have htokens : (TokenStream.ofText "1 an d 2").drain.1 = .ok lexemes := by decide +kernel
  have htape : Tape.ofText "1 an d 2" = ⟨lexemes, .endOfInput ⟨1, 9⟩⟩ := by decide +kernel
  refine ⟨lexemes, .block [.binary .and (.number 1) (.number 2)], htokens, ?_, by decide⟩
  rw [Rule.ofText, htape]
  rfl

end ChordRules
