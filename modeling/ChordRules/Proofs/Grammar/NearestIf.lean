import ChordRules.Proofs.Grammar.Braces
import ChordRules.Proofs.Grammar.Chain
import Mathlib.Data.List.Basic

/-! # Where an `else` belongs

Conditionals stand one inside the other without braces, and behind the innermost statement there
may be as many `else` as there are conditions, or fewer. Each `else` belongs to the nearest `if`
before it that has none yet. Main statement: `ofText_nestedText`. -/
namespace ChordRules

def conditional (c : String) (body : Rule) : Option Rule → Rule
  | some other => .ifElse (.symbol c) (.block [body]) (.block [other])
  | none => .ifThen (.symbol c) (.block [body])

/-- Conditionals one inside the other, with the conditions from the outermost to the innermost, and
`s` inside of all. The others go to the conditionals from the innermost on: a conditional that has
`k` of them inside it takes number `k`, counted from zero, and none if there are not so many. -/
def nestedRule (s : Rule) (others : List Rule) : List String → Rule
  | [] => s
  | c :: cs => conditional c (nestedRule s others cs) others[cs.length]?

def nestedText (cs : List String) (s : Rule) (others : List Rule) : String :=
  String.join (cs.map fun c => "if (" ++ c ++ ") ") ++ s.render ++
    String.join (others.map fun t => " else " ++ t.render)

/-- Only as many of the others count as there are conditions. -/
theorem nestedRule_append (s : Rule) {others : List Rule} (more : List Rule) {cs : List String}
    (h : cs.length ≤ others.length) :
    nestedRule s (others ++ more) cs = nestedRule s others cs := by
  induction cs with
  | nil => rfl
  | cons c cs ih =>
    rw [List.length_cons] at h
    rw [nestedRule, nestedRule, ih (by omega), List.getElem?_append_left h]

def conditionTokens (cs : List String) : List String := cs.flatMap fun c => ["if", "(", c, ")"]

def elseTokens (others : List Rule) : List String := others.flatMap fun t => "else" :: t.tokens

/-- What begins with an `else`, or is empty, lengthens no word. -/
theorem laysOut_elseTokens {others : List Rule} (h : ∀ t ∈ others, t.IsExpression) :
    (∀ c ∈ (String.join (others.map fun t => " else " ++ t.render)).toList.head?,
      isWordChar c = false) ∧
    LaysOut (String.join (others.map fun t => " else " ++ t.render)).toList
      (elseTokens others) := by
  induction others with
  | nil => exact ⟨nofun, .nil⟩
  | cons t others ih =>
    obtain ⟨ht, hothers⟩ := List.forall_mem_cons.1 h
    obtain ⟨hhead, hrest⟩ := ih hothers
    have hother := ht.writtenAs.laysOut hhead hrest
    have helse : LaysOut ("else".toList ++ ' ' :: _) ("else" :: _) :=
      .spaced (isToken_of_mem_punctuation (by decide)) hother
    have hblank : LaysOut (' ' :: _) _ := .blank (by decide) helse
    constructor
    · simpa using (by decide : isWordChar ' ' = false)
    · simpa [elseTokens] using hblank

theorem CutInto.conditions {cs : List String} (h : ∀ c ∈ cs, IsName c) {rest : List Char}
    {xs : List String} (hrest : CutInto rest xs) :
    CutInto ((String.join (cs.map fun c => "if (" ++ c ++ ") ")).toList ++ rest)
      (conditionTokens cs ++ xs) := by
  induction cs with
  | nil => exact hrest
  | cons c cs ih =>
    obtain ⟨hc, hcs⟩ := List.forall_mem_cons.1 h
    have hcondition := CutInto.blank hc.laysOut_condition (ih hcs)
    simpa [conditionTokens] using hcondition

theorem cutInto_nestedText {cs : List String} {s : Rule} {others : List Rule}
    (hcs : ∀ c ∈ cs, IsName c) (hs : s.IsExpression) (hothers : ∀ t ∈ others, t.IsExpression) :
    CutInto (nestedText cs s others).toList
      (conditionTokens cs ++ (s.tokens ++ elseTokens others)) := by
  obtain ⟨hhead, helse⟩ := laysOut_elseTokens hothers
  have hstatement := (hs.writtenAs.laysOut hhead helse).cutInto
  simpa [nestedText] using hstatement.conditions hcs

/-- An expression is a block of its own where an `else` follows, or nothing. -/
theorem Rule.IsExpression.derives_bare {r : Rule} (h : r.IsExpression) {ys : List String}
    (hys : ∀ y ∈ ys.head?, y = "else") : Derives .block (r.tokens ++ ys) [r] ys := by
  have hcall : ys.head? ≠ some "(" := fun hy => absurd (hys _ hy) (by decide)
  refine .bare (.plain (.alone (h.readsBack ys hcall) fun op zs => ?_))
  cases ys with
  | nil => nofun
  | cons y ys =>
    obtain rfl := hys y rfl
    exact not_leadsWith_of_mem_punctuation (by decide) op ys zs

/-- A name in parentheses in front of the two branches of an `if`. -/
theorem IsName.derives_ifElse {c : String} (hc : IsName c) {xs ys zs : List String}
    {ss ts : List Rule} (body : Derives .block xs ss ("else" :: ys))
    (other : Derives .block ys ts zs) :
    Derives .block ("if" :: "(" :: c :: ")" :: xs)
      [.ifElse (.symbol c) (.block ss) (.block ts)] zs :=
  .bare (.ifElse (hc.derives_condition xs) body other)

/-- The conditionals take as many `else` as there are, and a further one only if each of them has
one already. -/
theorem derives_nestedRule {cs : List String} {s : Rule} {others : List Rule} {ys : List String}
    (hcs : ∀ c ∈ cs, IsName c) (hs : s.IsExpression) (hothers : ∀ t ∈ others, t.IsExpression)
    (hlength : others.length ≤ cs.length) (hys : ∀ y ∈ ys.head?, y = "else")
    (hmore : others.length < cs.length → ys = []) :
    Derives .block (conditionTokens cs ++ (s.tokens ++ (elseTokens others ++ ys)))
      [nestedRule s others cs] ys := by
  induction cs generalizing others ys with
  | nil =>
    obtain rfl := List.eq_nil_of_length_eq_zero (Nat.le_zero.1 hlength)
    exact hs.derives_bare hys
  | cons c cs ih =>
    obtain ⟨hc, hcs⟩ := List.forall_mem_cons.1 hcs
    rw [List.length_cons] at hlength hmore
    rcases Nat.lt_or_eq_of_le hlength with hlt | heq
    · obtain rfl := hmore hlt
      have hbody := ih hcs hothers (by omega) hys fun _ => rfl
      have hnone : others[cs.length]? = none := List.getElem?_eq_none (by omega)
      rw [nestedRule, hnone]
      exact hc.derives_ifThen hbody nofun
    · rcases List.eq_nil_or_concat' others with rfl | ⟨inner, t, rfl⟩
      · cases heq
      · obtain ⟨hinner, ht⟩ := List.forall_mem_append.1 hothers
        have hinnerLength : inner.length = cs.length := by simpa using heq
        have hother := (List.forall_mem_singleton.1 ht).derives_bare hys
        have hbody : Derives .block _ [nestedRule s inner cs] ("else" :: (t.tokens ++ ys)) :=
          ih hcs hinner (Nat.le_of_eq hinnerLength) (by simp) (by omega)
        have hsome : (inner ++ [t])[cs.length]? = some t := by simp [← hinnerLength]
        have hif := hc.derives_ifElse hbody hother
        rw [nestedRule, hsome, nestedRule_append s [t] (Nat.le_of_eq hinnerLength.symm),
          conditional]
        simpa [conditionTokens, elseTokens] using hif

/-- An `else` belongs to the nearest `if` that is still open, however many of both there are. Behind
`n` conditions and a statement, `m ≤ n` times `else` are the alternatives of the `m` innermost
conditionals, from the inside to the outside, and the other conditionals have none. -/
theorem ofText_nestedText {cs : List String} {s : Rule} {others : List Rule}
    (hcs : ∀ c ∈ cs, IsName c) (hs : s.IsExpression) (hothers : ∀ t ∈ others, t.IsExpression)
    (hlength : others.length ≤ cs.length) :
    Rule.ofText (nestedText cs s others) = .ok (.block [nestedRule s others cs]) := by
  have hend : ∀ y ∈ ([] : List String).head?, y = "else" := nofun
  have hderives := derives_nestedRule hcs hs hothers hlength hend fun _ => rfl
  rw [List.append_nil] at hderives
  exact ofText_eq_block_iff.2 ⟨_, cutInto_nestedText hcs hs hothers, hderives.program_of_block⟩

/-- Three conditions and two `else`: the outermost conditional has none. -/
theorem ofText_nestedText_three :
    Rule.ofText "if (a) if (b) if (c) f(a) else 1 else (x = 2)" =
      .ok (.block [.ifThen (.symbol "a") (.block
        [.ifElse (.symbol "b")
          (.block [.ifElse (.symbol "c") (.block [.call "f" [.symbol "a"]])
            (.block [.number 1])])
          (.block [.binary .assign (.symbol "x") (.number 2)])])]) := by
  have hname : ∀ c ∈ ["a", "b", "c"], IsName c :=
    List.forall_mem_cons.2 ⟨nameFault?_eq_none_iff.1 (by decide), List.forall_mem_cons.2
      ⟨nameFault?_eq_none_iff.1 (by decide),
        List.forall_mem_singleton.2 (nameFault?_eq_none_iff.1 (by decide))⟩⟩
  have hcall : Rule.IsExpression (.call "f" [.symbol "a"]) :=
    .call (nameFault?_eq_none_iff.1 (by decide))
      (List.forall_mem_singleton.2 (.symbol (hname "a" List.mem_cons_self)))
  have hassign : Rule.IsExpression (.binary .assign (.symbol "x") (.number 2)) :=
    .binary (fun _ => rfl) (.symbol (nameFault?_eq_none_iff.1 (by decide))) (.number (by decide))
  have hothers : ∀ t ∈ [Rule.number 1, .binary .assign (.symbol "x") (.number 2)],
      t.IsExpression :=
    List.forall_mem_cons.2 ⟨.number (by decide), List.forall_mem_singleton.2 hassign⟩
  have htext : nestedText ["a", "b", "c"] (.call "f" [.symbol "a"])
      [.number 1, .binary .assign (.symbol "x") (.number 2)] =
        "if (a) if (b) if (c) f(a) else 1 else (x = 2)" := by decide +kernel
  rw [← htext]
  exact ofText_nestedText hname hcall hothers (by decide)

end ChordRules
