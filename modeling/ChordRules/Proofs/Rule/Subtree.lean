import ChordRules.Rule

/-! # The subtrees of a rule

All rules inside a rule and the rule itself, wherever they stand. An induction over rules follows
`children`, the rules right below a rule. -/
namespace ChordRules.Rule

/-- Induction over rules in which every rule of a list has the property already. -/
@[elab_as_elim]
theorem induction {motive : Rule → Prop}
    (block : ∀ ss, (∀ s ∈ ss, motive s) → motive (.block ss))
    (ifThen : ∀ c t, motive c → motive t → motive (.ifThen c t))
    (ifElse : ∀ c t e, motive c → motive t → motive e → motive (.ifElse c t e))
    (binary : ∀ op l r, motive l → motive r → motive (.binary op l r))
    (call : ∀ name args, (∀ a ∈ args, motive a) → motive (.call name args))
    (text : ∀ s, motive (.text s)) (number : ∀ n, motive (.number n))
    (symbol : ∀ name, motive (.symbol name)) (r : Rule) : motive r := by
  refine Rule.rec (motive_1 := motive) (motive_2 := fun rs => ∀ r ∈ rs, motive r) block ifThen
    ifElse binary call text number symbol ?_ ?_ r
  · intro r hr
    cases hr
  · intro r rs hr hrs s hs
    rcases List.mem_cons.1 hs with rfl | hs
    · exact hr
    · exact hrs s hs

def children : Rule → List Rule
  | block ss => ss
  | ifThen c t => [c, t]
  | ifElse c t e => [c, t, e]
  | binary _ l r => [l, r]
  | call _ args => args
  | text _ | number _ | symbol _ => []

/-- Induction over rules in which everything right below a rule has the property already. -/
@[elab_as_elim]
theorem children_induction {motive : Rule → Prop}
    (step : ∀ r : Rule, (∀ c ∈ r.children, motive c) → motive r) (r : Rule) : motive r := by
  induction r using Rule.induction with
  | block ss ih => exact step _ ih
  | ifThen c t ihc iht => exact step _ (by simp [children, *])
  | ifElse c t e ihc iht ihe => exact step _ (by simp [children, *])
  | binary op l r ihl ihr => exact step _ (by simp [children, *])
  | call name args ih => exact step _ ih
  | text | number | symbol => exact step _ nofun

mutual

/-- The rule and all rules inside it, what is assigned to included. -/
def subtrees : Rule → List Rule
  | block ss => block ss :: subtreesAll ss
  | ifThen c t => ifThen c t :: (c.subtrees ++ t.subtrees)
  | ifElse c t e => ifElse c t e :: (c.subtrees ++ (t.subtrees ++ e.subtrees))
  | binary op l r => binary op l r :: (l.subtrees ++ r.subtrees)
  | call name args => call name args :: subtreesAll args
  | text s => [text s]
  | number n => [number n]
  | symbol name => [symbol name]

def subtreesAll : List Rule → List Rule
  | [] => []
  | r :: rs => r.subtrees ++ subtreesAll rs

end

theorem subtreesAll_eq_flatMap (rs : List Rule) : subtreesAll rs = rs.flatMap subtrees := by
  induction rs with
  | nil => rw [subtreesAll, List.flatMap_nil]
  | cons r rs ih => rw [subtreesAll, List.flatMap_cons, ih]

theorem subtrees_eq (r : Rule) : r.subtrees = r :: r.children.flatMap subtrees := by
  cases r <;> simp [subtrees, children, subtreesAll_eq_flatMap]

@[simp] theorem self_mem_subtrees (r : Rule) : r ∈ r.subtrees := by
  rw [subtrees_eq]
  exact List.mem_cons_self

/-- What is inside a rule is that rule or inside one below it. -/
theorem mem_subtrees_iff {p r : Rule} :
    p ∈ r.subtrees ↔ p = r ∨ ∃ c ∈ r.children, p ∈ c.subtrees := by
  rw [subtrees_eq, List.mem_cons, List.mem_flatMap]

theorem mem_subtrees_of_child {p c r : Rule} (hc : c ∈ r.children) (hp : p ∈ c.subtrees) :
    p ∈ r.subtrees := mem_subtrees_iff.2 (.inr ⟨c, hc, hp⟩)

/-- Subtrees of subtrees are subtrees. -/
theorem mem_subtrees_trans {p q r : Rule} (hp : p ∈ q.subtrees) (hq : q ∈ r.subtrees) :
    p ∈ r.subtrees := by
  induction r using children_induction with
  | step r ih =>
    rcases mem_subtrees_iff.1 hq with rfl | ⟨c, hc, hq⟩
    · exact hp
    · exact mem_subtrees_of_child hc (ih c hc hq)

end ChordRules.Rule
