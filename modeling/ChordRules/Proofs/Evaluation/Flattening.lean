import ChordRules.Proofs.Evaluation.Reach

/-! # Blocks in blocks

The statements of a block may as well stand in the block around it, since evaluation goes on from
one to the next in either case. Only the value can tell the difference: an empty block has the value
nothing, and where it ends another block, that value is the last one (`eval_block_append`). A rule
in which this does not happen is evaluated as the flat rule that it becomes if all blocks in blocks
are spliced (`flatten_keeps_meaning`). -/
namespace ChordRules.Rule

variable {σ : Type} {fs : Registry σ}

/-- Only where there is no statement does the value given count. -/
theorem evalBlock_of_ne_nil {ss : List Rule} (h : ss ≠ []) (u v : Value) (w : World σ) :
    evalBlock fs u ss w = evalBlock fs v ss w := by
  cases ss with
  | nil => exact absurd rfl h
  | cons s ss => rw [evalBlock, evalBlock]

/-- Statements in a block of their own leave the same value, unless nothing is evaluated at all. -/
theorem evalBlock_splice {ys zs : List Rule} (h : ¬ (ys = [] ∧ zs = [])) (last : Value)
    (w : World σ) :
    evalBlock fs last (block ys :: zs) w = evalBlock fs last (ys ++ zs) w := by
  rw [evalBlock, eval, evalBlock_append]
  by_cases hys : ys = []
  · subst hys
    rw [evalBlock, evalBlock, Outcome.andThen_ok, Outcome.andThen_ok]
    exact evalBlock_of_ne_nil (fun hzs => h ⟨rfl, hzs⟩) _ _ w
  · rw [evalBlock_of_ne_nil hys .nothing last]

/-- A block inside a block may be written out in place, unless nothing is left then. -/
theorem eval_block_append {ys zs : List Rule} (h : ¬ (ys = [] ∧ zs = [])) (xs : List Rule)
    (w : World σ) :
    eval fs (block (xs ++ [block ys] ++ zs)) w = eval fs (block (xs ++ ys ++ zs)) w := by
  rw [eval, eval, List.append_assoc, List.append_assoc, evalBlock_append, evalBlock_append]
  refine Outcome.andThen_congr fun v u _ => ?_
  exact evalBlock_splice h v u

/-- An empty block at the end turns the value into nothing. -/
theorem eval_block_concat_empty (xs : List Rule) (w : World σ) :
    eval fs (block (xs ++ [block []])) w =
      (eval fs (block xs) w).andThen fun _ w => (.ok .nothing, w) := by
  rw [eval, eval, evalBlock_append]
  rfl

example : (block [number 1, block []]).eval (Registry.empty : Registry Unit) (.ofHost ()) =
    (.ok .nothing, .ofHost ()) := rfl

/-- The statements for which a rule stands in a block: its own, if it is a block itself. -/
def statements : Rule → List Rule
  | block ss => ss
  | r => [r]

mutual

/-- The rule without blocks right inside of blocks. -/
def flatten : Rule → Rule
  | block ss => block ((flattenAll ss).flatMap statements)
  | ifThen c t => ifThen c.flatten t.flatten
  | ifElse c t e => ifElse c.flatten t.flatten e.flatten
  | binary op l r => binary op l.flatten r.flatten
  | call name args => call name (flattenAll args)
  | text s => text s
  | number n => number n
  | symbol name => symbol name

def flattenAll : List Rule → List Rule
  | [] => []
  | r :: rs => r.flatten :: flattenAll rs

end

theorem flattenAll_eq_map (rs : List Rule) : flattenAll rs = rs.map flatten := by
  induction rs with
  | nil => rw [flattenAll, List.map_nil]
  | cons r rs ih => rw [flattenAll, List.map_cons, ih]

def IsFlat (r : Rule) : Prop := ∀ ss, block ss ∈ r.subtrees → ∀ ts, block ts ∉ ss

def NoEmptyEnds (r : Rule) : Prop := ∀ ss, block ss ∈ r.subtrees → ss.getLast? ≠ some (block [])

def AssignsToSymbols (r : Rule) : Prop :=
  ∀ l e, binary .assign l e ∈ r.subtrees → l.isSymbol = true

theorem IsFlat.child {r c : Rule} (h : r.IsFlat) (hc : c ∈ r.children) : c.IsFlat :=
  fun ss hss => h ss (mem_subtrees_of_child hc hss)

theorem NoEmptyEnds.child {r c : Rule} (h : r.NoEmptyEnds) (hc : c ∈ r.children) :
    c.NoEmptyEnds := fun ss hss => h ss (mem_subtrees_of_child hc hss)

theorem AssignsToSymbols.child {r c : Rule} (h : r.AssignsToSymbols) (hc : c ∈ r.children) :
    c.AssignsToSymbols := fun l e hle => h l e (mem_subtrees_of_child hc hle)

theorem isFlat_of_children {r : Rule} (hblock : ∀ ss, r = block ss → ∀ ts, block ts ∉ ss)
    (h : ∀ c ∈ r.children, c.IsFlat) : r.IsFlat := by
  intro ss hss
  rcases mem_subtrees_iff.1 hss with heq | ⟨c, hc, hss⟩
  · exact hblock ss heq.symm
  · exact h c hc ss hss

theorem IsFlat.of_mem_statements {r s : Rule} (h : r.IsFlat) (hs : s ∈ r.statements) :
    s.IsFlat ∧ ∀ ts, s ≠ block ts := by
  cases r with
  | block ss =>
    refine ⟨h.child hs, ?_⟩
    rintro ts rfl
    exact h ss (self_mem_subtrees _) ts hs
  | ifThen | ifElse | binary | call | text | number | symbol =>
    obtain rfl := List.mem_singleton.1 hs
    exact ⟨h, by simp⟩

/-- Flattening leaves no block right inside of a block. -/
theorem isFlat_flatten (r : Rule) : r.flatten.IsFlat := by
  induction r using Rule.induction with
  | block ss ih =>
    have hstatement : ∀ s ∈ (flattenAll ss).flatMap statements,
        s.IsFlat ∧ ∀ ts, s ≠ block ts := by
      intro s hs
      rw [flattenAll_eq_map, List.flatMap_map] at hs
      obtain ⟨t, ht, hs⟩ := List.mem_flatMap.1 hs
      exact (ih t ht).of_mem_statements hs
    rw [flatten]
    refine isFlat_of_children ?_ fun s hs => (hstatement s hs).1
    rintro _ ⟨⟩ ts hts
    exact (hstatement _ hts).2 ts rfl
  | ifThen c t ihc iht =>
    rw [flatten]
    exact isFlat_of_children (by simp) (by simp [children, ihc, iht])
  | ifElse c t e ihc iht ihe =>
    rw [flatten]
    exact isFlat_of_children (by simp) (by simp [children, ihc, iht, ihe])
  | binary op l r ihl ihr =>
    rw [flatten]
    exact isFlat_of_children (by simp) (by simp [children, ihl, ihr])
  | call name args ih =>
    rw [flatten, flattenAll_eq_map]
    exact isFlat_of_children (by simp) (by simpa [children] using ih)
  | text | number | symbol =>
    rw [flatten]
    exact isFlat_of_children (by simp) (by simp [children])

/-- Only an empty block stands for no statement. -/
theorem statements_eq_nil_iff {r : Rule} : r.statements = [] ↔ r = block [] := by
  cases r <;> simp [statements]

/-- Statements of which the last is not empty leave some when they are flattened. -/
theorem flatMap_flattenAll_ne_nil {ss : List Rule} (hne : ss ≠ [])
    (hempty : ∀ s ∈ ss, s.flatten = block [] → s = block [])
    (hlast : ss.getLast? ≠ some (block [])) : (flattenAll ss).flatMap statements ≠ [] := by
  intro hnil
  rw [flattenAll_eq_map, List.flatMap_map, List.flatMap_eq_nil_iff] at hnil
  have hmem := List.getLast_mem hne
  have hflat := statements_eq_nil_iff.1 (hnil _ hmem)
  exact hlast (by rw [List.getLast?_eq_some_getLast hne, hempty _ hmem hflat])

/-- Only an empty block becomes an empty block. -/
theorem NoEmptyEnds.eq_of_flatten_eq {r : Rule} (h : r.NoEmptyEnds)
    (hr : r.flatten = block []) : r = block [] := by
  induction r using Rule.induction with
  | block ss ih =>
    rw [flatten, block.injEq] at hr
    cases ss with
    | nil => rfl
    | cons s ss =>
      have hne := flatMap_flattenAll_ne_nil (List.cons_ne_nil s ss)
        (fun t ht => ih t ht (h.child ht)) (h _ (self_mem_subtrees _))
      exact absurd hr hne
  | ifThen | ifElse | binary | call | text | number | symbol =>
    rw [flatten] at hr
    cases hr

/-- A rule in a block may be replaced by its statements. -/
theorem evalBlock_statements {s : Rule} {rest : List Rule} (h : ¬ (s = block [] ∧ rest = []))
    (last : Value) (w : World σ) :
    evalBlock fs last (s.statements ++ rest) w = evalBlock fs last (s :: rest) w := by
  cases s with
  | block ss =>
    refine (evalBlock_splice ?_ last w).symm
    rintro ⟨rfl, hrest⟩
    exact h ⟨rfl, hrest⟩
  | ifThen | ifElse | binary | call | text | number | symbol => rfl

/-- A block means what it means with its own blocks flattened. An empty block among them is not the
last rule, so its value is not the value of the whole. -/
theorem evalBlock_flattenAll {ss : List Rule}
    (heval : ∀ s ∈ ss, eval fs s.flatten = eval fs s)
    (hempty : ∀ s ∈ ss, s.flatten = block [] → s = block [])
    (hlast : ss.getLast? ≠ some (block [])) (last : Value) (w : World σ) :
    evalBlock fs last ((flattenAll ss).flatMap statements) w = evalBlock fs last ss w := by
  induction ss generalizing last w with
  | nil => rfl
  | cons s ss ih =>
    obtain ⟨hs, hss⟩ := List.forall_mem_cons.1 heval
    obtain ⟨hsempty, hssempty⟩ := List.forall_mem_cons.1 hempty
    have hsslast : ss.getLast? ≠ some (block []) := by
      intro h
      exact hlast (by rw [List.getLast?_cons, h, Option.getD_some])
    have hnot : ¬ (s.flatten = block [] ∧ (flattenAll ss).flatMap statements = []) := by
      rintro ⟨hflat, hrest⟩
      obtain rfl := hsempty hflat
      have hne : ss ≠ [] := by
        rintro rfl
        exact hlast rfl
      exact flatMap_flattenAll_ne_nil hne hssempty hsslast hrest
    rw [flattenAll, List.flatMap_cons, evalBlock_statements hnot, evalBlock, evalBlock, hs]
    exact Outcome.andThen_congr fun v u _ => ih hss hssempty hsslast v u

theorem evalAll_flattenAll {rs : List Rule} (h : ∀ r ∈ rs, eval fs r.flatten = eval fs r) :
    evalAll fs (flattenAll rs) = evalAll fs rs := by
  induction rs with
  | nil => rw [flattenAll]
  | cons r rs ih =>
    obtain ⟨hr, hrs⟩ := List.forall_mem_cons.1 h
    funext w
    rw [flattenAll, evalAll, evalAll, hr, ih hrs]

/-- Operands that mean the same may take each other's place. -/
theorem eval_binary_congr {op : Operator} {l l' r r' : Rule} (hop : op ≠ .assign)
    (hl : eval fs l' = eval fs l) (hr : eval fs r' = eval fs r) :
    eval fs (binary op l' r') = eval fs (binary op l r) := by
  funext w
  cases op with
  | assign => exact absurd rfl hop
  | and | or | equal | comparison | arithmetic => rw [eval, eval, hl, hr]

/-- A rule means what it means flattened. -/
theorem eval_flatten_eq {r : Rule} (hends : r.NoEmptyEnds) (htargets : r.AssignsToSymbols) :
    eval fs r.flatten = eval fs r := by
  induction r using Rule.induction with
  | block ss ih =>
    funext w
    have heval : ∀ s ∈ ss, eval fs s.flatten = eval fs s :=
      fun s hs => ih s hs (hends.child hs) (htargets.child hs)
    have hempty : ∀ s ∈ ss, s.flatten = block [] → s = block [] :=
      fun s hs => (hends.child hs).eq_of_flatten_eq
    rw [flatten, eval, eval]
    exact evalBlock_flattenAll heval hempty (hends ss (self_mem_subtrees _)) .nothing w
  | ifThen c t ihc iht =>
    funext w
    have hc := ihc (hends.child (by simp [children])) (htargets.child (by simp [children]))
    have ht := iht (hends.child (by simp [children])) (htargets.child (by simp [children]))
    rw [flatten, eval, eval, hc, ht]
  | ifElse c t e ihc iht ihe =>
    funext w
    have hc := ihc (hends.child (by simp [children])) (htargets.child (by simp [children]))
    have ht := iht (hends.child (by simp [children])) (htargets.child (by simp [children]))
    have he := ihe (hends.child (by simp [children])) (htargets.child (by simp [children]))
    rw [flatten, eval, eval, hc, ht, he]
  | binary op l r ihl ihr =>
    have hl := ihl (hends.child (by simp [children])) (htargets.child (by simp [children]))
    have hr := ihr (hends.child (by simp [children])) (htargets.child (by simp [children]))
    rw [flatten]
    by_cases hop : op = .assign
    · subst hop
      obtain ⟨x, rfl⟩ := isSymbol_eq_true_iff.1 (htargets l r (self_mem_subtrees _))
      funext w
      rw [flatten, eval, eval, hr]
    · exact eval_binary_congr hop hl hr
  | call name args ih =>
    funext w
    have hargs : ∀ a ∈ args, eval fs a.flatten = eval fs a :=
      fun a ha => ih a ha (hends.child ha) (htargets.child ha)
    rw [flatten, eval, eval, evalAll_flattenAll hargs]
  | text | number | symbol => rw [flatten]

/-- Blocks in blocks mean what their statements mean without braces. A block among the statements
of another leaves the same world as its statements, and it fails as they do; its value is the same
as well, unless there is no statement in it and none behind it, in which case the value is nothing.
So a rule in which no block ends in an empty one, and in which assignments are to symbols, is
evaluated in the same way when all blocks in blocks are spliced. -/
theorem flatten_keeps_meaning (fs : Registry σ) :
    (∀ (xs ys zs : List Rule) (w : World σ),
      let nested := (block (xs ++ [block ys] ++ zs)).eval fs w
      let spliced := (block (xs ++ ys ++ zs)).eval fs w
      nested.2 = spliced.2 ∧ (nested.1.map fun _ => ()) = (spliced.1.map fun _ => ()) ∧
      (¬ (ys = [] ∧ zs = []) → nested.1 = spliced.1) ∧
      (ys = [] ∧ zs = [] → nested.1 = spliced.1.map fun _ => .nothing)) ∧
    (∀ r : Rule, r.flatten.IsFlat ∧
      (r.NoEmptyEnds → r.AssignsToSymbols → ∀ w, r.flatten.eval fs w = r.eval fs w)) := by
  refine ⟨?_, fun r => ⟨isFlat_flatten r, fun hends htargets w => ?_⟩⟩
  · intro xs ys zs w nested spliced
    by_cases h : ys = [] ∧ zs = []
    · obtain ⟨rfl, rfl⟩ := h
      have hnested : nested = spliced.andThen fun _ w => (.ok .nothing, w) := by
        simpa [nested, spliced] using eval_block_concat_empty xs w
      rw [hnested]
      generalize spliced = outcome
      obtain ⟨_ | v, u⟩ := outcome
      · exact ⟨rfl, rfl, fun _ => rfl, fun _ => rfl⟩
      · exact ⟨rfl, rfl, fun h => absurd ⟨rfl, rfl⟩ h, fun _ => rfl⟩
    · have heq : nested = spliced := eval_block_append h xs w
      rw [heq]
      exact ⟨rfl, rfl, fun _ => rfl, fun h' => absurd h' h⟩
  · rw [eval_flatten_eq hends htargets]

/-- Blocks on two levels, one of them empty, inside of a conditional: the assignment and the call
come in the same order. -/
theorem flatten_keeps_meaning_conditional :
    ∃ r : Rule, r = .ifThen (.symbol "lamp") (.block
        [.block [.block [.binary .assign (.symbol "lamp") (.number 0)]], .block [],
          .block [.call "say" [.text "off"]]]) ∧
      r.flatten = .ifThen (.symbol "lamp") (.block
        [.binary .assign (.symbol "lamp") (.number 0), .call "say" [.text "off"]]) ∧
      r.NoEmptyEnds ∧ r.AssignsToSymbols ∧
      ∀ (fs : Registry Nat) (w : World Nat), r.flatten.eval fs w = r.eval fs w := by
  let r : Rule := .ifThen (.symbol "lamp") (.block
    [.block [.block [.binary .assign (.symbol "lamp") (.number 0)]], .block [],
      .block [.call "say" [.text "off"]]])
  have hends : r.NoEmptyEnds := by
    intro ss hss
    simp only [r, subtrees, subtreesAll, List.mem_cons, List.mem_append, List.not_mem_nil,
      block.injEq, reduceCtorEq, or_false, false_or] at hss
    rcases hss with rfl | (rfl | rfl) | rfl | rfl <;> simp
  have htargets : r.AssignsToSymbols := by
    intro l e hle
    simp only [r, subtrees, subtreesAll, List.mem_cons, List.mem_append, List.not_mem_nil,
      binary.injEq, reduceCtorEq, or_false, false_or] at hle
    obtain ⟨-, rfl, -⟩ := hle
    rfl
  have hflat : r.flatten = .ifThen (.symbol "lamp") (.block
      [.binary .assign (.symbol "lamp") (.number 0), .call "say" [.text "off"]]) := rfl
  exact ⟨r, rfl, hflat, hends, htargets,
    fun fs => ((flatten_keeps_meaning fs).2 r).2 hends htargets⟩

end ChordRules.Rule
