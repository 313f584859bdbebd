import ChordRules.Program
import ChordRules.Proofs.Grammar.WellFormed
import ChordRules.Proofs.Rule.Subtree
import ChordRules.Proofs.Text.Quoted
import ChordRules.Proofs.Text.SignedNumeral
import Mathlib.Data.List.Basic

/-! # Outlines read back

An outline has a line for each node of a tree. A line tells how deep its node stands, what it is and
how many nodes below it belong to it; what a conditional does otherwise stands below a line of its
own. So an outline can be cut into lines, and the lines be put together to only one tree, as long as
no name breaks a line (`outline_unambiguous`). -/
namespace ChordRules

inductive Caption where
  | block (count : Nat)
  | conditional
  | otherwise
  | operation (op : Operator)
  | call (name : String) (count : Nat)
  | text (s : String)
  | number (n : Int64)
  | symbol (name : String)

namespace Caption

def written : Caption → List Char
  | block n => "block (".toList ++ (digits n ++ [')'])
  | conditional => "if".toList
  | otherwise => "else".toList
  | operation op => op.symbol.toList
  | call name n => "call ".toList ++ (name.toList ++ (" (".toList ++ (digits n ++ [')'])))
  | text s => "string ".toList ++ (quote s).toList
  | number n => "number ".toList ++ (showInt n.toInt).toList
  | symbol name => "symbol ".toList ++ name.toList

/-- The first two characters, which tell one kind of caption from the others. -/
def lead : Caption → List Char
  | block _ => ['b', 'l']
  | conditional => ['i', 'f']
  | otherwise => ['e', 'l']
  | operation op => op.symbol.toList.take 2
  | call .. => ['c', 'a']
  | text _ => ['s', 't']
  | number _ => ['n', 'u']
  | symbol _ => ['s', 'y']

theorem take_written (c : Caption) : c.written.take 2 = c.lead := by
  cases c <;> rfl

inductive Alike : Caption → Caption → Prop
  | block (m n : Nat) : Alike (block m) (block n)
  | conditional : Alike conditional conditional
  | otherwise : Alike otherwise otherwise
  | operation (op op' : Operator) : Alike (operation op) (operation op')
  | call (name name' : String) (m n : Nat) : Alike (call name m) (call name' n)
  | text (s t : String) : Alike (text s) (text t)
  | number (m n : Int64) : Alike (number m) (number n)
  | symbol (name name' : String) : Alike (symbol name) (symbol name')

/-- No operator begins like a caption of another kind. -/
theorem lead_operation_ne (op : Operator) {cs : List Char}
    (h : cs ∈ [['b', 'l'], ['i', 'f'], ['e', 'l'], ['c', 'a'], ['s', 't'], ['n', 'u'], ['s', 'y']]) :
    (operation op).lead ≠ cs := by
  have hall : ∀ op ∈ Operator.all, ∀ cs ∈ [['b', 'l'], ['i', 'f'], ['e', 'l'], ['c', 'a'],
      ['s', 't'], ['n', 'u'], ['s', 'y']], op.symbol.toList.take 2 ≠ cs := by decide
  exact hall op op.mem_all cs h

/-- The first two characters tell the kind of a caption. -/
theorem alike_of_lead_eq {c c' : Caption} (h : c.lead = c'.lead) : Alike c c' := by
  cases c with
  | operation op =>
    cases c' with
    | operation op' => exact .operation op op'
    | _ => exact absurd h (lead_operation_ne op (by simp [lead]))
  | _ =>
    cases c' with
    | operation op => exact absurd h.symm (lead_operation_ne op (by simp [lead]))
    | _ => first | constructor | simp [lead] at h

theorem digits_injective : Function.Injective digits := by
  intro m n h
  rw [← readDigits_digits m, h, readDigits_digits]

/-- No two numbers have one numeral. -/
theorem showInt_injective : Function.Injective showInt := by
  intro i j h
  have hi := readSigned?_eq_some_iff.2 (isNumeral_showInt i)
  rw [h, readSigned?_eq_some_iff.2 (isNumeral_showInt j)] at hi
  exact (Option.some.inj hi).symm

theorem not_mem_digits {c : Char} (hc : isDigit c = false) (n : Nat) : c ∉ digits n := by
  intro hmem
  rw [(isDigits_digits n).all_digits c hmem] at hc
  cases hc

/-- A name with a count behind it, in parentheses, whatever the name holds. -/
theorem name_count_cancel {cs ds : List Char} {m n : Nat}
    (h : cs ++ (" (".toList ++ (digits m ++ [')'])) = ds ++ (" (".toList ++ (digits n ++ [')']))) :
    cs = ds ∧ m = n := by
  have hreverse : (digits m).reverse ++ '(' :: ' ' :: cs.reverse =
      (digits n).reverse ++ '(' :: ' ' :: ds.reverse := by
    have h' := congrArg List.reverse h
    simpa using h'
  have hno : ∀ k, '(' ∉ (digits k).reverse := fun k hk =>
    not_mem_digits (by decide) k (List.mem_reverse.1 hk)
  obtain ⟨hdigits, hnames⟩ := append_cons_cancel (hno m) (hno n) hreverse
  exact ⟨List.reverse_inj.1 (List.cons.inj hnames).2,
    digits_injective (List.reverse_inj.1 hdigits)⟩

/-- Different captions are written differently. -/
theorem written_injective : Function.Injective written := by
  intro c c' h
  have hlead : c.lead = c'.lead := by rw [← take_written, ← take_written, h]
  cases alike_of_lead_eq hlead with
  | block m n =>
    have hdigits := List.append_cancel_right (List.append_cancel_left h)
    rw [digits_injective hdigits]
  | conditional => rfl
  | otherwise => rfl
  | operation op op' =>
    have hsymbol := Operator.ofSymbol?_symbol op
    rw [String.toList_inj.1 h, Operator.ofSymbol?_symbol op'] at hsymbol
    rw [Option.some.inj hsymbol]
  | call name name' m n =>
    obtain ⟨hname, rfl⟩ := name_count_cancel (List.append_cancel_left h)
    rw [String.toList_inj.1 hname]
  | text s t => rw [quote_injective (String.toList_inj.1 (List.append_cancel_left h))]
  | number m n =>
    have hint := showInt_injective (String.toList_inj.1 (List.append_cancel_left h))
    rw [Int64.toInt_inj.1 hint]
  | symbol name name' => rw [String.toList_inj.1 (List.append_cancel_left h)]

/-- No caption begins with a blank. -/
theorem head?_written_ne (c : Caption) : c.written.head? ≠ some ' ' := by
  have hlead : c.written.head? = c.lead.head? := by
    rw [← take_written, List.head?_take, if_neg (by decide)]
  rw [hlead]
  cases c with
  | operation op =>
    have hall : ∀ op ∈ Operator.all, (op.symbol.toList.take 2).head? ≠ some ' ' := by decide
    exact hall op op.mem_all
  | _ => simp [lead]

end Caption

/-- A line of an outline: how deep it is indented, and what it says. -/
abbrev OutlineLine := Nat × Caption

def OutlineLine.written (l : OutlineLine) : List Char :=
  List.replicate (2 * l.1) ' ' ++ (l.2.written ++ ['\n'])

theorem blanks_append_cancel {m n : Nat} {cs ds : List Char} (hc : cs.head? ≠ some ' ')
    (hd : ds.head? ≠ some ' ') (h : List.replicate m ' ' ++ cs = List.replicate n ' ' ++ ds) :
    m = n ∧ cs = ds := by
  induction m generalizing n with
  | zero =>
    cases n with
    | zero => exact ⟨rfl, h⟩
    | succ n =>
      rw [List.replicate_zero, List.nil_append] at h
      exact absurd (by rw [h]; rfl) hc
  | succ m ih =>
    cases n with
    | zero =>
      rw [List.replicate_zero, List.nil_append] at h
      exact absurd (by rw [← h]; rfl) hd
    | succ n =>
      obtain ⟨rfl, rfl⟩ := ih (List.cons.inj h).2
      exact ⟨rfl, rfl⟩

/-- A line without a line feed in it is known wherever it stands in front. -/
theorem OutlineLine.written_append_cancel {l l' : OutlineLine} (hl : '\n' ∉ l.2.written)
    (hl' : '\n' ∉ l'.2.written) {xs ys : List Char} (h : l.written ++ xs = l'.written ++ ys) :
    l = l' ∧ xs = ys := by
  have hno : ∀ (m : Nat) (c : Caption), '\n' ∉ c.written →
      '\n' ∉ List.replicate m ' ' ++ c.written := by
    intro m c hc hmem
    rcases List.mem_append.1 hmem with hmem | hmem
    · exact absurd (List.eq_of_mem_replicate hmem) (by decide)
    · exact hc hmem
  have hsplit : ∀ (l : OutlineLine) (xs : List Char), l.written ++ xs =
      (List.replicate (2 * l.1) ' ' ++ l.2.written) ++ '\n' :: xs := by
    intro l xs
    simp [written]
  rw [hsplit, hsplit] at h
  obtain ⟨hline, hrest⟩ := append_cons_cancel (hno _ _ hl) (hno _ _ hl') h
  obtain ⟨hdepth, hcaption⟩ :=
    blanks_append_cancel l.2.head?_written_ne l'.2.head?_written_ne hline
  exact ⟨Prod.ext (by omega) (Caption.written_injective hcaption), hrest⟩

theorem IsName.lineFeed_not_mem {x : String} (h : IsName x) : '\n' ∉ x.toList := by
  obtain ⟨⟨c, cs, hx, hc, hcs⟩, -⟩ := h
  rw [hx]
  intro hmem
  rcases List.mem_cons.1 hmem with rfl | hmem
  · exact absurd hc (by decide)
  · exact absurd (hcs _ hmem) (by decide)

namespace Rule

mutual

def linesAt (depth : Nat) : Rule → List OutlineLine
  | block ss => (depth, .block ss.length) :: linesAll (depth + 1) ss
  | ifThen c t => (depth, .conditional) :: (linesAt (depth + 1) c ++ linesAt (depth + 1) t)
  | ifElse c t e =>
    (depth, .conditional) :: (linesAt (depth + 1) c ++
      (linesAt (depth + 1) t ++ (depth, .otherwise) :: linesAt (depth + 1) e))
  | binary op l r => (depth, .operation op) :: (linesAt (depth + 1) l ++ linesAt (depth + 1) r)
  | call name args => (depth, .call name args.length) :: linesAll (depth + 1) args
  | text s => [(depth, .text s)]
  | number n => [(depth, .number n)]
  | symbol name => [(depth, .symbol name)]

def linesAll (depth : Nat) : List Rule → List OutlineLine
  | [] => []
  | r :: rs => linesAt depth r ++ linesAll depth rs

end

theorem toList_outlineLine {depth : Nat} {s : String} {c : Caption} (h : s.toList = c.written) :
    (outlineLine depth s).toList = OutlineLine.written (depth, c) := by
  rw [outlineLine, indent, String.toList_append, String.toList_append, String.toList_ofList, h,
    List.append_assoc]
  rfl

theorem toList_outlineAll {rs : List Rule}
    (h : ∀ r ∈ rs, ∀ depth, (outlineAt depth r).toList =
      (r.linesAt depth).flatMap OutlineLine.written) (depth : Nat) :
    (outlineAll depth rs).toList = (linesAll depth rs).flatMap OutlineLine.written := by
  induction rs with
  | nil => rfl
  | cons r rs ih =>
    rw [outlineAll, linesAll, String.toList_append, List.flatMap_append,
      h r List.mem_cons_self, ih fun s hs => h s (List.mem_cons_of_mem _ hs)]

/-- An outline is its lines, one below the other. -/
theorem toList_outlineAt (r : Rule) (depth : Nat) :
    (outlineAt depth r).toList = (r.linesAt depth).flatMap OutlineLine.written := by
  induction r using Rule.induction generalizing depth with
  | block ss ih =>
    have hcaption : ("block (" ++ showNat ss.length ++ ")").toList =
        (Caption.block ss.length).written := by
      rw [String.toList_append, String.toList_append, toList_showNat, List.append_assoc]
      rfl
    rw [outlineAt, linesAt, String.toList_append, toList_outlineLine hcaption,
      toList_outlineAll ih, List.flatMap_cons]
  | ifThen c t ihc iht =>
    have hcaption : "if".toList = Caption.conditional.written := rfl
    simp only [outlineAt, linesAt, String.toList_append, toList_outlineLine hcaption, ihc, iht,
      List.flatMap_cons, List.flatMap_append, List.append_assoc]
  | ifElse c t e ihc iht ihe =>
    have hcaption : "if".toList = Caption.conditional.written := rfl
    have hother : "else".toList = Caption.otherwise.written := rfl
    simp only [outlineAt, linesAt, String.toList_append, toList_outlineLine hcaption,
      toList_outlineLine hother, ihc, iht, ihe, List.flatMap_cons, List.flatMap_append,
      List.append_assoc]
  | binary op l r ihl ihr =>
    have hcaption : op.symbol.toList = (Caption.operation op).written := rfl
    simp only [outlineAt, linesAt, String.toList_append, toList_outlineLine hcaption, ihl, ihr,
      List.flatMap_cons, List.flatMap_append, List.append_assoc]
  | call name args ih =>
    have hcaption : ("call " ++ name ++ " (" ++ showNat args.length ++ ")").toList =
        (Caption.call name args.length).written := by
      simp only [String.toList_append, toList_showNat, List.append_assoc]
      rfl
    rw [outlineAt, linesAt, String.toList_append, toList_outlineLine hcaption,
      toList_outlineAll ih, List.flatMap_cons]
  | text s =>
    have hcaption : ("string " ++ quote s).toList = (Caption.text s).written :=
      String.toList_append
    rw [outlineAt, linesAt, toList_outlineLine hcaption, List.flatMap_singleton]
  | number n =>
    have hcaption : ("number " ++ showInt n.toInt).toList = (Caption.number n).written :=
      String.toList_append
    rw [outlineAt, linesAt, toList_outlineLine hcaption, List.flatMap_singleton]
  | symbol name =>
    have hcaption : ("symbol " ++ name).toList = (Caption.symbol name).written :=
      String.toList_append
    rw [outlineAt, linesAt, toList_outlineLine hcaption, List.flatMap_singleton]

structure NamesOnOneLine (r : Rule) : Prop where
  symbol : ∀ name, .symbol name ∈ r.subtrees → '\n' ∉ name.toList
  call : ∀ name args, .call name args ∈ r.subtrees → '\n' ∉ name.toList

theorem NamesOnOneLine.child {r c : Rule} (h : r.NamesOnOneLine) (hc : c ∈ r.children) :
    c.NamesOnOneLine where
  symbol name hname := h.symbol name (mem_subtrees_of_child hc hname)
  call name args hname := h.call name args (mem_subtrees_of_child hc hname)

def caption : Rule → Caption
  | block ss => .block ss.length
  | ifThen .. | ifElse .. => .conditional
  | binary op _ _ => .operation op
  | call name args => .call name args.length
  | text s => .text s
  | number n => .number n
  | symbol name => .symbol name

theorem mem_linesAll {l : OutlineLine} {depth : Nat} {rs : List Rule} (h : l ∈ linesAll depth rs) :
    ∃ r ∈ rs, l ∈ r.linesAt depth := by
  induction rs with
  | nil => cases h
  | cons r rs ih =>
    rcases List.mem_append.1 h with h | h
    · exact ⟨r, List.mem_cons_self, h⟩
    · obtain ⟨s, hs, hl⟩ := ih h
      exact ⟨s, List.mem_cons_of_mem _ hs, hl⟩

/-- A line below a tree is the tree's own or that of a tree inside it. -/
theorem mem_linesAt {l : OutlineLine} {depth : Nat} {r : Rule} (h : l ∈ r.linesAt depth) :
    l.2 = r.caption ∨ l.2 = .otherwise ∨ ∃ c ∈ r.children, l ∈ c.linesAt (depth + 1) := by
  cases r with
  | block ss =>
    rcases List.mem_cons.1 h with rfl | h
    · exact .inl rfl
    · exact .inr (.inr (mem_linesAll h))
  | call name args =>
    rcases List.mem_cons.1 h with rfl | h
    · exact .inl rfl
    · exact .inr (.inr (mem_linesAll h))
  | ifThen c t | binary op c t =>
    rcases List.mem_cons.1 h with rfl | h
    · exact .inl rfl
    · rcases List.mem_append.1 h with h | h
      · exact .inr (.inr ⟨c, by simp [children], h⟩)
      · exact .inr (.inr ⟨t, by simp [children], h⟩)
  | ifElse c t e =>
    rcases List.mem_cons.1 h with rfl | h
    · exact .inl rfl
    · rcases List.mem_append.1 h with h | h
      · exact .inr (.inr ⟨c, by simp [children], h⟩)
      · rcases List.mem_append.1 h with h | h
        · exact .inr (.inr ⟨t, by simp [children], h⟩)
        · rcases List.mem_cons.1 h with rfl | h
          · exact .inr (.inl rfl)
          · exact .inr (.inr ⟨e, by simp [children], h⟩)
  | text | number | symbol =>
    obtain rfl := List.mem_singleton.1 h
    exact .inl rfl

theorem NamesOnOneLine.lineFeed_not_mem_caption {r : Rule} (h : r.NamesOnOneLine) :
    '\n' ∉ r.caption.written := by
  have hdigits : ∀ n, '\n' ∉ digits n := Caption.not_mem_digits (by decide)
  cases r with
  | block ss => exact List.not_mem_append (by decide) (List.not_mem_append (hdigits _) (by decide))
  | ifThen | ifElse =>
    have hconditional : '\n' ∉ Caption.conditional.written := by decide
    exact hconditional
  | binary op _ _ =>
    have hall : ∀ op ∈ Operator.all, '\n' ∉ op.symbol.toList := by decide
    exact hall op op.mem_all
  | call name args =>
    have hname := h.call name args (self_mem_subtrees _)
    exact List.not_mem_append (by decide) (List.not_mem_append hname
      (List.not_mem_append (by decide) (List.not_mem_append (hdigits _) (by decide))))
  | text s => exact List.not_mem_append (by decide) (lineFeed_not_mem_quote s)
  | number n =>
    refine List.not_mem_append (by decide) fun hmem => ?_
    have hblank := (isNumeral_showInt n.toInt).not_blank _ hmem
    revert hblank
    decide
  | symbol name =>
    exact List.not_mem_append (by decide) (h.symbol name (self_mem_subtrees _))

/-- Then every line of its outline is one line. -/
theorem NamesOnOneLine.lineFeed_not_mem {r : Rule} (h : r.NamesOnOneLine) (depth : Nat) :
    ∀ l ∈ r.linesAt depth, '\n' ∉ l.2.written := by
  induction r using children_induction generalizing depth with
  | step r ih =>
    intro l hl
    rcases mem_linesAt hl with hl | hl | ⟨c, hc, hl⟩
    · rw [hl]
      exact h.lineFeed_not_mem_caption
    · rw [hl]
      decide
    · exact ih c hc (h.child hc) _ l hl

/-- What may stand below a tree that stands at the given depth: it does not go on with what the tree
or a tree inside it does otherwise. -/
def Ends (depth : Nat) (ls : List OutlineLine) : Prop :=
  ∀ k ≥ depth, ls.head? ≠ some (k, .otherwise)

theorem Ends.deeper {depth k : Nat} {ls : List OutlineLine} (h : Ends depth ls) (hk : depth ≤ k) :
    Ends k ls := fun j hj => h j (Nat.le_trans hk hj)

theorem ends_linesAt (depth k : Nat) (r : Rule) (ls : List OutlineLine) :
    Ends k (r.linesAt depth ++ ls) := by
  intro j _
  cases r <;> simp [linesAt]

theorem ends_otherwise (depth : Nat) (ls : List OutlineLine) :
    Ends (depth + 1) ((depth, .otherwise) :: ls) := by
  intro k hk heq
  have hdepth : depth = k := congrArg Prod.fst (Option.some.inj heq)
  omega

theorem Ends.linesAll {depth : Nat} {ls : List OutlineLine} (h : Ends depth ls) (rs : List Rule) :
    Ends depth (linesAll depth rs ++ ls) := by
  cases rs with
  | nil => exact h
  | cons r rs =>
    rw [Rule.linesAll, List.append_assoc]
    exact ends_linesAt depth depth r _

/-- The lines of a tree can be told from what stands below them. -/
def LinesCancel (r : Rule) : Prop :=
  ∀ ⦃depth : Nat⦄ ⦃s : Rule⦄ ⦃xs ys : List OutlineLine⦄, Ends depth xs → Ends depth ys →
    r.linesAt depth ++ xs = s.linesAt depth ++ ys → r = s ∧ xs = ys

/-- Equally many trees can be told from what stands below them. -/
theorem linesAll_cancel {rs ss : List Rule} (hrs : ∀ r ∈ rs, r.LinesCancel)
    (hlength : rs.length = ss.length) {depth : Nat} {xs ys : List OutlineLine}
    (hxs : Ends depth xs) (hys : Ends depth ys)
    (h : linesAll depth rs ++ xs = linesAll depth ss ++ ys) : rs = ss ∧ xs = ys := by
  induction rs generalizing ss with
  | nil =>
    obtain rfl : ss = [] := List.eq_nil_of_length_eq_zero hlength.symm
    exact ⟨rfl, h⟩
  | cons r rs ih =>
    cases ss with
    | nil => cases hlength
    | cons s ss =>
      rw [linesAll, linesAll, List.append_assoc, List.append_assoc] at h
      obtain ⟨rfl, hrest⟩ := hrs r List.mem_cons_self (hxs.linesAll rs) (hys.linesAll ss) h
      obtain ⟨rfl, rfl⟩ := ih (fun r hr => hrs r (List.mem_cons_of_mem _ hr))
        (Nat.succ.inj hlength) hrest
      exact ⟨rfl, rfl⟩

/-- Two trees one below the other. -/
theorem LinesCancel.pair {c t c' t' : Rule} (hc : c.LinesCancel) (ht : t.LinesCancel) {depth : Nat}
    {xs ys : List OutlineLine} (hxs : Ends depth xs) (hys : Ends depth ys)
    (h : c.linesAt depth ++ (t.linesAt depth ++ xs) = c'.linesAt depth ++ (t'.linesAt depth ++ ys)) :
    c = c' ∧ t = t' ∧ xs = ys := by
  obtain ⟨rfl, hbelow⟩ := hc (ends_linesAt _ _ t xs) (ends_linesAt _ _ t' ys) h
  obtain ⟨rfl, hrest⟩ := ht hxs hys hbelow
  exact ⟨rfl, rfl, hrest⟩

/-- A tree is known by its lines. -/
theorem linesCancel (r : Rule) : r.LinesCancel := by
  induction r using Rule.induction with
  | block ss ih =>
    intro depth s xs ys hxs hys h
    cases s with
    | block ts =>
      simp only [linesAt, List.cons_append, List.cons.injEq, Prod.mk.injEq, Caption.block.injEq,
        true_and] at h
      obtain ⟨rfl, hrest⟩ := linesAll_cancel ih h.1 (hxs.deeper (Nat.le_succ _))
        (hys.deeper (Nat.le_succ _)) h.2
      exact ⟨rfl, hrest⟩
    | _ => simp [linesAt] at h
  | ifThen c t ihc iht =>
    intro depth s xs ys hxs hys h
    cases s with
    | ifThen c' t' =>
      simp only [linesAt, List.cons_append, List.append_assoc, List.cons.injEq, true_and] at h
      obtain ⟨rfl, rfl, hrest⟩ :=
        ihc.pair iht (hxs.deeper (Nat.le_succ _)) (hys.deeper (Nat.le_succ _)) h
      exact ⟨rfl, hrest⟩
    | ifElse c' t' e' =>
      simp only [linesAt, List.cons_append, List.append_assoc, List.cons.injEq, true_and] at h
      obtain ⟨-, -, rfl⟩ := ihc.pair iht (hxs.deeper (Nat.le_succ _)) (ends_otherwise _ _) h
      exact absurd rfl (hxs depth (Nat.le_refl _))
    | _ => simp [linesAt] at h
  | ifElse c t e ihc iht ihe =>
    intro depth s xs ys hxs hys h
    cases s with
    | ifThen c' t' =>
      simp only [linesAt, List.cons_append, List.append_assoc, List.cons.injEq, true_and] at h
      obtain ⟨-, -, rfl⟩ := ihc.pair iht (ends_otherwise _ _) (hys.deeper (Nat.le_succ _)) h
      exact absurd rfl (hys depth (Nat.le_refl _))
    | ifElse c' t' e' =>
      simp only [linesAt, List.cons_append, List.append_assoc, List.cons.injEq, true_and] at h
      obtain ⟨rfl, rfl, hbelow⟩ := ihc.pair iht (ends_otherwise _ _) (ends_otherwise _ _) h
      obtain ⟨rfl, hrest⟩ := ihe (hxs.deeper (Nat.le_succ _)) (hys.deeper (Nat.le_succ _))
        (List.cons.inj hbelow).2
      exact ⟨rfl, hrest⟩
    | _ => simp [linesAt] at h
  | binary op l r ihl ihr =>
    intro depth s xs ys hxs hys h
    cases s with
    | binary op' l' r' =>
      simp only [linesAt, List.cons_append, List.append_assoc, List.cons.injEq, Prod.mk.injEq,
        Caption.operation.injEq, true_and] at h
      obtain ⟨rfl, h⟩ := h
      obtain ⟨rfl, rfl, hrest⟩ :=
        ihl.pair ihr (hxs.deeper (Nat.le_succ _)) (hys.deeper (Nat.le_succ _)) h
      exact ⟨rfl, hrest⟩
    | _ => simp [linesAt] at h
  | call name args ih =>
    intro depth s xs ys hxs hys h
    cases s with
    | call name' args' =>
      simp only [linesAt, List.cons_append, List.cons.injEq, Prod.mk.injEq, Caption.call.injEq,
        true_and] at h
      obtain ⟨⟨rfl, hlength⟩, h⟩ := h
      obtain ⟨rfl, hrest⟩ := linesAll_cancel ih hlength (hxs.deeper (Nat.le_succ _))
        (hys.deeper (Nat.le_succ _)) h
      exact ⟨rfl, hrest⟩
    | _ => simp [linesAt] at h
  | text u | number u | symbol u =>
    intro depth s xs ys _ _ h
    cases s <;> simp_all [linesAt]

/-- Trees whose names are on one line have different outlines if they are different. -/
theorem eq_of_outline_eq {r s : Rule} (hr : r.NamesOnOneLine) (hs : s.NamesOnOneLine)
    (h : r.outline = s.outline) : r = s := by
  have hlist := congrArg String.toList h
  rw [outline, outline, toList_outlineAt, toList_outlineAt] at hlist
  have hlines : r.linesAt 0 = s.linesAt 0 := by
    refine flatMap_cancel (fun l => ?_) (fun l hl l' hl' _ _ => ?_) hlist
    · simp [OutlineLine.written]
    · exact OutlineLine.written_append_cancel (hr.lineFeed_not_mem 0 l hl)
        (hs.lineFeed_not_mem 0 l' hl')
  have hnothing : Ends 0 [] := nofun
  exact (linesCancel r hnothing hnothing (by rw [hlines])).1

/-- Statements and programs hold nothing else. -/
theorem isStatement_or_isProgram_of_mem {p r : Rule} (hp : p ∈ r.subtrees)
    (h : r.IsStatement ∨ r.IsProgram) : p.IsStatement ∨ p.IsProgram := by
  induction r using children_induction with
  | step r ih =>
    rcases mem_subtrees_iff.1 hp with rfl | ⟨c, hc, hp⟩
    · exact h
    refine ih c hc hp ?_
    rcases h with h | ⟨ss, rfl, hss⟩
    · cases r with
      | block ss => exact absurd h not_isStatement_block
      | ifThen a t =>
        obtain ⟨ha, ht⟩ := isStatement_ifThen_iff.1 h
        rcases List.mem_pair.1 hc with rfl | rfl
        · exact .inl (.expression ha)
        · exact .inr ht
      | ifElse a t e =>
        obtain ⟨ha, ht, he⟩ := isStatement_ifElse_iff.1 h
        rcases List.mem_cons.1 hc with rfl | hc
        · exact .inl (.expression ha)
        · rcases List.mem_pair.1 hc with rfl | rfl
          · exact .inr ht
          · exact .inr he
      | binary op l r =>
        obtain ⟨-, hl, hr⟩ := isStatement_binary_iff.1 h
        rcases List.mem_pair.1 hc with rfl | rfl
        · exact .inl (.expression hl)
        · exact .inl (.expression hr)
      | call name args => exact .inl (.expression ((isStatement_call_iff.1 h).2 c hc))
      | text | number | symbol => cases hc
    · exact .inl (hss c hc)

/-- The names of a program are words. -/
theorem IsProgram.namesOnOneLine {r : Rule} (h : r.IsProgram) : r.NamesOnOneLine where
  symbol name hname := by
    rcases isStatement_or_isProgram_of_mem hname (.inr h) with h | ⟨ss, ⟨⟩, -⟩
    cases h with
    | expression h =>
      cases h with
      | symbol hname => exact hname.lineFeed_not_mem
  call name args hname := by
    rcases isStatement_or_isProgram_of_mem hname (.inr h) with h | ⟨ss, ⟨⟩, -⟩
    exact (isStatement_call_iff.1 h).1.lineFeed_not_mem

/-- What is loaded from a file is a program. -/
theorem isProgram_of_load {m : Machine} {path : String} {r : Rule} (h : Rule.load m path = .ok r) :
    r.IsProgram := by
  rw [Rule.load] at h
  cases hread : m.readText path with
  | error fault =>
    rw [hread] at h
    cases h
  | ok source =>
    rw [hread] at h
    change (Rule.ofText source).mapError _ = _ at h
    cases hsource : Rule.ofText source with
    | error e => rw [hsource] at h; cases h
    | ok s =>
      rw [hsource] at h
      cases h
      exact isProgram_of_ofText hsource

/-- Trees of any shape have the same outline only if they are the same, as long as no name of a
symbol or a function has a line feed. So the outlines of two files of rules are different texts
wherever the files are read as different trees. -/
theorem outline_unambiguous :
    (∀ r s : Rule, r.NamesOnOneLine → s.NamesOnOneLine → (r.outline = s.outline ↔ r = s)) ∧
    ∀ (m₁ m₂ : Machine) (path₁ path₂ : String) (r₁ r₂ : Rule),
      Rule.load m₁ path₁ = .ok r₁ → Rule.load m₂ path₂ = .ok r₂ → r₁ ≠ r₂ →
      ∃ t₁ t₂, outlineOfFile m₁ path₁ = .ok t₁ ∧ outlineOfFile m₂ path₂ = .ok t₂ ∧ t₁ ≠ t₂ := by
  refine ⟨fun r s hr hs => ⟨eq_of_outline_eq hr hs, congrArg outline⟩,
    fun m₁ m₂ path₁ path₂ r₁ r₂ h₁ h₂ hne => ?_⟩
  refine ⟨r₁.outline, r₂.outline, by rw [outlineOfFile, h₁]; rfl, by rw [outlineOfFile, h₂]; rfl, ?_⟩
  exact fun heq => hne (eq_of_outline_eq (isProgram_of_load h₁).namesOnOneLine
    (isProgram_of_load h₂).namesOnOneLine heq)

/-- So it is with a call whose name looks like one with a count behind it, with texts that hold a
line feed or spell its escape, and with two files of one and of two statements. -/
theorem outline_unambiguous_escape :
    ∃ (r s : Rule) (m : Machine),
      r = .call "f (1)" [.text "\n"] ∧ s = .call "f" [.text "\\n"] ∧
      r.NamesOnOneLine ∧ s.NamesOnOneLine ∧ r.outline ≠ s.outline ∧
      m.read = (fun path => .ok (utf8Bytes path)) ∧
      Rule.load m "a" = .ok (.block [.symbol "a"]) ∧
      Rule.load m "a b" = .ok (.block [.symbol "a", .symbol "b"]) ∧
      ∃ t₁ t₂, outlineOfFile m "a" = .ok t₁ ∧ outlineOfFile m "a b" = .ok t₂ ∧ t₁ ≠ t₂ := by
  let r : Rule := .call "f (1)" [.text "\n"]
  let s : Rule := .call "f" [.text "\\n"]
  let m : Machine := ⟨fun path => .ok (utf8Bytes path), fun _ => none, .hangsUp, []⟩
  have hr : r.NamesOnOneLine :=
    ⟨by simp [r, subtrees, subtreesAll], by simp [r, subtrees, subtreesAll]⟩
  have hs : s.NamesOnOneLine :=
    ⟨by simp [s, subtrees, subtreesAll], by simp [s, subtrees, subtreesAll]⟩
  have hne : r ≠ s := by simp [r, s]
  have hload₁ : Rule.load m "a" = .ok (.block [.symbol "a"]) := by
    with_unfolding_all rfl
  have hload₂ : Rule.load m "a b" = .ok (.block [.symbol "a", .symbol "b"]) := by
    with_unfolding_all rfl
  have hne' : Rule.block [.symbol "a"] ≠ .block [.symbol "a", .symbol "b"] := by simp
  obtain ⟨htrees, hfiles⟩ := outline_unambiguous
  exact ⟨r, s, m, rfl, rfl, hr, hs, fun h => hne ((htrees r s hr hs).1 h), rfl, hload₁, hload₂,
    hfiles m m _ _ _ _ hload₁ hload₂ hne'⟩

end Rule

end ChordRules
