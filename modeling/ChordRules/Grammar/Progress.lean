import ChordRules.Grammar.Reading

/-! # Reading ends

Every phrase takes at least one token, so the depth of reading is bounded by the number of
tokens: six levels a token and a few more are enough. Main statements: `Reader.program_ne_spent`,
and `Tape.read`, which reads a tape with enough fuel and so never runs out of it. -/
namespace ChordRules

def Tape.size (t : Tape) : Nat := t.lexemes.length

namespace Reader

/-- On tapes of at most `m` lexemes the reader does not run out of fuel, and takes at least `k`
lexemes whenever it reads anything. -/
def Takes (k m : Nat) (p : Reader α) : Prop :=
  ∀ t : Tape, t.size ≤ m → p t ≠ .spent ∧ ∀ a rest, p t = .ok a rest → rest.size + k ≤ t.size

theorem Takes.bind {p : Reader α} {f : α → Reader β} {k j i m : Nat} (hp : Takes k m p)
    (hf : k ≤ m → ∀ a, Takes j (m - k) (f a)) (hi : i ≤ k + j) : Takes i m (p >>= f) := by
  intro t ht
  obtain ⟨hns, hk⟩ := hp t ht
  cases hpt : p t with
  | spent => exact absurd hpt hns
  | error e => simp [bind_of_error f hpt]
  | ok a rest =>
    have hrest := hk a rest hpt
    obtain ⟨hns', hj⟩ := hf (by omega) a rest (by omega)
    rw [bind_of_ok f hpt]
    refine ⟨hns', fun b rest' hb => ?_⟩
    have := hj b rest' hb
    omega

theorem Takes.pure (a : α) (m : Nat) : Takes 0 m (Pure.pure a : Reader α) := by
  intro t _
  constructor
  · intro h; cases h
  · intro b rest h; cases h; exact Nat.le_refl _

theorem Takes.fail (e : ParseError) (k m : Nat) : Takes k m (fail e : Reader α) := by
  intro t _
  constructor
  · intro h; cases h
  · intro b rest h; cases h

theorem takes_look (m : Nat) : Takes 0 m look := by
  rintro ⟨_ | ⟨l, ls⟩, _ | _⟩ _ <;> simp [look]

theorem takes_lookTwo (m : Nat) : Takes 0 m lookTwo := by
  rintro ⟨_ | ⟨l, _ | ⟨k, ls⟩⟩, _ | _⟩ _ <;> simp [lookTwo]

theorem takes_position (m : Nat) : Takes 0 m position := by
  rintro ⟨_ | ⟨l, ls⟩, _ | _⟩ _ <;> simp [position]

theorem takes_take (what : String) (m : Nat) : Takes 1 m (take what) := by
  rintro ⟨_ | ⟨l, ls⟩, _ | _⟩ _
  · simp [take]
  · simp [take]
  all_goals
    refine ⟨by simp [take], fun a rest h => ?_⟩
    cases h
    simp [Tape.size]

theorem takes_sees (text : String) (m : Nat) : Takes 0 m (sees text) :=
  (takes_look m).bind (fun _ _ => .pure _ _) (Nat.le_refl _)

theorem takes_atEnd (m : Nat) : Takes 0 m atEnd :=
  (takes_look m).bind (fun _ _ => .pure _ _) (Nat.le_refl _)

theorem takes_expect (text : String) (m : Nat) : Takes 1 m (expect text) := by
  refine (takes_take text m).bind (j := 0) (fun _ l => ?_) (Nat.le_refl _)
  split
  · exact .pure _ _
  · exact .fail _ _ _

theorem takes_word (m : Nat) : Takes 1 m word := by
  refine (takes_take _ m).bind (j := 0) (fun _ l => ?_) (Nat.le_refl _)
  split
  · exact .pure _ _
  · exact .fail _ _ _

theorem takes_operator? (m : Nat) : Takes 0 m operator? := by
  refine (takes_lookTwo m).bind (j := 0) (fun _ l => ?_) (Nat.le_refl _)
  split
  · exact .pure _ _
  · split
    · refine (takes_take _ _).bind (j := 1) (fun _ _ => ?_) (by omega)
      exact (takes_take _ _).bind (fun _ _ => .pure _ _) (Nat.le_refl _)
    · split
      · exact (takes_take _ _).bind (fun _ _ => .pure _ _) (by omega)
      · exact .pure _ _

/-- How deep each phrase may have to go, on tapes of at most `m` lexemes. -/
structure DeepEnough (n m : Nat) : Prop where
  argumentsRest : 6 * m + 1 ≤ n → Takes 1 m (argumentsRest n)
  term : 6 * m + 1 ≤ n → Takes 1 m (term n)
  operand : 6 * m + 2 ≤ n → Takes 1 m (operand n)
  expression : 6 * m + 3 ≤ n → Takes 1 m (expression n)
  arguments : 6 * m + 4 ≤ n → Takes 1 m (arguments n)
  statement : 6 * m + 4 ≤ n → Takes 1 m (statement n)
  block : 6 * m + 5 ≤ n → Takes 1 m (block n)
  blockRest : 6 * m + 6 ≤ n → Takes 1 m (blockRest n)

theorem deepEnough (n m : Nat) : DeepEnough n m := by
  induction n generalizing m with
  | zero => constructor <;> intro h <;> omega
  | succ n ih =>
    constructor <;> intro hn
    · rw [argumentsRest]
      refine (takes_sees _ _).bind (j := 1) (fun _ b => ?_) (by omega)
      split
      · refine (takes_expect _ _).bind (j := 1) (fun _ _ => ?_) (by omega)
        refine ((ih _).expression (by omega)).bind (j := 1) (fun _ _ => ?_) (by omega)
        exact ((ih _).argumentsRest (by omega)).bind (fun _ _ => .pure _ _) (by omega)
      · exact (takes_expect _ _).bind (fun _ _ => .pure _ _) (by omega)
    · rw [term]
      refine (takes_word _).bind (j := 0) (fun _ r => ?_) (by omega)
      split
      · refine (takes_sees _ _).bind (j := 0) (fun _ b => ?_) (by omega)
        split
        · refine (takes_expect _ _).bind (j := 1) (fun _ _ => ?_) (by omega)
          exact ((ih _).arguments (by omega)).bind (fun _ _ => .pure _ _) (by omega)
        · exact .pure _ _
      · exact .pure _ _
    · rw [operand]
      refine (takes_sees _ _).bind (j := 1) (fun _ b => ?_) (by omega)
      split
      · refine (takes_expect _ _).bind (j := 1) (fun _ _ => ?_) (by omega)
        refine ((ih _).expression (by omega)).bind (j := 1) (fun _ _ => ?_) (by omega)
        exact (takes_expect _ _).bind (fun _ _ => .pure _ _) (by omega)
      · exact (ih _).term (by omega)
    · rw [expression]
      refine (takes_position _).bind (j := 1) (fun _ _ => ?_) (by omega)
      refine ((ih _).operand (by omega)).bind (j := 0) (fun _ _ => ?_) (by omega)
      refine (takes_operator? _).bind (j := 0) (fun _ o => ?_) (by omega)
      split
      · exact .pure _ _
      · split
        · exact .fail _ _ _
        · exact ((ih _).expression (by omega)).bind (fun _ _ => .pure _ _) (by omega)
    · rw [arguments]
      refine (takes_sees _ _).bind (j := 1) (fun _ b => ?_) (by omega)
      split
      · exact (takes_expect _ _).bind (fun _ _ => .pure _ _) (by omega)
      · refine ((ih _).expression (by omega)).bind (j := 1) (fun _ _ => ?_) (by omega)
        exact ((ih _).argumentsRest (by omega)).bind (fun _ _ => .pure _ _) (by omega)
    · rw [statement]
      refine (takes_sees _ _).bind (j := 1) (fun _ b => ?_) (by omega)
      split
      · refine (takes_expect _ _).bind (j := 1) (fun _ _ => ?_) (by omega)
        refine (takes_expect _ _).bind (j := 1) (fun _ _ => ?_) (by omega)
        refine ((ih _).expression (by omega)).bind (j := 1) (fun _ _ => ?_) (by omega)
        refine (takes_expect _ _).bind (j := 1) (fun _ _ => ?_) (by omega)
        refine ((ih _).block (by omega)).bind (j := 0) (fun _ _ => ?_) (by omega)
        refine (takes_sees _ _).bind (j := 0) (fun _ b => ?_) (by omega)
        split
        · refine (takes_expect _ _).bind (j := 1) (fun _ _ => ?_) (by omega)
          exact ((ih _).block (by omega)).bind (fun _ _ => .pure _ _) (by omega)
        · exact .pure _ _
      · exact (ih _).expression (by omega)
    · rw [block]
      refine (takes_sees _ _).bind (j := 1) (fun _ b => ?_) (by omega)
      split
      · exact (takes_expect _ _).bind (fun _ _ => (ih _).blockRest (by omega)) (by omega)
      · exact ((ih _).statement (by omega)).bind (fun _ _ => .pure _ _) (by omega)
    · rw [blockRest]
      refine (takes_sees _ _).bind (j := 1) (fun _ b => ?_) (by omega)
      split
      · exact (takes_expect _ _).bind (fun _ _ => .pure _ _) (by omega)
      · refine (takes_atEnd _).bind (j := 1) (fun _ b => ?_) (by omega)
        split
        · exact .fail _ _ _
        · refine ((ih _).block (by omega)).bind (j := 1) (fun _ _ => ?_) (by omega)
          exact ((ih _).blockRest (by omega)).bind (fun _ _ => .pure _ _) (by omega)

theorem takes_program (n m : Nat) (h : 6 * m + 6 ≤ n) : Takes 0 m (program n) := by
  induction n generalizing m with
  | zero => omega
  | succ n ih =>
    rw [program]
    refine (takes_atEnd _).bind (j := 0) (fun _ b => ?_) (by omega)
    split
    · exact .pure _ _
    · refine ((deepEnough n m).block (by omega)).bind (j := 0) (fun _ _ => ?_) (by omega)
      exact (ih _ (by omega)).bind (fun _ _ => .pure _ _) (by omega)

/-- How deep reading a tape can go. -/
def depthFor (t : Tape) : Nat := 6 * t.size + 6

theorem program_ne_spent (t : Tape) : program (depthFor t) t ≠ .spent :=
  (takes_program _ t.size (Nat.le_refl _) t (Nat.le_refl _)).1

end Reader

/-- The statements on a tape. -/
def Tape.read (t : Tape) : Except ParseError (List Rule) :=
  match h : Reader.program (Reader.depthFor t) t with
  | .ok statements _ => .ok statements
  | .error e => .error e
  | .spent => absurd h (Reader.program_ne_spent t)

/-- The rule that a text spells: one block of all its statements. -/
def Rule.ofText (source : String) : Except ParseError Rule :=
  (Tape.ofText source).read.map .block

end ChordRules
