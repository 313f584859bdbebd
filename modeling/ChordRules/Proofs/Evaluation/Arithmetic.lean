import ChordRules.Proofs.Evaluation.Cause
import ChordRules.Proofs.Evaluation.Crash
import Mathlib.Data.Int.ModEq

/-! # Arithmetic

Operands that have their values in a world already, such as literals and variables, leave it as it
is, and the operation on them is that on their values. Sums, differences and products are those of
the integers, wrapped around at 64 bits (`Wraps`), and quotients are truncated toward zero. Only the
least number divided by minus one has a quotient out of range; it wraps around to the least number
again. What a division leaves has the sign of the dividend (`Remains`). Main statement:
`arithmetic_exact`. -/
namespace ChordRules

namespace Rule

variable {fs : Registry σ} {w : World σ} {x y : Rule} {u v : Value}

/-- In this world the rule evaluates to the value and changes nothing. -/
def Denotes (fs : Registry σ) (w : World σ) (r : Rule) (v : Value) : Prop :=
  r.eval fs w = (.ok v, w)

def Holds (fs : Registry σ) (w : World σ) (op : Operator) (x y : Rule) : Prop :=
  (binary op x y).Denotes fs w (.boolean true)

theorem Denotes.number (fs : Registry σ) (w : World σ) (n : Int64) :
    (Rule.number n).Denotes fs w (.number n) := rfl

theorem Denotes.text (fs : Registry σ) (w : World σ) (s : String) :
    (Rule.text s).Denotes fs w (.text s) := rfl

theorem Denotes.symbol {name : String} (h : w.scope.get? name = some v) :
    (Rule.symbol name).Denotes fs w v := by
  rw [Denotes, eval, h]

/-- Any two values can be asked to be equal. -/
theorem eval_equal (hx : x.Denotes fs w u) (hy : y.Denotes fs w v) :
    eval fs (binary .equal x y) w = (.ok (.boolean (u == v)), w) := by
  rw [eval, hx, Outcome.andThen_ok, hy, Outcome.andThen_ok]

theorem eval_comparison (hx : x.Denotes fs w u) (hy : y.Denotes fs w v) (op : Comparison) :
    eval fs (binary (.comparison op) x y) w = (op.apply u v, w) := by
  rw [eval, hx, Outcome.andThen_ok, hy, Outcome.andThen_ok]

theorem eval_arithmetic (hx : x.Denotes fs w u) (hy : y.Denotes fs w v) (op : Arithmetic) :
    eval fs (binary (.arithmetic op) x y) w = (op.apply u v, w) := by
  rw [eval, hx, Outcome.andThen_ok, hy, Outcome.andThen_ok]

theorem denotes_comparison_iff (hx : x.Denotes fs w u) (hy : y.Denotes fs w v) (op : Comparison)
    {t : Value} :
    (binary (.comparison op) x y).Denotes fs w t ↔ op.apply u v = .ok t := by
  rw [Denotes, eval_comparison hx hy, Prod.mk.injEq, and_iff_left rfl]

theorem denotes_arithmetic_iff (hx : x.Denotes fs w u) (hy : y.Denotes fs w v) (op : Arithmetic)
    {t : Value} :
    (binary (.arithmetic op) x y).Denotes fs w t ↔ op.apply u v = .ok t := by
  rw [Denotes, eval_arithmetic hx hy, Prod.mk.injEq, and_iff_left rfl]

/-- Two rules are equal exactly if their values are. -/
theorem holds_equal_iff (hx : x.Denotes fs w u) (hy : y.Denotes fs w v) :
    Holds fs w .equal x y ↔ u = v := by
  rw [Holds, Denotes, eval_equal hx hy]
  simp

end Rule

/-- The number is the one number in range that is congruent to the integer. -/
def Wraps (k : Int) (n : Int64) : Prop :=
  ∀ m : Int, -2 ^ 63 ≤ m → m < 2 ^ 63 → (m ≡ k [ZMOD 2 ^ 64] ↔ m = n.toInt)

/-- The balanced remainder is the number in range. -/
theorem wraps_of_toInt_eq_bmod {k : Int} {n : Int64} (h : n.toInt = k.bmod (2 ^ 64)) :
    Wraps k n := by
  intro m hmin hmax
  rw [h, eq_comm, Int.bmod_eq_iff (by decide), Int.modEq_comm, Int.modEq_iff_dvd]
  have hlow : -(((2 ^ 64 : Nat) : Int) / 2) ≤ m := by omega
  have hhigh : m < (((2 ^ 64 : Nat) : Int) + 1) / 2 := by omega
  constructor
  · intro hdvd
    exact ⟨hlow, hhigh, hdvd⟩
  · intro hm
    exact hm.2.2

theorem wraps_add (a b : Int64) : Wraps (a.toInt + b.toInt) (a + b) :=
  wraps_of_toInt_eq_bmod (Int64.toInt_add a b)

theorem wraps_sub (a b : Int64) : Wraps (a.toInt - b.toInt) (a - b) :=
  wraps_of_toInt_eq_bmod (Int64.toInt_sub a b)

theorem wraps_mul (a b : Int64) : Wraps (a.toInt * b.toInt) (a * b) :=
  wraps_of_toInt_eq_bmod (Int64.toInt_mul a b)

/-- What division by `b` leaves of `a`: less than `b` in size, and zero or of the sign of `a`. -/
structure Remains (a b m : Int) : Prop where
  natAbs_lt : m.natAbs < b.natAbs
  sign_eq : m = 0 ∨ m.sign = a.sign

/-- The remainder of truncated division is what the division leaves. -/
theorem remains_tmod {b : Int} (hb : b ≠ 0) (a : Int) : Remains a b (a.tmod b) where
  natAbs_lt := by
    rw [Int.natAbs_tmod]
    exact Nat.mod_lt _ (Int.natAbs_pos.2 hb)
  sign_eq := by
    by_cases hdvd : b ∣ a
    · exact .inl (Int.tmod_eq_zero_of_dvd hdvd)
    · exact .inr (by rw [Int.sign_tmod, if_neg hdvd])

theorem toInt_ne_zero {b : Int64} (hb : b ≠ 0) : b.toInt ≠ 0 := by
  intro h
  exact hb (Int64.toInt_inj.1 h)

/-- Only one quotient is out of range. -/
theorem toInt_div_eq_tdiv {a b : Int64} (h : ¬ (a = Int64.minValue ∧ b = -1)) :
    (a / b).toInt = a.toInt.tdiv b.toInt := by
  by_cases ha : a = Int64.minValue
  · exact Int64.toInt_div_of_ne_right a b fun hb => h ⟨ha, hb⟩
  · exact Int64.toInt_div_of_ne_left a b ha

/-- The quotient times the divisor falls short of the number by the remainder, also where the
quotient and the product wrap around. -/
theorem toInt_sub_div_mul {b : Int64} (hb : b ≠ 0) (a : Int64) :
    (a - a / b * b).toInt = a.toInt.tmod b.toInt := by
  by_cases h : a = Int64.minValue ∧ b = -1
  · obtain ⟨rfl, rfl⟩ := h
    decide
  · have hrem := (remains_tmod (toInt_ne_zero hb) a.toInt).natAbs_lt
    have hbmin := b.le_toInt
    have hbmax := b.toInt_lt
    calc (a - a / b * b).toInt
        = (a.toInt - (a.toInt.tdiv b.toInt * b.toInt).bmod (2 ^ 64)).bmod (2 ^ 64) := by
          rw [Int64.toInt_sub, Int64.toInt_mul, toInt_div_eq_tdiv h]
      _ = (a.toInt.tmod b.toInt).bmod (2 ^ 64) := by
          rw [Int.sub_bmod_bmod, Int.tmod_def, Int.mul_comm]
      _ = a.toInt.tmod b.toInt := by
          apply Int.bmod_eq_of_le
          · omega
          · omega

namespace Rule

variable {fs : Registry σ} {w : World σ} {l r : Rule} {a b : Int64}

theorem Denotes.add (hl : l.Denotes fs w (.number a)) (hr : r.Denotes fs w (.number b)) :
    (binary (.arithmetic .add) l r).Denotes fs w (.number (a + b)) :=
  (denotes_arithmetic_iff hl hr .add).2 rfl

theorem Denotes.subtract (hl : l.Denotes fs w (.number a)) (hr : r.Denotes fs w (.number b)) :
    (binary (.arithmetic .subtract) l r).Denotes fs w (.number (a - b)) :=
  (denotes_arithmetic_iff hl hr .subtract).2 rfl

theorem Denotes.multiply (hl : l.Denotes fs w (.number a)) (hr : r.Denotes fs w (.number b)) :
    (binary (.arithmetic .multiply) l r).Denotes fs w (.number (a * b)) :=
  (denotes_arithmetic_iff hl hr .multiply).2 rfl

theorem Denotes.divide (hl : l.Denotes fs w (.number a)) (hr : r.Denotes fs w (.number b))
    (hb : b ≠ 0) : (binary (.arithmetic .divide) l r).Denotes fs w (.number (a / b)) := by
  rw [denotes_arithmetic_iff hl hr, Arithmetic.apply, Arithmetic.onNumbers, if_neg hb]
  rfl

/-- Dividing fails for a divisor of zero only. -/
theorem eval_divide_eq_divisionByZero_iff (hl : l.Denotes fs w (.number a))
    (hr : r.Denotes fs w (.number b)) :
    eval fs (binary (.arithmetic .divide) l r) w = (.error .divisionByZero, w) ↔ b = 0 := by
  rw [eval_arithmetic hl hr, Prod.mk.injEq, and_iff_left rfl, Arithmetic.apply_eq_error_iff]
  simp [Operator.Refuses, Value.kind]

/-- Arithmetic wraps around, and division truncates and fails on zero alone. Nothing in any rule
crashes an evaluation. -/
theorem arithmetic_exact (fs : Registry σ) :
    (∀ (w : World σ) (l r : Rule) (a b : Int64),
      l.Denotes fs w (.number a) → r.Denotes fs w (.number b) →
      (∃ n, (binary (.arithmetic .add) l r).Denotes fs w (.number n) ∧
        Wraps (a.toInt + b.toInt) n) ∧
      (∃ n, (binary (.arithmetic .subtract) l r).Denotes fs w (.number n) ∧
        Wraps (a.toInt - b.toInt) n) ∧
      (∃ n, (binary (.arithmetic .multiply) l r).Denotes fs w (.number n) ∧
        Wraps (a.toInt * b.toInt) n) ∧
      (eval fs (binary (.arithmetic .divide) l r) w = (.error .divisionByZero, w) ↔ b = 0) ∧
      (a = Int64.minValue → b = -1 →
        (binary (.arithmetic .divide) l r).Denotes fs w (.number Int64.minValue)) ∧
      (b ≠ 0 → ¬ (a = Int64.minValue ∧ b = -1) →
        ∃ q, (binary (.arithmetic .divide) l r).Denotes fs w (.number q) ∧
          q.toInt = a.toInt.tdiv b.toInt ∧
          Remains a.toInt b.toInt (a.toInt - q.toInt * b.toInt)) ∧
      (b ≠ 0 → ∃ m, (binary (.arithmetic .subtract) l (binary (.arithmetic .multiply)
          (binary (.arithmetic .divide) l r) r)).Denotes fs w (.number m) ∧
        Remains a.toInt b.toInt m.toInt) ∧
      (binary (.arithmetic .subtract) (binary (.arithmetic .add) l r) r).Denotes fs w
        (.number a) ∧
      (binary (.arithmetic .add) (binary (.arithmetic .subtract) l r) r).Denotes fs w
        (.number a)) ∧
    ∀ (r : Rule) (w : World σ), r.attempt fs w = .ok (r.eval fs w) := by
  refine ⟨fun w l r a b hl hr => ⟨⟨a + b, hl.add hr, wraps_add a b⟩,
    ⟨a - b, hl.subtract hr, wraps_sub a b⟩, ⟨a * b, hl.multiply hr, wraps_mul a b⟩,
    eval_divide_eq_divisionByZero_iff hl hr, ?_, fun hb hfits => ?_, fun hb => ?_, ?_, ?_⟩,
    attempt_eq_eval fs⟩
  · rintro rfl rfl
    simpa only [Int64.minValue_div_neg_one] using hl.divide hr (by decide)
  · refine ⟨a / b, hl.divide hr hb, toInt_div_eq_tdiv hfits, ?_⟩
    rw [toInt_div_eq_tdiv hfits, Int.mul_comm, ← Int.tmod_def]
    exact remains_tmod (toInt_ne_zero hb) a.toInt
  · refine ⟨a - a / b * b, hl.subtract ((hl.divide hr hb).multiply hr), ?_⟩
    rw [toInt_sub_div_mul hb]
    exact remains_tmod (toInt_ne_zero hb) a.toInt
  · simpa only [Int64.add_sub_cancel] using (hl.add hr).subtract hr
  · simpa only [Int64.sub_add_cancel] using (hl.subtract hr).add hr

/-- The least number divided by minus one is the least number, and seven halves below zero are
three and a remainder of one below zero. -/
theorem arithmetic_exact_negative :
    (binary (.arithmetic .divide) (number Int64.minValue) (number (-1))).Denotes .empty
      (World.ofHost ()) (.number Int64.minValue) ∧
    ∃ q, (binary (.arithmetic .divide) (number (-7)) (number 2)).Denotes .empty
        (World.ofHost ()) (.number q) ∧
      q.toInt = -3 ∧ Remains (-7) 2 (-7 - q.toInt * 2) := by
  let w := World.ofHost ()
  obtain ⟨-, -, -, -, hleast, -⟩ := (arithmetic_exact .empty).1 w _ _ _ _
    (Denotes.number .empty w Int64.minValue) (Denotes.number .empty w (-1))
  obtain ⟨-, -, -, -, -, hquotient, -⟩ := (arithmetic_exact .empty).1 w _ _ _ _
    (Denotes.number .empty w (-7)) (Denotes.number .empty w 2)
  exact ⟨hleast rfl rfl, hquotient (by decide) (by decide)⟩

end Rule
end ChordRules
