import ChordRules.Proofs.Evaluation.Arithmetic
import ChordRules.Proofs.Text.Order

/-! # Comparisons

Numbers are in one order and texts in another, and each comparison asks for a part of that order
(`Comparison.Asks`). Other values cannot be compared, but any two can be
equal. Main statement: `comparisons_coherent`. -/
namespace ChordRules

def ExactlyOne (p q r : Prop) : Prop := (p ∧ ¬ q ∧ ¬ r) ∨ (¬ p ∧ q ∧ ¬ r) ∨ (¬ p ∧ ¬ q ∧ r)

namespace Value

variable {u v t : Value}

def Comparable (u v : Value) : Prop :=
  (u.kind = .number ∧ v.kind = .number) ∨ (u.kind = .text ∧ v.kind = .text)

inductive Less : Value → Value → Prop
  | number {a b : Int64} (h : a < b) : Less (.number a) (.number b)
  | text {s t : String} (h : s < t) : Less (.text s) (.text t)

/-- Comparable values may change places. -/
theorem comparable_comm : Comparable u v ↔ Comparable v u := by
  rw [Comparable, Comparable, and_comm, and_comm (a := u.kind = .text)]

theorem Less.trans (h₁ : Less u v) (h₂ : Less v t) : Less u t := by
  cases h₁ with
  | number h₁ =>
    cases h₂ with
    | number h₂ => exact .number (Int64.lt_trans h₁ h₂)
  | text h₁ =>
    cases h₂ with
    | text h₂ => exact .text (String.lt_trans h₁ h₂)

theorem less_number_iff {a b : Int64} : Less (.number a) (.number b) ↔ a < b := by
  constructor
  · rintro ⟨⟩
    assumption
  · exact .number

theorem less_text_iff {s t : String} : Less (.text s) (.text t) ↔ s < t := by
  constructor
  · rintro ⟨⟩
    assumption
  · exact .text

/-- Two numbers are less, equal or greater. -/
theorem number_lt_iff (a b : Int64) : a < b ↔ ¬ b < a ∧ a ≠ b := by
  rw [Int64.lt_iff_toInt_lt, Int64.lt_iff_toInt_lt, Ne, ← Int64.toInt_inj]
  omega

/-- Two texts are less, equal or greater. -/
theorem text_lt_iff (s t : String) : s < t ↔ ¬ t < s ∧ s ≠ t := by
  constructor
  · intro h
    exact ⟨String.lt_asymm h, String.ne_of_lt h⟩
  · rintro ⟨hge, hne⟩
    by_cases hlt : s < t
    · exact hlt
    · exact absurd (String.le_antisymm hge hlt) hne

/-- There is no order between values that are not comparable. -/
theorem compare?_eq_none_iff_not_comparable : u.compare? v = none ↔ ¬ Comparable u v := by
  rw [compare?_eq_none_iff, Comparable, not_or]

/-- The first value is the less one exactly if the order says so. -/
theorem compare?_eq_lt_iff : u.compare? v = some .lt ↔ Less u v := by
  cases u <;> cases v
  case number.number a b =>
    rw [less_number_iff, compare?, Option.some_inj, compareOfLessAndEq_eq_lt]
  case text.text s t =>
    rw [less_text_iff, compare?, Option.some_inj, compareOfLessAndEq_eq_lt]
  all_goals exact iff_of_false (by rintro ⟨⟩) (by rintro ⟨⟩)

theorem compare?_eq_gt_iff : u.compare? v = some .gt ↔ Less v u := by
  cases u <;> cases v
  case number.number a b =>
    rw [less_number_iff, compare?, Option.some_inj,
      compareOfLessAndEq_eq_gt_of_lt_iff_not_gt_and_ne number_lt_iff]
  case text.text s t =>
    rw [less_text_iff, compare?, Option.some_inj,
      compareOfLessAndEq_eq_gt_of_lt_iff_not_gt_and_ne text_lt_iff]
  all_goals exact iff_of_false (by rintro ⟨⟩) (by rintro ⟨⟩)

theorem compare?_eq_eq_iff : u.compare? v = some .eq ↔ Comparable u v ∧ u = v := by
  cases u <;> cases v
  case number.number a b =>
    rw [compare?, Option.some_inj, compareOfLessAndEq_eq_eq Int64.le_refl Int64.not_le,
      Value.number.injEq, and_iff_right (.inl ⟨rfl, rfl⟩)]
  case text.text s t =>
    rw [compare?, Option.some_inj, compareOfLessAndEq_eq_eq String.le_refl String.not_le,
      Value.text.injEq, and_iff_right (.inr ⟨rfl, rfl⟩)]
  all_goals exact iff_of_false (by rintro ⟨⟩) (by simp [Comparable, kind])

/-- Of two values that can be compared, exactly one is less, unless they are equal. -/
theorem Comparable.exactlyOne (h : Comparable u v) : ExactlyOne (Less u v) (u = v) (Less v u) := by
  have heq : u = v ↔ u.compare? v = some .eq := by rw [compare?_eq_eq_iff, and_iff_right h]
  rw [← compare?_eq_lt_iff, ← compare?_eq_gt_iff, heq]
  cases ho : u.compare? v with
  | none => exact absurd h (compare?_eq_none_iff_not_comparable.1 ho)
  | some o => cases o <;> simp [ExactlyOne]

end Value

namespace Comparison

variable {u v : Value}

def Asks (u v : Value) : Comparison → Prop
  | less => Value.Less u v
  | greater => Value.Less v u
  | lessEqual => Value.Less u v ∨ (Value.Comparable u v ∧ u = v)
  | greaterEqual => Value.Less v u ∨ (Value.Comparable u v ∧ u = v)

theorem holds_lessEqual (o : Ordering) : lessEqual.holds o = !greater.holds o := by
  cases o <;> rfl

/-- A comparison asks for an order of its two values. -/
theorem asks_iff {op : Comparison} :
    op.Asks u v ↔ ∃ o, u.compare? v = some o ∧ op.holds o = true := by
  have hlt : u.compare? v = some .lt ↔ Value.Less u v := Value.compare?_eq_lt_iff
  have hgt : u.compare? v = some .gt ↔ Value.Less v u := Value.compare?_eq_gt_iff
  have heq : u.compare? v = some .eq ↔ Value.Comparable u v ∧ u = v := Value.compare?_eq_eq_iff
  cases op <;> simp only [Asks, ← hlt, ← hgt, ← heq]
  all_goals
    cases u.compare? v with
    | none => simp
    | some o => cases o <;> simp [holds]

theorem apply_eq_ok_iff {op : Comparison} {b : Bool} :
    op.apply u v = .ok (.boolean b) ↔ ∃ o, u.compare? v = some o ∧ op.holds o = b := by
  rw [apply]
  cases u.compare? v with
  | none => simp
  | some o => simp

/-- Comparable values can be compared in every way. -/
theorem exists_apply_eq_ok (op : Comparison) (h : Value.Comparable u v) :
    ∃ b, op.apply u v = .ok (.boolean b) := by
  cases ho : u.compare? v with
  | none => exact absurd h (Value.compare?_eq_none_iff_not_comparable.1 ho)
  | some o => exact ⟨op.holds o, apply_eq_ok_iff.2 ⟨o, ho, rfl⟩⟩

end Comparison

namespace Rule

variable {fs : Registry σ} {w : World σ} {x y z : Rule} {u v t : Value}

theorem holds_comparison_iff (hx : x.Denotes fs w u) (hy : y.Denotes fs w v) {op : Comparison} :
    Holds fs w (.comparison op) x y ↔ op.Asks u v := by
  rw [Holds, denotes_comparison_iff hx hy, Comparison.apply_eq_ok_iff, Comparison.asks_iff]

/-- Not greater is the same as less or equal. -/
theorem holds_lessEqual_iff (hx : x.Denotes fs w u) (hy : y.Denotes fs w v) :
    Holds fs w (.comparison .lessEqual) x y ↔
      (binary (.comparison .greater) x y).Denotes fs w (.boolean false) := by
  rw [Holds, denotes_comparison_iff hx hy, denotes_comparison_iff hx hy,
    Comparison.apply_eq_ok_iff, Comparison.apply_eq_ok_iff]
  simp only [Comparison.holds_lessEqual, Bool.not_eq_true']

/-- Values of other kinds are a mismatch, whatever the comparison. -/
theorem eval_comparison_eq_typeMismatch_iff (hx : x.Denotes fs w u) (hy : y.Denotes fs w v)
    (op : Comparison) :
    (binary (.comparison op) x y).eval fs w =
      (.error (.typeMismatch (.comparison op) u.kind v.kind), w) ↔ ¬ Value.Comparable u v := by
  rw [eval_comparison hx hy, Prod.mk.injEq, and_iff_left rfl, Comparison.apply_eq_error_iff,
    and_iff_left rfl, Operator.Refuses, ← not_or, Value.Comparable]

/-- Adding texts puts one behind the other. -/
theorem denotes_add_texts {p s : String} (hx : x.Denotes fs w (.text p))
    (hy : y.Denotes fs w (.text s)) :
    (binary (.arithmetic .add) x y).Denotes fs w (.text (p ++ s)) :=
  (denotes_arithmetic_iff hx hy .add).2 rfl

/-- The comparisons ask for one order of all numbers and one of all texts, which is total, and they
agree about it. They fail exactly where the values are neither two numbers nor two texts. Equality
never fails, and it is an equivalence of values of one kind. Texts are in the order of their code
points, and in that of their bytes. -/
theorem comparisons_coherent (hx : x.Denotes fs w u) (hy : y.Denotes fs w v)
    (hz : z.Denotes fs w t) :
    (∀ op : Comparison, (binary (.comparison op) x y).eval fs w =
      (.error (.typeMismatch (.comparison op) u.kind v.kind), w) ↔ ¬ Value.Comparable u v) ∧
    (∀ op : Comparison, Value.Comparable u v →
      ∃ b, (binary (.comparison op) x y).Denotes fs w (.boolean b)) ∧
    (∃ b, (binary .equal x y).Denotes fs w (.boolean b)) ∧
    Holds fs w .equal x x ∧
    (Holds fs w .equal x y → Holds fs w .equal y x) ∧
    (Holds fs w .equal x y → Holds fs w .equal y z → Holds fs w .equal x z) ∧
    (Holds fs w .equal x y → u.kind = v.kind) ∧
    (Value.Comparable u v → ExactlyOne (Holds fs w (.comparison .less) x y)
      (Holds fs w .equal x y) (Holds fs w (.comparison .greater) x y)) ∧
    (Holds fs w (.comparison .lessEqual) x y ↔
      (binary (.comparison .greater) x y).Denotes fs w (.boolean false)) ∧
    (Value.Comparable u v → (Holds fs w (.comparison .lessEqual) x y ↔
      Holds fs w (.comparison .less) x y ∨ Holds fs w .equal x y)) ∧
    (Holds fs w (.comparison .greaterEqual) x y ↔ Holds fs w (.comparison .lessEqual) y x) ∧
    (Holds fs w (.comparison .less) x y → Holds fs w (.comparison .less) y z →
      Holds fs w (.comparison .less) x z) ∧
    (∀ p s, u = .text p → v = .text s →
      (Holds fs w (.comparison .less) x y ↔ p.toList.map Char.toNat < s.toList.map Char.toNat) ∧
      (Holds fs w (.comparison .less) x y ↔ utf8Bytes p < utf8Bytes s)) ∧
    (∀ p s s', u = .text p → v = .text s → t = .text s' →
      (Holds fs w (.comparison .less) (binary (.arithmetic .add) x y)
        (binary (.arithmetic .add) x z) ↔ Holds fs w (.comparison .less) y z)) := by
  refine ⟨fun op => eval_comparison_eq_typeMismatch_iff hx hy op, fun op hc => ?_, ?_, ?_, ?_, ?_,
    ?_, fun hc => ?_, ?_, fun hc => ?_, ?_, ?_, ?_, ?_⟩
  · obtain ⟨b, hb⟩ := Comparison.exists_apply_eq_ok op hc
    exact ⟨b, (denotes_comparison_iff hx hy op).2 hb⟩
  · exact ⟨u == v, eval_equal hx hy⟩
  · exact (holds_equal_iff hx hx).2 rfl
  · rw [holds_equal_iff hx hy, holds_equal_iff hy hx]
    exact Eq.symm
  · rw [holds_equal_iff hx hy, holds_equal_iff hy hz, holds_equal_iff hx hz]
    exact Eq.trans
  · rw [holds_equal_iff hx hy]
    exact congrArg Value.kind
  · rw [holds_comparison_iff hx hy, holds_equal_iff hx hy, holds_comparison_iff hx hy]
    exact hc.exactlyOne
  · exact holds_lessEqual_iff hx hy
  · rw [holds_comparison_iff hx hy, holds_comparison_iff hx hy, holds_equal_iff hx hy,
      Comparison.Asks, Comparison.Asks, and_iff_right hc]
  · rw [holds_comparison_iff hx hy, holds_comparison_iff hy hx, Comparison.Asks, Comparison.Asks,
      Value.comparable_comm, eq_comm]
  · rw [holds_comparison_iff hx hy, holds_comparison_iff hy hz, holds_comparison_iff hx hz]
    exact Value.Less.trans
  · rintro p s rfl rfl
    rw [holds_comparison_iff hx hy, Comparison.Asks, Value.less_text_iff, codePoints_lt_iff,
      utf8Bytes_lt_iff]
    exact ⟨Iff.rfl, Iff.rfl⟩
  · rintro p s s' rfl rfl rfl
    rw [holds_comparison_iff (denotes_add_texts hx hy) (denotes_add_texts hx hz),
      holds_comparison_iff hy hz, Comparison.Asks, Comparison.Asks, Value.less_text_iff,
      Value.less_text_iff, append_lt_append_iff]

/-- `z` comes before `é`, and so `unz` before `un` with `é` behind it. -/
theorem comparisons_coherent_accented :
    ∃ w : World Unit,
      (symbol "letter").Denotes .empty w (.text "é") ∧
      Holds .empty w (.comparison .less) (.text "z") (symbol "letter") ∧
      Holds .empty w (.comparison .less) (binary (.arithmetic .add) (.text "un") (.text "z"))
        (binary (.arithmetic .add) (.text "un") (symbol "letter")) := by
  let w : World Unit := (World.ofHost ()).assign "letter" (.text "é")
  have hun := Denotes.text .empty w "un"
  have hz := Denotes.text .empty w "z"
  have hletter : (symbol "letter").Denotes .empty w (.text "é") :=
    Denotes.symbol (Scope.get?_set_self _ _ _)
  obtain ⟨-, -, -, -, -, -, -, -, -, -, -, -, horder, -⟩ := comparisons_coherent hz hletter hun
  obtain ⟨-, -, -, -, -, -, -, -, -, -, -, -, -, hadded⟩ := comparisons_coherent hun hz hletter
  have hless : Holds .empty w (.comparison .less) (.text "z") (symbol "letter") :=
    (horder "z" "é" rfl rfl).1.2 (by decide)
  exact ⟨w, hletter, hless, (hadded "un" "z" "é" rfl rfl rfl).2 hless⟩

end Rule
end ChordRules
