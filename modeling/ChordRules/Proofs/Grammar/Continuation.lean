import ChordRules.Proofs.Grammar.Spelling

/-! # Other texts behind a phrase

A phrase ends where the text ahead does not go on with it, so what stands there has a part in how
the phrase is read. `InPlaceOf` says when other texts may stand there instead: as far as they
differ, they begin with a text that no phrase goes on with. Main statement: `Derives.moves`. -/
namespace ChordRules

/-- Texts that go on with no phrase before them, and that no text before them makes an operator. -/
def stopgaps : List String := [")", "\x7d", "0"]

/-- `InPlaceOf xs ys`: phrases in front of `xs` are read as before if `ys` stands there. The
parenthesis that an `if` demands is no stopgap, since a name in front of it would be called. -/
inductive InPlaceOf : List String → List String → Prop
  | stopgap {x : String} {xs ys : List String} (hx : x ∈ stopgaps) : InPlaceOf xs (x :: ys)
  | opening {xs ys : List String} : InPlaceOf ("if" :: xs) ("if" :: "(" :: ys)
  | cons {x : String} {xs ys : List String} (h : InPlaceOf xs ys) : InPlaceOf (x :: xs) (x :: ys)

theorem InPlaceOf.append {xs ys : List String} (h : InPlaceOf xs ys) (front : List String) :
    InPlaceOf (front ++ xs) (front ++ ys) := by
  induction front with
  | nil => exact h
  | cons x front ih => exact .cons ih

/-- No operator ends or begins with a stopgap. -/
theorem Operator.ne_of_mem_stopgaps {y : String} (hy : y ∈ stopgaps) (x : String)
    (op : Operator) : x ++ y ≠ op.symbol ∧ y ++ x ≠ op.symbol := by
  have hends : ∀ y ∈ stopgaps, ∀ op ∈ Operator.all,
      ¬ y.toList <:+ op.symbol.toList ∧ ¬ y.toList <+: op.symbol.toList := by decide
  obtain ⟨hsuffix, hprefix⟩ := hends y hy op op.mem_all
  constructor
  · intro h
    exact hsuffix ⟨x.toList, by rw [← h, String.toList_append]⟩
  · intro h
    exact hprefix ⟨x.toList, by rw [← h, String.toList_append]⟩

theorem not_leadsWith_of_mem_stopgaps {x : String} (hx : x ∈ stopgaps) (op : Operator)
    (ys zs : List String) : ¬ LeadsWith op (x :: ys) zs := by
  intro h
  cases h with
  | pair h => exact (Operator.ne_of_mem_stopgaps hx _ op).2 h
  | single _ h => exact (Operator.ne_of_mem_stopgaps hx "" op).1 (by rwa [String.empty_append])

/-- A text that is an operator on its own leads with some operator, whatever follows. -/
theorem LeadsWith.exists_of_single {x : String} {op : Operator} (h : x = op.symbol)
    (ys : List String) : ∃ other zs, LeadsWith other (x :: ys) zs := by
  by_cases hpair : ∀ y ∈ ys.head?, ∀ other : Operator, x ++ y ≠ other.symbol
  · exact ⟨op, ys, .single hpair h⟩
  · push Not at hpair
    obtain ⟨y, hy, other, hother⟩ := hpair
    obtain ⟨zs, rfl⟩ := List.head?_eq_some_iff.1 hy
    exact ⟨other, zs, .pair hother⟩

namespace InPlaceOf

variable {xs ys : List String}

theorem head?_ne (h : InPlaceOf xs ys) {x : String} (hx : x ∉ stopgaps)
    (hxs : xs.head? ≠ some x) : ys.head? ≠ some x := by
  cases h with
  | stopgap hy =>
    rintro ⟨⟩
    exact hx hy
  | opening => exact hxs
  | cons => exact hxs

theorem not_leadsWith (h : InPlaceOf xs ys) (hxs : ∀ op zs, ¬ LeadsWith op xs zs)
    (op : Operator) (zs : List String) : ¬ LeadsWith op ys zs := by
  cases h with
  | stopgap hx => exact not_leadsWith_of_mem_stopgaps hx op _ zs
  | opening => exact not_leadsWith_of_mem_punctuation (by decide) op _ zs
  | @cons x xs ys h =>
    intro hleads
    cases hleads with
    | single _ hsymbol =>
      obtain ⟨other, us, hother⟩ := LeadsWith.exists_of_single hsymbol xs
      exact hxs other us hother
    | @pair _ y _ hsymbol =>
      cases h with
      | stopgap hy => exact (Operator.ne_of_mem_stopgaps hy x op).1 hsymbol
      | opening => exact hxs op _ (.pair hsymbol)
      | cons => exact hxs op _ (.pair hsymbol)

end InPlaceOf

/-- What is read takes texts off the front, and does so as well in front of other texts. -/
def Moves (P : List String → α → List String → Prop) : Prop :=
  ∀ xs a ys, P xs a ys →
    ∃ front, xs = front ++ ys ∧ ∀ zs, InPlaceOf ys zs → P (front ++ zs) a zs

theorem LeadsWith.moves {op : Operator} {xs ys : List String} (h : LeadsWith op xs ys) :
    ∃ front, xs = front ++ ys ∧ ∀ zs, InPlaceOf ys zs → LeadsWith op (front ++ zs) zs := by
  cases h with
  | @pair x y _ h => exact ⟨[x, y], rfl, fun zs _ => .pair h⟩
  | @single x ys hpair h =>
    refine ⟨[x], rfl, fun zs hzs => .single ?_ h⟩
    cases hzs with
    | stopgap hy =>
      rintro _ ⟨⟩ other
      exact (Operator.ne_of_mem_stopgaps hy x other).1
    | opening => exact hpair
    | cons => exact hpair

theorem moves_operatorAhead : Moves OperatorAhead := by
  rintro xs o ys (⟨op, rfl, hleads⟩ | ⟨rfl, rfl, hnone⟩)
  · obtain ⟨front, rfl, hmoves⟩ := hleads.moves
    exact ⟨front, rfl, fun zs hzs => .inl ⟨op, rfl, hmoves zs hzs⟩⟩
  · exact ⟨[], rfl, fun zs hzs => .inr ⟨rfl, rfl, hzs.not_leadsWith hnone⟩⟩

/-- Every phrase but a whole program moves in front of other texts. -/
theorem Derives.moves {p : Phrase} (hp : p ≠ .program) : Moves (Derives p) := by
  intro xs a ys h
  induction h with
  | noStatement | statements => exact absurd rfl hp
  | braced _ ih =>
    obtain ⟨front, rfl, hmoves⟩ := ih nofun
    exact ⟨"\x7b" :: front, rfl, fun zs hzs => .braced (hmoves zs hzs)⟩
  | bare _ ih =>
    obtain ⟨front, rfl, hmoves⟩ := ih nofun
    exact ⟨front, rfl, fun zs hzs => .bare (hmoves zs hzs)⟩
  | closed => exact ⟨["\x7d"], rfl, fun zs _ => .closed⟩
  | more _ _ ih₁ ih₂ =>
    obtain ⟨front₂, rfl, hmoves₂⟩ := ih₂ nofun
    obtain ⟨front₁, rfl, hmoves₁⟩ := ih₁ nofun
    refine ⟨front₁ ++ front₂, (List.append_assoc _ _ _).symm, fun zs hzs => ?_⟩
    rw [List.append_assoc]
    exact .more (hmoves₁ _ (hzs.append front₂)) (hmoves₂ zs hzs)
  | @ifThen xs ys zs c ss _ _ greedy ih₁ ih₂ =>
    obtain ⟨front₂, rfl, hmoves₂⟩ := ih₂ nofun
    obtain ⟨front₁, rfl, hmoves₁⟩ := ih₁ nofun
    refine ⟨"if" :: "(" :: (front₁ ++ ")" :: front₂), by simp, fun us hus => ?_⟩
    have hcondition := hmoves₁ _ ((hus.append front₂).append [")"])
    have hif := Derives.ifThen hcondition (hmoves₂ us hus) (hus.head?_ne (by decide) greedy)
    simpa using hif
  | ifElse _ _ _ ih₁ ih₂ ih₃ =>
    obtain ⟨front₃, rfl, hmoves₃⟩ := ih₃ nofun
    obtain ⟨front₂, rfl, hmoves₂⟩ := ih₂ nofun
    obtain ⟨front₁, rfl, hmoves₁⟩ := ih₁ nofun
    refine ⟨"if" :: "(" :: (front₁ ++ ")" :: (front₂ ++ "else" :: front₃)), by simp,
      fun us hus => ?_⟩
    have hother := (hus.append front₃).append ["else"]
    have hcondition := hmoves₁ _ ((hother.append front₂).append [")"])
    have hif := Derives.ifElse hcondition (hmoves₂ _ hother) (hmoves₃ us hus)
    simpa using hif
  | plain _ ih =>
    obtain ⟨front, rfl, hmoves⟩ := ih nofun
    exact ⟨front, rfl, fun zs hzs => .plain (hmoves zs hzs)⟩
  | alone _ greedy ih =>
    obtain ⟨front, rfl, hmoves⟩ := ih nofun
    exact ⟨front, rfl, fun zs hzs => .alone (hmoves zs hzs) (hzs.not_leadsWith greedy)⟩
  | binary _ operator target _ ih₁ ih₂ =>
    obtain ⟨front₃, rfl, hmoves₃⟩ := ih₂ nofun
    obtain ⟨front₂, rfl, hmoves₂⟩ := operator.moves
    obtain ⟨front₁, rfl, hmoves₁⟩ := ih₁ nofun
    refine ⟨front₁ ++ (front₂ ++ front₃), by simp, fun zs hzs => ?_⟩
    have hright := hzs.append front₃
    have hbinary := Derives.binary (hmoves₁ _ (hright.append front₂)) (hmoves₂ _ hright) target
      (hmoves₃ zs hzs)
    simpa using hbinary
  | parenthesized _ ih =>
    obtain ⟨front, rfl, hmoves⟩ := ih nofun
    refine ⟨"(" :: (front ++ [")"]), by simp, fun zs hzs => ?_⟩
    simpa using Derives.parenthesized (hmoves _ (hzs.append [")"]))
  | unparenthesized _ ih =>
    obtain ⟨front, rfl, hmoves⟩ := ih nofun
    exact ⟨front, rfl, fun zs hzs => .unparenthesized (hmoves zs hzs)⟩
  | @word x xs r h greedy =>
    exact ⟨[x], rfl, fun zs hzs => .word h fun hr => hzs.head?_ne (by decide) (greedy hr)⟩
  | @call name xs ys args h _ ih =>
    obtain ⟨front, rfl, hmoves⟩ := ih nofun
    exact ⟨name :: "(" :: front, rfl, fun zs hzs => .call h (hmoves zs hzs)⟩
  | noArgument => exact ⟨[")"], rfl, fun zs _ => .noArgument⟩
  | argument _ _ ih₁ ih₂ =>
    obtain ⟨front₂, rfl, hmoves₂⟩ := ih₂ nofun
    obtain ⟨front₁, rfl, hmoves₁⟩ := ih₁ nofun
    refine ⟨front₁ ++ front₂, (List.append_assoc _ _ _).symm, fun zs hzs => ?_⟩
    rw [List.append_assoc]
    exact .argument (hmoves₁ _ (hzs.append front₂)) (hmoves₂ zs hzs)
  | lastArgument => exact ⟨[")"], rfl, fun zs _ => .lastArgument⟩
  | nextArgument _ _ ih₁ ih₂ =>
    obtain ⟨front₂, rfl, hmoves₂⟩ := ih₂ nofun
    obtain ⟨front₁, rfl, hmoves₁⟩ := ih₁ nofun
    refine ⟨"," :: (front₁ ++ front₂), by simp, fun zs hzs => ?_⟩
    have hmore := Derives.nextArgument (hmoves₁ _ (hzs.append front₂)) (hmoves₂ zs hzs)
    simpa using hmore

end ChordRules
