import ChordRules.Proofs.Token.Splitting

/-! # Looking ahead is transparent

A text supplies a sequence of elements: its lexemes, then an error if a string is left open, then
the end of the input for ever. Taking tokens over and over gives just these elements. Any mix of
steps on a stream is answered as if each step read the elements from an index on
(`run_ofText`): the tokens that wait, and the part of the text that is not cut yet, make no
difference. After the first failure the elements are the same without the error. -/
namespace ChordRules

/-- What a text gives to whoever takes its tokens. -/
structure Supply where
  lexemes : List Lexeme
  fault : Option UnclosedString
  stop : Position

namespace Supply

/-- The element at an index. The fault, if there is one, comes once, behind the lexemes. -/
def element (o : Supply) (i : Nat) : Except UnclosedString Token :=
  match o.lexemes[i]? with
  | some l => .ok (.lexeme l)
  | none =>
    match o.fault with
    | some e => if i = o.lexemes.length then .error e else .ok (.endOfInput o.stop)
    | none => .ok (.endOfInput o.stop)

def calm (o : Supply) : Supply := { o with fault := none }

def drop (n : Nat) (o : Supply) : Supply :=
  ⟨o.lexemes.drop n, if n ≤ o.lexemes.length then o.fault else none, o.stop⟩

/-- All lexemes, unless an error stands behind them. -/
def all (o : Supply) : Except UnclosedString (List Lexeme) :=
  (o.element o.lexemes.length).map fun _ => o.lexemes

@[simp] theorem lexemes_drop (n : Nat) (o : Supply) : (o.drop n).lexemes = o.lexemes.drop n := rfl
@[simp] theorem drop_zero (o : Supply) : o.drop 0 = o := by simp [drop]

@[simp] theorem drop_drop (m n : Nat) (o : Supply) : (o.drop m).drop n = o.drop (m + n) := by
  simp only [drop, List.drop_drop, List.length_drop, Supply.mk.injEq, true_and, and_true]
  by_cases hm : m ≤ o.lexemes.length
  · by_cases hn : m + n ≤ o.lexemes.length
    · simp [hm, hn, show n ≤ o.lexemes.length - m by omega]
    · simp [hn, show ¬ n ≤ o.lexemes.length - m by omega]
  · simp [hm, show ¬ m + n ≤ o.lexemes.length by omega]

@[simp] theorem calm_drop (n : Nat) (o : Supply) : (o.drop n).calm = o.calm.drop n := by
  by_cases h : n ≤ o.lexemes.length <;> simp [calm, drop, h]

theorem element_of_lt {o : Supply} {i : Nat} (h : i < o.lexemes.length) :
    o.element i = .ok (.lexeme o.lexemes[i]) := by
  simp [element, h]

theorem element_of_length_lt {o : Supply} {i : Nat} (h : o.lexemes.length < i) :
    o.element i = .ok (.endOfInput o.stop) := by
  have hnone : o.lexemes[i]? = none := List.getElem?_eq_none (by omega)
  cases hf : o.fault <;> simp [element, hnone, hf, show i ≠ o.lexemes.length by omega]

theorem element_length (o : Supply) :
    o.element o.lexemes.length = o.fault.elim (.ok (.endOfInput o.stop)) .error := by
  cases hf : o.fault <;> simp [element, hf]

theorem element_calm_length (o : Supply) :
    o.calm.element o.lexemes.length = .ok (.endOfInput o.stop) :=
  element_length o.calm

theorem element_drop (m i : Nat) (o : Supply) : (o.drop m).element i = o.element (m + i) := by
  simp only [element, drop, List.getElem?_drop, List.length_drop]
  by_cases hm : m ≤ o.lexemes.length
  · have hi : (i = o.lexemes.length - m) ↔ (m + i = o.lexemes.length) := by omega
    simp [hm, hi]
  · have hnone : o.lexemes[m + i]? = none := List.getElem?_eq_none (by omega)
    cases hf : o.fault <;> simp [hm, hnone, show m + i ≠ o.lexemes.length by omega]

/-- Only the index behind the lexemes can hold an error, and it is the fault. -/
theorem element_eq_error {o : Supply} {i : Nat} {e : UnclosedString}
    (h : o.element i = .error e) : i = o.lexemes.length ∧ o.fault = some e := by
  rcases Nat.lt_trichotomy i o.lexemes.length with hlt | rfl | hgt
  · rw [element_of_lt hlt] at h
    cases h
  · rw [element_length] at h
    cases hf : o.fault <;> simp_all
  · rw [element_of_length_lt hgt] at h
    cases h

theorem drop_of_length_lt {o : Supply} {n : Nat} (h : o.lexemes.length < n) :
    o.drop n = ⟨[], none, o.stop⟩ := by
  simp only [drop, show ¬ n ≤ o.lexemes.length by omega, if_false,
    List.drop_eq_nil_of_le (Nat.le_of_lt h)]

theorem calm_drop_of_length_le {o : Supply} {n : Nat} (h : o.lexemes.length ≤ n) :
    o.calm.drop n = ⟨[], none, o.stop⟩ := by
  by_cases hn : n ≤ o.lexemes.length <;> simp [drop, calm, List.drop_eq_nil_of_le h, hn]

/-- Behind the fault nothing is left to fail. -/
theorem calm_drop_of_length_lt {o : Supply} {n : Nat} (h : o.lexemes.length < n) :
    o.calm.drop n = o.drop n :=
  (calm_drop_of_length_le (Nat.le_of_lt h)).trans (drop_of_length_lt h).symm

theorem ite_calm_drop {o : Supply} {n : Nat} {ok : Bool}
    (h : ok = false → o.lexemes.length < n) : (if ok then o else o.calm).drop n = o.drop n := by
  cases ok with
  | true => rfl
  | false => exact calm_drop_of_length_lt (h rfl)

/-- Without the fault, what could be had can still be had. -/
theorem element_calm_of_ok {o : Supply} {i : Nat} {t : Token} (h : o.element i = .ok t) :
    o.calm.element i = .ok t := by
  rcases Nat.lt_trichotomy i o.lexemes.length with hlt | rfl | hgt
  · rw [element_of_lt hlt] at h
    rw [element_of_lt (o := o.calm) hlt]
    exact h
  · rw [element_length] at h
    cases hf : o.fault <;> simp_all [element_calm_length]
  · rw [element_of_length_lt hgt] at h
    rw [element_of_length_lt (o := o.calm) hgt]
    exact h

theorem lexemes_eq_nil_of_end {o : Supply} {p : Position}
    (h : o.element 0 = .ok (.endOfInput p)) : o.lexemes = [] := by
  cases hls : o.lexemes with
  | nil => rfl
  | cons l ls => simp [element, hls] at h

/-- A lexeme in front is the first of all lexemes. -/
theorem cons_of_lexeme {o : Supply} {l : Lexeme} (h : o.element 0 = .ok (.lexeme l)) :
    o.lexemes = l :: (o.drop 1).lexemes ∧ o.all = (o.drop 1).all.map (l :: ·) := by
  obtain ⟨_ | ⟨l', ls⟩, fault, stop⟩ := o
  · cases fault <;> simp [element] at h
  · have hl : l' = l := by simpa [element] using h
    subst hl
    cases fault <;> simp [all, drop, element, Except.map]

end Supply

namespace Cursor

def stop (k : Cursor) : Position := k.position.afterAll k.rest

def supply (k : Cursor) : Supply :=
  let tape := Tape.ofCursor k
  match tape.ending with
  | .endOfInput _ => ⟨tape.lexemes, none, k.stop⟩
  | .unclosed e => ⟨tape.lexemes, some e, k.stop⟩

/-- A cursor that has used up its text stays at the end of the input. -/
theorem supply_nil (p : Position) : supply ⟨[], p⟩ = ⟨[], none, p⟩ := by
  have h : next ⟨[], p⟩ = (.ok (.endOfInput p), ⟨[], p⟩) := next_lastGap (.ended .nil) p
  simp [supply, Tape.ofCursor_of_end h, stop]

/-- Cutting a token gives the first element and leaves the others. -/
theorem next_supply (k : Cursor) :
    k.next.1 = k.supply.element 0 ∧ k.next.2.supply = k.supply.drop 1 := by
  obtain ⟨text, p⟩ := k
  obtain ⟨pieces, last, hsplits, hend⟩ := exists_splits text
  cases hsplits with
  | cons hgap htoken hrest =>
    have hnext := next_token hgap htoken p
    have hstop : ∀ gap token rest : List Char, stop ⟨gap ++ (token ++ rest), p⟩ =
        stop ⟨rest, p.afterAll (gap ++ token)⟩ := by
      intro gap token rest
      simp [stop, Position.afterAll_append]
    simp only [hnext, supply, Tape.ofCursor_of_lexeme hnext, Tape.ending_cons,
      Tape.lexemes_cons, hstop]
    split <;> simp [Supply.element, Supply.drop]
  | nil =>
    rcases hend with hlast | ⟨gap, body, rfl, hgap, hbody⟩
    · have hnext := next_lastGap hlast p
      rw [hnext, supply_nil]
      simp [supply, Tape.ofCursor_of_end hnext, stop, Supply.element, Supply.drop]
    · have hnext := next_openString hgap hbody p
      rw [hnext, supply_nil]
      simp [supply, Tape.ofCursor_of_error hnext, stop, Supply.element, Supply.drop]

end Cursor

def Supply.ofText (source : String) : Supply := (Cursor.ofText source).supply

namespace TokenStream

/-- The tokens that wait are the first elements, and the cursor supplies those behind them. -/
structure Shows (s : TokenStream) (o : Supply) : Prop where
  waiting : ∀ (i : Nat) (h : i < s.waiting.length), o.element i = .ok s.waiting[i]
  cursor : s.cursor.supply = o.drop s.waiting.length

/-- At first a stream shows all that its text gives. -/
theorem shows_ofText (source : String) : (ofText source).Shows (Supply.ofText source) :=
  ⟨fun i h => absurd h (Nat.not_lt_zero i), (Supply.drop_zero _).symm⟩

theorem Shows.tail {t : Token} {ts : List Token} {k : Cursor} {o : Supply}
    (h : Shows ⟨t :: ts, k⟩ o) : Shows ⟨ts, k⟩ (o.drop 1) := by
  constructor
  · intro i hi
    rw [Supply.element_drop, Nat.add_comm]
    exact h.waiting (i + 1) (Nat.succ_lt_succ hi)
  · rw [Supply.drop_drop, Nat.add_comm]
    exact h.cursor

/-- Taking a token gives the first element, an error included, and leaves the others. -/
theorem Shows.of_pop {s : TokenStream} {o : Supply} (h : s.Shows o) :
    s.pop.1 = o.element 0 ∧ s.pop.2.Shows (o.drop 1) := by
  obtain ⟨waiting, k⟩ := s
  cases waiting with
  | cons t ts => exact ⟨(h.waiting 0 (Nat.zero_lt_succ _)).symm, h.tail⟩
  | nil =>
    have hk : k.supply = o := h.cursor.trans (Supply.drop_zero o)
    have hnext := k.next_supply
    rw [hk] at hnext
    exact ⟨hnext.1, fun i hi => absurd hi (Nat.not_lt_zero i),
      hnext.2.trans (Supply.drop_zero _).symm⟩

/-- Cutting the next token gives the element behind those that wait. -/
theorem Shows.next {s : TokenStream} {o : Supply} (h : s.Shows o) :
    s.cursor.next.1 = o.element s.waiting.length ∧
      s.cursor.next.2.supply = o.drop (s.waiting.length + 1) := by
  obtain ⟨hfirst, hrest⟩ := s.cursor.next_supply
  rw [h.cursor, Supply.element_drop, Nat.add_zero] at hfirst
  rw [h.cursor, Supply.drop_drop] at hrest
  exact ⟨hfirst, hrest⟩

/-- A token that is cut waits behind the others. -/
theorem Shows.of_cut {s : TokenStream} {o : Supply} {t : Token} {k : Cursor} (h : s.Shows o)
    (hnext : s.cursor.next = (.ok t, k)) : Shows ⟨s.waiting ++ [t], k⟩ o := by
  obtain ⟨hfirst, hrest⟩ := h.next
  rw [hnext] at hfirst hrest
  constructor
  · intro i hi
    rw [List.length_append, List.length_singleton] at hi
    by_cases hlt : i < s.waiting.length
    · simpa [List.getElem_append, hlt] using h.waiting i hlt
    · have hi' : i = s.waiting.length := by omega
      subst hi'
      simpa using hfirst.symm
  · rw [List.length_append]
    exact hrest

/-- An error in cutting is the fault, and all lexemes wait then. -/
theorem Shows.of_cut_error {s : TokenStream} {o : Supply} {e : UnclosedString} {k : Cursor}
    (h : s.Shows o) (hnext : s.cursor.next = (.error e, k)) :
    Shows { s with cursor := k } o.calm ∧ o.fault = some e ∧
      s.waiting.length = o.lexemes.length := by
  obtain ⟨hfirst, hrest⟩ := h.next
  rw [hnext] at hfirst hrest
  obtain ⟨hlen, hfault⟩ := Supply.element_eq_error hfirst.symm
  refine ⟨⟨?_, ?_⟩, hfault, hlen⟩
  · exact fun i hi => Supply.element_calm_of_ok (h.waiting i hi)
  · rw [hlen, Supply.calm_drop_of_length_le (Nat.le_refl _)]
    exact hrest.trans (Supply.drop_of_length_lt (by omega))

/-- Letting more tokens wait changes nothing that the stream shows, but for an error met on the
way, which is gone then. -/
theorem Shows.of_fill {o : Supply} (n : Nat) {s : TokenStream} (h : s.Shows o) :
    ((fill n s).1 = .ok () ∧ (fill n s).2.Shows o ∧
      (fill n s).2.waiting.length = s.waiting.length + n) ∨
    (∃ e, (fill n s).1 = .error e ∧ (fill n s).2.Shows o.calm ∧ o.fault = some e ∧
      s.waiting.length ≤ o.lexemes.length ∧ o.lexemes.length < s.waiting.length + n) := by
  induction n generalizing s with
  | zero => exact .inl ⟨rfl, h, rfl⟩
  | succ n ih =>
    rcases hnext : s.cursor.next with ⟨e | t, k⟩
    · obtain ⟨hshows, hfault, hlen⟩ := h.of_cut_error hnext
      have hfill : fill (n + 1) s = (.error e, { s with cursor := k }) := by
        simp [fill, hnext]
      rw [hfill]
      exact .inr ⟨e, rfl, hshows, hfault, by omega, by omega⟩
    · have hfill : fill (n + 1) s = fill n ⟨s.waiting ++ [t], k⟩ := by
        simp [fill, hnext]
      have hlen : (s.waiting ++ [t]).length + n = s.waiting.length + (n + 1) := by
        simp only [List.length_append, List.length_singleton]
        omega
      rw [hfill]
      rcases ih (h.of_cut hnext) with ⟨hok, hs, hw⟩ | ⟨e, he, hs, hf, hle, hlt⟩
      · exact .inl ⟨hok, hs, hw.trans hlen⟩
      · refine .inr ⟨e, he, hs, hf, ?_, hlen ▸ hlt⟩
        simp only [List.length_append, List.length_singleton] at hle
        omega

/-- Cutting all takes all lexemes, and the end. -/
theorem cutAll_supply (k : Cursor) :
    (cutAll k).1 = k.supply.all ∧
      (cutAll k).2.supply = k.supply.drop (k.supply.lexemes.length + 1) := by
  have hnext := k.next_supply
  fun_induction cutAll k with
  | case1 k e k' h =>
    rw [h] at hnext
    obtain ⟨hlen, -⟩ := Supply.element_eq_error hnext.1.symm
    exact ⟨by rw [Supply.all, ← hlen, ← hnext.1]; rfl, by rw [← hlen]; exact hnext.2⟩
  | case2 k p k' h =>
    rw [h] at hnext
    have hnil := Supply.lexemes_eq_nil_of_end hnext.1.symm
    exact ⟨by rw [Supply.all, hnil, List.length_nil, ← hnext.1]; rfl, by rw [hnil]; exact hnext.2⟩
  | case3 k l k' h r ih =>
    rw [h] at hnext
    obtain ⟨hls, hall⟩ := Supply.cons_of_lexeme hnext.1.symm
    obtain ⟨hr, hr'⟩ := ih k'.next_supply
    rw [hnext.2] at hr hr'
    refine ⟨by rw [hall, ← hr], hr'.trans ?_⟩
    rw [Supply.drop_drop, hls, List.length_cons, Nat.add_comm 1]

/-- Draining gives all lexemes, or the error behind them, and uses up everything either way. -/
theorem Shows.of_drain {s : TokenStream} {o : Supply} (h : s.Shows o) :
    s.drain.1 = o.all ∧ s.drain.2.Shows (o.drop (o.lexemes.length + 1)) := by
  obtain ⟨waiting, k⟩ := s
  rw [drain]
  induction waiting generalizing o with
  | nil =>
    have hk : k.supply = o := h.cursor.trans (Supply.drop_zero o)
    obtain ⟨hall, hrest⟩ := cutAll_supply k
    rw [hk] at hall hrest
    exact ⟨hall, fun i hi => absurd hi (Nat.not_lt_zero i),
      hrest.trans (Supply.drop_zero _).symm⟩
  | cons t ts ih =>
    have hfirst := h.waiting 0 (Nat.zero_lt_succ _)
    cases t with
    | endOfInput p =>
      have hnil := Supply.lexemes_eq_nil_of_end hfirst
      refine ⟨?_, by rw [hnil]; exact h.tail⟩
      rw [Supply.all, hnil, List.length_nil, hfirst]
      rfl
    | lexeme l =>
      obtain ⟨hls, hall⟩ := Supply.cons_of_lexeme hfirst
      obtain ⟨hr, hr'⟩ := ih h.tail
      rw [Supply.drop_drop, Nat.add_comm 1, ← List.length_cons (a := l), ← hls] at hr'
      exact ⟨by rw [hall, ← hr]; rfl, hr'⟩

/-- What can be done with a stream. Looking at the next token is looking at one. -/
inductive Step where
  | pop
  | peek (n : Nat)
  | drain
  deriving DecidableEq, Repr

def perform (s : TokenStream) : Step → Except UnclosedString (List Token) × TokenStream
  | .pop => (s.pop.1.map ([·]), s.pop.2)
  | .peek n => s.peek n
  | .drain => (s.drain.1.map (·.map .lexeme), s.drain.2)

/-- The answers to steps in a row; a failure does not end them. -/
def run (s : TokenStream) : List Step → List (Except UnclosedString (List Token))
  | [] => []
  | step :: steps => (s.perform step).1 :: run (s.perform step).2 steps

def popped (s : TokenStream) : Nat → TokenStream
  | 0 => s
  | n + 1 => popped s.pop.2 n

end TokenStream

namespace Supply

open TokenStream (Step)

def answer (o : Supply) (i : Nat) : Step → Except UnclosedString (List Token)
  | .pop => (o.element i).map ([·])
  | .peek n => (List.range' i n).mapM o.element
  | .drain => (o.drop i).all.map (·.map .lexeme)

/-- The index from which the step after reads. Draining also takes the end of the input. -/
def after (o : Supply) (i : Nat) : Step → Nat
  | .pop => i + 1
  | .peek _ => i
  | .drain => max i o.lexemes.length + 1

/-- How far a step has to cut the text: up to this index, which it need not see. -/
def reach (o : Supply) (i : Nat) : Step → Nat
  | .pop => i + 1
  | .peek n => i + n
  | .drain => max i o.lexemes.length + 1

/-- The answers to steps that read the elements from an index on. Once a step has failed, the
elements go on without the fault. -/
def answers (o : Supply) (i : Nat) : List Step → List (Except UnclosedString (List Token))
  | [] => []
  | step :: steps =>
    o.answer i step ::
      answers (if (o.answer i step).isOk then o else o.calm) (o.after i step) steps

theorem mapM_element_drop (o : Supply) (i m n : Nat) :
    (List.range' m n).mapM (o.drop i).element = (List.range' (i + m) n).mapM o.element := by
  induction n generalizing m with
  | zero => rfl
  | succ n ih =>
    rw [List.range'_succ, List.range'_succ, List.mapM_cons, List.mapM_cons, element_drop,
      ih (m + 1), Nat.add_assoc]

/-- Elements that are all tokens are gathered. -/
theorem mapM_element_of_ok {o : Supply} {ts : List Token} {i : Nat}
    (h : ∀ (j : Nat) (hj : j < ts.length), o.element (i + j) = .ok ts[j]) :
    (List.range' i ts.length).mapM o.element = .ok ts := by
  induction ts generalizing i with
  | nil => rfl
  | cons t ts ih =>
    have hfirst : o.element i = .ok t := h 0 (Nat.zero_lt_succ _)
    have hrest : (List.range' (i + 1) ts.length).mapM o.element = .ok ts := by
      refine ih fun j hj => ?_
      rw [Nat.add_assoc, Nat.add_comm 1]
      exact h (j + 1) (Nat.succ_lt_succ hj)
    rw [List.length_cons, List.range'_succ, List.mapM_cons, hfirst, hrest]
    rfl

/-- The fault among the elements is what gathering them gives. -/
theorem mapM_element_of_error {o : Supply} {e : UnclosedString} {i n : Nat}
    (hfault : o.fault = some e) (hle : i ≤ o.lexemes.length) (hlt : o.lexemes.length < i + n) :
    (List.range' i n).mapM o.element = .error e := by
  induction n generalizing i with
  | zero => omega
  | succ n ih =>
    rw [List.range'_succ, List.mapM_cons]
    by_cases hi : i = o.lexemes.length
    · rw [hi, element_length, hfault]
      rfl
    · rw [element_of_lt (by omega), ih (by omega) (by omega)]
      rfl

theorem isOk_mapM_element {o : Supply} {i n : Nat} :
    ((List.range' i n).mapM o.element).isOk = true ↔
      ∀ j, i ≤ j → j < i + n → (o.element j).isOk = true := by
  induction n generalizing i with
  | zero =>
    refine ⟨fun _ j h₁ h₂ => ?_, fun _ => rfl⟩
    omega
  | succ n ih =>
    rw [List.range'_succ, List.mapM_cons]
    cases hfirst : o.element i with
    | error e =>
      refine ⟨fun h => (by cases h), fun h => ?_⟩
      have := h i (Nat.le_refl i) (by omega)
      rw [hfirst] at this
      exact this
    | ok t =>
      have hbind : ∀ r : Except UnclosedString (List Token),
          (do let t ← Except.ok t; let ts ← r; pure (t :: ts) :
            Except UnclosedString (List Token)).isOk = r.isOk := by
        intro r
        cases r <;> rfl
      rw [hbind, ih]
      constructor
      · intro h j h₁ h₂
        by_cases hj : j = i
        · rw [hj, hfirst]
          rfl
        · exact h j (by omega) (by omega)
      · intro h j h₁ h₂
        exact h j (by omega) (by omega)

theorem isOk_map (r : Except UnclosedString α) (f : α → β) : (r.map f).isOk = r.isOk := by
  cases r <;> rfl

theorem isOk_element_of_ne {o : Supply} {i : Nat} (h : i ≠ o.lexemes.length) :
    (o.element i).isOk = true := by
  cases hi : o.element i with
  | ok t => rfl
  | error e => exact absurd (element_eq_error hi).1 h

/-- A step fails exactly if an error is among the elements that it reaches. -/
theorem isOk_answer (o : Supply) (i : Nat) (step : Step) :
    (o.answer i step).isOk = true ↔
      ∀ j, i ≤ j → j < o.reach i step → (o.element j).isOk = true := by
  cases step with
  | pop =>
    rw [answer, isOk_map]
    constructor
    · intro h j h₁ h₂
      rwa [show j = i by simp only [reach] at h₂; omega]
    · intro h
      exact h i (Nat.le_refl i) (Nat.lt_succ_self i)
  | peek n => exact isOk_mapM_element
  | drain =>
    rw [answer, isOk_map, all, isOk_map, element_drop, lexemes_drop, List.length_drop,
      show i + (o.lexemes.length - i) = max i o.lexemes.length by omega]
    constructor
    · intro h j h₁ h₂
      simp only [reach] at h₂
      by_cases hj : j = max i o.lexemes.length
      · rwa [hj]
      · exact isOk_element_of_ne (by omega)
    · intro h
      exact h _ (Nat.le_max_left ..) (Nat.lt_succ_self _)

theorem isOk_answer_calm (o : Supply) (i : Nat) (step : Step) :
    (o.calm.answer i step).isOk = true := by
  rw [isOk_answer]
  intro j _ _
  by_cases hj : j = o.lexemes.length
  · rw [hj, element_calm_length]
    rfl
  · exact isOk_element_of_ne hj

/-- Without a fault no step fails. -/
theorem isOk_answers_calm (o : Supply) (i : Nat) (steps : List Step) :
    ∀ a ∈ o.calm.answers i steps, a.isOk = true := by
  induction steps generalizing i with
  | nil => simp [answers]
  | cons step steps ih =>
    intro a ha
    rw [answers, isOk_answer_calm, if_pos rfl] at ha
    rcases List.mem_cons.1 ha with rfl | ha
    · exact isOk_answer_calm o i step
    · exact ih _ a ha

/-- At most one step fails. -/
theorem failures_answers_le (o : Supply) (i : Nat) (steps : List Step) :
    ((o.answers i steps).filter fun a => !a.isOk).length ≤ 1 := by
  induction steps generalizing i with
  | nil => exact Nat.zero_le 1
  | cons step steps ih =>
    rw [answers]
    by_cases hok : (o.answer i step).isOk = true
    · rw [if_pos hok, List.filter_cons_of_neg (by simp [hok])]
      exact ih _
    · have hcalm : ((o.calm.answers (o.after i step) steps).filter fun a => !a.isOk) = [] := by
        rw [List.filter_eq_nil_iff]
        intro a ha
        simp [isOk_answers_calm o _ steps a ha]
      rw [if_neg hok, List.filter_cons_of_pos (by simp [hok]), hcalm]
      exact Nat.le_refl 1

end Supply

namespace TokenStream

theorem Shows.of_popped {s : TokenStream} {o : Supply} (h : s.Shows o) (n : Nat) :
    (s.popped n).Shows (o.drop n) := by
  induction n generalizing s o with
  | zero => rwa [Supply.drop_zero]
  | succ n ih =>
    rw [popped, Nat.add_comm, ← Supply.drop_drop]
    exact ih h.of_pop.2

/-- Looking gathers the first elements and takes none of them. -/
theorem Shows.of_peek {s : TokenStream} {o : Supply} (h : s.Shows o) (n : Nat) :
    (s.peek n).1 = (List.range' 0 n).mapM o.element ∧
      (s.peek n).2.Shows (if (s.peek n).1.isOk then o else o.calm) := by
  have hfill := h.of_fill (n - s.waiting.length)
  rcases hr : fill (n - s.waiting.length) s with ⟨r, s'⟩
  rw [hr] at hfill
  rcases hfill with ⟨hok, hs, hlen⟩ | ⟨e, he, hs, hf, hle, hlt⟩
  · cases hok
    have hpeek : s.peek n = (.ok (s'.waiting.take n), s') := by simp only [peek, hr]
    have htake : (s'.waiting.take n).length = n := by
      rw [List.length_take]
      simp only at hlen
      omega
    have hmap : (List.range' 0 (s'.waiting.take n).length).mapM o.element =
        .ok (s'.waiting.take n) := by
      refine Supply.mapM_element_of_ok fun j hj => ?_
      rw [Nat.zero_add, List.getElem_take]
      exact hs.waiting j _
    rw [htake] at hmap
    rw [hpeek]
    exact ⟨hmap.symm, hs⟩
  · cases he
    have hpeek : s.peek n = (.error e, s') := by simp only [peek, hr]
    rw [hpeek]
    exact ⟨(Supply.mapM_element_of_error hf (Nat.zero_le _) (by omega)).symm, hs⟩

/-- A step on a stream that shows the elements from an index on is answered from them, and the
stream then shows those from the next index on. A failure takes the fault away. -/
theorem Shows.of_perform {s : TokenStream} {o : Supply} {i : Nat} (h : s.Shows (o.drop i))
    (step : Step) :
    (s.perform step).1 = o.answer i step ∧
      (s.perform step).2.Shows
        ((if (o.answer i step).isOk then o else o.calm).drop (o.after i step)) := by
  cases step with
  | pop =>
    obtain ⟨hanswer, hshows⟩ := h.of_pop
    rw [Supply.element_drop, Nat.add_zero] at hanswer
    rw [Supply.drop_drop] at hshows
    refine ⟨by rw [perform, hanswer]; rfl, ?_⟩
    rw [Supply.ite_calm_drop]
    · exact hshows
    · intro hfails
      rw [Supply.answer, Supply.isOk_map] at hfails
      have hi : i = o.lexemes.length := by
        by_cases hi : i = o.lexemes.length
        · exact hi
        · simp [Supply.isOk_element_of_ne hi] at hfails
      simp only [Supply.after]
      omega
  | peek n =>
    obtain ⟨hanswer, hshows⟩ := h.of_peek n
    rw [Supply.mapM_element_drop, Nat.add_zero] at hanswer
    rw [hanswer] at hshows
    refine ⟨hanswer, ?_⟩
    have hcalm : ∀ ok : Bool, (if ok then o.drop i else (o.drop i).calm) =
        (if ok then o else o.calm).drop i := by
      intro ok
      cases ok <;> simp
    rw [hcalm] at hshows
    exact hshows
  | drain =>
    obtain ⟨hanswer, hshows⟩ := h.of_drain
    rw [Supply.drop_drop, Supply.lexemes_drop, List.length_drop] at hshows
    refine ⟨by rw [perform, hanswer]; rfl, ?_⟩
    have hafter : o.after i .drain = i + (o.lexemes.length - i + 1) := by
      simp only [Supply.after]
      omega
    rw [Supply.ite_calm_drop (by omega), hafter]
    exact hshows

/-- Every run of steps is answered by the elements. -/
theorem Shows.of_run {s : TokenStream} {o : Supply} {i : Nat} (h : s.Shows (o.drop i))
    (steps : List Step) : s.run steps = o.answers i steps := by
  induction steps generalizing s o i with
  | nil => rfl
  | cons step steps ih =>
    obtain ⟨hanswer, hshows⟩ := h.of_perform step
    rw [run, Supply.answers, hanswer, ih hshows]

/-- What a text supplies is what taking its tokens over and over gives, and the steps of every run
are answered from it, each from the index that the steps before it lead to. A step fails exactly
if an error is among the elements it reaches, and at most one step of a run fails. -/
theorem run_ofText (source : String) :
    (∀ i, ((ofText source).popped i).pop.1 = (Supply.ofText source).element i) ∧
    (∀ steps, (ofText source).run steps = (Supply.ofText source).answers 0 steps) ∧
    (∀ i step, ((Supply.ofText source).answer i step).isOk = true ↔
      ∀ j, i ≤ j → j < (Supply.ofText source).reach i step →
        ((Supply.ofText source).element j).isOk = true) ∧
    (∀ steps, (((ofText source).run steps).filter fun a => !a.isOk).length ≤ 1) := by
  have hshows : (ofText source).Shows ((Supply.ofText source).drop 0) := by
    rw [Supply.drop_zero]
    exact shows_ofText source
  refine ⟨fun i => ?_, hshows.of_run, (Supply.ofText source).isOk_answer, fun steps => ?_⟩
  · have hpop := (hshows.of_popped i).of_pop.1
    rwa [Supply.drop_zero, Supply.element_drop, Nat.add_zero] at hpop
  · rw [hshows.of_run]
    exact (Supply.ofText source).failures_answers_le 0 steps

end TokenStream
end ChordRules
