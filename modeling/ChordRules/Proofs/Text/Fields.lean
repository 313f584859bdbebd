import ChordRules.Text.Word
import Mathlib.Data.List.Induction
import Mathlib.Data.List.TakeWhile

/-! # Trimmed texts and the fields in them

Fields are the longest pieces of a text without a blank. They are told here by what stands around
them, blanks or an end of the text, which settles all fields of a text from the first to the last
(`fields_eq_nil_iff`, `fields_eq_cons_iff`). Trimming takes no field away (`fields_trimBlank`). -/
namespace ChordRules

def AllBlank (cs : List Char) : Prop := ∀ c ∈ cs, isBlank c = true

/-- Trimming leaves the first character that is not blank in front. -/
theorem head?_trimBlank (cs : List Char) :
    (trimBlank cs).head? = (cs.dropWhile isBlank).head? := by
  rw [trimBlank]
  cases h : cs.dropWhile isBlank with
  | nil => rfl
  | cons c rest =>
    have hc : isBlank c = false := by
      have hhead := List.head?_dropWhile_not isBlank cs
      simpa [h] using hhead
    rw [List.reverse_cons, List.dropWhile_append]
    split
    · simp [hc]
    · simp

theorem trimBlank_eq_nil_iff {cs : List Char} : trimBlank cs = [] ↔ AllBlank cs := by
  rw [← List.head?_eq_none_iff, head?_trimBlank, List.head?_eq_none_iff, List.dropWhile_eq_nil_iff,
    AllBlank]

/-- A blank at the end of a line makes no difference. -/
theorem trimBlank_concat {c : Char} (hc : isBlank c = true) (cs : List Char) :
    trimBlank (cs ++ [c]) = trimBlank cs := by
  rw [trimBlank, trimBlank, List.dropWhile_append]
  split
  · next h =>
    rw [List.isEmpty_iff] at h
    simp [h, hc]
  · simp [hc]

structure IsField (cs : List Char) : Prop where
  ne_nil : cs ≠ []
  not_blank : ∀ c ∈ cs, isBlank c = false

theorem fields_cons_blank {c : Char} (hc : isBlank c = true) (cs : List Char) :
    fields (c :: cs) = fields cs := by
  rw [fields, fieldsFrom, if_pos hc]
  rfl

/-- Blanks in front make no difference. -/
theorem AllBlank.fields_append {blanks : List Char} (h : AllBlank blanks) (cs : List Char) :
    fields (blanks ++ cs) = fields cs := by
  induction blanks with
  | nil => rfl
  | cons c blanks ih =>
    obtain ⟨hc, hblanks⟩ := List.forall_mem_cons.1 h
    rw [List.cons_append, fields_cons_blank hc, ih hblanks]

theorem fieldsFrom_append {front : List Char} (h : ∀ c ∈ front, isBlank c = false)
    (begun rest : List Char) :
    fieldsFrom begun (front ++ rest) = fieldsFrom (front.reverse ++ begun) rest := by
  induction front generalizing begun with
  | nil => rfl
  | cons c front ih =>
    have hc : ¬ isBlank c = true := by simp [h c]
    rw [List.cons_append, fieldsFrom, if_neg hc, ih fun d hd => h d (List.mem_cons_of_mem c hd)]
    simp

/-- A field ends where a blank or the end of the text follows. -/
theorem IsField.fields_append {front rest : List Char} (h : IsField front)
    (hrest : ∀ c ∈ rest.head?, isBlank c = true) : fields (front ++ rest) = front :: fields rest := by
  have hne : (front.reverse ++ []).isEmpty = false := by simp [h.ne_nil]
  rw [fields, fieldsFrom_append h.not_blank]
  cases rest with
  | nil => simp [fieldsFrom, h.ne_nil, fields]
  | cons c rest =>
    have hc : isBlank c = true := hrest c rfl
    rw [fields_cons_blank hc, fieldsFrom, if_pos hc, hne, List.append_nil, List.reverse_reverse]
    rfl

/-- A text is blank, or begins with a field behind blanks. -/
theorem exists_field (cs : List Char) :
    AllBlank cs ∨ ∃ blanks front rest, cs = blanks ++ (front ++ rest) ∧ AllBlank blanks ∧
      IsField front ∧ ∀ c ∈ rest.head?, isBlank c = true := by
  cases h : cs.dropWhile isBlank with
  | nil => exact .inl (List.dropWhile_eq_nil_iff.1 h)
  | cons c ds =>
    have hc : isBlank c = false := by
      have hhead := List.head?_dropWhile_not isBlank cs
      simpa [h] using hhead
    refine .inr ⟨cs.takeWhile isBlank, (c :: ds).takeWhile (!isBlank ·),
      (c :: ds).dropWhile (!isBlank ·), ?_, fun d hd => List.mem_takeWhile_imp hd, ?_, ?_⟩
    · rw [List.takeWhile_append_dropWhile, ← h, List.takeWhile_append_dropWhile]
    · refine ⟨by simp [hc], fun d hd => ?_⟩
      simpa using List.mem_takeWhile_imp hd
    · intro d hd
      have hhead := List.head?_dropWhile_not (!isBlank ·) (c :: ds)
      rw [Option.mem_def.1 hd] at hhead
      simpa using hhead

theorem fields_eq_nil_iff {cs : List Char} : fields cs = [] ↔ AllBlank cs := by
  constructor
  · intro h
    rcases exists_field cs with hblank | ⟨blanks, front, rest, rfl, hblanks, hfront, hrest⟩
    · exact hblank
    · rw [hblanks.fields_append, hfront.fields_append hrest] at h
      cases h
  · intro h
    rw [← List.append_nil cs, h.fields_append]
    rfl

theorem fields_eq_cons_iff {cs front : List Char} {more : List (List Char)} :
    fields cs = front :: more ↔
      ∃ blanks rest, cs = blanks ++ (front ++ rest) ∧ AllBlank blanks ∧ IsField front ∧
        (∀ c ∈ rest.head?, isBlank c = true) ∧ fields rest = more := by
  constructor
  · intro h
    rcases exists_field cs with hblank | ⟨blanks, front', rest, rfl, hblanks, hfront, hrest⟩
    · rw [fields_eq_nil_iff.2 hblank] at h
      cases h
    · rw [hblanks.fields_append, hfront.fields_append hrest] at h
      cases h
      exact ⟨blanks, rest, rfl, hblanks, hfront, hrest, rfl⟩
  · rintro ⟨blanks, rest, rfl, hblanks, hfront, hrest, rfl⟩
    rw [hblanks.fields_append, hfront.fields_append hrest]

/-- Two fields, with blanks between them and any blanks around. -/
def TwoFields (cs first second : List Char) : Prop :=
  ∃ before between after, cs = before ++ (first ++ (between ++ (second ++ after))) ∧
    AllBlank before ∧ IsField first ∧ AllBlank between ∧ between ≠ [] ∧ IsField second ∧
    AllBlank after

theorem AllBlank.head? {cs : List Char} (h : AllBlank cs) : ∀ c ∈ cs.head?, isBlank c = true :=
  fun c hc => h c (List.mem_of_head? hc)

/-- There must be blanks between two fields, or the first would go on. -/
theorem fields_eq_pair_iff {cs first second : List Char} :
    fields cs = [first, second] ↔ TwoFields cs first second := by
  constructor
  · intro h
    obtain ⟨before, rest, rfl, hbefore, hfirst, hrest, h⟩ := fields_eq_cons_iff.1 h
    obtain ⟨between, after, rfl, hbetween, hsecond, -, h⟩ := fields_eq_cons_iff.1 h
    refine ⟨before, between, after, rfl, hbefore, hfirst, hbetween, ?_, hsecond,
      fields_eq_nil_iff.1 h⟩
    rintro rfl
    obtain ⟨c, cs, rfl⟩ := List.exists_cons_of_ne_nil hsecond.ne_nil
    have hc := hsecond.not_blank c List.mem_cons_self
    rw [hrest c rfl] at hc
    cases hc
  · rintro ⟨before, between, after, rfl, hbefore, hfirst, hbetween, hne, hsecond, hafter⟩
    obtain ⟨c, blanks, rfl⟩ := List.exists_cons_of_ne_nil hne
    have hhead : ∀ d ∈ (c :: blanks ++ (second ++ after)).head?, isBlank d = true :=
      hbetween.head?
    rw [hbefore.fields_append, hfirst.fields_append hhead, hbetween.fields_append,
      hsecond.fields_append hafter.head?, fields_eq_nil_iff.2 hafter]

theorem fields_dropWhile_isBlank (cs : List Char) : fields (cs.dropWhile isBlank) = fields cs := by
  have hblanks : AllBlank (cs.takeWhile isBlank) := fun c hc => List.mem_takeWhile_imp hc
  rw [← hblanks.fields_append, List.takeWhile_append_dropWhile]

theorem fieldsFrom_concat_blank {c : Char} (hc : isBlank c = true) (begun cs : List Char) :
    fieldsFrom begun (cs ++ [c]) = fieldsFrom begun cs := by
  induction cs generalizing begun with
  | nil => by_cases h : begun.isEmpty <;> simp [fieldsFrom, hc, h]
  | cons d cs ih => simp only [List.cons_append, fieldsFrom, ih]

/-- Trimming takes no field away and shortens none. -/
theorem fields_trimBlank (cs : List Char) : fields (trimBlank cs) = fields cs := by
  have hend : ∀ ds : List Char, fields (ds.reverse.dropWhile isBlank).reverse = fields ds := by
    intro ds
    induction ds using List.reverseRecOn with
    | nil => rfl
    | append_singleton ds d ih =>
      rw [List.reverse_append, List.reverse_singleton, List.singleton_append]
      by_cases hd : isBlank d = true
      · rw [List.dropWhile_cons_of_pos hd, ih, fields, fields, fieldsFrom_concat_blank hd]
      · rw [List.dropWhile_cons_of_neg hd, List.reverse_cons, List.reverse_reverse]
  rw [trimBlank, hend, fields_dropWhile_isBlank]

end ChordRules
