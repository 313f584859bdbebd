import ChordRules.Key.Event
import ChordRules.Proofs.Text.Fields
import ChordRules.Proofs.Text.SignedNumeral

/-! # Lines that spell raw events

Blanks at either end of a line are trimmed before anything is looked at. What is left decides: a
line of blanks and a comment spell nothing, and are no mistake. Any other line spells an event just
if it is two fields, a code and a numeral for a number of 32 bits (`RawEvent.ofLine_reads`). One of
these lines is written for each event (`RawEvent.ofLine_line`). -/
namespace ChordRules

def IsBlankLine (line : String) : Prop := ∀ c ∈ line.toList, isBlank c = true

/-- A line whose first character that is not blank is a number sign. -/
def IsComment (line : String) : Prop :=
  ∃ blanks rest, line.toList = blanks ++ '#' :: rest ∧ ∀ c ∈ blanks, isBlank c = true

/-- A comment is told by what is left of it when blanks are trimmed. -/
theorem isComment_iff {line : String} :
    IsComment line ↔ (trimBlank line.toList).head? = some '#' := by
  rw [head?_trimBlank]
  constructor
  · rintro ⟨blanks, rest, hline, hblanks⟩
    rw [hline, List.dropWhile_append_of_pos hblanks]
    rfl
  · intro h
    obtain ⟨rest, hrest⟩ := List.head?_eq_some_iff.1 h
    refine ⟨line.toList.takeWhile isBlank, rest, ?_, fun c hc => List.mem_takeWhile_imp hc⟩
    rw [← hrest, List.takeWhile_append_dropWhile]

/-- A field that does not begin with a number sign makes a line neither blank nor a comment. -/
theorem IsField.not_skipped {line : String} {before front rest : List Char}
    (h : IsField front) (hhash : front.head? ≠ some '#') (hbefore : AllBlank before)
    (hline : line.toList = before ++ (front ++ rest)) :
    ¬ (IsBlankLine line ∨ IsComment line) := by
  have hhead : (trimBlank line.toList).head? = front.head? := by
    obtain ⟨c, cs, rfl⟩ := List.exists_cons_of_ne_nil h.ne_nil
    have hc : ¬ isBlank c = true := by simp [h.not_blank c]
    rw [head?_trimBlank, hline, List.dropWhile_append_of_pos hbefore, List.cons_append,
      List.dropWhile_cons_of_neg hc]
    rfl
  rintro (hblank | hcomment)
  · rw [trimBlank_eq_nil_iff.2 hblank] at hhead
    exact h.ne_nil (List.head?_eq_none_iff.1 hhead.symm)
  · rw [isComment_iff.1 hcomment] at hhead
    exact hhash hhead.symm

/-- What is looked at before the fields of a line. -/
theorem isBlankLine_or_isComment_iff {line : String} :
    ((trimBlank line.toList).isEmpty || (trimBlank line.toList).head? == some '#') = true ↔
      IsBlankLine line ∨ IsComment line := by
  rw [Bool.or_eq_true, List.isEmpty_iff, beq_iff_eq, trimBlank_eq_nil_iff, isComment_iff,
    IsBlankLine, AllBlank]

/-- `Spells line e`: the line is two fields, the event's code and a numeral for its value, and the
value has 32 bits. -/
def Spells (line : String) (e : RawEvent) : Prop :=
  ∃ numeral, TwoFields line.toList e.code.toList numeral ∧ IsNumeral numeral e.value ∧
    -2147483648 ≤ e.value ∧ e.value ≤ 2147483647

structure IsCode (code : String) : Prop where
  ne_empty : code.toList ≠ []
  not_blank : ∀ c ∈ code.toList, isBlank c = false
  not_comment : code.toList.head? ≠ some '#'

theorem IsCode.isField {code : String} (h : IsCode code) : IsField code.toList :=
  ⟨h.ne_empty, h.not_blank⟩

theorem inWord32_iff {i : Int} : inWord32 i = true ↔ -2147483648 ≤ i ∧ i ≤ 2147483647 := by
  rw [inWord32, Bool.and_eq_true, decide_eq_true_eq, decide_eq_true_eq]
  omega

/-- What a line spells is found by cutting it into fields. -/
theorem spells_iff {line : String} {e : RawEvent} :
    Spells line e ↔ ∃ numeral, fields line.toList = [e.code.toList, numeral] ∧
      (readSigned? numeral).filter inWord32 = some e.value := by
  simp only [Spells, fields_eq_pair_iff, Option.filter_eq_some_iff, readSigned?_eq_some_iff,
    inWord32_iff]

namespace RawEvent

/-- A line spells nothing, and is not malformed, exactly if it is blank or a comment. -/
theorem ofLine_eq_ok_none_iff {line : String} :
    ofLine line = .ok none ↔ IsBlankLine line ∨ IsComment line := by
  by_cases hskip : IsBlankLine line ∨ IsComment line
  · rw [ofLine, if_pos (isBlankLine_or_isComment_iff.2 hskip)]
    simp only [hskip]
  · rw [ofLine, if_neg (mt isBlankLine_or_isComment_iff.1 hskip)]
    simp only [hskip, iff_false]
    split
    · split <;> nofun
    · nofun

/-- Of the other lines, those that spell an event are read as it. -/
theorem ofLine_eq_ok_some_iff {line : String} {e : RawEvent} :
    ofLine line = .ok (some e) ↔ ¬ (IsBlankLine line ∨ IsComment line) ∧ Spells line e := by
  by_cases hskip : IsBlankLine line ∨ IsComment line
  · simp [ofLine_eq_ok_none_iff.2 hskip, hskip]
  · rw [ofLine, if_neg (mt isBlankLine_or_isComment_iff.1 hskip), fields_trimBlank, spells_iff,
      and_iff_right hskip]
    constructor
    · intro h
      split at h
      · next code value hfields =>
        split at h
        · next v hv =>
          cases h
          exact ⟨value, by rw [hfields, String.toList_ofList], hv⟩
        · cases h
      · cases h
    · rintro ⟨numeral, hfields, hv⟩
      simp only [hfields, hv, String.ofList_toList]

/-- A line feed at the end of a line makes no difference. -/
theorem ofLine_lineFeed (line : String) : ofLine (line ++ "\n") = ofLine line := by
  have htrim : trimBlank (line ++ "\n").toList = trimBlank line.toList := by
    rw [String.toList_append]
    exact trimBlank_concat (by decide) _
  rw [ofLine, ofLine, htrim]

/-- The code and the numeral of an event, with blanks between them and any blanks around, are read
as that event. -/
theorem ofLine_written {line : String} {e : RawEvent} {before between after : List Char}
    (hcode : IsCode e.code) (hvalue : -2147483648 ≤ e.value ∧ e.value ≤ 2147483647)
    (hbefore : AllBlank before) (hbetween : AllBlank between) (hne : between ≠ [])
    (hafter : AllBlank after)
    (hline : line.toList =
      before ++ (e.code.toList ++ (between ++ ((showInt e.value).toList ++ after)))) :
    ofLine line = .ok (some e) := by
  have hnumeral := isNumeral_showInt e.value
  have hfields : TwoFields line.toList e.code.toList (showInt e.value).toList :=
    ⟨before, between, after, hline, hbefore, hcode.isField, hbetween, hne,
      ⟨hnumeral.ne_nil, hnumeral.not_blank⟩, hafter⟩
  exact ofLine_eq_ok_some_iff.2 ⟨hcode.isField.not_skipped hcode.not_comment hbefore hline,
    _, hfields, hnumeral, hvalue⟩

def line (e : RawEvent) : String := e.code ++ " " ++ showInt e.value

/-- The line of an event of 32 bits spells that event. -/
theorem ofLine_line {e : RawEvent} (hcode : IsCode e.code) (hvalue : inWord32 e.value = true) :
    ofLine e.line = .ok (some e) := by
  have hblank : AllBlank [' '] := List.forall_mem_singleton.2 (by decide)
  have hnone : AllBlank [] := by simp [AllBlank]
  refine ofLine_written hcode (inWord32_iff.1 hvalue) hnone hblank (List.cons_ne_nil _ _) hnone ?_
  simp [line]

/-- Whatever is neither skipped nor spells an event is an error. -/
theorem exists_ofLine_eq_error_iff {line : String} :
    (∃ fault, ofLine line = .error fault) ↔
      ¬ (IsBlankLine line ∨ IsComment line) ∧ ∀ e, ¬ Spells line e := by
  constructor
  · rintro ⟨fault, hfault⟩
    have hskip : ¬ (IsBlankLine line ∨ IsComment line) := by
      intro hskip
      rw [ofLine_eq_ok_none_iff.2 hskip] at hfault
      cases hfault
    refine ⟨hskip, fun e hspells => ?_⟩
    rw [ofLine_eq_ok_some_iff.2 ⟨hskip, hspells⟩] at hfault
    cases hfault
  · rintro ⟨hskip, hspells⟩
    cases hline : ofLine line with
    | error fault => exact ⟨fault, rfl⟩
    | ok e? =>
      cases e? with
      | none => exact absurd (ofLine_eq_ok_none_iff.1 hline) hskip
      | some e => exact absurd (ofLine_eq_ok_some_iff.1 hline).2 (hspells e)

/-- A line is skipped exactly if it is blank or a comment, and read as an event exactly if it is
neither and spells that event; every other line is an error. So the code and the numeral of any
event of 32 bits, with blanks between them and any blanks around, are read as that event. -/
theorem ofLine_reads (line : String) :
    (ofLine line = .ok none ↔ IsBlankLine line ∨ IsComment line) ∧
    (∀ e, ofLine line = .ok (some e) ↔ ¬ (IsBlankLine line ∨ IsComment line) ∧ Spells line e) ∧
    ((∃ fault, ofLine line = .error fault) ↔
      ¬ (IsBlankLine line ∨ IsComment line) ∧ ∀ e, ¬ Spells line e) ∧
    ∀ e before between after, IsCode e.code → -2147483648 ≤ e.value ∧ e.value ≤ 2147483647 →
      AllBlank before → AllBlank between → between ≠ [] → AllBlank after →
      line.toList = before ++ (e.code.toList ++ (between ++ ((showInt e.value).toList ++ after))) →
      ofLine line = .ok (some e) := by
  refine ⟨ofLine_eq_ok_none_iff, fun e => ofLine_eq_ok_some_iff, exists_ofLine_eq_error_iff, ?_⟩
  intro e before between after hcode hvalue hbefore hbetween hne hafter hline
  exact ofLine_written hcode hvalue hbefore hbetween hne hafter hline

/-- So it is with the least value, a tab and a wide blank between the fields, and a code with a
number sign inside. One less is no value. -/
theorem ofLine_reads_least :
    ∃ line e before between after, line = " A#\t\u3000-2147483648\n" ∧ e = ⟨"A#", -2147483648⟩ ∧
      IsCode e.code ∧ AllBlank before ∧ AllBlank between ∧ between ≠ [] ∧ AllBlank after ∧
      line.toList =
        before ++ (e.code.toList ++ (between ++ ((showInt e.value).toList ++ after))) ∧
      ofLine line = .ok (some e) ∧
      ofLine "A# -2147483649" = .error (.badValue "-2147483649") ∧
      ∀ e, ¬ Spells "A# -2147483649" e := by
  have hlist : "A#".toList = ['A', '#'] := by decide +kernel
  have hblank : ∀ c ∈ "A#".toList, isBlank c = false := by
    rw [hlist]
    exact List.forall_mem_cons.2 ⟨by decide, List.forall_mem_singleton.2 (by decide)⟩
  have hcode : IsCode "A#" := ⟨by decide +kernel, hblank, by decide +kernel⟩
  have hbefore : AllBlank [' '] := List.forall_mem_singleton.2 (by decide)
  have hafter : AllBlank ['\n'] := List.forall_mem_singleton.2 (by decide)
  have hbetween : AllBlank ['\t', '\u3000'] :=
    List.forall_mem_cons.2 ⟨by decide, List.forall_mem_singleton.2 (by decide)⟩
  have hline : " A#\t\u3000-2147483648\n".toList = [' '] ++ ("A#".toList ++
      (['\t', '\u3000'] ++ ((showInt (-2147483648)).toList ++ ['\n']))) := by decide +kernel
  have hless : ofLine "A# -2147483649" = .error (.badValue "-2147483649") := by decide +kernel
  exact ⟨_, ⟨"A#", -2147483648⟩, _, _, _, rfl, rfl, hcode, hbefore, hbetween, by simp, hafter, hline,
    (ofLine_reads _).2.2.2 _ _ _ _ hcode (by decide) hbefore hbetween (by simp) hafter hline,
    hless, ((ofLine_reads _).2.2.1.1 ⟨_, hless⟩).2⟩

end RawEvent
end ChordRules
