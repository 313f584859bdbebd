import ChordRules.HostFunctions
import Mathlib.Data.List.Infix

/-! # What a format is filled in with

A format is thought of as segments: literal texts, in which every percent sign is written twice, and
directives. Filling in undoes the writing and puts arguments in the places of the directives, each
once and as it is: a percent sign in an argument or behind an escaped one begins nothing
(`formatMessage_format`). -/
namespace ChordRules

inductive Directive where
  | string | decimal
  deriving DecidableEq, Repr

def Directive.letter : Directive → Char
  | string => 's'
  | decimal => 'd'

theorem Directive.isDirective_letter (k : Directive) : isDirective k.letter = true := by
  cases k <;> rfl

inductive Segment where
  | literal (text : String)
  | directive (k : Directive)
  deriving DecidableEq, Repr

namespace Segment

def written : Segment → List Char
  | literal text => text.toList.flatMap fun c => if c = '%' then ['%', '%'] else [c]
  | directive k => ['%', k.letter]

def format (segments : List Segment) : String := String.ofList (segments.flatMap written)

def isDirective : Segment → Bool
  | literal _ => false
  | directive _ => true

/-- What becomes of a segment, given the argument for it, if there is one. -/
def shown (argument? : Option Value) : Segment → String
  | literal text => text
  | directive k =>
    match argument? with
    | some v => v.render
    | none => String.ofList ['%', k.letter]

/-- The segments with the arguments put in. Which argument is for a directive, the number of
directives before it tells. -/
def filled (segments : List Segment) (arguments : List Value) : String :=
  String.join (segments.mapIdx fun i segment =>
    segment.shown arguments[(segments.take i).countP isDirective]?)

theorem filled_literal (text : String) (segments : List Segment) (vs : List Value) :
    filled (literal text :: segments) vs = text ++ filled segments vs := by
  simp [filled, List.mapIdx_cons, isDirective, shown]

theorem filled_directive (k : Directive) (segments : List Segment) (vs : List Value) :
    filled (directive k :: segments) vs = (directive k).shown vs[0]? ++ filled segments vs.tail := by
  simp [filled, List.mapIdx_cons, List.countP_cons, isDirective]

end Segment

/-- Only a percent sign is more than itself. -/
theorem fillIn_cons_of_ne {c : Char} (hc : c ≠ '%') (rest : List Char) (vs : List Value) :
    fillIn (c :: rest) vs = c :: fillIn rest vs := by
  rw [fillIn]
  · exact fun _ h _ => hc h
  · exact fun _ _ h _ => hc h

/-- Doubled percent signs come out as single ones, whatever stands behind them. -/
theorem fillIn_literal (cs rest : List Char) (vs : List Value) :
    fillIn ((cs.flatMap fun c => if c = '%' then ['%', '%'] else [c]) ++ rest) vs =
      cs ++ fillIn rest vs := by
  induction cs with
  | nil => rfl
  | cons c cs ih =>
    by_cases hc : c = '%'
    · subst hc
      simp [fillIn, ih]
    · simp [hc, fillIn_cons_of_ne hc, ih]

/-- A directive takes the first argument that is left, or stays if none is. -/
theorem fillIn_directive (k : Directive) (rest : List Char) (vs : List Value) :
    fillIn ('%' :: k.letter :: rest) vs =
      ((Segment.directive k).shown vs[0]?).toList ++ fillIn rest vs.tail := by
  have hk : k.letter ≠ '%' := by cases k <;> decide
  cases vs with
  | nil =>
    rw [fillIn, if_pos k.isDirective_letter]
    · simp [Segment.shown]
    · exact hk
  | cons v vs =>
    rw [fillIn, if_pos k.isDirective_letter]
    · rfl
    · exact hk

/-- A format is filled in segment by segment. -/
theorem fillIn_written (segments : List Segment) (vs : List Value) :
    fillIn (segments.flatMap Segment.written) vs = (Segment.filled segments vs).toList := by
  induction segments generalizing vs with
  | nil => rfl
  | cons segment segments ih =>
    rw [List.flatMap_cons]
    cases segment with
    | literal text =>
      rw [Segment.written, fillIn_literal, ih, Segment.filled_literal, String.toList_append]
    | directive k =>
      rw [Segment.written, List.cons_append, List.singleton_append, fillIn_directive, ih,
        Segment.filled_directive, String.toList_append]

/-- A percent sign that begins nothing stays. -/
theorem fillIn_percent {cs : List Char}
    (h : ∀ c ∈ cs.head?, c ≠ '%' ∧ isDirective c = false) (vs : List Value) :
    fillIn ('%' :: cs) vs = '%' :: fillIn cs vs := by
  cases cs with
  | nil => simp [fillIn]
  | cons c cs =>
    obtain ⟨hpercent, hdirective⟩ := h c rfl
    cases vs <;> simp [fillIn, hpercent, hdirective]

/-- A message without directives stays as it is. -/
theorem fillIn_of_not_infix {cs : List Char} (h : ∀ c ∈ ['%', 's', 'd'], ¬ ['%', c] <:+: cs)
    (vs : List Value) : fillIn cs vs = cs := by
  induction cs with
  | nil => rfl
  | cons c cs ih =>
    have hcs : fillIn cs vs = cs :=
      ih fun d hd hin => h d hd (hin.trans (List.suffix_cons c cs).isInfix)
    by_cases hc : c = '%'
    · subst hc
      have hhead : ∀ d ∈ cs.head?, d ≠ '%' ∧ isDirective d = false := by
        intro d hd
        obtain ⟨rest, rfl⟩ := List.head?_eq_some_iff.1 (Option.mem_def.1 hd)
        have hno : d ∉ ['%', 's', 'd'] := fun hmem => h d hmem ⟨[], rest, rfl⟩
        simpa [isDirective] using hno
      rw [fillIn_percent hhead, hcs]
    · rw [fillIn_cons_of_ne hc, hcs]

/-- The format of any segments is filled in with every literal as it is, and with every directive
replaced by the argument of its number or left as it is where there is none; nothing else of the
arguments counts. A format in which no percent sign stands before another one or before the letter
of a directive stays as it is. -/
theorem formatMessage_format (arguments : List Value) :
    (∀ segments : List Segment,
      formatMessage (Segment.format segments) arguments = Segment.filled segments arguments) ∧
    ∀ format : String, (∀ c ∈ ['%', 's', 'd'], ¬ ['%', c] <:+: format.toList) →
      formatMessage format arguments = format := by
  constructor
  · intro segments
    rw [formatMessage, Segment.format, String.toList_ofList, fillIn_written, String.ofList_toList]
  · intro format h
    rw [formatMessage, fillIn_of_not_infix h, String.ofList_toList]

/-- So it is with an escaped sign before the letter of a directive, with directives in an argument,
and with more directives than arguments. -/
theorem formatMessage_format_escaped :
    ∃ segments : List Segment, ∃ arguments : List Value,
      segments = [.literal "%s", .directive .string, .literal "%", .directive .decimal,
        .directive .string] ∧
      arguments = [.text "%d%s", .number 7] ∧
      Segment.format segments = "%%s%s%%%d%s" ∧
      formatMessage "%%s%s%%%d%s" arguments = "%s%d%s%7%s" ∧
      (∀ c ∈ ['%', 's', 'd'], ¬ ['%', c] <:+: "50% off %".toList) ∧
      formatMessage "50% off %" arguments = "50% off %" := by
  let segments : List Segment :=
    [.literal "%s", .directive .string, .literal "%", .directive .decimal, .directive .string]
  let arguments : List Value := [.text "%d%s", .number 7]
  have hformat : Segment.format segments = "%%s%s%%%d%s" := by decide +kernel
  have hfilled : Segment.filled segments arguments = "%s%d%s%7%s" := by decide +kernel
  have hno : ∀ c ∈ ['%', 's', 'd'], ¬ ['%', c] <:+: "50% off %".toList :=
    List.forall_mem_cons.2 ⟨by decide +kernel,
      List.forall_mem_cons.2 ⟨by decide +kernel, List.forall_mem_singleton.2 (by decide +kernel)⟩⟩
  obtain ⟨hsegments, hsame⟩ := formatMessage_format arguments
  have hmessage := hsegments segments
  rw [hformat, hfilled] at hmessage
  exact ⟨segments, arguments, rfl, rfl, hformat, hmessage, hno, hsame "50% off %" hno⟩

end ChordRules
