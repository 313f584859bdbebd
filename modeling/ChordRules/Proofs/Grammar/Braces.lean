import ChordRules.Proofs.Grammar.Continuation
import Mathlib.Logic.Function.Iterate

/-! # Braces

The statements of a program are read between braces as they are read on their own, although other
texts stand behind them there (`Derives.blockRest_of_program`). So braces change nothing about what
they hold: braced texts one behind the other stand for the statements of both, and the body of an
`if` may be braced or bare. Main statement: `braces_transparent`. -/
namespace ChordRules

/-- Where a program ends, a brace may close it. -/
theorem Derives.blockRest_of_program {xs : List String} {ss : List Rule}
    (h : Derives .program xs ss []) (ys : List String) :
    Derives .blockRest (xs ++ "\x7d" :: ys) ss ys := by
  refine h.program_induction
    (motive := fun xs ss _ => Derives .blockRest (xs ++ "\x7d" :: ys) ss ys) .closed ?_
  intro xs zs _ ss ts first _ ih
  obtain ⟨front, rfl, hmoves⟩ := Derives.moves (p := .block) (by decide) _ _ _ first
  have hplace : InPlaceOf (zs ++ []) (zs ++ "\x7d" :: ys) :=
    (InPlaceOf.stopgap (by decide)).append zs
  rw [List.append_nil] at hplace
  rw [List.append_assoc]
  exact .more (hmoves _ hplace) ih

theorem Derives.braced_of_program {xs : List String} {ss : List Rule}
    (h : Derives .program xs ss []) (ys : List String) :
    Derives .block ("\x7b" :: (xs ++ "\x7d" :: ys)) ss ys :=
  .braced (h.blockRest_of_program ys)

/-- No program begins with `else`. -/
theorem Derives.program_head?_ne_else {xs : List String} {ss : List Rule}
    (h : Derives .program xs ss []) : xs.head? ≠ some "else" := by
  cases h with
  | noStatement => nofun
  | statements first _ =>
    exact first.head?_block (by decide) (by decide) (by decide) (by decide)

/-- A program of one statement that does not begin with a brace is that statement, and blocks that
hold none. -/
theorem Derives.bare_of_program {xs : List String} {ss : List Rule} {r : Rule}
    (h : Derives .program xs ss []) (hss : ss = [r]) (hhead : xs.head? ≠ some "\x7b") :
    ∃ ys, Derives .block xs [r] ys ∧ Derives .program ys [] [] := by
  cases h with
  | noStatement => cases hss
  | statements first rest =>
    cases first with
    | braced => exact absurd rfl hhead
    | bare h =>
      cases hss
      exact ⟨_, .bare h, rest⟩

theorem IsName.derives_condition {c : String} (hc : IsName c) (xs : List String) :
    Derives .expression (c :: ")" :: xs) (.symbol c) (")" :: xs) := by
  have hname : Derives .operand (c :: ")" :: xs) (.symbol c) (")" :: xs) :=
    (Word.name c hc).derives fun _ => by simp
  exact hname.expression_of_operand (by decide)

/-- A name in parentheses in front of the body of an `if`. -/
theorem IsName.derives_ifThen {c : String} (hc : IsName c) {xs ys : List String} {ss : List Rule}
    (body : Derives .block xs ss ys) (greedy : ys.head? ≠ some "else") :
    Derives .block ("if" :: "(" :: c :: ")" :: xs) [.ifThen (.symbol c) (.block ss)] ys :=
  .bare (.ifThen (hc.derives_condition xs) body greedy)

theorem IsName.laysOut_condition {c : String} (hc : IsName c) :
    LaysOut ("if (" ++ c ++ ")").toList ["if", "(", c, ")"] := by
  have hclose : LaysOut [')'] [")"] := .mark (by decide) .nil
  have hname : LaysOut (c.toList ++ [')']) [c, ")"] :=
    .text hc.isToken (head?_cons_not_isWordChar (by decide) []) hclose
  have hif : IsToken "if".toList [] := isToken_of_isPlainToken (by decide)
  have hcondition := LaysOut.spaced hif (.mark (by decide : isMark '(' = true) hname)
  simpa using hcondition

/-- The text in braces. The line feed ends a comment that the text may end in. -/
def braced (source : String) : String := "\x7b" ++ source ++ "\n\x7d"

/-- Text between braces, where more may stand in front of it and behind it. -/
theorem CutInto.between {cs ds : List Char} {xs ys : List String} (h : CutInto cs xs)
    (hd : CutInto ds ys) :
    CutInto ('\x7b' :: (cs ++ '\n' :: '\x7d' :: ds)) ("\x7b" :: (xs ++ "\x7d" :: ys)) :=
  (h.lineFeed (hd.mark (by decide : isMark '\x7d' = true))).mark (by decide)

/-- Braced texts on lines of their own stand for the statements of both. -/
theorem ofText_braced_braced {source₁ source₂ : String} {ss ts : List Rule}
    (h₁ : Rule.ofText source₁ = .ok (.block ss)) (h₂ : Rule.ofText source₂ = .ok (.block ts)) :
    Rule.ofText (braced source₁ ++ "\n" ++ braced source₂) = .ok (.block (ss ++ ts)) := by
  obtain ⟨xs, hxs, hss⟩ := ofText_eq_block_iff.1 h₁
  obtain ⟨ys, hys, hts⟩ := ofText_eq_block_iff.1 h₂
  have hcut := hxs.between ((hys.between .nil).blankBefore (by decide : isBlank '\n' = true))
  have hderives := Derives.statements (hss.braced_of_program _)
    (Derives.program_of_block (hts.braced_of_program []))
  exact ofText_eq_block_iff.2 ⟨_, by simpa [braced] using hcut, hderives⟩

/-- Braces around a whole program do not show in its tree. -/
theorem ofText_braced {source : String} {ss : List Rule}
    (h : Rule.ofText source = .ok (.block ss)) :
    Rule.ofText (braced source) = .ok (.block ss) := by
  obtain ⟨xs, hxs, hss⟩ := ofText_eq_block_iff.1 h
  have hcut := hxs.between .nil
  have hderives := Derives.program_of_block (hss.braced_of_program [])
  exact ofText_eq_block_iff.2 ⟨_, by simpa [braced] using hcut, hderives⟩

theorem ofText_iterate_braced {source : String} {r : Rule} (h : Rule.ofText source = .ok r)
    (n : Nat) : Rule.ofText (braced^[n] source) = .ok r := by
  obtain ⟨ss, rfl, -⟩ := isProgram_of_ofText h
  induction n with
  | zero => exact h
  | succ n ih =>
    rw [Function.iterate_succ_apply']
    exact ofText_braced ih

/-- A statement that does not begin with a brace may be the body of an `if` as it stands. -/
theorem ofText_ifThen_bare {source c : String} {r : Rule} (hc : IsName c)
    (h : Rule.ofText source = .ok (.block [r]))
    (hhead : (Tape.ofText source).texts.head? ≠ some "\x7b") :
    Rule.ofText ("if (" ++ c ++ ") " ++ source) =
      .ok (.block [.ifThen (.symbol c) (.block [r])]) := by
  obtain ⟨xs, hxs, hr⟩ := ofText_eq_block_iff.1 h
  rw [(cutInto_iff.1 hxs).2] at hhead
  obtain ⟨ys, hbody, hrest⟩ := hr.bare_of_program rfl hhead
  have hcut := CutInto.blank hc.laysOut_condition hxs
  have hderives := Derives.statements
    (hc.derives_ifThen hbody hrest.program_head?_ne_else) hrest
  exact ofText_eq_block_iff.2 ⟨_, by simpa using hcut, hderives⟩

/-- The body of an `if` in braces. -/
theorem ofText_ifThen_braced {source c : String} {ss : List Rule} (hc : IsName c)
    (h : Rule.ofText source = .ok (.block ss)) :
    Rule.ofText ("if (" ++ c ++ ") \x7b " ++ source ++ "\n\x7d") =
      .ok (.block [.ifThen (.symbol c) (.block ss)]) := by
  obtain ⟨xs, hxs, hss⟩ := ofText_eq_block_iff.1 h
  have hblank : CutInto (' ' :: source.toList) xs := hxs.blankBefore (by decide)
  have hcut := CutInto.blank hc.laysOut_condition (hblank.between .nil)
  have hif := hc.derives_ifThen (hss.braced_of_program []) nofun
  exact ofText_eq_block_iff.2 ⟨_, by simpa using hcut, Derives.program_of_block hif⟩

/-- Braces are transparent, and they isolate what they hold. Two programs in braces stand for the
statements of the first and then of the second, and braces around a whole program, as many as there
are, leave its tree as it is. Behind the condition of an `if`, a statement stands for the same with
braces and without, unless it begins with a brace itself. -/
theorem braces_transparent :
    (∀ source₁ source₂ ss ts, Rule.ofText source₁ = .ok (.block ss) →
      Rule.ofText source₂ = .ok (.block ts) →
      Rule.ofText (braced source₁ ++ "\n" ++ braced source₂) = .ok (.block (ss ++ ts))) ∧
    (∀ source r n, Rule.ofText source = .ok r → Rule.ofText (braced^[n] source) = .ok r) ∧
    (∀ source c r, Rule.ofText source = .ok (.block [r]) →
      (Tape.ofText source).texts.head? ≠ some "\x7b" → IsName c →
      Rule.ofText ("if (" ++ c ++ ") " ++ source) =
        .ok (.block [.ifThen (.symbol c) (.block [r])]) ∧
      Rule.ofText ("if (" ++ c ++ ") \x7b " ++ source ++ "\n\x7d") =
        .ok (.block [.ifThen (.symbol c) (.block [r])])) := by
  refine ⟨?_, ?_, ?_⟩
  · intro source₁ source₂ ss ts h₁ h₂
    exact ofText_braced_braced h₁ h₂
  · intro source r n h
    exact ofText_iterate_braced h n
  · intro source c r h hhead hc
    exact ⟨ofText_ifThen_bare hc h hhead, ofText_ifThen_braced hc h⟩

/-- The first text ends in a comment, and without the braces its `b` would be called with what the
second text holds. -/
theorem braces_transparent_comment :
    Rule.ofText "if (a) b # on" = .ok (.block [.ifThen (.symbol "a") (.block [.symbol "b"])]) ∧
      Rule.ofText (braced "if (a) b # on" ++ "\n" ++ braced "(c)") =
        .ok (.block [.ifThen (.symbol "a") (.block [.symbol "b"]), .symbol "c"]) ∧
      Rule.ofText (braced^[3] "(c)") = .ok (.block [.symbol "c"]) ∧
      Rule.ofText "if (d) (c)" = .ok (.block [.ifThen (.symbol "d") (.block [.symbol "c"])]) := by
  have htape₁ : Tape.ofText "if (a) b # on" =
      ⟨[⟨"if", ⟨1, 1⟩⟩, ⟨"(", ⟨1, 4⟩⟩, ⟨"a", ⟨1, 5⟩⟩, ⟨")", ⟨1, 6⟩⟩, ⟨"b", ⟨1, 8⟩⟩],
        .endOfInput ⟨1, 14⟩⟩ := by decide +kernel
  have htape₂ : Tape.ofText "(c)" =
      ⟨[⟨"(", ⟨1, 1⟩⟩, ⟨"c", ⟨1, 2⟩⟩, ⟨")", ⟨1, 3⟩⟩], .endOfInput ⟨1, 4⟩⟩ := by decide +kernel
  have h₁ : Rule.ofText "if (a) b # on" =
      .ok (.block [.ifThen (.symbol "a") (.block [.symbol "b"])]) := by
    rw [Rule.ofText, htape₁]
    rfl
  have h₂ : Rule.ofText "(c)" = .ok (.block [.symbol "c"]) := by
    rw [Rule.ofText, htape₂]
    rfl
  have hhead : (Tape.ofText "(c)").texts.head? ≠ some "\x7b" := by
    rw [htape₂]
    decide
  have hname : IsName "d" := nameFault?_eq_none_iff.1 (by decide)
  obtain ⟨htwo, hmany, hbody⟩ := braces_transparent
  exact ⟨h₁, htwo _ _ _ _ h₁ h₂, hmany _ _ 3 h₂, (hbody _ _ _ h₂ hhead hname).1⟩

end ChordRules
