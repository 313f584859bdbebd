import ChordRules.Proofs.Text.Numeral
import ChordRules.Text.Quoted

/-! # Quoted text told apart

What a character is quoted as ends where it ends: no other beginning of a row is the quotation of
another character. So different texts are quoted differently (`quote_injective`), and none over more
than one line. -/
namespace ChordRules

/-- Rows joined from pieces are the same only if the pieces are, when each piece can be told from
the others at the front of any row. -/
theorem flatMap_cancel {α β : Type} {f : α → List β} {as bs : List α} (hne : ∀ a, f a ≠ [])
    (hf : ∀ a ∈ as, ∀ b ∈ bs, ∀ xs ys, f a ++ xs = f b ++ ys → a = b ∧ xs = ys)
    (h : as.flatMap f = bs.flatMap f) : as = bs := by
  induction as generalizing bs with
  | nil =>
    cases bs with
    | nil => rfl
    | cons b bs => exact absurd (List.append_eq_nil_iff.1 h.symm).1 (hne b)
  | cons a as ih =>
    cases bs with
    | nil => exact absurd (List.append_eq_nil_iff.1 h).1 (hne a)
    | cons b bs =>
      rw [List.flatMap_cons, List.flatMap_cons] at h
      obtain ⟨rfl, hrest⟩ := hf a List.mem_cons_self b List.mem_cons_self _ _ h
      rw [ih (fun a ha b hb => hf a (List.mem_cons_of_mem _ ha) b (List.mem_cons_of_mem _ hb)) hrest]

/-- What stands before the first of some character, and what behind it. -/
theorem append_cons_cancel {α : Type} {c : α} {as bs xs ys : List α} (ha : c ∉ as) (hb : c ∉ bs)
    (h : as ++ c :: xs = bs ++ c :: ys) : as = bs ∧ xs = ys := by
  induction as generalizing bs with
  | nil =>
    cases bs with
    | nil => exact ⟨rfl, (List.cons.inj h).2⟩
    | cons b bs => exact absurd ((List.cons.inj h).1 ▸ List.mem_cons_self) hb
  | cons a as ih =>
    cases bs with
    | nil => exact absurd ((List.cons.inj h).1 ▸ List.mem_cons_self) ha
    | cons b bs =>
      obtain ⟨rfl, hrest⟩ := List.cons.inj h
      obtain ⟨rfl, rfl⟩ := ih (List.not_mem_of_not_mem_cons ha) (List.not_mem_of_not_mem_cons hb) hrest
      exact ⟨rfl, rfl⟩

theorem hexDigitValue?_hexDigit {n : Nat} (h : n < 16) : hexDigitValue? (hexDigit n) = some n := by
  revert n
  decide

theorem readHex?_hexDigits (n : Nat) : readHex? (hexDigits n) = some n := by
  induction n using Nat.strongRecOn with
  | _ n ih =>
    rw [hexDigits]
    split
    · next h => simp [readHex?, hexDigitValue?_hexDigit h]
    · next h =>
      have hfront : readHex? (hexDigits (n / 16)) = some (n / 16) := ih _ (by omega)
      rw [readHex?] at hfront ⊢
      rw [List.foldlM_append, hfront]
      have hlast := hexDigitValue?_hexDigit (show n % 16 < 16 by omega)
      simp [hlast, Nat.div_add_mod]

theorem exists_hexDigit_of_mem {c : Char} {n : Nat} (hc : c ∈ hexDigits n) :
    ∃ k < 16, c = hexDigit k := by
  induction n using Nat.strongRecOn with
  | _ n ih =>
    rw [hexDigits] at hc
    split at hc
    · next h => exact ⟨n, h, List.mem_singleton.1 hc⟩
    · next h =>
      rcases List.mem_append.1 hc with hc | hc
      · exact ih _ (by omega) hc
      · exact ⟨n % 16, by omega, List.mem_singleton.1 hc⟩

/-- Neither the brace behind the digits nor a line feed is one of them. -/
theorem not_mem_hexDigits (n : Nat) : '}' ∉ hexDigits n ∧ '\n' ∉ hexDigits n := by
  have hdigit : ∀ k < 16, hexDigit k ≠ '}' ∧ hexDigit k ≠ '\n' := by decide
  constructor
  · intro hc
    obtain ⟨k, hk, heq⟩ := exists_hexDigit_of_mem hc
    exact (hdigit k hk).1 heq.symm
  · intro hc
    obtain ⟨k, hk, heq⟩ := exists_hexDigit_of_mem hc
    exact (hdigit k hk).2 heq.symm

def shortEscapes : List (Char × Char) :=
  [('\x00', '0'), ('\t', 't'), ('\r', 'r'), ('\n', 'n'), ('"', '"'), ('\\', '\\')]

inductive QuotedAs (c : Char) : List Char → Prop
  | short {x : Char} (h : (c, x) ∈ shortEscapes) : QuotedAs c ['\\', x]
  | long : QuotedAs c ('\\' :: 'u' :: '{' :: (hexDigits c.toNat ++ ['}']))
  | plain (h : ∀ p ∈ shortEscapes, p.1 ≠ c) : QuotedAs c [c]

theorem quotedAs_quoteChar (c : Char) : QuotedAs c (quoteChar c) := by
  by_cases hshort : ∃ x, (c, x) ∈ shortEscapes
  · obtain ⟨x, hx⟩ := hshort
    have hescape : quoteChar c = ['\\', x] := by
      simp only [shortEscapes, List.mem_cons, Prod.mk.injEq, List.not_mem_nil, or_false] at hx
      rcases hx with ⟨rfl, rfl⟩ | ⟨rfl, rfl⟩ | ⟨rfl, rfl⟩ | ⟨rfl, rfl⟩ | ⟨rfl, rfl⟩ | ⟨rfl, rfl⟩ <;> rfl
    rw [hescape]
    exact .short hx
  · have hne : ∀ p ∈ shortEscapes, p.1 ≠ c := by
      rintro ⟨d, x⟩ hp rfl
      exact hshort ⟨x, hp⟩
    simp only [shortEscapes, List.forall_mem_cons] at hne
    obtain ⟨h₀, ht, hr, hn, hq, hb, -⟩ := hne
    rw [quoteChar, if_neg h₀.symm, if_neg ht.symm, if_neg hr.symm, if_neg hn.symm, if_neg hq.symm,
      if_neg hb.symm]
    split
    · exact .long
    · exact .plain fun p hp heq => hshort ⟨p.2, heq ▸ hp⟩

theorem QuotedAs.ne_nil {c : Char} {cs : List Char} (h : QuotedAs c cs) : cs ≠ [] := by
  cases h <;> exact List.cons_ne_nil _ _

/-- A quoted character is known wherever it stands in front. -/
theorem QuotedAs.cancel {c d : Char} {cs ds xs ys : List Char} (hc : QuotedAs c cs)
    (hd : QuotedAs d ds) (h : cs ++ xs = ds ++ ys) : c = d ∧ xs = ys := by
  have hdistinct : ∀ p ∈ shortEscapes, ∀ q ∈ shortEscapes, p.2 = q.2 → p = q := by decide
  have hnot : ∀ p ∈ shortEscapes, p.2 ≠ 'u' := by decide
  have hbackslash : ('\\', '\\') ∈ shortEscapes := by decide
  cases hc with
  | @short x hx =>
    cases hd with
    | @short y hy =>
      obtain ⟨hxy, hrest⟩ := List.cons.inj (List.cons.inj h).2
      exact ⟨congrArg Prod.fst (hdistinct _ hx _ hy hxy), hrest⟩
    | long => exact absurd (List.cons.inj (List.cons.inj h).2).1 (hnot _ hx)
    | plain hy => exact absurd (List.cons.inj h).1 (hy _ hbackslash)
  | long =>
    cases hd with
    | short hy => exact absurd (List.cons.inj (List.cons.inj h).2).1.symm (hnot _ hy)
    | long =>
      have hdigits : (hexDigits c.toNat ++ ['}']) ++ xs = (hexDigits d.toNat ++ ['}']) ++ ys :=
        (List.cons.inj (List.cons.inj (List.cons.inj h).2).2).2
      rw [List.append_assoc, List.append_assoc] at hdigits
      obtain ⟨hhex, hrest⟩ :=
        append_cons_cancel (not_mem_hexDigits _).1 (not_mem_hexDigits _).1 hdigits
      have hnat : c.toNat = d.toNat := by
        have hread := readHex?_hexDigits c.toNat
        rw [hhex, readHex?_hexDigits] at hread
        exact (Option.some.inj hread).symm
      exact ⟨Char.toNat_inj.1 hnat, hrest⟩
    | plain hy => exact absurd (List.cons.inj h).1 (hy _ hbackslash)
  | plain hx =>
    cases hd with
    | short | long => exact absurd (List.cons.inj h).1.symm (hx _ hbackslash)
    | plain => exact List.cons.inj h

theorem QuotedAs.lineFeed_not_mem {c : Char} {cs : List Char} (h : QuotedAs c cs) : '\n' ∉ cs := by
  have hshort : ∀ p ∈ shortEscapes, '\n' ∉ ['\\', p.2] := by decide
  have hlineFeed : ('\n', 'n') ∈ shortEscapes := by decide
  cases h with
  | short h => exact hshort _ h
  | long => simp [(not_mem_hexDigits c.toNat).2]
  | plain h =>
    rw [List.mem_singleton]
    exact h _ hlineFeed

theorem toList_quote (s : String) : (quote s).toList = '"' :: (s.toList.flatMap quoteChar ++ ['"']) := by
  rw [quote, String.toList_ofList]
  rfl

/-- Different texts are quoted differently. -/
theorem quote_injective : Function.Injective quote := by
  intro s t h
  have hlist := congrArg String.toList h
  rw [toList_quote, toList_quote] at hlist
  have hbody := List.append_cancel_right (List.cons.inj hlist).2
  exact String.toList_inj.1 (flatMap_cancel (fun c => (quotedAs_quoteChar c).ne_nil)
    (fun c _ d _ _ _ => (quotedAs_quoteChar c).cancel (quotedAs_quoteChar d)) hbody)

/-- A quoted text is on one line. -/
theorem lineFeed_not_mem_quote (s : String) : '\n' ∉ (quote s).toList := by
  rw [toList_quote]
  simp [fun c => (quotedAs_quoteChar c).lineFeed_not_mem]

end ChordRules
