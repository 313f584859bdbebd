import ChordRules.Proofs.Text.Utf8

/-! # The order of texts

Texts are ordered character by character. Any way of writing characters down by rows of numbers that
are in the order of the characters, whatever follows them, gives the same order of texts
(`flatMap_lt_flatMap_iff`). Code points do, and so do the bytes of UTF-8, whose first byte tells how
many there are and whose continuation bytes are digits to the base 64. -/
namespace ChordRules

/-- The first row comes before the second, whatever follows either of them. -/
def Precedes [LT β] (bs cs : List β) : Prop := ∀ xs ys, bs ++ xs < cs ++ ys

section Precedes

variable [LT β] {b c : β} {bs cs : List β}

theorem precedes_cons (h : b < c) (bs cs : List β) : Precedes (b :: bs) (c :: cs) :=
  fun _ _ => List.Lex.rel h

theorem precedes_concat (h : b < c) (bs : List β) : Precedes (bs ++ [b]) (bs ++ [c]) := by
  intro xs ys
  rw [List.append_assoc, List.append_assoc]
  exact List.append_left_lt (List.Lex.rel h)

theorem Precedes.append (h : Precedes bs cs) (bs' cs' : List β) :
    Precedes (bs ++ bs') (cs ++ cs') := by
  intro xs ys
  rw [List.append_assoc, List.append_assoc]
  exact h (bs' ++ xs) (cs' ++ ys)

end Precedes

theorem flatMap_lt_flatMap [LT β] {f : Char → List β} (hne : ∀ c, f c ≠ [])
    (hf : ∀ {c d}, c < d → Precedes (f c) (f d)) {cs ds : List Char} (h : cs < ds) :
    cs.flatMap f < ds.flatMap f := by
  induction h with
  | @nil d ds =>
    obtain ⟨b, bs, hb⟩ := List.exists_cons_of_ne_nil (hne d)
    rw [List.flatMap_nil, List.flatMap_cons, hb]
    exact .nil
  | rel h =>
    rw [List.flatMap_cons, List.flatMap_cons]
    exact hf h _ _
  | cons _ ih =>
    rw [List.flatMap_cons, List.flatMap_cons]
    exact List.append_left_lt ih

/-- Rows in the order of the characters are in the order of the texts. -/
theorem flatMap_lt_flatMap_iff [LT β] [Std.Asymm (α := β) (· < ·)] {f : Char → List β}
    (hne : ∀ c, f c ≠ []) (hf : ∀ {c d}, c < d → Precedes (f c) (f d)) {s t : String} :
    s.toList.flatMap f < t.toList.flatMap f ↔ s < t := by
  constructor
  · intro h
    by_cases hlt : s < t
    · exact hlt
    · rcases List.le_iff_lt_or_eq.1 (String.not_lt.1 hlt) with hgt | heq
      · exact absurd h (List.lt_asymm (flatMap_lt_flatMap hne hf hgt))
      · rw [heq] at h
        exact absurd h (List.lt_irrefl _)
  · exact flatMap_lt_flatMap hne hf

/-- Texts are in the order of their code points. -/
theorem codePoints_lt_iff {s t : String} :
    s.toList.map Char.toNat < t.toList.map Char.toNat ↔ s < t := by
  rw [List.map_eq_flatMap, List.map_eq_flatMap]
  refine flatMap_lt_flatMap_iff (fun c => List.cons_ne_nil _ _) fun h => ?_
  exact precedes_cons (UInt32.lt_iff_toNat_lt.1 h) [] []

/-- What of the number goes into the first byte if `k` bytes follow. -/
def leadBits : Nat → Nat → Nat
  | 0, n => n
  | k + 1, n => leadBits k (n / 64)

/-- A first byte, marked by `lead`, and `k` bytes with a digit to the base 64 each. -/
def byteRow (lead : Nat) : Nat → Nat → List UInt8
  | 0, n => [UInt8.ofNat (n + lead)]
  | k + 1, n => byteRow lead k (n / 64) ++ [UInt8.ofNat (n % 64 + 128)]

theorem exists_byteRow (lead k n : Nat) :
    ∃ bs, byteRow lead k n = UInt8.ofNat (leadBits k n + lead) :: bs := by
  induction k generalizing n with
  | zero => exact ⟨[], rfl⟩
  | succ k ih =>
    obtain ⟨bs, hbs⟩ := ih (n / 64)
    exact ⟨bs ++ [UInt8.ofNat (n % 64 + 128)], by rw [byteRow, hbs, leadBits, List.cons_append]⟩

theorem ofNat_lt_ofNat {m n : Nat} (h : m < n) (hn : n < 256) : UInt8.ofNat m < UInt8.ofNat n := by
  have hm : m < 256 := Nat.lt_trans h hn
  rwa [UInt8.lt_iff_toNat_lt, UInt8.toNat_ofNat_of_lt' hm, UInt8.toNat_ofNat_of_lt' hn]

/-- Rows with as many bytes are in the order of the numbers. -/
theorem byteRow_precedes {lead k m n : Nat} (h : m < n) (hn : leadBits k n + lead < 256) :
    Precedes (byteRow lead k m) (byteRow lead k n) := by
  induction k generalizing m n with
  | zero =>
    have hmn : m + lead < n + lead := by omega
    exact precedes_cons (ofNat_lt_ofNat hmn hn) [] []
  | succ k ih =>
    rw [byteRow, byteRow]
    have hdigits : m / 64 < n / 64 ∨ m / 64 = n / 64 ∧ m % 64 < n % 64 := by omega
    rcases hdigits with hlt | ⟨heq, hlt⟩
    · exact (ih hlt hn).append _ _
    · rw [heq]
      exact precedes_concat (ofNat_lt_ofNat (by omega) (by omega)) _

def byteShape (n : Nat) : Nat × Nat :=
  if n ≤ 0x7f then (0, 0)
  else if n ≤ 0x7ff then (0xc0, 1)
  else if n ≤ 0xffff then (0xe0, 2)
  else (0xf0, 3)

theorem val_lt (c : Char) : c.val.toNat < 0x110000 := by
  have hvalid : c.toNat < 0xd800 ∨ 0xdfff < c.toNat ∧ c.toNat < 0x110000 := c.valid
  have hval : c.val.toNat = c.toNat := rfl
  omega

theorem utf8EncodeChar_eq_byteRow (c : Char) :
    String.utf8EncodeChar c =
      byteRow (byteShape c.val.toNat).1 (byteShape c.val.toNat).2 c.val.toNat := by
  have hlt := val_lt c
  rw [String.utf8EncodeChar, byteShape]
  generalize c.val.toNat = n at hlt ⊢
  split
  · rfl
  · split
    · have hlead : n / 64 % 0x20 = n / 64 := by omega
      simp [byteRow, hlead]
    · split
      · have hlead : n / 4096 % 0x10 = n / 64 / 64 := by omega
        simp [byteRow, hlead]
      · have hlead : n / 262144 % 0x08 = n / 64 / 64 / 64 := by omega
        have hnext : n / 4096 = n / 64 / 64 := by omega
        simp [byteRow, hlead, hnext]

/-- The first byte of a character with more bytes is the greater one. -/
theorem utf8EncodeChar_precedes {c d : Char} (h : c < d) :
    Precedes (String.utf8EncodeChar c) (String.utf8EncodeChar d) := by
  have hlt : c.val.toNat < d.val.toNat := UInt32.lt_iff_toNat_lt.1 h
  have hd := val_lt d
  rw [utf8EncodeChar_eq_byteRow, utf8EncodeChar_eq_byteRow]
  generalize c.val.toNat = m at hlt
  generalize d.val.toNat = n at hlt hd
  have hbyte : leadBits (byteShape n).2 n + (byteShape n).1 < 256 := by
    unfold byteShape
    repeat' split
    all_goals simp only [leadBits]; omega
  by_cases hshape : byteShape m = byteShape n
  · rw [hshape]
    exact byteRow_precedes hlt hbyte
  · obtain ⟨bs, hbs⟩ := exists_byteRow (byteShape m).1 (byteShape m).2 m
    obtain ⟨cs, hcs⟩ := exists_byteRow (byteShape n).1 (byteShape n).2 n
    have hlead : leadBits (byteShape m).2 m + (byteShape m).1 <
        leadBits (byteShape n).2 n + (byteShape n).1 := by
      revert hshape
      unfold byteShape
      repeat' split
      all_goals simp only [leadBits, not_true, false_implies]
      all_goals omega
    rw [hbs, hcs]
    exact precedes_cons (ofNat_lt_ofNat hlead hbyte) bs cs

/-- Texts are in the order of their bytes. -/
theorem utf8Bytes_lt_iff {s t : String} : utf8Bytes s < utf8Bytes t ↔ s < t := by
  rw [utf8Bytes_eq, utf8Bytes_eq]
  exact flatMap_lt_flatMap_iff (fun _ => String.utf8EncodeChar_ne_nil) utf8EncodeChar_precedes

/-- What stands in front of both texts does not matter. -/
theorem append_lt_append_iff {p s t : String} : p ++ s < p ++ t ↔ s < t := by
  change (p ++ s).toList < (p ++ t).toList ↔ s.toList < t.toList
  rw [String.toList_append, String.toList_append]
  induction p.toList with
  | nil => rfl
  | cons c cs ih => rw [List.cons_append, List.cons_append, List.cons_lt_cons_self, ih]

end ChordRules
