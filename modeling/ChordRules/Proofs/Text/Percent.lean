import ChordRules.Proofs.Text.Utf8
import ChordRules.Text.Word
import ChordRules.Item.Address

/-! # Percent escapes read back

What a text is encoded as holds printable ASCII only, less the marks that mean something in an
address, and decoding gives back the bytes of the text (`percentDecode?_percentEncode`). Decoding is
strict: it refuses a percent sign that begins no escape. -/
namespace ChordRules

/-- Printable ASCII, less the blank and the marks that end a segment or may not stand in it. -/
def IsSegmentChar (c : Char) : Prop :=
  0x20 < c.toNat ∧ c.toNat < 0x7F ∧ c ∉ ['"', '#', '/', '<', '>', '?', '`', '{', '}']

instance (c : Char) : Decidable (IsSegmentChar c) :=
  inferInstanceAs (Decidable (_ ∧ _ ∧ _))

/-- The bytes that a segment stands for: an escape for one byte, and any other character of ASCII
for its own. -/
def percentDecode? : List Char → Option (List UInt8)
  | [] => some []
  | '%' :: h :: l :: rest => do
    let high ← hexDigitValue? h
    let low ← hexDigitValue? l
    return UInt8.ofNat (16 * high + low) :: (← percentDecode? rest)
  | c :: rest =>
    if c = '%' ∨ 0x80 ≤ c.toNat then none
    else (percentDecode? rest).map (UInt8.ofNat c.toNat :: ·)

theorem hexDigitValue?_upperHexDigit {n : Nat} (h : n < 16) :
    hexDigitValue? (upperHexDigit n) = some n := by
  revert n
  decide

theorem isSegmentChar_upperHexDigit {n : Nat} (h : n < 16) : IsSegmentChar (upperHexDigit n) := by
  revert n
  decide

/-- A byte that is not escaped is the code of a character of segments, and not the percent sign. -/
theorem percentByte_of_isSegmentByte {b : UInt8} (h : isSegmentByte b = true) :
    ∃ c, percentByte b = [c] ∧ IsSegmentChar c ∧ c ≠ '%' ∧ UInt8.ofNat c.toNat = b := by
  refine ⟨Char.ofNat b.toNat, by rw [percentByte, if_pos h], ?_⟩
  simp only [isSegmentByte, Bool.and_eq_true, decide_eq_true_eq, Bool.not_eq_true',
    UInt8.le_iff_toNat_le, UInt8.lt_iff_toNat_lt, ← Bool.not_eq_true, List.contains_iff_mem] at h
  obtain ⟨⟨hlow, hhigh⟩, hmarks⟩ := h
  have hlow : 0x20 ≤ b.toNat := hlow
  have hhigh : b.toNat < 0x7F := hhigh
  have hvalid : b.toNat.isValidChar := .inl (by omega)
  have hnat : (Char.ofNat b.toNat).toNat = b.toNat := by
    rw [Char.ofNat, dif_pos hvalid]
    rfl
  have hblank : b.toNat ≠ 0x20 := fun hb => hmarks (hb ▸ by decide)
  have hsub : ∀ c ∈ ['"', '#', '/', '<', '>', '?', '`', '{', '}'], c ∈ segmentMarks := by
    simp [segmentMarks]
  refine ⟨⟨?_, ?_, fun hc => hmarks (hsub _ hc)⟩, fun hc => hmarks (hc ▸ by decide), ?_⟩
  · rw [hnat]
    omega
  · rw [hnat]
    exact hhigh
  · rw [hnat, UInt8.ofNat_toNat]

theorem percentByte_of_not_isSegmentByte {b : UInt8} (h : ¬ isSegmentByte b = true) :
    ∃ high low, percentByte b = ['%', upperHexDigit high, upperHexDigit low] ∧
      high < 16 ∧ low < 16 ∧ UInt8.ofNat (16 * high + low) = b := by
  have hlt := b.toNat_lt
  refine ⟨b.toNat / 16, b.toNat % 16, by rw [percentByte, if_neg h], by omega, by omega, ?_⟩
  rw [Nat.div_add_mod, UInt8.ofNat_toNat]

theorem isSegmentChar_of_mem_percentByte {b : UInt8} : ∀ c ∈ percentByte b, IsSegmentChar c := by
  by_cases h : isSegmentByte b = true
  · obtain ⟨c, hb, hc, -⟩ := percentByte_of_isSegmentByte h
    rw [hb]
    exact List.forall_mem_singleton.2 hc
  · obtain ⟨high, low, hb, hhigh, hlow, -⟩ := percentByte_of_not_isSegmentByte h
    rw [hb]
    exact List.forall_mem_cons.2 ⟨by decide, List.forall_mem_cons.2
      ⟨isSegmentChar_upperHexDigit hhigh,
        List.forall_mem_singleton.2 (isSegmentChar_upperHexDigit hlow)⟩⟩

theorem percentDecode?_percentByte_append (b : UInt8) (cs : List Char) :
    percentDecode? (percentByte b ++ cs) = (percentDecode? cs).map (b :: ·) := by
  by_cases h : isSegmentByte b = true
  · obtain ⟨c, hb, hc, hpercent, rfl⟩ := percentByte_of_isSegmentByte h
    have hascii : ¬ (c = '%' ∨ 0x80 ≤ c.toNat) := by
      have := hc.2.1
      rintro (h | h)
      · exact hpercent h
      · omega
    rw [hb, List.singleton_append, percentDecode?, if_neg hascii]
    exact fun _ _ _ hc _ => hpercent hc
  · obtain ⟨high, low, hb, hhigh, hlow, rfl⟩ := percentByte_of_not_isSegmentByte h
    rw [hb, List.cons_append, List.cons_append, List.singleton_append, percentDecode?,
      hexDigitValue?_upperHexDigit hhigh, hexDigitValue?_upperHexDigit hlow]
    cases percentDecode? cs <;> rfl

theorem toList_percentEncode (s : String) :
    (percentEncode s).toList = (utf8Bytes s).flatMap percentByte := String.toList_ofList

theorem isSegmentChar_of_mem_percentEncode {s : String} {c : Char}
    (hc : c ∈ (percentEncode s).toList) : IsSegmentChar c := by
  rw [toList_percentEncode] at hc
  obtain ⟨b, -, hc⟩ := List.mem_flatMap.1 hc
  exact isSegmentChar_of_mem_percentByte c hc

/-- Decoding gives back the bytes of the text that was encoded. -/
theorem percentDecode?_percentEncode (s : String) :
    percentDecode? (percentEncode s).toList = some (utf8Bytes s) := by
  rw [toList_percentEncode]
  induction utf8Bytes s with
  | nil => rfl
  | cons b bytes ih => rw [List.flatMap_cons, percentDecode?_percentByte_append, ih, Option.map_some]

theorem percentEncode_injective : Function.Injective percentEncode := by
  intro s t h
  have hbytes : utf8Bytes s = utf8Bytes t := by
    have hs := percentDecode?_percentEncode s
    rw [h, percentDecode?_percentEncode] at hs
    exact (Option.some.inj hs).symm
  have hs := decodeUtf8?_utf8Bytes s
  rw [hbytes, decodeUtf8?_utf8Bytes] at hs
  exact (Option.some.inj hs).symm

theorem percentDecode?_escape_isSome {high low : Char} {rest : List Char} :
    (percentDecode? ('%' :: high :: low :: rest)).isSome ↔
      (hexDigitValue? high).isSome ∧ (hexDigitValue? low).isSome ∧ (percentDecode? rest).isSome := by
  rw [percentDecode?]
  cases hexDigitValue? high <;> cases hexDigitValue? low <;> cases percentDecode? rest <;> simp

theorem ne_percent_of_isSome {c : Char} (h : (hexDigitValue? c).isSome) : c ≠ '%' := by
  rintro rfl
  revert h
  decide

/-- Behind every percent sign of what can be decoded stand two hexadecimal digits. -/
theorem escape_of_percentDecode? {cs front rest : List Char} (h : (percentDecode? cs).isSome)
    (hcs : cs = front ++ '%' :: rest) :
    ∃ high low rest', rest = high :: low :: rest' ∧
      (hexDigitValue? high).isSome ∧ (hexDigitValue? low).isSome := by
  induction cs using percentDecode?.induct generalizing front with
  | case1 => simp at hcs
  | case2 high low cs ih =>
    obtain ⟨hhigh, hlow, hdecode⟩ := percentDecode?_escape_isSome.1 h
    match front with
    | [] =>
      obtain ⟨-, rfl⟩ := List.cons.inj hcs
      exact ⟨high, low, cs, rfl, hhigh, hlow⟩
    | [_] => exact absurd (List.cons.inj (List.cons.inj hcs).2).1 (ne_percent_of_isSome hhigh)
    | [_, _] =>
      have htail := (List.cons.inj (List.cons.inj hcs).2).2
      exact absurd (List.cons.inj htail).1 (ne_percent_of_isSome hlow)
    | _ :: _ :: _ :: front =>
      exact ih hdecode (List.cons.inj (List.cons.inj (List.cons.inj hcs).2).2).2
  | case3 c cs hnone hbad =>
    rw [percentDecode?, if_pos hbad] at h
    · cases h
    · exact hnone
  | case4 c cs hnone hgood ih =>
    rw [percentDecode?, if_neg hgood, Option.isSome_map] at h
    · cases front with
      | nil => exact absurd (.inl (List.cons.inj hcs).1) hgood
      | cons _ front => exact ih h (List.cons.inj hcs).2
    · exact hnone

end ChordRules
