import ChordRules.Text.Utf8

/-! # Texts and the bytes that spell them

The bytes of a text are those of its characters, one after the other, and decoding undoes this.
Line feeds are bytes of their own, so a text has one exactly where its bytes have one, and whether a
line spells a text does not depend on the line feed that ends it. Lines end at line feeds, so a text
can be followed line by line (`line_induction`), and `byteLines` cuts it there. -/
namespace ChordRules

theorem toList_byteArray (bytes : ByteArray) : bytes.toList = bytes.data.toList := by
  have hloop : ∀ (i : Nat) (front : List UInt8),
      ByteArray.toList.loop bytes i front = front.reverse ++ bytes.data.toList.drop i := by
    intro i front
    induction i, front using ByteArray.toList.loop.induct bytes with
    | case1 i front hi ih =>
      have hlt : i < bytes.data.toList.length := hi
      have hget : bytes.get! i = bytes.data.toList[i] := by
        rw [ByteArray.get!, getElem!_pos bytes.data i hi, Array.getElem_toList]
      rw [ByteArray.toList.loop, if_pos hi, ih, List.reverse_cons, List.append_assoc, hget,
        List.singleton_append, List.getElem_cons_drop]
    | case2 i front hi =>
      have hle : bytes.data.toList.length ≤ i := Nat.le_of_not_lt hi
      rw [ByteArray.toList.loop, if_neg hi, List.drop_eq_nil_of_le hle, List.append_nil]
  rw [ByteArray.toList, hloop]
  rfl

theorem toByteArray_eq (s : String) :
    s.toByteArray = (s.toList.flatMap String.utf8EncodeChar).toByteArray :=
  String.utf8Encode_toList.symm

theorem utf8Bytes_eq_data (s : String) : utf8Bytes s = s.toByteArray.data.toList := by
  rw [utf8Bytes, toList_byteArray, String.toUTF8_eq_toByteArray]

theorem utf8Bytes_eq (s : String) : utf8Bytes s = s.toList.flatMap String.utf8EncodeChar := by
  rw [utf8Bytes_eq_data, toByteArray_eq, List.data_toByteArray]

/-- Bytes spell exactly the text whose characters they encode. -/
theorem decodeUtf8?_eq_some_iff {bytes : List UInt8} {s : String} :
    decodeUtf8? bytes = some s ↔ s.toList.flatMap String.utf8EncodeChar = bytes := by
  have hbytes : (⟨bytes.toArray⟩ : ByteArray) = bytes.toByteArray :=
    ByteArray.ext List.data_toByteArray.symm
  rw [decodeUtf8?, String.fromUTF8?, hbytes, ← List.toByteArray_inj, ← toByteArray_eq]
  constructor
  · intro h
    split at h
    · cases h
      rfl
    · cases h
  · intro h
    rw [← h, dif_pos s.isValidUTF8]
    rfl

/-- A text is what its bytes spell. -/
@[simp] theorem decodeUtf8?_utf8Bytes (s : String) : decodeUtf8? (utf8Bytes s) = some s := by
  rw [decodeUtf8?_eq_some_iff, utf8Bytes_eq]

@[simp] theorem utf8Bytes_append (s t : String) :
    utf8Bytes (s ++ t) = utf8Bytes s ++ utf8Bytes t := by
  rw [utf8Bytes_eq, utf8Bytes_eq, utf8Bytes_eq, String.toList_append, List.flatMap_append]

/-- A character is its only byte, or it has several, with the highest bit set in each. -/
theorem utf8EncodeChar_cases (c : Char) :
    (∃ b, String.utf8EncodeChar c = [b] ∧ Char.ofNat b.toNat = c) ∨
      ∀ b ∈ String.utf8EncodeChar c, 128 ≤ b := by
  have hhigh : ∀ n : Nat, 128 ≤ n → n < 256 → 128 ≤ UInt8.ofNat n := by
    intro n hlow hlt
    rw [UInt8.le_iff_toNat_le, UInt8.toNat_ofNat_of_lt' hlt]
    exact hlow
  rw [String.utf8EncodeChar]
  split
  · next hc =>
    refine .inl ⟨_, rfl, ?_⟩
    have hnat : (UInt8.ofNat c.val.toNat).toNat = c.toNat := Nat.mod_eq_of_lt (by omega)
    rw [hnat, Char.ofNat_toNat]
  · refine .inr ?_
    repeat' split
    all_goals
      simp (disch := omega) only [List.mem_cons, List.not_mem_nil, or_false, forall_eq_or_imp,
        forall_eq, hhigh, and_self]

/-- A text whose bytes are all below 128 has these bytes for characters. -/
theorem toList_of_lt {s : String} (h : ∀ b ∈ utf8Bytes s, b < 128) :
    s.toList = (utf8Bytes s).map fun b => Char.ofNat b.toNat := by
  rw [utf8Bytes_eq] at h ⊢
  generalize s.toList = cs at h ⊢
  induction cs with
  | nil => rfl
  | cons c cs ih =>
    rw [List.flatMap_cons] at h ⊢
    rcases utf8EncodeChar_cases c with ⟨b, hb, hc⟩ | hhigh
    · rw [List.map_append, ← ih fun b hb => h b (List.mem_append_right _ hb), hb,
        List.map_singleton, hc, List.singleton_append]
    · obtain ⟨b, bs, hbs⟩ := List.exists_cons_of_ne_nil (String.utf8EncodeChar_ne_nil (c := c))
      have hmem : b ∈ String.utf8EncodeChar c := hbs ▸ List.mem_cons_self
      exact absurd (h b (List.mem_append_left _ hmem)) (UInt8.not_lt.2 (hhigh b hmem))

/-- Only the line feed is encoded by bytes with a line feed among them. -/
theorem eq_lineFeed_of_mem {c : Char} (h : 10 ∈ String.utf8EncodeChar c) : c = '\n' := by
  rcases utf8EncodeChar_cases c with ⟨b, hb, rfl⟩ | hhigh
  · rw [hb, List.mem_singleton] at h
    subst h
    rfl
  · exact absurd (hhigh 10 h) (by decide)

/-- A text without a line feed has none among its bytes. -/
theorem lineFeed_not_mem_utf8Bytes {s : String} (h : '\n' ∉ s.toList) : 10 ∉ utf8Bytes s := by
  rw [utf8Bytes_eq, List.mem_flatMap]
  rintro ⟨c, hc, hbyte⟩
  rw [eq_lineFeed_of_mem hbyte] at hc
  exact h hc

/-- A line feed at the end of bytes is one at the end of the text. -/
theorem decodeUtf8?_concat_lineFeed (line : List UInt8) :
    decodeUtf8? (line ++ [10]) = (decodeUtf8? line).map (· ++ "\n") := by
  cases h : decodeUtf8? line with
  | some s =>
    rw [decodeUtf8?_eq_some_iff] at h
    rw [Option.map_some, decodeUtf8?_eq_some_iff, String.toList_append, List.flatMap_append, h]
    rfl
  | none =>
    rw [Option.map_none, Option.eq_none_iff_forall_ne_some]
    intro s hs
    rw [decodeUtf8?_eq_some_iff] at hs
    rcases List.eq_nil_or_concat s.toList with hnil | ⟨cs, c, hconcat⟩
    · simp [hnil] at hs
    · rw [hconcat, List.concat_eq_append, List.flatMap_append, List.flatMap_singleton] at hs
      have hlast : (String.utf8EncodeChar c).getLast? = some 10 := by
        have hend := congrArg List.getLast? hs
        rw [List.getLast?_append, List.getLast?_concat] at hend
        rw [List.getLast?_eq_some_getLast String.utf8EncodeChar_ne_nil] at hend ⊢
        exact hend
      obtain rfl : c = '\n' := eq_lineFeed_of_mem (List.mem_of_getLast? hlast)
      have hline : cs.flatMap String.utf8EncodeChar = line := List.append_inj_left' hs rfl
      have hspelt : decodeUtf8? line = some (String.ofList cs) := by
        rw [decodeUtf8?_eq_some_iff, String.toList_ofList, hline]
      rw [h] at hspelt
      cases hspelt


/-- Induction over a text by its lines: the last one, and a line with its line feed before
others. -/
@[elab_as_elim]
theorem line_induction {motive : List UInt8 → Prop}
    (last : ∀ line, 10 ∉ line → motive line)
    (line : ∀ line rest, 10 ∉ line → motive rest → motive (line ++ 10 :: rest))
    (bytes : List UInt8) : motive bytes := by
  suffices h : ∀ begun, 10 ∉ begun → motive (begun ++ bytes) from h [] List.not_mem_nil
  induction bytes with
  | nil => simpa using last
  | cons b bytes ih =>
    intro begun hbegun
    by_cases hb : b = 10
    · subst hb
      exact line begun bytes hbegun (ih [] List.not_mem_nil)
    · have hmore : 10 ∉ begun ++ [b] := by simp [hbegun, Ne.symm hb]
      simpa using ih (begun ++ [b]) hmore

theorem byteLines_cons {b : UInt8} {rest line : List UInt8} {lines : List (List UInt8)}
    (hb : b ≠ 10) (h : byteLines rest = line :: lines) :
    byteLines (b :: rest) = (b :: line) :: lines := by
  rw [byteLines, if_neg hb, h]

/-- Bytes up to the first line feed are one line, and the others follow. -/
theorem byteLines_line {line : List UInt8} (h : 10 ∉ line) (rest : List UInt8) :
    byteLines (line ++ 10 :: rest) = (line ++ [10]) :: byteLines rest := by
  induction line with
  | nil => rw [List.nil_append, byteLines, if_pos rfl, List.nil_append]
  | cons b line ih =>
    rw [List.mem_cons, not_or] at h
    exact byteLines_cons (Ne.symm h.1) (ih h.2)

/-- Bytes without a line feed are one line, if there are any. -/
theorem byteLines_last {line : List UInt8} (h : 10 ∉ line) :
    byteLines line = if line = [] then [] else [line] := by
  induction line with
  | nil => rfl
  | cons b line ih =>
    rw [List.mem_cons, not_or] at h
    rw [if_neg (List.cons_ne_nil b line)]
    cases line with
    | nil => rw [byteLines, if_neg (Ne.symm h.1), byteLines]
    | cons c line => exact byteLines_cons (Ne.symm h.1) (ih h.2)

/-- A place where a line begins: nothing stands before it, or a line feed right before it. -/
def EndsLine (bytes : List UInt8) : Prop := bytes = [] ∨ bytes.getLast? = some 10

/-- What begins a line is cut alike whatever stands before it. -/
theorem EndsLine.exists_splitOn {bytes : List UInt8} (h : EndsLine bytes) :
    ∃ lines, ∀ rest, (bytes ++ rest).splitOn 10 = lines ++ rest.splitOn 10 := by
  rcases h with rfl | h
  · exact ⟨[], fun rest => by simp⟩
  · obtain ⟨init, rfl⟩ := List.getLast?_eq_some_iff.1 h
    refine ⟨init.splitOn 10, fun rest => ?_⟩
    rw [List.append_assoc, List.singleton_append, List.splitOn_append_cons_self]

end ChordRules
