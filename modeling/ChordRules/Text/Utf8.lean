/-! # UTF-8 bytes

Bytes are lists of `UInt8`. Strict decoding refuses a text with any ill-formed part; lenient
decoding puts one replacement character for each longest beginning of a character that is not
completed, and for each byte that begins none. -/
namespace ChordRules

def utf8Bytes (s : String) : List UInt8 := s.toUTF8.toList

/-- The bytes of the character of a code point. -/
def charBytes (n : Nat) : List UInt8 := String.utf8EncodeChar (Char.ofNat n)

def decodeUtf8? (bytes : List UInt8) : Option String :=
  String.fromUTF8? ⟨bytes.toArray⟩

/-- A character of which some bytes have been read: how many are missing, the range of the next
one, and the bits so far. -/
structure PendingChar where
  missing : Nat
  low : Nat
  high : Nat
  bits : Nat

/-- What a byte gives where a character may begin: finished characters, and one left pending. -/
def beginChar (b : Nat) : List Char × Option PendingChar :=
  if b < 0x80 then ([Char.ofNat b], none)
  else if b < 0xC2 then (['\uFFFD'], none)
  else if b < 0xE0 then ([], some ⟨1, 0x80, 0xBF, b % 32⟩)
  else if b < 0xF0 then
    ([], some ⟨2, if b = 0xE0 then 0xA0 else 0x80, if b = 0xED then 0x9F else 0xBF, b % 16⟩)
  else if b < 0xF5 then
    ([], some ⟨3, if b = 0xF0 then 0x90 else 0x80, if b = 0xF4 then 0x8F else 0xBF, b % 8⟩)
  else (['\uFFFD'], none)

def decodeFrom : Option PendingChar → List UInt8 → List Char
  | none, [] => []
  | some _, [] => ['\uFFFD']
  | none, b :: rest => (beginChar b.toNat).1 ++ decodeFrom (beginChar b.toNat).2 rest
  | some p, b :: rest =>
    let n := b.toNat
    if p.low ≤ n ∧ n ≤ p.high then
      let bits := p.bits * 64 + n % 64
      if p.missing ≤ 1 then Char.ofNat bits :: decodeFrom none rest
      else decodeFrom (some ⟨p.missing - 1, 0x80, 0xBF, bits⟩) rest
    else '\uFFFD' :: (beginChar n).1 ++ decodeFrom (beginChar n).2 rest

def decodeLenient (bytes : List UInt8) : String := String.ofList (decodeFrom none bytes)

/-- The lines of a text, each with the line feed that ends it; the last may lack it. -/
def byteLines : List UInt8 → List (List UInt8)
  | [] => []
  | b :: rest =>
    if b = 10 then [b] :: byteLines rest
    else match byteLines rest with
      | [] => [[b]]
      | line :: lines => (b :: line) :: lines

end ChordRules
