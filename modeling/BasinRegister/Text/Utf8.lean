/-!
# UTF-8

Texts as bytes. A decoder reads any bytes: it gives a character for each well-formed sequence and a gap for each
longest start of one that does not go on as it should. A strict reader refuses gaps, a lenient one writes a
replacement for them.
-/

namespace BasinRegister.Text

/-- The bytes of a text. -/
def utf8Bytes (s : String) : List UInt8 :=
  s.toList.flatMap String.utf8EncodeChar

/-- A sequence of which some bytes are still to come. -/
structure Utf8Pending where
  /-- How many bytes are to come. -/
  missing : Nat
  /-- The least value of the next byte. -/
  low : Nat
  /-- The greatest value of the next byte. -/
  high : Nat
  /-- The bits read so far. -/
  bits : Nat

/-- What a byte begins. -/
inductive Utf8Start where
  /-- A character of one byte. -/
  | char (c : Char)
  /-- A longer sequence. -/
  | pending (p : Utf8Pending)
  /-- Nothing. -/
  | bad

/-- What a byte begins. The range of the second byte excludes overlong forms, surrogates and values beyond the last
code point. -/
def utf8Start (b : UInt8) : Utf8Start :=
  let n := b.toNat
  if n < 0x80 then .char (Char.ofNat n)
  else if n < 0xC2 then .bad
  else if n < 0xE0 then .pending ⟨1, 0x80, 0xBF, n - 0xC0⟩
  else if n < 0xF0 then
    .pending ⟨2, if n = 0xE0 then 0xA0 else 0x80, if n = 0xED then 0x9F else 0xBF, n - 0xE0⟩
  else if n < 0xF5 then
    .pending ⟨3, if n = 0xF0 then 0x90 else 0x80, if n = 0xF4 then 0x8F else 0xBF, n - 0xF0⟩
  else .bad

/-- The characters of bytes, with a gap for each ill-formed part. -/
def utf8Decode : Option Utf8Pending → List UInt8 → List (Option Char)
  | none, [] => []
  | some _, [] => [none]
  | none, b :: bs =>
    match utf8Start b with
    | .char c => some c :: utf8Decode none bs
    | .pending p => utf8Decode (some p) bs
    | .bad => none :: utf8Decode none bs
  | some p, b :: bs =>
    if p.low ≤ b.toNat && b.toNat ≤ p.high then
      let bits := p.bits * 64 + (b.toNat - 0x80)
      if p.missing = 1 then some (Char.ofNat bits) :: utf8Decode none bs
      else utf8Decode (some ⟨p.missing - 1, 0x80, 0xBF, bits⟩) bs
    else
      match utf8Start b with
      | .char c => none :: some c :: utf8Decode none bs
      | .pending q => none :: utf8Decode (some q) bs
      | .bad => none :: none :: utf8Decode none bs

/-- The text of bytes that are well-formed. -/
def utf8Strict (bs : List UInt8) : Option String :=
  ((utf8Decode none bs).mapM id).map String.ofList

/-- The text of bytes, with U+FFFD for each ill-formed part. -/
def utf8Lenient (bs : List UInt8) : String :=
  String.ofList ((utf8Decode none bs).map (·.getD '\uFFFD'))

end BasinRegister.Text
