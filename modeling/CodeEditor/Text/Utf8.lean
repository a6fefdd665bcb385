/-! # Text as UTF-8 bytes -/

namespace CodeEditor.Text.Utf8

/-- The bytes of a text. -/
def encode (text : List Char) : List UInt8 := text.flatMap String.utf8EncodeChar

/-- How many bytes follow a lead byte, and which values the first of them may have. No other byte
starts a character. -/
def leadOf (b : UInt8) : Option (Nat × UInt8 × UInt8) :=
  if b < 0x80 then some (0, 0x80, 0xBF)
  else if b < 0xC2 then none
  else if b < 0xE0 then some (1, 0x80, 0xBF)
  else if b == 0xE0 then some (2, 0xA0, 0xBF)
  else if b == 0xED then some (2, 0x80, 0x9F)
  else if b < 0xF0 then some (2, 0x80, 0xBF)
  else if b == 0xF0 then some (3, 0x90, 0xBF)
  else if b < 0xF4 then some (3, 0x80, 0xBF)
  else if b == 0xF4 then some (3, 0x80, 0x8F)
  else none

/-- The bits that a lead byte carries, given how many bytes follow it. -/
def leadBits (b : UInt8) (following : Nat) : Nat :=
  match following with
  | 0 => b.toNat
  | 1 => b.toNat % 0x20
  | 2 => b.toNat % 0x10
  | _ => b.toNat % 0x08

/-- Reads a text from its bytes, given the character that has been begun: its bits so far, how many
bytes it still lacks, and the bounds of the next one. A malformed sequence ends at the first byte
that cannot continue it; `none` in the answer stands for such a sequence. -/
def chars (pending : Option (Nat × Nat × UInt8 × UInt8)) : List UInt8 → List (Option Char)
  | [] => if pending.isSome then [none] else []
  | b :: rest =>
    let begin (_ : Unit) :=
      match leadOf b with
      | none => none :: chars none rest
      | some (0, _, _) => some (Char.ofNat b.toNat) :: chars none rest
      | some (n, low, high) => chars (some (leadBits b n, n, low, high)) rest
    match pending with
    | none => begin ()
    | some (bits, lacking, low, high) =>
      if low ≤ b && b ≤ high then
        let bits := bits * 64 + b.toNat % 64
        if lacking ≤ 1 then some (Char.ofNat bits) :: chars none rest
        else chars (some (bits, lacking - 1, 0x80, 0xBF)) rest
      else none :: begin ()

/-- The text with these bytes, if they are well formed. -/
def decode? (bytes : List UInt8) : Option (List Char) :=
  (chars none bytes).mapM id

/-- The text with these bytes, U+FFFD standing for each malformed sequence. -/
def decodeLossy (bytes : List UInt8) : List Char :=
  (chars none bytes).map (·.getD (Char.ofNat 0xFFFD))

end CodeEditor.Text.Utf8
