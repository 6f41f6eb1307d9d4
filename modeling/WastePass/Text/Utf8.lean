/-!
# UTF-8 — texts as bytes, and bytes as texts

    Bytes are read as a sequence of characters and of gaps, a gap being a stretch that
    writes no character. Reading strictly accepts bytes without gaps only; reading
    leniently puts one replacement character in the place of each gap. Both go through
    `decode`, so they agree wherever both give a text.
-/

namespace WastePass.Text

/-- A sequence of bytes. -/
abbrev Bytes := List UInt8

namespace Utf8

/-- The bytes of a text. -/
def encode (text : String) : Bytes :=
  text.toList.flatMap String.utf8EncodeChar

/-- A character of which some bytes have been read: how many are missing after the next one,
    the bits so far, and the bounds of the next byte. -/
structure Partial where
  more : Nat
  bits : Nat
  low : Nat
  high : Nat
  deriving DecidableEq, Repr

/-- The bounds of a byte that goes on with a character, as a rule. -/
def follow (more bits : Nat) : Partial := ⟨more, bits, 0x80, 0xBF⟩

/-- What the first byte of a longer character says. The bounds on the second byte keep
    out forms that are longer than needed, surrogates, and numbers beyond the last
    code point. -/
def lead? (b : Nat) : Option Partial :=
  if 0xC2 ≤ b ∧ b ≤ 0xDF then some (follow 0 (b - 0xC0))
  else if b = 0xE0 then some ⟨1, 0, 0xA0, 0xBF⟩
  else if b = 0xED then some ⟨1, 13, 0x80, 0x9F⟩
  else if 0xE1 ≤ b ∧ b ≤ 0xEF then some (follow 1 (b - 0xE0))
  else if b = 0xF0 then some ⟨2, 0, 0x90, 0xBF⟩
  else if 0xF1 ≤ b ∧ b ≤ 0xF3 then some (follow 2 (b - 0xF0))
  else if b = 0xF4 then some ⟨2, 4, 0x80, 0x8F⟩
  else none

/-- What a byte at the beginning of a character gives: what has been read with it, gaps
    as `none`, and the character it leaves open. -/
def enter (b : Nat) : List (Option Char) × Option Partial :=
  if b < 0x80 then ([some (Char.ofNat b)], none)
  else
    match lead? b with
    | none => ([none], none)
    | some p => ([], some p)

/-- What a byte gives inside a character. One that does not go on with it leaves a gap
    and begins anew. -/
def extend (p : Partial) (b : Nat) : List (Option Char) × Option Partial :=
  if p.low ≤ b ∧ b ≤ p.high then
    let bits := 64 * p.bits + (b - 0x80)
    match p.more with
    | 0 => ([some (Char.ofNat bits)], none)
    | n + 1 => ([], some (follow n bits))
  else
    let (units, next) := enter b
    (none :: units, next)

/-- Reads what follows a character that may have been left open. -/
def decodeFrom : Option Partial → Bytes → List (Option Char)
  | none, [] => []
  | some _, [] => [none]
  | none, b :: bs =>
    let (units, next) := enter b.toNat
    units ++ decodeFrom next bs
  | some p, b :: bs =>
    let (units, next) := extend p b.toNat
    units ++ decodeFrom next bs

/-- The characters that bytes write, with `none` for each gap. -/
def decode (bytes : Bytes) : List (Option Char) :=
  decodeFrom none bytes

/-- The character that stands in the place of a gap. -/
def replacement : Char := '\uFFFD'

/-- The text of bytes that have no gap. -/
def strict? (bytes : Bytes) : Option String :=
  ((decode bytes).mapM id).map String.ofList

/-- The text of any bytes, with a replacement character for each gap. -/
def lenient (bytes : Bytes) : String :=
  String.ofList ((decode bytes).map fun c => c.getD replacement)

end Utf8

end WastePass.Text
