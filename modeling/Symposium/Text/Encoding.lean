import Symposium.Text.Utf8

/-!
# Encodings

Bytes that begin with a letter or a bracket tell their encoding: the bytes that are zero are the
upper ones of the first characters. Main statement: bytes without a zero are UTF-8.
-/

namespace Symposium.Text

/-- Whether a code unit is the first half of a surrogate pair. -/
def isHighSurrogate (unit : Nat) : Bool :=
  0xD800 ≤ unit && unit < 0xDC00

/-- Whether a code unit is the second half of a surrogate pair. -/
def isLowSurrogate (unit : Nat) : Bool :=
  0xDC00 ≤ unit && unit < 0xE000

/-- The character of a code unit, which half of a surrogate pair that stands alone has not. -/
def ofUnit? (unit : Nat) : Option Char :=
  if isHighSurrogate unit || isLowSurrogate unit then none else some (Char.ofNat unit)

/-- The character of a surrogate pair. -/
def ofPair (high low : Nat) : Char :=
  Char.ofNat (0x10000 + (high - 0xD800) * 0x400 + (low - 0xDC00))

/-- The characters of UTF-16 code units, if no half of a surrogate pair stands alone. -/
def ofUnits? : List Nat → Option (List Char)
  | [] => some []
  | [unit] => (ofUnit? unit).map ([·])
  | high :: low :: units =>
    if isHighSurrogate high && isLowSurrogate low then
      (ofUnits? units).map (ofPair high low :: ·)
    else (ofUnit? high).bind fun c => (ofUnits? (low :: units)).map (c :: ·)

/-- How characters are written as bytes. -/
inductive Encoding where
  | utf8
  | utf16 (bigEndian : Bool)
  | utf32 (bigEndian : Bool)
  deriving DecidableEq, Repr, Inhabited

namespace Encoding

/-- The encoding that the first bytes tell. -/
def ofBytes : List Nat → Encoding
  | 0 :: 0 :: _ :: _ :: _ => utf32 true
  | 0 :: _ :: _ :: _ :: _ => utf16 true
  | _ :: 0 :: 0 :: 0 :: _ => utf32 false
  | _ :: 0 :: _ :: _ :: _ => utf16 false
  | [0, _] => utf16 true
  | [_, 0] => utf16 false
  | _ => utf8

/-- Bytes without a zero are taken for UTF-8. -/
theorem ofBytes_of_ne_zero {bytes : List Nat} (h : ∀ byte ∈ bytes, byte ≠ 0) :
    ofBytes bytes = utf8 := by
  unfold ofBytes
  split <;> simp_all

/-- The number that two bytes write. -/
def pair (bigEndian : Bool) (a b : Nat) : Nat :=
  if bigEndian then a * 256 + b else b * 256 + a

/-- The numbers that each two bytes write; a byte may not be left over. -/
def pairs? (bigEndian : Bool) : List Nat → Option (List Nat)
  | [] => some []
  | [_] => none
  | a :: b :: bytes => (pairs? bigEndian bytes).map (pair bigEndian a b :: ·)

/-- The characters that each four bytes write; a byte may not be left over. -/
def quads? (bigEndian : Bool) : List Nat → Option (List Char)
  | [] => some []
  | a :: b :: c :: d :: bytes =>
    let first := pair bigEndian a b
    let second := pair bigEndian c d
    let code := if bigEndian then first * 65536 + second else second * 65536 + first
    if code < 0x110000 then
      (ofUnit? code).bind fun c => (quads? bigEndian bytes).map (c :: ·)
    else none
  | _ => none

/-- Reads bytes, if they are the bytes of characters. -/
def decode? (encoding : Encoding) (bytes : List Nat) : Option (List Char) :=
  match encoding with
  | utf8 => some (decodeUtf8 bytes)
  | utf16 bigEndian => (pairs? bigEndian bytes).bind ofUnits?
  | utf32 bigEndian => quads? bigEndian bytes

end Encoding

end Symposium.Text
