import Symposium.Text.Numeral
import Symposium.Text.Utf8

/-!
# Percent signs

In an address, a percent sign with two hexadecimal digits is a byte of UTF-8. The bytes next to each
other are read together, and those that are no character are read as replacement characters.
-/

namespace Symposium.Http.Percent

/-- The bytes that ASCII characters stand for. -/
def bytes : List Char → List Nat
  | [] => []
  | '%' :: a :: b :: cs =>
    match Text.hexDigit? a, Text.hexDigit? b with
    | some high, some low => (16 * high + low) :: bytes cs
    | _, _ => 0x25 :: bytes (a :: b :: cs)
  | c :: cs => c.toNat :: bytes cs

/--
The characters that a piece of an address stands for, where `beyond` says what a character beyond
ASCII stands for. The ASCII characters right before the piece come last first.
-/
def decodeFrom (beyond : Char → List Char) (ascii : List Char) : List Char → List Char
  | [] => Text.decodeUtf8 (bytes ascii.reverse)
  | c :: cs =>
    if c.toNat < 0x80 then decodeFrom beyond (c :: ascii) cs
    else Text.decodeUtf8 (bytes ascii.reverse) ++ beyond c ++ decodeFrom beyond [] cs

/-- The characters that a piece of an address stands for. -/
def decode (beyond : Char → List Char) (cs : List Char) : List Char :=
  decodeFrom beyond [] cs

end Symposium.Http.Percent
