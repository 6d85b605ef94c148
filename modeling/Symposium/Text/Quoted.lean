import Symposium.Text.Numeral
import Symposium.Text.Printable

/-!
# Quoted texts

A text in a log line stands in quotes, with escapes for what would not be seen. The quotes are
single ones unless the text has a single quote in it and no double one.
-/

namespace Symposium.Text

/-- The quote that a text is put into. -/
def quoteOf (cs : List Char) : Char :=
  if cs.contains '\'' && !cs.contains '"' then '"' else '\''

/-- The escape of a code point, as short as it can be. -/
def escapeCode (code : Nat) : String :=
  if code < 0x100 then "\\x" ++ hexPadded 2 code
  else if code < 0x10000 then "\\u" ++ hexPadded 4 code
  else "\\U" ++ hexPadded 8 code

/-- A character between quotes. -/
def quoteChar (quote c : Char) : String :=
  if c = quote || c = '\\' then String.ofList ['\\', c]
  else if c = '\n' then "\\n"
  else if c = '\r' then "\\r"
  else if c = '\t' then "\\t"
  else if isPrintable c then String.singleton c
  else escapeCode c.toNat

/-- A text in quotes. -/
def quoted (s : String) : String :=
  let quote := quoteOf s.toList
  String.singleton quote ++ String.join (s.toList.map (quoteChar quote)) ++ String.singleton quote

end Symposium.Text
