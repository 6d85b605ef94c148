/-!
# Reading UTF-8

Bytes are read as UTF-8. Where they are none, the longest piece that could begin a character is read
as one replacement character, and so is a byte that could not. Main statement: ASCII is read as it
is.
-/

namespace Symposium.Text

/-- What stands for bytes that are no character. -/
def replacement : Char := '\uFFFD'

/-- How a character begins: its first bits, how many bytes follow, and the range of the next one. -/
structure Lead where
  bits : Nat
  following : Nat
  least : Nat
  most : Nat

/-- How a character with this first byte, which is not ASCII, begins. -/
def lead? (byte : Nat) : Option Lead :=
  if byte < 0xC2 then none
  else if byte < 0xE0 then some ⟨byte - 0xC0, 1, 0x80, 0xBF⟩
  else if byte = 0xE0 then some ⟨0, 2, 0xA0, 0xBF⟩
  else if byte = 0xED then some ⟨0xD, 2, 0x80, 0x9F⟩
  else if byte < 0xF0 then some ⟨byte - 0xE0, 2, 0x80, 0xBF⟩
  else if byte = 0xF0 then some ⟨0, 3, 0x90, 0xBF⟩
  else if byte < 0xF4 then some ⟨byte - 0xF0, 3, 0x80, 0xBF⟩
  else if byte = 0xF4 then some ⟨4, 3, 0x80, 0x8F⟩
  else none

/-- The bytes that continue a character, at most so many, the next one in the given range. -/
def continuation : Nat → Nat → Nat → List Nat → List Nat
  | count + 1, least, most, byte :: rest =>
    if least ≤ byte ∧ byte ≤ most then byte :: continuation count 0x80 0xBF rest else []
  | _, _, _, _ => []

/-- Reads bytes as UTF-8. -/
def decodeUtf8 : List Nat → List Char
  | [] => []
  | byte :: rest =>
    if byte < 0x80 then Char.ofNat byte :: decodeUtf8 rest
    else
      match lead? byte with
      | none => replacement :: decodeUtf8 rest
      | some lead =>
        let more := continuation lead.following lead.least lead.most rest
        let c := if more.length = lead.following then
            Char.ofNat (more.foldl (fun bits byte => bits * 64 + (byte - 0x80)) lead.bits)
          else replacement
        c :: decodeUtf8 (rest.drop more.length)
termination_by bytes => bytes.length
decreasing_by all_goals simp_wf; try omega

/-- Bytes of ASCII stand for the characters of the same numbers. -/
theorem decodeUtf8_of_ascii {bytes : List Nat} (h : ∀ byte ∈ bytes, byte < 0x80) :
    decodeUtf8 bytes = bytes.map Char.ofNat := by
  induction bytes with
  | nil => simp [decodeUtf8]
  | cons byte rest ih =>
    rw [decodeUtf8, if_pos (h byte (by simp)), ih fun b hb => h b (by simp [hb])]
    rfl

end Symposium.Text
