import Courier.Text.Unprintable
import Courier.Text.Extending
import Courier.Bytes.Hex

/-!
# Quoted text

A text shown between double quotes so that every character of it can be seen.
A quote and a backslash are marked by a backslash, the commonest controls have
a letter of their own, and any other character that does not show, or shows
only as a part of the one before it, is given by its number.
-/

namespace Courier.Text

set_option autoImplicit false

/-- How a character stands in a quoted text. -/
def quotedChar (c : Char) : List Char :=
  if c = '\x00' then ['\\', '0']
  else if c = '\t' then ['\\', 't']
  else if c = '\r' then ['\\', 'r']
  else if c = '\n' then ['\\', 'n']
  else if c = '"' then ['\\', '"']
  else if c = '\\' then ['\\', '\\']
  else if 0x20 ≤ c.toNat ∧ c.toNat < 0x7f then [c]
  else if isExtending c || isUnprintable c then
    ['\\', 'u', '\x7b'] ++ Nat.toDigits 16 c.toNat ++ ['\x7d']
  else [c]

/-- A text between double quotes. -/
def quoted (text : String) : String :=
  String.ofList (['"'] ++ text.toList.flatMap quotedChar ++ ['"'])

/-- A text of letters, digits and spaces is quoted as it is. -/
theorem quotedChar_of_ascii {c : Char} (low : 0x20 ≤ c.toNat) (high : c.toNat < 0x7f)
    (quote : c ≠ '"') (backslash : c ≠ '\\') : quotedChar c = [c] := by
  have named : ∀ d : Char, d.toNat < 0x20 → c ≠ d := by
    rintro d small rfl
    omega
  simp [quotedChar, named '\x00' (by decide), named '\t' (by decide), named '\r' (by decide),
    named '\n' (by decide), quote, backslash, low, high]

end Courier.Text
