import Courier.Bytes.Basic

/-!
# Hexadecimal text

Byte strings are shown as pairs of lower-case hexadecimal digits.  Reading
accepts either case and nothing else: every pair gives one byte, and a lone
last digit or any other character refuses the whole text.

`ofHex?_toHex` says that a written byte string reads back.
-/

namespace Courier.Bytes

set_option autoImplicit false

/-- The lower-case digit of a number below sixteen. -/
def hexDigit (number : Nat) : Char :=
  if number < 10 then Char.ofNat (48 + number) else Char.ofNat (87 + number)

/-- The number a hexadecimal digit stands for, in either case. -/
def hexValue? (digit : Char) : Option Nat :=
  if '0' ≤ digit ∧ digit ≤ '9' then some (digit.toNat - 48)
  else if 'a' ≤ digit ∧ digit ≤ 'f' then some (digit.toNat - 87)
  else if 'A' ≤ digit ∧ digit ≤ 'F' then some (digit.toNat - 55)
  else none

/-- The two digits of every byte, in order. -/
def hexDigits (bytes : Bytes) : List Char :=
  bytes.flatMap fun byte => [hexDigit (byte.toNat / 16), hexDigit (byte.toNat % 16)]

/-- Every pair of digits as one byte. -/
def ofHexDigits? : List Char → Option Bytes
  | [] => some []
  | [_] => none
  | high :: low :: rest => do
    let high ← hexValue? high
    let low ← hexValue? low
    let bytes ← ofHexDigits? rest
    return UInt8.ofNat (high * 16 + low) :: bytes

/-- A byte string as lower-case hexadecimal text. -/
def toHex (bytes : Bytes) : String := String.ofList (hexDigits bytes)

/-- The byte string that a hexadecimal text spells. -/
def ofHex? (text : String) : Option Bytes := ofHexDigits? text.toList

theorem hexValue?_hexDigit : ∀ number < 16, hexValue? (hexDigit number) = some number := by decide

theorem ofHexDigits?_hexDigits (bytes : Bytes) : ofHexDigits? (hexDigits bytes) = some bytes := by
  induction bytes with
  | nil => rfl
  | cons byte bytes ih =>
    have bound := byte.toNat_lt
    have high := hexValue?_hexDigit (byte.toNat / 16) (by omega)
    have low := hexValue?_hexDigit (byte.toNat % 16) (by omega)
    have whole : byte.toNat / 16 * 16 + byte.toNat % 16 = byte.toNat := by omega
    simp only [hexDigits, List.flatMap_cons, List.cons_append, List.nil_append, ofHexDigits?,
      high, low, Option.bind_eq_bind, Option.bind_some] at ih ⊢
    rw [ih]
    simp [whole]

/-- A written byte string reads back. -/
theorem ofHex?_toHex (bytes : Bytes) : ofHex? (toHex bytes) = some bytes := by
  simp [ofHex?, toHex, ofHexDigits?_hexDigits]

end Courier.Bytes
