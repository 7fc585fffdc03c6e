import Courier.Bytes.Basic
import Courier.Decimal.Shortest

/-!
# JSON documents and how they are written

A document is written without any space, members of an object in the order in
which they stand.

In a quoted text a quote, a backslash and the controls below the space are
escaped, and everything else stands as it is, so escaping works on the UTF-8
bytes of a text.  A whole number is written in decimal digits, a float as the
shortest decimal that stands for it, the even one of two: positional from 10⁻⁵
up to 10¹⁶, with a power of ten outside.
-/

namespace Courier

set_option autoImplicit false

inductive Json where
  | null
  | bool (value : Bool)
  | int (value : Int)
  | float (value : Float)
  | string (text : String)
  | array (items : List Json)
  | object (members : List (String × Json))

namespace Json

/-- The bytes of a text of ASCII characters. -/
def ascii (text : String) : Bytes := Bytes.ofText text

/-! ## Quoted texts -/

def quoteMark : UInt8 := 0x22

def backslash : UInt8 := 0x5c

/-- A digit below sixteen as a lower-case hexadecimal byte. -/
def hexByte (digit : Nat) : UInt8 := UInt8.ofNat (if digit < 10 then 0x30 + digit else 0x57 + digit)

/-- How a byte of a text stands between quotes. -/
def escapeByte (byte : UInt8) : Bytes :=
  match byte.toNat with
  | 0x22 => [backslash, quoteMark]
  | 0x5c => [backslash, backslash]
  | 0x08 => [backslash, 0x62]
  | 0x09 => [backslash, 0x74]
  | 0x0a => [backslash, 0x6e]
  | 0x0c => [backslash, 0x66]
  | 0x0d => [backslash, 0x72]
  | code =>
    if code < 0x20 then
      [backslash, 0x75, 0x30, 0x30, hexByte (code / 16), hexByte (code % 16)]
    else [byte]

/-- A text between quotes. -/
def quote (text : String) : Bytes :=
  quoteMark :: (Bytes.ofText text).flatMap escapeByte ++ [quoteMark]

/-! ## Numbers -/

/-- The lowest and the first too high power of ten that are written positionally. -/
def positionalRange : Int × Int := (-5, 16)

/-- The magnitude of a finite float that is not zero. -/
def decimalText (point : Decimal) : String :=
  if positionalRange.1 ≤ point.leading ∧ point.leading < positionalRange.2 then
    point.positional ".0"
  else point.scientific

/-- Whether a float carries a minus sign, as the negative zero does. -/
def isNegative (value : Float) : Bool := 0x8000000000000000 ≤ value.toBits.toNat

/-- Whether a float is a zero of either sign. -/
def isZero (value : Float) : Bool := value.toBits.toNat % 0x8000000000000000 = 0

/-- A finite float as text. -/
def floatText (value : Float) : String :=
  let sign := if isNegative value then "-" else ""
  if isZero value then sign ++ "0.0"
  else sign ++ decimalText (Decimal.shortest .toEven (.ofFloat value))

/-! ## Documents -/

mutual

/-- The bytes of a document, in front of others. -/
def renderOnto : Json → Bytes → Bytes
  | null, rest => ascii "null" ++ rest
  | bool true, rest => ascii "true" ++ rest
  | bool false, rest => ascii "false" ++ rest
  | int value, rest => ascii (toString value) ++ rest
  | float value, rest => ascii (floatText value) ++ rest
  | string text, rest => quote text ++ rest
  | array items, rest => 0x5b :: renderItems items (0x5d :: rest)
  | object members, rest => 0x7b :: renderMembers members (0x7d :: rest)

/-- The items of an array with a comma between each two. -/
def renderItems : List Json → Bytes → Bytes
  | [], rest => rest
  | [item], rest => renderOnto item rest
  | item :: next :: more, rest => renderOnto item (0x2c :: renderItems (next :: more) rest)

/-- The members of an object with a comma between each two. -/
def renderMembers : List (String × Json) → Bytes → Bytes
  | [], rest => rest
  | [(key, value)], rest => quote key ++ 0x3a :: renderOnto value rest
  | (key, value) :: next :: more, rest =>
    quote key ++ 0x3a :: renderOnto value (0x2c :: renderMembers (next :: more) rest)

end

/-- The bytes of a document. -/
def render (document : Json) : Bytes := document.renderOnto []

mutual

theorem renderOnto_append : ∀ (document : Json) (rest more : Bytes),
    document.renderOnto (rest ++ more) = document.renderOnto rest ++ more
  | null, _, _ | bool true, _, _ | bool false, _, _ | int _, _, _ | float _, _, _
  | string _, _, _ => by simp [renderOnto]
  | array items, rest, more => by
    simp only [renderOnto, List.cons_append, ← renderItems_append items]
  | object members, rest, more => by
    simp only [renderOnto, List.cons_append, ← renderMembers_append members]

theorem renderItems_append : ∀ (items : List Json) (rest more : Bytes),
    renderItems items (rest ++ more) = renderItems items rest ++ more
  | [], _, _ => rfl
  | [item], rest, more => by simp only [renderItems, renderOnto_append item]
  | item :: next :: others, rest, more => by
    simp only [renderItems, ← renderOnto_append item, List.cons_append,
      renderItems_append (next :: others)]

theorem renderMembers_append : ∀ (members : List (String × Json)) (rest more : Bytes),
    renderMembers members (rest ++ more) = renderMembers members rest ++ more
  | [], _, _ => rfl
  | [(key, value)], rest, more => by
    simp only [renderMembers, renderOnto_append value, List.append_assoc, List.cons_append]
  | (key, value) :: next :: others, rest, more => by
    simp only [renderMembers, List.append_assoc, List.cons_append, ← renderOnto_append value,
      renderMembers_append (next :: others)]

end

/-- What is in front of other bytes is the bytes of the document. -/
theorem renderOnto_eq (document : Json) (rest : Bytes) :
    document.renderOnto rest = document.render ++ rest := by
  rw [render, ← renderOnto_append, List.nil_append]

/-- An array of texts. -/
def strings (texts : List String) : Json := array (texts.map string)

end Json

end Courier
