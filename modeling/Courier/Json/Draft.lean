import Courier.Bytes.Basic

/-!
# Reading JSON

A draft is what a JSON text says as far as it can be read.  The place where
the text stops being JSON is a node of its own, `broken`, and what follows it
is not there; so a reader that goes through the draft in order meets a fault of
meaning in front of that place before the fault of form.

Some faults matter only where a value is looked at: a quoted text that is not
Unicode is read as `none`, and numbers keep all their digits.  `whole` says
that a part of the draft has the form of JSON, which is enough for a part that
nobody looks at; `sound` says in addition that every text is Unicode, every
number is in the range of floats, and arrays and objects do not nest too deep.
-/

namespace Courier.Json

set_option autoImplicit false

/-! ## Numbers -/

/-- A number as it is spelled: a minus sign or none, the digits in front of the point, those behind
it if there is a point, and the power of ten if there is one. -/
structure Numeral where
  negative : Bool
  whole : Bytes
  fraction : Option Bytes
  power : Option Int
deriving DecidableEq

/-- The number that decimal digits spell. -/
def digitsValue (digits : Bytes) : Nat :=
  digits.foldl (fun number digit => number * 10 + (digit.toNat - 0x30)) 0

/-- Appends digits to a number as long as it fits into 64 bits; the digits that are left. -/
def appendDigits : (number : Nat) → Bytes → Nat × Bytes
  | number, [] => (number, [])
  | number, digit :: rest =>
    let longer := number * 10 + (digit.toNat - 0x30)
    if longer < UInt64.size then appendDigits longer rest else (number, digit :: rest)

/-- The float nearest to a power of ten. -/
def tenTo (exponent : Nat) : Float := Float.ofScientific 1 false exponent

/-- The highest power of ten that is a float. -/
def topExponent : Nat := 308

/-- A float below `2 ^ 64` times a power of ten, rounded after each step, if it is finite.  Low
powers are divided by in steps, of which the third always ends at zero. -/
def scaled (value : Float) (exponent : Int) : Option Float :=
  if topExponent < exponent then if value == 0.0 then some value else none
  else if 0 ≤ exponent then
    let product := value * tenTo exponent.toNat
    if product.isFinite then some product else none
  else
    let places := exponent.natAbs
    if places ≤ topExponent then some (value / tenTo places)
    else if places ≤ 2 * topExponent then
      some (value / tenTo topExponent / tenTo (places - topExponent))
    else some 0.0

namespace Numeral

/-- The leading digits as a number of 64 bits, and the power of ten behind them.  Digits in front of
the point that do not fit count as zeros, those behind it not at all. -/
def parts (numeral : Numeral) : Nat × Int :=
  let (number, whole) := appendDigits 0 numeral.whole
  let places := numeral.fraction.getD []
  let (significand, left) := appendDigits number places
  (significand, numeral.power.getD 0 + whole.length - (places.length - left.length : Nat))

/-- A float close to the number, if it is in the range of floats.  It is the nearest one as long as
neither the leading digits nor the power of ten are rounded.  A minus sign stays on a zero. -/
def toFloat? (numeral : Numeral) : Option Float := do
  let (significand, exponent) := numeral.parts
  let magnitude ← scaled significand.toUInt64.toFloat exponent
  return if numeral.negative then -magnitude else magnitude

/-- Whether the number has neither a point nor a power of ten, and at most 64 bits without its
sign. -/
def isWord (numeral : Numeral) : Bool :=
  numeral.fraction.isNone && numeral.power.isNone && (appendDigits 0 numeral.whole).2.isEmpty

/-- Whether the number is in the range of floats, as every number of 64 bits is. -/
def inRange (numeral : Numeral) : Bool := numeral.isWord || numeral.toFloat?.isSome

/-- The integer that a number without a point and a power of ten spells.  A negative zero is no
integer. -/
def toInt? (numeral : Numeral) : Option Int :=
  match numeral.fraction, numeral.power with
  | none, none =>
    let magnitude := digitsValue numeral.whole
    if !numeral.negative then some magnitude
    else if magnitude = 0 then none
    else some (-magnitude)
  | _, _ => none

end Numeral

/-! ## Drafts -/

inductive Draft where
  | null
  | bool (value : Bool)
  | number (numeral : Numeral)
  | string (text : Option String)
  | array (items : List Draft)
  | object (members : List (Option String × Draft))
  /-- The text is not JSON from here on. -/
  | broken

namespace Draft

mutual

/-- Whether a part of a draft has the form of JSON to its end. -/
def whole : Draft → Bool
  | array items => wholeItems items
  | object members => wholeMembers members
  | broken => false
  | _ => true

def wholeItems : List Draft → Bool
  | [] => true
  | item :: rest => whole item && wholeItems rest

def wholeMembers : List (Option String × Draft) → Bool
  | [] => true
  | (_, value) :: rest => whole value && wholeMembers rest

end

/-- Whether a part of a draft is JSON that can be looked at everywhere, with at most `depth` arrays
and objects inside one another. -/
def sound (depth : Nat) : Draft → Bool
  | null => true
  | bool _ => true
  | number numeral => numeral.inRange
  | string text => text.isSome
  | array items =>
    match depth with
    | 0 => false
    | depth + 1 => items.all (sound depth)
  | object members =>
    match depth with
    | 0 => false
    | depth + 1 => members.all fun member => member.1.isSome && sound depth member.2
  | broken => false

end Draft

/-! ## The parts of a text -/

/-- Drops spaces, tabs and line ends. -/
def skipBlank : Bytes → Bytes
  | byte :: rest =>
    if byte = 0x20 || byte = 0x09 || byte = 0x0a || byte = 0x0d then skipBlank rest
    else byte :: rest
  | [] => []

def isDigit (byte : UInt8) : Bool := 0x30 ≤ byte && byte ≤ 0x39

/-- The digits in front and what follows them. -/
def spanDigits (bytes : Bytes) : Bytes × Bytes := (bytes.takeWhile isDigit, bytes.dropWhile isDigit)

/-- The power of ten behind a number: nothing, or a letter, a sign or none, and digits. -/
def scanExponent : Bytes → Option (Option Int × Bytes)
  | byte :: rest =>
    if byte = 0x65 || byte = 0x45 then
      let (negative, rest) := match rest with
        | 0x2b :: after => (false, after)
        | 0x2d :: after => (true, after)
        | other => (false, other)
      match spanDigits rest with
      | ([], _) => none
      | (digits, rest) =>
        let power : Int := digitsValue digits
        some (some (if negative then -power else power), rest)
    else some (none, byte :: rest)
  | [] => some (none, [])

/-- The digits behind the point of a number: nothing, or a point and at least one digit. -/
def scanFraction : Bytes → Option (Option Bytes × Bytes)
  | 0x2e :: rest =>
    match spanDigits rest with
    | ([], _) => none
    | (digits, rest) => some (some digits, rest)
  | rest => some (none, rest)

/-- The digits in front of the point: a zero alone, or digits that do not start with one. -/
def scanWhole (bytes : Bytes) : Option (Bytes × Bytes) :=
  match spanDigits bytes with
  | ([], _) => none
  | (0x30 :: _ :: _, _) => none
  | (digits, rest) => some (digits, rest)

/-- A number and what follows it. -/
def scanNumber (bytes : Bytes) : Option (Numeral × Bytes) := do
  let (negative, bytes) := match bytes with
    | 0x2d :: rest => (true, rest)
    | other => (false, other)
  let (digits, bytes) ← scanWhole bytes
  let (fraction, bytes) ← scanFraction bytes
  let (power, bytes) ← scanExponent bytes
  return (⟨negative, digits, fraction, power⟩, bytes)

/-- The value of a hexadecimal digit of either case. -/
def hexValue? (byte : UInt8) : Option Nat :=
  let code := byte.toNat
  if 0x30 ≤ code ∧ code ≤ 0x39 then some (code - 0x30)
  else if 0x61 ≤ code ∧ code ≤ 0x66 then some (code - 0x57)
  else if 0x41 ≤ code ∧ code ≤ 0x46 then some (code - 0x37)
  else none

/-- The number that four hexadecimal digits spell. -/
def hexUnit? (a b c d : UInt8) : Option Nat := do
  return ((← hexValue? a) * 16 + (← hexValue? b)) * 256 + ((← hexValue? c) * 16 + (← hexValue? d))

/-- The byte that a letter behind a backslash stands for. -/
def escapedByte? (byte : UInt8) : Option UInt8 :=
  match byte.toNat with
  | 0x22 => some 0x22
  | 0x5c => some 0x5c
  | 0x2f => some 0x2f
  | 0x62 => some 0x08
  | 0x66 => some 0x0c
  | 0x6e => some 0x0a
  | 0x72 => some 0x0d
  | 0x74 => some 0x09
  | _ => none

/-- One unit of a quoted text: a byte, or a number of sixteen bits given in hexadecimal digits. -/
inductive TextUnit where
  | byte (value : UInt8)
  | number (value : Nat)
deriving DecidableEq

/-- The units of a quoted text up to its closing quote, and what follows it. -/
def scanUnits : Bytes → Option (List TextUnit × Bytes)
  | [] => none
  | 0x22 :: rest => some ([], rest)
  | 0x5c :: 0x75 :: a :: b :: c :: d :: rest => do
    let number ← hexUnit? a b c d
    let (units, rest) ← scanUnits rest
    return (.number number :: units, rest)
  | 0x5c :: escape :: rest => do
    let byte ← escapedByte? escape
    let (units, rest) ← scanUnits rest
    return (.byte byte :: units, rest)
  | byte :: rest =>
    if byte < 0x20 then none
    else do
      let (units, rest) ← scanUnits rest
      return (.byte byte :: units, rest)

/-- The UTF-8 bytes of the units.  Numbers of surrogates count only as a pair, high then low. -/
def unitBytes : List TextUnit → Option Bytes
  | [] => some []
  | .byte value :: rest => (value :: ·) <$> unitBytes rest
  | .number high :: .number low :: rest =>
    if 0xd800 ≤ high ∧ high < 0xdc00 then
      if 0xdc00 ≤ low ∧ low < 0xe000 then
        let c := Char.ofNat (0x10000 + (high - 0xd800) * 0x400 + (low - 0xdc00))
        (Bytes.ofText c.toString ++ ·) <$> unitBytes rest
      else none
    else if 0xdc00 ≤ high ∧ high < 0xe000 then none
    else (Bytes.ofText (Char.ofNat high).toString ++ ·) <$> unitBytes (.number low :: rest)
  | .number value :: rest =>
    if 0xd800 ≤ value ∧ value < 0xe000 then none
    else (Bytes.ofText (Char.ofNat value).toString ++ ·) <$> unitBytes rest

/-- The text between quotes, if it is Unicode. -/
def unitText (units : List TextUnit) : Option String := unitBytes units >>= Bytes.text?

/-! ## The whole text -/

mutual

/-- One value and what follows it; nothing follows a place where the text is broken.  The fuel
bounds how many values are read inside one another and behind one another. -/
def readValue : (fuel : Nat) → Bytes → Draft × Option Bytes
  | 0, _ => (.broken, none)
  | fuel + 1, bytes =>
    match skipBlank bytes with
    | 0x22 :: rest =>
      match scanUnits rest with
      | some (units, rest) => (.string (unitText units), some rest)
      | none => (.broken, none)
    | 0x5b :: rest =>
      match skipBlank rest with
      | 0x5d :: rest => (.array [], some rest)
      | rest =>
        let (items, rest) := readItems fuel rest
        (.array items, rest)
    | 0x7b :: rest =>
      match skipBlank rest with
      | 0x7d :: rest => (.object [], some rest)
      | rest =>
        let (members, rest) := readMembers fuel rest
        (.object members, rest)
    | 0x6e :: 0x75 :: 0x6c :: 0x6c :: rest => (.null, some rest)
    | 0x74 :: 0x72 :: 0x75 :: 0x65 :: rest => (.bool true, some rest)
    | 0x66 :: 0x61 :: 0x6c :: 0x73 :: 0x65 :: rest => (.bool false, some rest)
    | bytes =>
      match scanNumber bytes with
      | some (numeral, rest) => (.number numeral, some rest)
      | none => (.broken, none)

/-- The values of an array up to its closing bracket. -/
def readItems : (fuel : Nat) → Bytes → List Draft × Option Bytes
  | 0, _ => ([.broken], none)
  | fuel + 1, bytes =>
    match readValue fuel bytes with
    | (item, none) => ([item], none)
    | (item, some rest) =>
      match skipBlank rest with
      | 0x2c :: rest =>
        let (items, rest) := readItems fuel rest
        (item :: items, rest)
      | 0x5d :: rest => ([item], some rest)
      | _ => ([item, .broken], none)

/-- The members of an object up to its closing brace. -/
def readMembers : (fuel : Nat) → Bytes → List (Option String × Draft) × Option Bytes
  | 0, _ => ([(none, .broken)], none)
  | fuel + 1, bytes =>
    match skipBlank bytes with
    | 0x22 :: rest =>
      match scanUnits rest with
      | none => ([(none, .broken)], none)
      | some (units, rest) =>
        let key := unitText units
        match skipBlank rest with
        | 0x3a :: rest =>
          match readValue fuel rest with
          | (value, none) => ([(key, value)], none)
          | (value, some rest) =>
            match skipBlank rest with
            | 0x2c :: rest =>
              let (members, rest) := readMembers fuel rest
              ((key, value) :: members, rest)
            | 0x7d :: rest => ([(key, value)], some rest)
            | _ => ([(key, value), (none, .broken)], none)
        | _ => ([(key, .broken)], none)
    | _ => ([(none, .broken)], none)

end

/-- What a text says, and whether nothing but blanks follows it. -/
def read (bytes : Bytes) : Draft × Bool :=
  match readValue (bytes.length + 1) bytes with
  | (draft, some rest) => (draft, (skipBlank rest).isEmpty)
  | (draft, none) => (draft, false)

end Courier.Json
