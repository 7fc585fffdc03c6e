import Courier.Decimal.Shortest
import Courier.Toml.Text

/-!
# Numbers, dates and times

Integers fit into sixty-four bits with a sign; they are written with decimal
digits, or without a sign in base sixteen, eight or two.  Between two digits
there may be an underscore.  A float has a point or a power of ten, or is
infinite or not a number.

Nothing is made of the value of a float or a point in time; what is read is
only whether there is one.
-/

namespace Courier.Toml.Reader

set_option autoImplicit false

/-! ## Numbers -/

/-- Digits, with underscores between some of them. -/
def digitRun (base : Nat) : Reader (List Char) := do
  let first ← digit base
  return first :: (← many (digit base <|> char '_' *> digit base))

/-- A sign, or none; whether it is a minus. -/
def sign : Reader Bool := do
  match ← optional (char '+' <|> char '-') with
  | some c => return c == '-'
  | none => return false

/-- Decimal digits without a zero in front of others. -/
def wholeDigits : Reader (List Char) := do
  match ← optional (char '0') with
  | some zero => return [zero]
  | none => digitRun 10

/-- An integer that has to fit. -/
def fitting (value : Int) : Reader Int :=
  if Int64.minValue.toInt ≤ value ∧ value ≤ Int64.maxValue.toInt then return value else failure

/-- An integer in a base that is told by a letter. -/
def based (letter : Char) (base : Nat) : Reader Int := do
  word ['0', letter]
  fitting (number base (← digitRun base))

def decimal : Reader Int := do
  let negative ← sign
  let magnitude : Int := number 10 (← wholeDigits)
  fitting (if negative then -magnitude else magnitude)

def integer : Reader Int := based 'x' 16 <|> based 'o' 8 <|> based 'b' 2 <|> decimal

/-- The power of ten behind a float. -/
def power : Reader Int := do
  let _ ← char 'e' <|> char 'E'
  let negative ← sign
  let magnitude : Int := number 10 (← digitRun 10)
  return if negative then -magnitude else magnitude

/-- A float in digits.  One that is too large is refused, but one that is too far below zero is
not. -/
def floatDigits : Reader Unit := do
  let negative ← sign
  let whole ← wholeDigits
  let fraction ← optional (char '.' *> digitRun 10)
  let exponent ← if fraction.isSome then optional power else some <$> power
  let behind := fraction.getD []
  let point : Decimal := ⟨number 10 (whole ++ behind), exponent.getD 0 - behind.length⟩
  if negative || point.toFloat.isFinite then return () else failure

def float : Reader Unit := floatDigits <|> do
  let _ ← sign
  word ['i', 'n', 'f'] <|> word ['n', 'a', 'n']

/-! ## Dates and times -/

/-- A number in so many decimal digits that is within bounds. -/
def within (width low high : Nat) : Reader Nat := do
  let value := number 10 (← digits 10 width)
  if low ≤ value ∧ value ≤ high then return value else failure

def isLeap (year : Nat) : Bool := year % 4 = 0 && (year % 100 ≠ 0 || year % 400 = 0)

/-- The number of days of a month. -/
def daysOf (year month : Nat) : Nat :=
  if month = 2 then if isLeap year then 29 else 28
  else if month ∈ [4, 6, 9, 11] then 30
  else 31

def date : Reader Unit := do
  let year ← within 4 0 9999
  let _ ← char '-'
  let month ← within 2 1 12
  let _ ← char '-'
  let _ ← within 2 1 (daysOf year month)

/-- The hour and the minute of a time or of an offset. -/
def hourMinute : Reader Unit := do
  let _ ← within 2 0 23
  let _ ← char ':'
  let _ ← within 2 0 59

/-- A time of day; the last minute may have a leap second. -/
def time : Reader Unit := do
  hourMinute
  let _ ← char ':'
  let _ ← within 2 0 60
  let _ ← optional (char '.' *> digit 10 *> span Char.isDigit)

/-- How far a time is from that of Greenwich. -/
def offset : Reader Unit := do
  match ← charWhere fun c => c ∈ ['Z', 'z', '+', '-'] with
  | '+' | '-' => hourMinute
  | _ => return ()

/-- A date, a time, or both with an offset or without. -/
def moment : Reader Unit :=
  (do date
      let _ ← optional (do
        let _ ← charWhere fun c => c ∈ ['T', 't', ' ']
        time
        optional offset)) <|> time

end Courier.Toml.Reader
