import Courier.Toml.Reader

/-!
# Texts and keys

A text stands between quotes.  Between double quotes a backslash introduces an
escape, between single quotes every character stands for itself.  Tripled
quotes allow a text to go over several lines; there a line end counts as one
character however it is written, and one right after the opening quotes does
not count at all.

A key is a word of letters, digits, `-` and `_`, or a text on one line.  Keys
with dots between them lead from table to table.
-/

namespace Courier.Toml

set_option autoImplicit false

namespace Reader

/-! ## Escapes -/

/-- The digit that a character is in some base of at most sixteen. -/
def digitValue? (base : Nat) (c : Char) : Option Nat :=
  let value :=
    if c.isDigit then c.toNat - '0'.toNat
    else if 'a' ≤ c && c ≤ 'f' then c.toNat - 'a'.toNat + 10
    else if 'A' ≤ c && c ≤ 'F' then c.toNat - 'A'.toNat + 10
    else 16
  if value < base then some value else none

/-- The number that digits spell in a base. -/
def number (base : Nat) (digits : List Char) : Nat :=
  digits.foldl (fun number c => number * base + (digitValue? base c).getD 0) 0

/-- A digit in a base. -/
def digit (base : Nat) : Reader Char := charWhere fun c => (digitValue? base c).isSome

/-- The digits of a number of a fixed width. -/
def digits (base : Nat) : (width : Nat) → Reader (List Char)
  | 0 => return []
  | width + 1 => return (← digit base) :: (← digits base width)

/-- A character given by its number in `width` hexadecimal digits. -/
def numbered (width : Nat) : Reader Char := do
  let code := number 16 (← digits 16 width)
  if code.isValidChar then return Char.ofNat code else failure

/-- What a letter after a backslash stands for. -/
def escapes : List (Char × Char) :=
  [('b', '\x08'), ('t', '\t'), ('n', '\n'), ('f', '\x0c'), ('r', '\r'), ('"', '"'), ('\\', '\\')]

/-- An escape. -/
def escape : Reader Char := do
  let _ ← char '\\'
  match ← charWhere fun _ => true with
  | 'u' => numbered 4
  | 'U' => numbered 8
  | letter =>
    match escapes.lookup letter with
    | some meaning => return meaning
    | none => failure

/-! ## Texts on one line -/

/-- A text between double quotes. -/
def basicText : Reader (List Char) := do
  let _ ← char '"'
  let content ← many (charWhere (fun c => isShown c && c ≠ '"' && c ≠ '\\') <|> escape)
  let _ ← char '"'
  return content

/-- A text between single quotes. -/
def literalText : Reader (List Char) := do
  let _ ← char '\''
  let content ← span fun c => isShown c && c ≠ '\''
  let _ ← char '\''
  return content

/-! ## Texts on several lines -/

/-- One or two quotes inside a text. -/
def innerQuotes (quote : Char) : Reader (List Char) := do
  let quotes ← span fun c => c == quote
  if quotes.length = 1 ∨ quotes.length = 2 then
    unfinished
    return quotes
  else failure

/-- The quotes at the end of a text, of which three close it; up to two more belong to it. -/
def closingQuotes (quote : Char) : Reader (List Char) := do
  let quotes ← span fun c => c == quote
  if 3 ≤ quotes.length ∧ quotes.length ≤ 5 then return quotes.drop 3 else failure

/-- A line end inside a text. -/
def innerNewline : Reader (List Char) := do
  newline
  return ['\n']

/-- A backslash at the end of a line, which takes away all blanks and line ends after it. -/
def joinedLines : Reader (List Char) := do
  let _ ← char '\\'
  blanks
  newline
  let _ ← many ((do let _ ← charWhere isBlank) <|> newline)
  return []

/-- A text between tripled quotes; `piece` reads what is not a quote. -/
def longText (quote : Char) (piece : Reader (List Char)) : Reader (List Char) := do
  word [quote, quote, quote]
  let _ ← optional newline
  let pieces ← many (piece <|> innerQuotes quote)
  return pieces.flatten ++ (← closingQuotes quote)

/-- A text between tripled double quotes. -/
def longBasicText : Reader (List Char) :=
  longText '"' ((fun c => [c]) <$> charWhere (fun c => isShown c && c ≠ '"' && c ≠ '\\') <|>
    innerNewline <|> joinedLines <|> (fun c => [c]) <$> escape)

/-- A text between tripled single quotes. -/
def longLiteralText : Reader (List Char) :=
  longText '\'' ((fun c => [c]) <$> charWhere (fun c => isShown c && c ≠ '\'') <|> innerNewline)

/-- A text of any kind. -/
def text : Reader String :=
  String.ofList <$> (longBasicText <|> longLiteralText <|> basicText <|> literalText)

/-! ## Keys -/

/-- Whether a character may stand in a key without quotes. -/
def isKeyChar (c : Char) : Bool :=
  c.isAlphanum || c == '-' || c == '_'

/-- A key without dots. -/
def simpleKey : Reader String := do
  match ← optional (basicText <|> literalText) with
  | some content => return String.ofList content
  | none =>
    match ← span isKeyChar with
    | [] => failure
    | content => return String.ofList content

/-- How many tables may stand inside one another. -/
def nestingLimit : Nat := 79

/-- Keys with dots between them. -/
def key : Reader (List String) := do
  let names ← separated (blanks *> simpleKey <* blanks) '.'
  if names.length ≤ nestingLimit then return names else failure

end Reader

end Courier.Toml
