/-!
# Readers

A reader takes characters from the front of a text, or fails.  Where a reader
fails, another one may try the same text; so a failure means only that nothing
of that kind stands in front.

Readers that repeat another one do so at most as often as there are characters
left.  That is often enough, because everything that is repeated takes at least
one character.
-/

namespace Courier.Toml

set_option autoImplicit false

/-- A reader of something in front of a text. -/
abbrev Reader (α : Type) := StateT (List Char) Option α

namespace Reader

variable {α : Type}

/-- A character that is accepted. -/
def charWhere (accepted : Char → Bool) : Reader Char := fun text =>
  match text with
  | [] => none
  | c :: rest => if accepted c then some (c, rest) else none

/-- A character. -/
def char (expected : Char) : Reader Char := charWhere fun c => c == expected

/-- As many accepted characters as there are. -/
def span (accepted : Char → Bool) : Reader (List Char) := fun text =>
  some (text.takeWhile accepted, text.dropWhile accepted)

/-- A run of characters. -/
def word (expected : List Char) : Reader Unit := fun text =>
  if expected.isPrefixOf text then some ((), text.drop expected.length) else none

/-- Succeeds at the end of the text. -/
def finished : Reader Unit := fun text => if text.isEmpty then some ((), []) else none

/-- Succeeds in front of a further character. -/
def unfinished : Reader Unit := fun text => if text.isEmpty then none else some ((), text)

/-- The same thing again and again, at most once for each of some characters. -/
def repeatWithin (item : Reader α) : List Char → Reader (List α)
  | [] => return []
  | _ :: turns => do
    match ← optional item with
    | none => return []
    | some found => return found :: (← repeatWithin item turns)

/-- The same thing again and again. -/
def many (item : Reader α) : Reader (List α) := do repeatWithin item (← get)

/-- One or several things with a character between them. -/
def separated (item : Reader α) (separator : Char) : Reader (List α) := do
  let first ← item
  return first :: (← many (char separator *> item))

end Reader

/-! ## Blanks, lines and comments -/

def isBlank (c : Char) : Bool := c == ' ' || c == '\t'

/-- Whether a character may stand in a comment or a text: no control but the tab. -/
def isShown (c : Char) : Bool := c == '\t' || (0x20 ≤ c.toNat && c.toNat ≠ 0x7f)

namespace Reader

/-- Spaces and tabs. -/
def blanks : Reader Unit := do let _ ← span isBlank

/-- The end of a line. -/
def newline : Reader Unit := word ['\n'] <|> word ['\r', '\n']

/-- A comment, which goes to the end of its line. -/
def comment : Reader Unit := do
  let _ ← char '#'
  let _ ← span isShown

/-- What may follow a statement: blanks and a comment up to the end of the line or of the text. -/
def lineEnd : Reader Unit := do
  blanks
  let _ ← optional comment
  newline <|> finished

/-- Blanks, comments and ends of lines. -/
def gap : Reader Unit := do
  let _ ← many ((do let _ ← charWhere isBlank) <|> newline <|> comment)

end Reader

end Courier.Toml
