import Courier.Toml.Number
import Courier.Toml.Table

/-!
# Documents

A document has a statement on a line, or nothing.  A datum may be an array,
which goes over as many lines as it needs, or a table between braces, which
does not leave its line.
-/

namespace Courier.Toml

set_option autoImplicit false

namespace Reader

/-! ## Data -/

/-- A datum without others in it. -/
def scalar : Reader Datum :=
  Datum.text <$> text <|>
  (fun _ => Datum.moment) <$> moment <|>
  (fun _ => Datum.float) <$> float <|>
  Datum.integer <$> integer <|>
  (fun _ => Datum.bool true) <$> word ['t', 'r', 'u', 'e'] <|>
  (fun _ => Datum.bool false) <$> word ['f', 'a', 'l', 's', 'e']

/-- Data between brackets; there may be a comma after the last one. -/
def array (item : Reader Datum) : Reader Datum := do
  let _ ← char '['
  let items ← optional (separated (gap *> item <* gap) ',' <* optional (char ','))
  gap
  let _ ← char ']'
  return .array (items.getD [])

/-- A datum under a key. -/
def assignment (item : Reader Datum) : Reader (List String × Datum) := do
  let path ← key
  let _ ← char '='
  blanks
  return (path, ← item)

/-- Assignments between braces. -/
def braces (item : Reader Datum) : Reader Datum := do
  let _ ← char '\x7b'
  let pairs ← optional (separated (assignment item <* blanks) ',')
  blanks
  let _ ← char '\x7d'
  inlineTable (pairs.getD [])

/-- A datum that holds others at most so many deep. -/
def datum : (depth : Nat) → Reader Datum
  | 0 => scalar
  | depth + 1 => scalar <|> array (datum depth) <|> braces (datum depth)

/-! ## Statements -/

/-- The header of a table or of an element of a list of tables. -/
def header : Reader Statement :=
  Statement.element <$> (word ['[', '['] *> key <* word [']', ']']) <|>
  Statement.header <$> (char '[' *> key <* char ']')

/-- A line with a statement, or without. -/
def line : Reader (Option Statement) := do
  unfinished
  blanks
  let statement ← optional (header <|>
    (fun pair => .assignment pair.1 pair.2) <$> assignment (datum nestingLimit))
  lineEnd
  return statement

/-- The mark that may stand in front of a document. -/
def byteOrderMark : Char := '\ufeff'

/-- All statements of a document. -/
def document : Reader (List Statement) := do
  let _ ← optional (char byteOrderMark)
  let statements ← many line
  finished
  return statements.filterMap id

end Reader

/-- The entries of a document, if the text is one. -/
def read (text : String) : Option (List (String × Datum)) := do
  let (statements, _) ← Reader.document.run text.toList
  build statements

end Courier.Toml
