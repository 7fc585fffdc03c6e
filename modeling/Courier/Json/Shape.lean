import Courier.Json.Draft

/-!
# The shapes that drafts are read in

Messages and values are records, and a record is read from an object with its
fields as members in any order, or from an array of its fields in their order.
Members with other keys are passed over as long as they have the form of JSON;
a field that comes twice is a fault.

A choice among names is read from a text, or from an object whose single key is
the name and whose value is nothing.

Everything is looked at in the order of the text, so that of two faults the
first is reported.
-/

namespace Courier

set_option autoImplicit false

/-- Why a text is not what it should be. -/
inductive DecodeError where
  /-- The text is not JSON, or JSON of another shape. -/
  | malformed
  /-- A text stands where a float should be and names none. -/
  | notAFloat (text : String)
deriving DecidableEq

/-- What is said of the fault. -/
def DecodeError.message : DecodeError → String
  | malformed => "malformed document"
  | notAFloat text => s!"not a float: {text}"

namespace Json.Draft

/-- A quoted text. -/
def text : Draft → Except DecodeError String
  | string (some content) => .ok content
  | _ => .error .malformed

/-- The items of an array. -/
def items : Draft → Except DecodeError (List Draft)
  | array items => .ok items
  | _ => .error .malformed

/-- An array of texts. -/
def texts (draft : Draft) : Except DecodeError (List String) := draft.items >>= List.mapM text

/-- A whole number that fits into 64 bits without a sign. -/
def word : Draft → Except DecodeError UInt64
  | number numeral =>
    match numeral.toInt? with
    | some value =>
      if 0 ≤ value ∧ value < UInt64.size then .ok (UInt64.ofInt value) else .error .malformed
    | none => .error .malformed
  | _ => .error .malformed

/-- Nothing: null, and in a part that has been put aside also an object without members. -/
def isNothing (putAside : Bool) : Draft → Bool
  | null => true
  | object [] => putAside
  | _ => false

/-- A choice among names. -/
def choice (putAside : Bool) : Draft → Except DecodeError String
  | string (some name) => .ok name
  | object [(some name, content)] => if content.isNothing putAside then .ok name else .error .malformed
  | _ => .error .malformed

/-- Takes the members of an object that are fields of a record into account, in their order. -/
def foldMembers {σ : Type} (names : List String) (step : σ → String → Draft → Except DecodeError σ) :
    (seen : List String) → σ → List (Option String × Draft) → Except DecodeError σ
  | _, state, [] => .ok state
  | seen, state, (some key, value) :: rest =>
    if key ∈ names then
      if key ∈ seen then .error .malformed
      else do
        let state ← step state key value
        foldMembers names step (key :: seen) state rest
    else if value.whole then foldMembers names step seen state rest
    else .error .malformed
  | _, _, (none, _) :: _ => .error .malformed

/-- Takes the items of an array into account as the fields of a record.  There may not be more
items than fields. -/
def foldItems {σ : Type} (step : σ → String → Draft → Except DecodeError σ) :
    (names : List String) → σ → List Draft → Except DecodeError σ
  | _, state, [] => .ok state
  | [], _, _ :: _ => .error .malformed
  | name :: names, state, item :: rest => do
    let state ← step state name item
    foldItems step names state rest

/-- What the fields of a record amount to, each taken into account in the order of the text. -/
def foldRecord {σ : Type} (names : List String) (step : σ → String → Draft → Except DecodeError σ)
    (state : σ) : Draft → Except DecodeError σ
  | object members => foldMembers names step [] state members
  | array items => foldItems step names state items
  | _ => .error .malformed

end Json.Draft

end Courier
