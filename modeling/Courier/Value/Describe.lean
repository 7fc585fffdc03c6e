import Courier.Value.Basic
import Courier.Text.Quoted
import Courier.Bytes.Hex
import Courier.Decimal.Shortest

/-!
# Values as text for a reader

The text names the type of each plain value and shows its content; lists and
maps show their entries between brackets and braces.  Floats are spelled
positionally however large or small, the larger one of two shortest decimals
being taken; texts are quoted so that every character shows, and byte strings
are in hexadecimal digits.
-/

namespace Courier

set_option autoImplicit false

/-- A float in positional notation; a whole number has no point. -/
def describeFloat (value : Float) : String :=
  let bits := value.toBits.toNat
  let sign := if 0x8000000000000000 ≤ bits then "-" else ""
  if value.isNaN then "NaN"
  else if value.isInf then sign ++ "inf"
  else if bits % 0x8000000000000000 = 0 then sign ++ "0"
  else sign ++ (Decimal.shortest .upward (.ofFloat value)).positional ""

/-- A list of texts, each quoted, between brackets. -/
def describeTexts (texts : List String) : String :=
  "[" ++ ", ".intercalate (texts.map Text.quoted) ++ "]"

namespace Value

mutual

/-- What a reader is shown of a value. -/
def describe : Value → String
  | null => "Null"
  | bool value => s!"Bool({value})"
  | int value => s!"Int({value.toInt})"
  | float value => s!"Float({describeFloat value})"
  | str text => s!"Str({Text.quoted text})"
  | bytes content => s!"Bytes({Bytes.toHex content})"
  | list items => "[" ++ ", ".intercalate (describeItems items) ++ "]"
  | map entries => "\x7b" ++ ", ".intercalate (describeEntries entries) ++ "\x7d"
  | remote handle => s!"Remote({handle.instanceId})"
  | live object => s!"Live({object.typeName})"

def describeItems : List Value → List String
  | [] => []
  | item :: rest => describe item :: describeItems rest

def describeEntries : List (String × Value) → List String
  | [] => []
  | (key, value) :: rest => (Text.quoted key ++ ": " ++ describe value) :: describeEntries rest

end

end Value

/-- What a reader is shown of a proxy. -/
def ProxyRef.describe (proxy : ProxyRef) : String :=
  "RemoteProxy \x7b handle: RemoteHandle \x7b instance_id: " ++
    Text.quoted proxy.handle.instanceId ++ ", interfaces: " ++
    describeTexts proxy.handle.interfaces ++ " \x7d \x7d"

end Courier
