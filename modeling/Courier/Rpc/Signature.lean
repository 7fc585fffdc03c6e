import Courier.Json.Basic
import Courier.Json.Shape

/-!
# Methods and their signatures

A method is known on the wire by its signature: the interface, the name and the
type names of the parameters.  A caller knows besides which kinds of error the
method declares.

In the interface of the runtime a signature is a `MethodSig`.
-/

namespace Courier

set_option autoImplicit false

structure Signature where
  interface : String
  name : String
  params : List String
deriving DecidableEq

namespace Signature

/-- The signature as a reader is shown it. -/
def describe (signature : Signature) : String :=
  let params := ",".intercalate signature.params
  s!"{signature.interface}.{signature.name}({params})"

def toJson (signature : Signature) : Json :=
  .object [("interface", .string signature.interface), ("name", .string signature.name),
    ("params", .strings signature.params)]

/-- The fields of a signature that have been read. -/
structure Fields where
  interface : Option String
  name : Option String
  params : Option (List String)

def Fields.step (fields : Fields) (key : String) (value : Json.Draft) :
    Except DecodeError Fields := do
  match key with
  | "interface" =>
    let text ← value.text
    return { fields with interface := some text }
  | "name" =>
    let text ← value.text
    return { fields with name := some text }
  | _ =>
    let texts ← value.texts
    return { fields with params := some texts }

def ofDraft (draft : Json.Draft) : Except DecodeError Signature := do
  let fields ← draft.foldRecord ["interface", "name", "params"] Fields.step ⟨none, none, none⟩
  match fields with
  | ⟨some interface, some name, some params⟩ => return ⟨interface, name, params⟩
  | _ => throw .malformed

end Signature

/-- A method as its callers see it. -/
structure Method where
  signature : Signature
  throws : List String
deriving DecidableEq

/-- Whether the method declares a kind of error. -/
def Method.declares (method : Method) (kind : String) : Bool := method.throws.contains kind

end Courier
