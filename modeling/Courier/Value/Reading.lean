import Courier.Value.Portable
import Courier.Json.Shape

/-!
# Reading portable values

A value is read from an object with the type name under `t` and the content
under `v`, in either order and among other members, or from an array of the
two.  At most 127 arrays and objects may stand inside one another.  In an array
that was put aside a type may also be given by its number.

The content is read once the type is known.  If it stands in front of the type
it is put aside, and for that it has to be sound, however it is read later.
-/

namespace Courier

set_option autoImplicit false

/-- How many arrays and objects of a message may stand inside one another. -/
def nestingLimit : Nat := 127

open Json (Draft)

/-- A handle from its fields. -/
def RemoteHandle.ofDraft (draft : Draft) : Except DecodeError RemoteHandle := do
  let fields ← draft.foldRecord ["instance_id", "interfaces"] (fun fields name value =>
    if name = "instance_id" then do
      let instanceId ← value.text
      return (some instanceId, fields.2)
    else do
      let interfaces ← value.texts
      return (fields.1, some interfaces)) ((none, none) : Option String × Option (List String))
  match fields with
  | (some instanceId, some interfaces) => return ⟨instanceId, interfaces⟩
  | _ => throw .malformed

namespace Portable

/-- An integer in the range of 64 bits with a sign. -/
def intOfDraft : Draft → Except DecodeError Int64
  | .number numeral =>
    match numeral.toInt? with
    | some value =>
      if Int64.minValue.toInt ≤ value ∧ value ≤ Int64.maxValue.toInt then .ok (Int64.ofInt value)
      else .error .malformed
    | none => .error .malformed
  | _ => .error .malformed

/-- A float as a number in range, or by the name of one that has no number. -/
def floatOfDraft : Draft → Except DecodeError Float
  | .number numeral =>
    match numeral.toFloat? with
    | some value => .ok value
    | none => .error .malformed
  | .string (some "nan") => .ok (0.0 / 0.0)
  | .string (some "inf") => .ok (1.0 / 0.0)
  | .string (some "-inf") => .ok (-1.0 / 0.0)
  | .string (some text) => .error (.notAFloat text)
  | _ => .error .malformed

/-- A content without parts, of a given type. -/
def leafOfDraft : PortableTag → Draft → Except DecodeError Portable
  | .null, .null => .ok null
  | .bool, .bool value => .ok (bool value)
  | .int, draft => int <$> intOfDraft draft
  | .float, draft => float <$> floatOfDraft draft
  | .str, draft => str <$> draft.text
  | .bytes, draft => do
    match Bytes.ofHex? (← draft.text) with
    | some content => return bytes content
    | none => throw .malformed
  | .ref, draft => ref <$> RemoteHandle.ofDraft draft
  | _, _ => .error .malformed

/-- What has been read of an object so far. -/
inductive Progress where
  | nothing
  /-- The type is known. -/
  | typed (tag : PortableTag)
  /-- The content has been put aside until the type is known. -/
  | aside (content : Draft)
  /-- The value is known. -/
  | done (value : Portable)

/-- The type that a member of an object names. -/
def tagOfMember (putAside : Bool) (depth : Nat) (draft : Draft) : Except DecodeError PortableTag := do
  match PortableTag.ofName? (← draft.choice putAside) with
  | some tag => if draft.sound depth then return tag else throw .malformed
  | none => throw .malformed

/-- The type that the first item of an array names, or gives by its number. -/
def tagOfItem (putAside : Bool) (draft : Draft) : Except DecodeError PortableTag := do
  match putAside, draft with
  | true, .number numeral =>
    match numeral.toInt? with
    | some number =>
      match number, PortableTag.all[number.toNat]? with
      | .ofNat _, some tag => return tag
      | _, _ => throw .malformed
    | none => throw .malformed
  | _, draft =>
    match PortableTag.ofName? (← draft.text) with
    | some tag => return tag
    | none => throw .malformed

/-- One more member of an object.  `content` reads a content of a known type, put aside or not. -/
def Progress.member (content : Bool → PortableTag → Draft → Except DecodeError Portable)
    (putAside : Bool) (depth : Nat) :
    Progress → String → Draft → Except DecodeError Progress
  | nothing, "t", draft => typed <$> tagOfMember putAside depth draft
  | nothing, _, draft => if draft.sound depth then .ok (aside draft) else .error .malformed
  | typed tag, "v", draft => done <$> content putAside tag draft
  | aside kept, "t", draft => do
    let tag ← tagOfMember putAside depth draft
    done <$> content true tag kept
  | _, _, _ => .error .malformed

/-- One more item of an array. -/
def Progress.item (content : PortableTag → Draft → Except DecodeError Portable) (putAside : Bool) :
    Progress → String → Draft → Except DecodeError Progress
  | nothing, _, draft => typed <$> tagOfItem putAside draft
  | typed tag, _, draft => done <$> content tag draft
  | _, _, _ => .error .malformed

/-- The value at the end of an object.  Only null may be without content. -/
def Progress.finish : Progress → Except DecodeError Portable
  | done value => .ok value
  | typed .null => .ok null
  | _ => .error .malformed

/-- The value at the end of an array, which always has a content. -/
def Progress.finishItems : Progress → Except DecodeError Portable
  | done value => .ok value
  | _ => .error .malformed

/-- The entries of a map in the order of the text; the last of a key counts. -/
def entriesOfMembers (value : Draft → Except DecodeError Portable) :
    List (Option String × Draft) → Except DecodeError (List (String × Portable))
  | [] => .ok []
  | (some key, draft) :: rest => do
    let value' ← value draft
    let entries ← entriesOfMembers value rest
    return (key, value') :: entries
  | (none, _) :: _ => .error .malformed

mutual

/-- The value of a draft with at most `depth` arrays and objects inside one another.  `putAside`
says that the draft was put aside before it is read. -/
def ofDraftWithin (putAside : Bool) : (depth : Nat) → Draft → Except DecodeError Portable
  | 0, _ => .error .malformed
  | depth + 1, .object members => do
    let progress ← Draft.foldMembers ["t", "v"]
      (Progress.member (fun aside => contentWithin aside depth) putAside depth) [] .nothing members
    progress.finish
  | depth + 1, .array items => do
    let progress ← Draft.foldItems
      (Progress.item (contentWithin putAside depth) putAside) ["t", "v"] .nothing items
    progress.finishItems
  | _ + 1, _ => .error .malformed

/-- A content of a given type. -/
def contentWithin (putAside : Bool) : (depth : Nat) → PortableTag → Draft →
    Except DecodeError Portable
  | 0, .list, _ => .error .malformed
  | depth + 1, .list, .array items => list <$> items.mapM (ofDraftWithin putAside depth)
  | 0, .map, _ => .error .malformed
  | depth + 1, .map, .object members => do
    let entries ← entriesOfMembers (ofDraftWithin putAside depth) members
    return map (Entries.ofList entries)
  | 0, .ref, _ => .error .malformed
  | 1, .ref, _ => .error .malformed
  | _, tag, draft => leafOfDraft tag draft

end

/-- The value of a draft. -/
def ofDraft (draft : Draft) : Except DecodeError Portable := ofDraftWithin false nestingLimit draft

/-- The value of a draft that was put aside. -/
def ofDraftAside (draft : Draft) : Except DecodeError Portable :=
  ofDraftWithin true nestingLimit draft

/-- The value that bytes on the wire spell. -/
def decode (bytes : Bytes) : Except DecodeError Portable := do
  let (draft, ends) := Json.read bytes
  let value ← ofDraft draft
  if ends then return value else throw .malformed

end Portable

end Courier
