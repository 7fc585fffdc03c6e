import Courier.Proofs.Json.Documents
import Courier.Proofs.Value.Shapes
import Courier.Rpc.Message
import Mathlib.Data.List.Induction
import Mathlib.Data.String.Basic

/-!
# Values that fit into a message

A portable value is written as a document and read again.  It is read without a
fault if it does not nest too deep and if each of its floats has a text that is
read as a float; whether a value fits is seen from its shape.  What is read is
the same wherever in a message the value stands.

Which float is read for the text of a float is a matter of rounding, and nothing
here depends on it.
-/

namespace Courier

set_option autoImplicit false

open Json (Draft)

/-! ## Maps in the order of their keys -/

namespace Entries

variable {α β : Type}

theorem ascending_iff_keys {entries : List (String × α)} :
    Ascending entries ↔ (entries.map Prod.fst).Pairwise (· < ·) := List.pairwise_map.symm

theorem insert_last {key : String} {value : α} {entries : List (String × α)}
    (last : ∀ entry ∈ entries, entry.1 < key) :
    insert key value entries = entries ++ [(key, value)] := by
  induction entries with
  | nil => rfl
  | cons first rest ih =>
    have before := last first (List.mem_cons_self ..)
    have after : ¬ key < first.1 := fun behind =>
      String.lt_irrefl _ (String.lt_trans before behind)
    have differs : key ≠ first.1 := fun same => String.lt_irrefl _ (same ▸ before)
    rw [insert, if_neg after, if_neg differs,
      ih fun entry listed => last entry (List.mem_cons_of_mem _ listed), List.cons_append]

/-- Entries in the order of their keys are a map as they stand. -/
theorem ofList_of_ascending {entries : List (String × α)} (ascending : Ascending entries) :
    ofList entries = entries := by
  unfold ofList
  induction entries using List.reverseRecOn with
  | nil => rfl
  | append_singleton entries entry ih =>
    obtain ⟨ascending, _, below⟩ := List.pairwise_append.mp ascending
    rw [List.foldl_append, ih ascending]
    exact insert_last fun other listed => below other listed entry (List.mem_singleton_self _)

end Entries

/-! ## Documents -/

namespace Json

theorem draftItems_eq_map (items : List Json) : draftItems items = items.map draft := by
  induction items with
  | nil => rfl
  | cons item rest ih => rw [draftItems, ih, List.map_cons]

theorem draftMembers_eq_map (members : List (String × Json)) :
    draftMembers members = members.map fun member => (some member.1, member.2.draft) := by
  induction members with
  | nil => rfl
  | cons member rest ih => rw [draftMembers, ih, List.map_cons]

theorem legibleItems_iff {items : List Json} :
    LegibleItems items ↔ ∀ item ∈ items, item.Legible := by
  induction items with
  | nil => simp [LegibleItems]
  | cons item rest ih => simp [LegibleItems, ih]

theorem legibleMembers_iff {members : List (String × Json)} :
    LegibleMembers members ↔ ∀ member ∈ members, member.2.Legible := by
  induction members with
  | nil => simp [LegibleMembers]
  | cons member rest ih => simp [LegibleMembers, ih]

/-- Making a table of its members leaves the document as it is. -/
def Settled (document : Json) : Prop := document.draft.settled = document.draft

theorem settled_array {items : List Json} (each : ∀ item ∈ items, item.Settled) :
    (array items).Settled := by
  refine congrArg Draft.array ?_
  induction items with
  | nil => rfl
  | cons item rest ih =>
    rw [draftItems, Draft.settledItems, each item (List.mem_cons_self ..),
      ih fun other listed => each other (List.mem_cons_of_mem _ listed)]

theorem settled_object {members : List (String × Json)} (ascending : Entries.Ascending members)
    (each : ∀ member ∈ members, member.2.Settled) : (object members).Settled := by
  have same : Draft.settledMembers (draftMembers members) =
      members.map fun member => (member.1, member.2.draft) := by
    clear ascending
    induction members with
    | nil => rfl
    | cons member rest ih =>
      rw [draftMembers, Draft.settledMembers, each member (List.mem_cons_self ..),
        ih fun other listed => each other (List.mem_cons_of_mem _ listed), List.map_cons]
      rfl
  have ascending' :
      Entries.Ascending (members.map fun member => (member.1, member.2.draft)) :=
    List.pairwise_map.mpr ascending
  rw [Settled, draft, Draft.settled, same, Entries.ofList_of_ascending ascending', List.map_map,
    draftMembers_eq_map]
  rfl

theorem settled_strings (texts : List String) : (strings texts).Settled := by
  refine settled_array fun item listed => ?_
  obtain ⟨text, _, rfl⟩ := List.mem_map.mp listed
  rfl

theorem texts_strings (texts : List String) : (strings texts).draft.texts = .ok texts := by
  have all : (draftItems (texts.map string)).mapM Draft.text = .ok texts := by
    induction texts with
    | nil => rfl
    | cons text rest ih =>
      rw [List.map_cons, draftItems, List.mapM_cons, ih]
      rfl
  exact all

theorem legible_strings (texts : List String) : (strings texts).Legible := by
  refine legibleItems_iff.mpr fun item listed => ?_
  obtain ⟨text, _, rfl⟩ := List.mem_map.mp listed
  trivial

theorem sound_strings (texts : List String) (depth : Nat) :
    (strings texts).draft.sound (depth + 1) = true := by
  have all : (draftItems (texts.map string)).all (Draft.sound depth) = true := by
    induction texts with
    | nil => rfl
    | cons text rest ih =>
      rw [List.map_cons, draftItems, List.all_cons, ih]
      cases depth <;> rfl
  exact all

end Json

/-! ## Values -/

/-- The text of a float is read as some float.  What the arithmetic of floats gives cannot be seen
here, so this is asked of each float in a message. -/
structure FloatTravels (value : Float) : Prop where
  legible : (Portable.floatJson value).Legible
  sound : ∀ depth, (Portable.floatJson value).draft.sound depth = true
  settled : (Portable.floatJson value).Settled
  read : ∃ again, Portable.floatOfDraft (Portable.floatJson value).draft = .ok again

/-- A float that is written by its name travels. -/
theorem floatTravels_of_not_finite {value : Float} (named : value.isFinite = false) :
    FloatTravels value := by
  have written : Portable.floatJson value = .string "nan" ∨
      Portable.floatJson value = .string "-inf" ∨ Portable.floatJson value = .string "inf" := by
    unfold Portable.floatJson
    rw [named]
    cases value.isNaN <;> cases Json.isNegative value <;> simp
  rcases written with text | text | text
  all_goals
    constructor <;> rw [text]
    · trivial
    · exact fun depth => by cases depth <;> rfl
    · rfl
    · exact ⟨_, rfl⟩

namespace Value

mutual

/-- The document of a value has at most `depth` arrays and objects inside one another, and it can be
read. -/
def Fits : Value → (depth : Nat) → Prop
  | float value, depth => 1 ≤ depth ∧ FloatTravels value
  | list items, depth => 2 ≤ depth ∧ FitItems items (depth - 2)
  | map entries, depth => 2 ≤ depth ∧ Entries.Ascending entries ∧ FitEntries entries (depth - 2)
  | remote _, depth => 3 ≤ depth
  | live _, depth => 3 ≤ depth
  | _, depth => 1 ≤ depth

def FitItems : List Value → (depth : Nat) → Prop
  | [], _ => True
  | item :: rest, depth => Fits item depth ∧ FitItems rest depth

def FitEntries : List (String × Value) → (depth : Nat) → Prop
  | [], _ => True
  | (_, value) :: rest, depth => Fits value depth ∧ FitEntries rest depth

end

theorem keys_shapeEntries (entries : List (String × Value)) :
    (shapeEntries entries).map Prod.fst = entries.map Prod.fst := by
  induction entries with
  | nil => rfl
  | cons entry rest ih => rw [shapeEntries, List.map_cons, List.map_cons, ih]

mutual

/-- Whether a value fits is seen from its shape. -/
theorem fits_shape (value : Value) (depth : Nat) : value.shape.Fits depth ↔ value.Fits depth :=
  match value with
  | null => Iff.rfl
  | bool _ => Iff.rfl
  | int _ => Iff.rfl
  | float _ => Iff.rfl
  | str _ => Iff.rfl
  | bytes _ => Iff.rfl
  | list items => and_congr_right' (fits_shapeItems items (depth - 2))
  | map entries => by
    simp only [shape, Fits, Entries.ascending_iff_keys, keys_shapeEntries,
      fits_shapeEntries entries]
  | remote _ => Iff.rfl
  | live _ => Iff.rfl

theorem fits_shapeItems (items : List Value) (depth : Nat) :
    FitItems (shapeItems items) depth ↔ FitItems items depth :=
  match items with
  | [] => Iff.rfl
  | item :: rest => and_congr (fits_shape item depth) (fits_shapeItems rest depth)

theorem fits_shapeEntries (entries : List (String × Value)) (depth : Nat) :
    FitEntries (shapeEntries entries) depth ↔ FitEntries entries depth :=
  match entries with
  | [] => Iff.rfl
  | (_, value) :: rest => and_congr (fits_shape value depth) (fits_shapeEntries rest depth)

end

theorem Fits.of_shape {value other : Value} {depth : Nat} (fits : value.Fits depth)
    (same : other.shape = value.shape) : other.Fits depth :=
  (other.fits_shape depth).mp (same ▸ (value.fits_shape depth).mpr fits)

end Value

/-! ## Portable values -/

namespace RemoteHandle

theorem legible_toJson (handle : RemoteHandle) : handle.toJson.Legible :=
  ⟨trivial, Json.legible_strings _, trivial⟩

theorem sound_toJson (handle : RemoteHandle) (depth : Nat) :
    handle.toJson.draft.sound (depth + 2) = true := by
  have interfaces := Json.sound_strings handle.interfaces depth
  simp [toJson, Json.draft, Json.draftMembers, Draft.sound, interfaces]

theorem settled_toJson (handle : RemoteHandle) : handle.toJson.Settled := by
  refine Json.settled_object ?_ fun member listed => ?_
  · exact List.pairwise_pair.mpr (show "instance_id" < "interfaces" by decide)
  · simp only [List.mem_cons, List.not_mem_nil, or_false] at listed
    rcases listed with rfl | rfl
    · rfl
    · exact Json.settled_strings _

/-- A handle is read as it was written. -/
theorem ofDraft_toJson (handle : RemoteHandle) : ofDraft handle.toJson.draft = .ok handle := by
  have text : (Draft.string (some handle.instanceId)).text = .ok handle.instanceId := rfl
  have interfaces := Json.texts_strings handle.interfaces
  simp [ofDraft, toJson, Json.draft, Json.draftMembers, Draft.foldRecord, Draft.foldMembers, text,
    interfaces, bind, Except.bind, pure, Except.pure]

end RemoteHandle

namespace Portable

/-- The document of a portable value can be read, wherever it stands in a message. -/
structure Readable (portable : Portable) (depth : Nat) : Prop where
  legible : portable.toJson.Legible
  sound : portable.toJson.draft.sound depth = true
  settled : portable.toJson.Settled
  read : ∃ again, ∀ putAside within, depth ≤ within →
    ofDraftWithin putAside within portable.toJson.draft = .ok again

/-- A value with a content is read as its content is. -/
theorem ofDraftWithin_tagged (putAside : Bool) (depth : Nat) (tag : PortableTag) (content : Json) :
    ofDraftWithin putAside (depth + 1) (tagged tag content).draft =
      contentWithin putAside depth tag content.draft := by
  have choice : (Draft.string (some tag.name)).choice putAside = .ok tag.name := rfl
  have sound : (Draft.string (some tag.name)).sound depth = true := by cases depth <;> rfl
  simp [tagged, Json.draft, Json.draftMembers, ofDraftWithin, Draft.foldMembers, Progress.member,
    tagOfMember, choice, sound, bind, Except.bind, pure, Except.pure]
  cases contentWithin putAside depth tag content.draft <;> rfl

/-- The document of a value with a content can be read if its content can. -/
theorem readable_tagged {portable : Portable} {tag : PortableTag} {content : Json} {depth : Nat}
    (again : Portable) (document : portable.toJson = tagged tag content) (legible : content.Legible)
    (sound : content.draft.sound depth = true) (settled : content.Settled)
    (read : ∀ putAside within, depth ≤ within →
      contentWithin putAside within tag content.draft = .ok again) :
    portable.Readable (depth + 1) where
  legible := document ▸ ⟨trivial, legible, trivial⟩
  sound := by
    have name : (Draft.string (some tag.name)).sound depth = true := by cases depth <;> rfl
    simp [document, tagged, Json.draft, Json.draftMembers, Draft.sound, name, sound]
  settled := by
    rw [document]
    refine Json.settled_object (List.pairwise_pair.mpr (show "t" < "v" by decide)) ?_
    intro member listed
    simp only [List.mem_cons, List.not_mem_nil, or_false] at listed
    rcases listed with rfl | rfl
    · rfl
    · exact settled
  read := by
    refine ⟨again, fun putAside within deep => ?_⟩
    obtain ⟨within, rfl⟩ : ∃ less, within = less + 1 := ⟨within - 1, by omega⟩
    rw [document, ofDraftWithin_tagged]
    exact read putAside within (Nat.le_of_succ_le_succ deep)

/-- A content without parts is read by itself, however deep it may be. -/
theorem contentWithin_leaf (putAside : Bool) (depth : Nat) {tag : PortableTag}
    (whole : tag ≠ .list ∧ tag ≠ .map ∧ tag ≠ .ref) (draft : Draft) :
    contentWithin putAside depth tag draft = leafOfDraft tag draft := by
  cases tag with
  | list => exact absurd rfl whole.1
  | map => exact absurd rfl whole.2.1
  | ref => exact absurd rfl whole.2.2
  | _ => rcases depth with _ | _ | depth <;> rfl

/-- The document of a value whose content has no parts can be read. -/
theorem readable_leaf {portable : Portable} {content : Json} {depth : Nat} (tag : PortableTag)
    (again : Portable) (document : portable.toJson = tagged tag content) (deep : 1 ≤ depth)
    (whole : tag ≠ .list ∧ tag ≠ .map ∧ tag ≠ .ref) (legible : content.Legible)
    (sound : ∀ depth, content.draft.sound depth = true) (settled : content.Settled)
    (read : leafOfDraft tag content.draft = .ok again) : portable.Readable depth := by
  obtain ⟨depth, rfl⟩ : ∃ less, depth = less + 1 := ⟨depth - 1, by omega⟩
  exact readable_tagged again document legible (sound depth) settled
    fun putAside within _ => (contentWithin_leaf putAside within whole _).trans read

theorem leafOfDraft_handle (handle : RemoteHandle) :
    leafOfDraft .ref handle.toJson.draft = .ok (ref handle) := by
  rw [leafOfDraft, handle.ofDraft_toJson]
  rfl

theorem readable_ref (handle : RemoteHandle) {depth : Nat} (deep : 3 ≤ depth) :
    (ref handle).Readable depth := by
  obtain ⟨depth, rfl⟩ : ∃ less, depth = less + 2 + 1 := ⟨depth - 3, by omega⟩
  refine readable_tagged (ref handle) rfl handle.legible_toJson
    (handle.sound_toJson depth) handle.settled_toJson fun putAside within deep => ?_
  obtain ⟨within, rfl⟩ : ∃ less, within = less + 2 := ⟨within - 2, by omega⟩
  exact leafOfDraft_handle handle

theorem itemsJson_eq_map (items : List Portable) : itemsJson items = items.map toJson := by
  induction items with
  | nil => rfl
  | cons item rest ih => rw [itemsJson, ih, List.map_cons]

theorem entriesJson_eq_map (entries : List (String × Portable)) :
    entriesJson entries = entries.map fun entry => (entry.1, entry.2.toJson) := by
  induction entries with
  | nil => rfl
  | cons entry rest ih => rw [entriesJson, ih, List.map_cons]

section Parts

variable {depth : Nat}

theorem exists_mapM {items : List Portable} (each : ∀ item ∈ items, item.Readable depth) :
    ∃ again, ∀ putAside within, depth ≤ within →
      (items.map fun item => item.toJson.draft).mapM (ofDraftWithin putAside within) =
        .ok again := by
  induction items with
  | nil => exact ⟨[], fun _ _ _ => rfl⟩
  | cons item rest ih =>
    obtain ⟨first, read⟩ := (each item (List.mem_cons_self ..)).read
    obtain ⟨others, later⟩ := ih fun other listed => each other (List.mem_cons_of_mem _ listed)
    refine ⟨first :: others, fun putAside within deep => ?_⟩
    rw [List.map_cons, List.mapM_cons, read putAside within deep, later putAside within deep]
    rfl

theorem exists_entriesOfMembers {entries : List (String × Portable)}
    (each : ∀ entry ∈ entries, entry.2.Readable depth) :
    ∃ again, ∀ putAside within, depth ≤ within →
      entriesOfMembers (ofDraftWithin putAside within)
        (entries.map fun entry => (some entry.1, entry.2.toJson.draft)) = .ok again := by
  induction entries with
  | nil => exact ⟨[], fun _ _ _ => rfl⟩
  | cons entry rest ih =>
    obtain ⟨first, read⟩ := (each entry (List.mem_cons_self ..)).read
    obtain ⟨others, later⟩ := ih fun other listed => each other (List.mem_cons_of_mem _ listed)
    refine ⟨(entry.1, first) :: others, fun putAside within deep => ?_⟩
    rw [List.map_cons, entriesOfMembers, read putAside within deep, later putAside within deep]
    rfl

theorem readable_list {items : List Portable} (each : ∀ item ∈ items, item.Readable depth) :
    (list items).Readable (depth + 2) := by
  obtain ⟨again, read⟩ := exists_mapM each
  have drafts : Json.draftItems (itemsJson items) = items.map fun item => item.toJson.draft := by
    rw [Json.draftItems_eq_map, itemsJson_eq_map, List.map_map]
    rfl
  have parts : ∀ item ∈ itemsJson items, ∃ part ∈ items, part.toJson = item := by
    intro item listed
    rw [itemsJson_eq_map] at listed
    exact List.mem_map.mp listed
  refine readable_tagged (list again) rfl ?_ ?_ ?_ fun putAside within deep => ?_
  · refine Json.legibleItems_iff.mpr fun item listed => ?_
    obtain ⟨part, among, rfl⟩ := parts item listed
    exact (each part among).legible
  · simp only [Json.draft, drafts, Draft.sound, List.all_map, List.all_eq_true]
    exact fun part among => (each part among).sound
  · refine Json.settled_array fun item listed => ?_
    obtain ⟨part, among, rfl⟩ := parts item listed
    exact (each part among).settled
  · obtain ⟨within, rfl⟩ : ∃ less, within = less + 1 := ⟨within - 1, by omega⟩
    rw [Json.draft, drafts, contentWithin, read putAside within (Nat.le_of_succ_le_succ deep)]
    rfl

theorem readable_map {entries : List (String × Portable)} (ascending : Entries.Ascending entries)
    (each : ∀ entry ∈ entries, entry.2.Readable depth) : (map entries).Readable (depth + 2) := by
  obtain ⟨again, read⟩ := exists_entriesOfMembers each
  have drafts : Json.draftMembers (entriesJson entries) =
      entries.map fun entry => (some entry.1, entry.2.toJson.draft) := by
    rw [Json.draftMembers_eq_map, entriesJson_eq_map, List.map_map]
    rfl
  have parts : ∀ member ∈ entriesJson entries, ∃ part ∈ entries, part.2.toJson = member.2 := by
    intro member listed
    rw [entriesJson_eq_map] at listed
    obtain ⟨part, among, rfl⟩ := List.mem_map.mp listed
    exact ⟨part, among, rfl⟩
  refine readable_tagged (map (Entries.ofList again)) rfl ?_ ?_ ?_
    fun putAside within deep => ?_
  · refine Json.legibleMembers_iff.mpr fun member listed => ?_
    obtain ⟨part, among, same⟩ := parts member listed
    exact same ▸ (each part among).legible
  · simp only [Json.draft, drafts, Draft.sound, List.all_map, List.all_eq_true]
    intro part among
    simpa using (each part among).sound
  · refine Json.settled_object ?_ fun member listed => ?_
    · rw [entriesJson_eq_map]
      exact List.pairwise_map.mpr ascending
    · obtain ⟨part, among, same⟩ := parts member listed
      exact same ▸ (each part among).settled
  · obtain ⟨within, rfl⟩ : ∃ less, within = less + 1 := ⟨within - 1, by omega⟩
    rw [Json.draft, drafts, contentWithin, read putAside within (Nat.le_of_succ_le_succ deep)]
    rfl

end Parts

theorem intOfDraft_toInt (value : Int64) :
    intOfDraft (.number (.ofInt value.toInt)) = .ok value := by
  have bounds : Int64.minValue.toInt ≤ value.toInt ∧ value.toInt ≤ Int64.maxValue.toInt :=
    ⟨Int64.minValue_le_toInt value, Int64.toInt_le value⟩
  simp only [intOfDraft, Json.Numeral.toInt?_ofInt, if_pos bounds, Int64.ofInt_toInt]

theorem leafOfDraft_int (value : Int64) :
    leafOfDraft .int (Json.int value.toInt).draft = .ok (int value) := by
  rw [leafOfDraft, Json.draft, intOfDraft_toInt]
  rfl

theorem readable_int (value : Int64) {depth : Nat} (deep : 1 ≤ depth) :
    (int value).Readable depth := by
  have inRange : (Json.Numeral.ofInt value.toInt).inRange = true := by
    refine Json.Numeral.inRange_ofInt ?_
    have bounds : Int64.minValue.toInt ≤ value.toInt ∧ value.toInt ≤ Int64.maxValue.toInt :=
      ⟨Int64.minValue_le_toInt value, Int64.toInt_le value⟩
    have least : Int64.minValue.toInt = -9223372036854775808 := rfl
    have greatest : Int64.maxValue.toInt = 9223372036854775807 := rfl
    have size : UInt64.size = 18446744073709551616 := rfl
    omega
  exact readable_leaf .int (int value) rfl deep (by decide) trivial
    (fun depth => by cases depth <;> exact inRange) rfl (leafOfDraft_int value)

theorem readable_float {value : Float} (travels : FloatTravels value) {depth : Nat}
    (deep : 1 ≤ depth) : (float value).Readable depth := by
  obtain ⟨again, read⟩ := travels.read
  refine readable_leaf .float (float again) rfl deep (by decide) travels.legible
    travels.sound travels.settled ?_
  rw [leafOfDraft, read]
  rfl

theorem leafOfDraft_bytes (content : Bytes) :
    leafOfDraft .bytes (Json.string (Bytes.toHex content)).draft = .ok (bytes content) := by
  have text : (Draft.string (some (Bytes.toHex content))).text = .ok (Bytes.toHex content) := rfl
  simp only [leafOfDraft, Json.draft, text, bind, Except.bind, Bytes.ofHex?_toHex]
  rfl

theorem readable_bytes (content : Bytes) {depth : Nat} (deep : 1 ≤ depth) :
    (bytes content).Readable depth :=
  readable_leaf .bytes (bytes content) rfl deep (by decide) trivial
    (fun depth => by cases depth <;> rfl) rfl (leafOfDraft_bytes content)

theorem readable_null {depth : Nat} (deep : 1 ≤ depth) : null.Readable depth where
  legible := ⟨trivial, trivial⟩
  sound := by
    obtain ⟨depth, rfl⟩ : ∃ less, depth = less + 1 := ⟨depth - 1, by omega⟩
    cases depth <;> rfl
  settled := rfl
  read := by
    refine ⟨null, fun putAside within enough => ?_⟩
    obtain ⟨within, rfl⟩ : ∃ less, within = less + 1 := ⟨within - 1, by omega⟩
    cases within <;> rfl

mutual

/-- The document of a value that fits can be read. -/
theorem readable_of_fits (portable : Portable) {depth : Nat} (fits : portable.value.Fits depth) :
    portable.Readable depth :=
  match portable with
  | null => readable_null fits
  | bool value => readable_leaf .bool (bool value) rfl fits (by decide) trivial
      (fun depth => by cases depth <;> rfl) rfl rfl
  | int value => readable_int value fits
  | float value => readable_float fits.2 fits.1
  | str text => readable_leaf .str (str text) rfl fits (by decide) trivial
      (fun depth => by cases depth <;> rfl) rfl rfl
  | bytes content => readable_bytes content fits
  | list items => by
    obtain ⟨deep, fits⟩ := fits
    obtain ⟨depth, rfl⟩ : ∃ less, depth = less + 2 := ⟨depth - 2, by omega⟩
    exact readable_list (readable_items items fits)
  | map entries => by
    obtain ⟨deep, ascending, fits⟩ := fits
    obtain ⟨depth, rfl⟩ : ∃ less, depth = less + 2 := ⟨depth - 2, by omega⟩
    have ascending : Entries.Ascending entries := by
      simpa only [Entries.Ascending, valueEntries_eq_map, List.pairwise_map] using ascending
    exact readable_map ascending (readable_entries entries fits)
  | ref handle => readable_ref handle fits

theorem readable_items (items : List Portable) {depth : Nat}
    (fits : Value.FitItems (values items) depth) : ∀ item ∈ items, item.Readable depth :=
  match items with
  | [] => fun _ listed => by cases listed
  | item :: rest => fun other listed => by
    rcases List.mem_cons.mp listed with same | later
    · exact same ▸ readable_of_fits item fits.1
    · exact readable_items rest fits.2 other later

theorem readable_entries (entries : List (String × Portable)) {depth : Nat}
    (fits : Value.FitEntries (valueEntries entries) depth) :
    ∀ entry ∈ entries, entry.2.Readable depth :=
  match entries with
  | [] => fun _ listed => by cases listed
  | (key, value) :: rest => fun other listed => by
    rcases List.mem_cons.mp listed with same | later
    · exact same ▸ readable_of_fits value fits.1
    · exact readable_entries rest fits.2 other later

end

/-- A portable value that was sent on its own is read as its document is. -/
theorem decode_encode {portable again : Portable} (legible : portable.toJson.Legible)
    (read : ofDraft portable.toJson.draft = .ok again) : decode portable.encode = .ok again := by
  rw [decode, encode, Json.read_render _ legible]
  simp only [read]
  rfl

end Portable

end Courier
