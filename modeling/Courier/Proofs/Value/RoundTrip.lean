import Courier.Marshal.Chain
import Courier.Proofs.Json.Floats
import Courier.Proofs.Value.Fitting

/-!
# Values come back as they were sent

A value without live objects is written as a document, and the document is read as the
value again, if it does not nest too deep for the reader and the floats in it come back
(`Value.Plain`).  That it can be read at all is known from its shape; here it is shown
what is read: the value itself, by induction on the value, wherever in a message its
document stands.

A chain without stages adds nothing to this: on the way out each value becomes its own
portable form, and on the way in each portable form becomes its own value.
-/

namespace Courier

set_option autoImplicit false

open Json (Draft)

/-! ## Nesting -/

namespace Json

mutual

/-- How many arrays and objects of a document stand inside one another. -/
def nesting : Json → Nat
  | array items => nestingItems items + 1
  | object members => nestingMembers members + 1
  | _ => 0

def nestingItems : List Json → Nat
  | [] => 0
  | item :: rest => max (nesting item) (nestingItems rest)

def nestingMembers : List (String × Json) → Nat
  | [] => 0
  | (_, value) :: rest => max (nesting value) (nestingMembers rest)

end

theorem nestingItems_le_iff {items : List Json} {depth : Nat} :
    nestingItems items ≤ depth ↔ ∀ item ∈ items, item.nesting ≤ depth := by
  induction items with
  | nil => simp [nestingItems]
  | cons item rest ih => simp [nestingItems, ih]

theorem nesting_strings (texts : List String) : (strings texts).nesting = 1 := by
  have flat : nestingItems (texts.map string) ≤ 0 := by
    refine nestingItems_le_iff.mpr fun item listed => ?_
    obtain ⟨text, -, rfl⟩ := List.mem_map.mp listed
    exact Nat.le_refl 0
  rw [strings, nesting, Nat.le_zero.mp flat]

end Json

/-! ## Floats -/

theorem Json.ReadsBack.exists_numeral {value : Float} (readsBack : Json.ReadsBack value) :
    ∃ numeral, Json.scanNumber (Json.ascii (Json.floatText value)) = some (numeral, []) ∧
      numeral.toFloat? = some value := by
  unfold ReadsBack readBack? at readsBack
  split at readsBack
  · exact ⟨_, ‹_›, readsBack⟩
  · cases readsBack

section Floats

variable {value : Float}

theorem draft_floatJson_of_finite (finite : value.isFinite = true) {numeral : Json.Numeral}
    (scanned : Json.scanNumber (Json.ascii (Json.floatText value)) = some (numeral, [])) :
    (Portable.floatJson value).draft = .number numeral := by
  rw [Portable.floatJson, if_pos finite, Json.draft, scanned]

/-- A float that comes back travels. -/
theorem floatTravels_of_readsBack (finite : value.isFinite = true)
    (readsBack : Json.ReadsBack value) : FloatTravels value := by
  obtain ⟨numeral, scanned, read⟩ := readsBack.exists_numeral
  have draft := draft_floatJson_of_finite finite scanned
  refine ⟨?_, fun depth => ?_, ?_, value, ?_⟩
  · rw [Portable.floatJson, if_pos finite]
    exact ⟨numeral, fun rest closes => Json.scanNumber_extend closes scanned⟩
  · rw [draft]
    cases depth <;> simp [Draft.sound, Json.Numeral.inRange, read]
  · rw [Json.Settled, draft]
    rfl
  · rw [draft, Portable.floatOfDraft, read]

/-- A float is read as it was written, as a number or by its name. -/
theorem Portable.floatOfDraft_floatJson
    (readsBack : value.isFinite = true → Json.ReadsBack value) :
    floatOfDraft (floatJson value).draft = .ok value := by
  cases finite : value.isFinite with
  | true =>
    obtain ⟨numeral, scanned, read⟩ := (readsBack finite).exists_numeral
    rw [draft_floatJson_of_finite finite scanned, floatOfDraft, read]
  | false =>
    have names : floatJson (0.0 / 0.0) = .string "nan" ∧ floatJson (1.0 / 0.0) = .string "inf" ∧
        floatJson (-1.0 / 0.0) = .string "-inf" := by
      have nan : (0.0 / 0.0 : Float).isFinite = false ∧ (0.0 / 0.0 : Float).isNaN = true := by
        decide +kernel
      have above : (1.0 / 0.0 : Float).isFinite = false ∧ (1.0 / 0.0 : Float).isNaN = false ∧
          Json.isNegative (1.0 / 0.0) = false := by decide +kernel
      have below : (-1.0 / 0.0 : Float).isFinite = false ∧ (-1.0 / 0.0 : Float).isNaN = false ∧
          Json.isNegative (-1.0 / 0.0) = true := by decide +kernel
      simp only [floatJson, nan, above, below, if_true, Bool.false_eq_true, if_false, and_self]
    rcases eq_of_isFinite_eq_false finite with rfl | rfl | rfl
    · rw [names.1]
      rfl
    · rw [names.2.1]
      rfl
    · rw [names.2.2]
      rfl

end Floats

/-! ## Values that come back -/

namespace Value

mutual

/-- A value without live objects, whose maps are in the order of their keys and whose finite floats
come back. -/
def Plain : Value → Prop
  | float value => value.isFinite = true → Json.ReadsBack value
  | list items => PlainItems items
  | map entries => Entries.Ascending entries ∧ PlainEntries entries
  | live _ => False
  | _ => True

def PlainItems : List Value → Prop
  | [] => True
  | item :: rest => Plain item ∧ PlainItems rest

def PlainEntries : List (String × Value) → Prop
  | [] => True
  | (_, value) :: rest => Plain value ∧ PlainEntries rest

end

theorem plainItems_iff {items : List Value} :
    PlainItems items ↔ ∀ item ∈ items, item.Plain := by
  induction items with
  | nil => simp [PlainItems]
  | cons item rest ih => simp [PlainItems, ih]

mutual

/-- A plain value is the value of a portable form. -/
theorem exists_portable : ∀ value : Value, value.Plain → ∃ portable : Portable,
    portable.value = value
  | null, _ => ⟨.null, rfl⟩
  | bool value, _ => ⟨.bool value, rfl⟩
  | int value, _ => ⟨.int value, rfl⟩
  | float value, _ => ⟨.float value, rfl⟩
  | str text, _ => ⟨.str text, rfl⟩
  | bytes content, _ => ⟨.bytes content, rfl⟩
  | list items, plain => by
    obtain ⟨portables, rfl⟩ := exists_portables items plain
    exact ⟨.list portables, rfl⟩
  | map entries, plain => by
    obtain ⟨portables, rfl⟩ := exists_portableEntries entries plain.2
    exact ⟨.map portables, rfl⟩
  | remote handle, _ => ⟨.ref handle, rfl⟩

theorem exists_portables : ∀ items : List Value, PlainItems items →
    ∃ portables : List Portable, Portable.values portables = items
  | [], _ => ⟨[], rfl⟩
  | item :: rest, plain => by
    obtain ⟨portable, rfl⟩ := exists_portable item plain.1
    obtain ⟨portables, rfl⟩ := exists_portables rest plain.2
    exact ⟨portable :: portables, rfl⟩

theorem exists_portableEntries : ∀ entries : List (String × Value), PlainEntries entries →
    ∃ portables : List (String × Portable), Portable.valueEntries portables = entries
  | [], _ => ⟨[], rfl⟩
  | (key, value) :: rest, plain => by
    obtain ⟨portable, rfl⟩ := exists_portable value plain.1
    obtain ⟨portables, rfl⟩ := exists_portableEntries rest plain.2
    exact ⟨(key, portable) :: portables, rfl⟩

end

end Value

namespace Portable

theorem nesting_tagged (tag : PortableTag) (content : Json) :
    (tagged tag content).nesting = content.nesting + 1 := by
  simp [tagged, Json.nesting, Json.nestingMembers]

theorem nesting_handle (handle : RemoteHandle) : handle.toJson.nesting = 2 := by
  simp [RemoteHandle.toJson, Json.nesting, Json.nestingMembers, Json.nesting_strings]

theorem nesting_floatJson (value : Float) : (floatJson value).nesting = 0 := by
  unfold floatJson
  split
  · rfl
  split
  · rfl
  split <;> rfl

/-- The document of a value is an object at least. -/
theorem one_le_nesting (portable : Portable) : 1 ≤ portable.toJson.nesting := by
  cases portable <;> exact Nat.le_add_left 1 _

mutual

/-- A plain value fits where its document does. -/
theorem fits_of_nesting : ∀ (portable : Portable) {depth : Nat}, portable.value.Plain →
    portable.toJson.nesting ≤ depth → portable.value.Fits depth
  | null, _, _, deep => deep
  | bool value, _, _, deep => Nat.le_trans (bool value).one_le_nesting deep
  | int value, _, _, deep => Nat.le_trans (int value).one_le_nesting deep
  | float value, depth, plain, deep => by
    rw [toJson, nesting_tagged, nesting_floatJson] at deep
    refine ⟨deep, ?_⟩
    cases finite : value.isFinite with
    | true => exact floatTravels_of_readsBack finite (plain finite)
    | false => exact floatTravels_of_not_finite finite
  | str text, _, _, deep => Nat.le_trans (str text).one_le_nesting deep
  | bytes content, _, _, deep => Nat.le_trans (bytes content).one_le_nesting deep
  | list items, depth, plain, deep => by
    rw [toJson, nesting_tagged, Json.nesting] at deep
    exact ⟨by omega, fits_of_nestingItems items plain (by omega)⟩
  | map entries, depth, plain, deep => by
    rw [toJson, nesting_tagged, Json.nesting] at deep
    exact ⟨by omega, plain.1, fits_of_nestingEntries entries plain.2 (by omega)⟩
  | ref handle, depth, _, deep => by
    rwa [toJson, nesting_tagged, nesting_handle] at deep

theorem fits_of_nestingItems : ∀ (items : List Portable) {depth : Nat},
    Value.PlainItems (values items) → Json.nestingItems (itemsJson items) ≤ depth →
      Value.FitItems (values items) depth
  | [], _, _, _ => trivial
  | item :: rest, _, plain, deep =>
    ⟨fits_of_nesting item plain.1 (Nat.le_trans (Nat.le_max_left ..) deep),
      fits_of_nestingItems rest plain.2 (Nat.le_trans (Nat.le_max_right ..) deep)⟩

theorem fits_of_nestingEntries : ∀ (entries : List (String × Portable)) {depth : Nat},
    Value.PlainEntries (valueEntries entries) → Json.nestingMembers (entriesJson entries) ≤ depth →
      Value.FitEntries (valueEntries entries) depth
  | [], _, _, _ => trivial
  | (_, value) :: rest, _, plain, deep =>
    ⟨fits_of_nesting value plain.1 (Nat.le_trans (Nat.le_max_left ..) deep),
      fits_of_nestingEntries rest plain.2 (Nat.le_trans (Nat.le_max_right ..) deep)⟩

end

/-- The document of a value without parts is read as the value, if its content is. -/
theorem ofDraftWithin_leaf {portable : Portable} {tag : PortableTag} {content : Json}
    (putAside : Bool) (depth : Nat) (whole : tag ≠ .list ∧ tag ≠ .map ∧ tag ≠ .ref)
    (document : portable.toJson = tagged tag content)
    (read : leafOfDraft tag content.draft = .ok portable) :
    ofDraftWithin putAside (depth + 1) portable.toJson.draft = .ok portable := by
  rw [document, ofDraftWithin_tagged, contentWithin_leaf putAside depth whole, read]

mutual

/-- A plain value is read from its document as it was written, put aside or not. -/
theorem ofDraftWithin_toJson (putAside : Bool) : ∀ (portable : Portable) {depth : Nat},
    portable.value.Plain → portable.toJson.nesting ≤ depth →
      ofDraftWithin putAside depth portable.toJson.draft = .ok portable
  | portable, 0, _, deep => absurd (Nat.le_trans portable.one_le_nesting deep) (by decide)
  | null, depth + 1, _, _ => by cases depth <;> rfl
  | bool _, depth + 1, _, _ => ofDraftWithin_leaf putAside depth (by decide) rfl rfl
  | int value, depth + 1, _, _ =>
    ofDraftWithin_leaf putAside depth (by decide) rfl (leafOfDraft_int value)
  | float value, depth + 1, plain, _ => by
    refine ofDraftWithin_leaf putAside depth (by decide) rfl ?_
    rw [leafOfDraft, floatOfDraft_floatJson plain]
    rfl
  | str _, depth + 1, _, _ => ofDraftWithin_leaf putAside depth (by decide) rfl rfl
  | bytes content, depth + 1, _, _ =>
    ofDraftWithin_leaf putAside depth (by decide) rfl (leafOfDraft_bytes content)
  | list items, depth + 1, plain, deep => by
    rw [toJson, nesting_tagged, Json.nesting] at deep
    obtain ⟨depth, rfl⟩ : ∃ less, depth = less + 1 := ⟨depth - 1, by omega⟩
    rw [toJson, ofDraftWithin_tagged, Json.draft, contentWithin,
      mapM_ofDraftWithin putAside items plain (by omega)]
    rfl
  | map entries, depth + 1, plain, deep => by
    rw [toJson, nesting_tagged, Json.nesting] at deep
    obtain ⟨depth, rfl⟩ : ∃ less, depth = less + 1 := ⟨depth - 1, by omega⟩
    have ascending : Entries.Ascending entries := by
      simpa only [Entries.Ascending, valueEntries_eq_map, List.pairwise_map] using plain.1
    rw [toJson, ofDraftWithin_tagged, Json.draft, contentWithin,
      entriesOfMembers_ofDraftWithin putAside entries plain.2 (by omega)]
    exact congrArg (fun sorted => Except.ok (map sorted)) (Entries.ofList_of_ascending ascending)
  | ref handle, depth + 1, _, deep => by
    rw [toJson, nesting_tagged, nesting_handle] at deep
    obtain ⟨depth, rfl⟩ : ∃ less, depth = less + 2 := ⟨depth - 2, by omega⟩
    rw [toJson, ofDraftWithin_tagged]
    exact leafOfDraft_handle handle

theorem mapM_ofDraftWithin (putAside : Bool) : ∀ (items : List Portable) {depth : Nat},
    Value.PlainItems (values items) → Json.nestingItems (itemsJson items) ≤ depth →
      (Json.draftItems (itemsJson items)).mapM (ofDraftWithin putAside depth) = .ok items
  | [], _, _, _ => rfl
  | item :: rest, _, plain, deep => by
    rw [itemsJson, Json.draftItems, List.mapM_cons,
      ofDraftWithin_toJson putAside item plain.1 (Nat.le_trans (Nat.le_max_left ..) deep),
      mapM_ofDraftWithin putAside rest plain.2 (Nat.le_trans (Nat.le_max_right ..) deep)]
    rfl

theorem entriesOfMembers_ofDraftWithin (putAside : Bool) :
    ∀ (entries : List (String × Portable)) {depth : Nat},
      Value.PlainEntries (valueEntries entries) →
        Json.nestingMembers (entriesJson entries) ≤ depth →
          entriesOfMembers (ofDraftWithin putAside depth)
            (Json.draftMembers (entriesJson entries)) = .ok entries
  | [], _, _, _ => rfl
  | (key, value) :: rest, _, plain, deep => by
    rw [entriesJson, Json.draftMembers, entriesOfMembers,
      ofDraftWithin_toJson putAside value plain.1 (Nat.le_trans (Nat.le_max_left ..) deep),
      entriesOfMembers_ofDraftWithin putAside rest plain.2
        (Nat.le_trans (Nat.le_max_right ..) deep)]
    rfl

end

end Portable

/-! ## A chain without stages -/

namespace MarshalChain

variable {σ : Type}

/-- The chain that leaves every node as it is. -/
def empty : MarshalChain σ := ⟨[]⟩

mutual

/-- A portable form becomes its value. -/
theorem ofPortable_empty : ∀ portable : Portable,
    (empty : MarshalChain σ).ofPortable portable = pure portable.value
  | .null => rfl
  | .bool _ => rfl
  | .int _ => rfl
  | .float _ => rfl
  | .str _ => rfl
  | .bytes _ => rfl
  | .list items => by
    rw [ofPortable, ofPortableItems_empty items, pure_bind]
    rfl
  | .map entries => by
    rw [ofPortable, ofPortableEntries_empty entries, pure_bind]
    rfl
  | .ref _ => rfl

theorem ofPortableItems_empty : ∀ items : List Portable,
    (empty : MarshalChain σ).ofPortableItems items = pure (Portable.values items)
  | [] => rfl
  | item :: rest => by
    rw [ofPortableItems, ofPortable_empty item, ofPortableItems_empty rest, pure_bind, pure_bind]
    rfl

theorem ofPortableEntries_empty : ∀ entries : List (String × Portable),
    (empty : MarshalChain σ).ofPortableEntries entries = pure (Portable.valueEntries entries)
  | [] => rfl
  | (key, value) :: rest => by
    rw [ofPortableEntries, ofPortable_empty value, ofPortableEntries_empty rest, pure_bind,
      pure_bind]
    rfl

end

mutual

/-- A value becomes its portable form, if the allowance is as deep as the value. -/
theorem toPortableWithin_empty : ∀ (portable : Portable) {allowance : Nat},
    portable.value.depth < allowance →
      (empty : MarshalChain σ).toPortableWithin allowance portable.value = pure portable
  | _, 0, deep => absurd deep (Nat.not_lt_zero _)
  | .null, _ + 1, _ => rfl
  | .bool _, _ + 1, _ => rfl
  | .int _, _ + 1, _ => rfl
  | .float _, _ + 1, _ => rfl
  | .str _, _ + 1, _ => rfl
  | .bytes _, _ + 1, _ => rfl
  | .list items, allowance + 1, deep => by
    have inner : Value.depthItems (Portable.values items) < allowance := Nat.lt_of_succ_lt_succ deep
    have kept : (empty : MarshalChain σ).replace (.list (Portable.values items)) =
        pure (.list (Portable.values items)) := rfl
    rw [Portable.value, toPortableWithin, kept, pure_bind]
    simp only [mapM_toPortableWithin_empty items inner, pure_bind]
  | .map entries, allowance + 1, deep => by
    have inner : Value.depthEntries (Portable.valueEntries entries) < allowance :=
      Nat.lt_of_succ_lt_succ deep
    have kept : (empty : MarshalChain σ).replace (.map (Portable.valueEntries entries)) =
        pure (.map (Portable.valueEntries entries)) := rfl
    rw [Portable.value, toPortableWithin, kept, pure_bind]
    simp only [mapM_entries_empty entries inner, pure_bind]
  | .ref _, _ + 1, _ => rfl

theorem mapM_toPortableWithin_empty : ∀ (items : List Portable) {allowance : Nat},
    Value.depthItems (Portable.values items) < allowance →
      (Portable.values items).mapM ((empty : MarshalChain σ).toPortableWithin allowance) =
        pure items
  | [], _, _ => rfl
  | item :: rest, allowance, deep => by
    obtain ⟨first, others⟩ := Nat.max_lt.mp deep
    rw [Portable.values, List.mapM_cons, toPortableWithin_empty item first, pure_bind,
      mapM_toPortableWithin_empty rest others, pure_bind]

theorem mapM_entries_empty : ∀ (entries : List (String × Portable)) {allowance : Nat},
    Value.depthEntries (Portable.valueEntries entries) < allowance →
      ((Portable.valueEntries entries).mapM fun entry => do
        return (entry.1, ← (empty : MarshalChain σ).toPortableWithin allowance entry.2)) =
        pure entries
  | [], _, _ => rfl
  | (key, value) :: rest, allowance, deep => by
    obtain ⟨first, others⟩ := Nat.max_lt.mp deep
    rw [Portable.valueEntries, List.mapM_cons, toPortableWithin_empty value first, pure_bind,
      pure_bind, mapM_entries_empty rest others, pure_bind]

end

theorem toPortable_empty (portable : Portable) :
    (empty : MarshalChain σ).toPortable portable.value = pure portable :=
  toPortableWithin_empty portable (Nat.lt_add_of_pos_right (by decide))

theorem mapM_toPortable_empty (portables : List Portable) :
    (Portable.values portables).mapM (empty : MarshalChain σ).toPortable = pure portables := by
  induction portables with
  | nil => rfl
  | cons portable rest ih =>
    rw [Portable.values, List.mapM_cons, toPortable_empty, pure_bind, ih, pure_bind]

theorem mapM_ofPortable_empty (portables : List Portable) :
    portables.mapM (empty : MarshalChain σ).ofPortable = pure (Portable.values portables) := by
  induction portables with
  | nil => rfl
  | cons portable rest ih =>
    rw [List.mapM_cons, ofPortable_empty, pure_bind, ih, pure_bind]
    rfl

theorem decodeValue_encode {portable : Portable} (plain : portable.value.Plain)
    (deep : portable.toJson.nesting ≤ nestingLimit) :
    (empty : MarshalChain σ).decodeValue portable.encode = pure portable.value := by
  have readable := portable.readable_of_fits (portable.fits_of_nesting plain deep)
  have read : Portable.ofDraft portable.toJson.draft = .ok portable :=
    portable.ofDraftWithin_toJson false plain deep
  rw [decodeValue, Portable.decode_encode readable.legible read]
  exact ofPortable_empty portable

/-- **A plain value can be written**, and comes back if what is written does not nest too deep. -/
theorem value_comes_back {value : Value} (plain : value.Plain) (state : σ) :
    ∃ portable : Portable,
      (empty.toPortable value).run state = (.ok portable, state) ∧
      (empty.encodeValue value).run state = (.ok portable.toJson.render, state) ∧
      (portable.toJson.nesting ≤ nestingLimit → ∀ other : σ,
        (empty.decodeValue portable.toJson.render).run other = (.ok value, other)) := by
  obtain ⟨portable, rfl⟩ := value.exists_portable plain
  refine ⟨portable, ?_, ?_, fun deep other => ?_⟩
  · rw [toPortable_empty]
    rfl
  · rw [encodeValue, toPortable_empty]
    rfl
  · have read : (empty : MarshalChain σ).decodeValue portable.encode = pure portable.value :=
      decodeValue_encode plain deep
    rw [Portable.encode] at read
    rw [read]
    rfl

end MarshalChain

end Courier
