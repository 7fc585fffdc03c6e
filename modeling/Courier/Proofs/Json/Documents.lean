import Courier.Proofs.Json.Numbers
import Courier.Proofs.Json.Texts

/-!
# Documents are read as they were written

Reading what was written of a document gives the draft of this document, and leaves
what follows it.  Every whole number and every text is read as it was written;
of its floats a document needs that their texts are numbers.

The reader has fuel for as many bytes as the document has, which is enough, since
each value that is read inside or behind another one takes a byte at least.
-/

namespace Courier.Json

set_option autoImplicit false

mutual

/-- What a document says when it is read. -/
def draft : Json → Draft
  | null => .null
  | bool value => .bool value
  | int value => .number (.ofInt value)
  | float value =>
    match scanNumber (ascii (floatText value)) with
    | some (numeral, []) => .number numeral
    | _ => .broken
  | string text => .string (some text)
  | array items => .array (draftItems items)
  | object members => .object (draftMembers members)

def draftItems : List Json → List Draft
  | [] => []
  | item :: rest => draft item :: draftItems rest

def draftMembers : List (String × Json) → List (Option String × Draft)
  | [] => []
  | (key, value) :: rest => (some key, draft value) :: draftMembers rest

end

mutual

/-- The text of every float in a document is a number, whatever follows it. -/
def Legible : Json → Prop
  | float value => ∃ numeral, ∀ rest, Closes rest →
      scanNumber (ascii (floatText value) ++ rest) = some (numeral, rest)
  | array items => LegibleItems items
  | object members => LegibleMembers members
  | _ => True

def LegibleItems : List Json → Prop
  | [] => True
  | item :: rest => Legible item ∧ LegibleItems rest

def LegibleMembers : List (String × Json) → Prop
  | [] => True
  | (_, value) :: rest => Legible value ∧ LegibleMembers rest

end

/-! ## The first byte -/

/-- A byte with which a value begins: neither a blank nor a closing bracket or brace. -/
def Opens (byte : UInt8) : Prop := byte ∉ [0x20, 0x09, 0x0a, 0x0d, 0x5d, 0x7d]

instance (byte : UInt8) : Decidable (Opens byte) := inferInstanceAs (Decidable (byte ∉ _))

theorem Opens.skipBlank {byte : UInt8} (opens : Opens byte) (rest : Bytes) :
    skipBlank (byte :: rest) = byte :: rest := by
  simp only [Opens, List.mem_cons, List.not_mem_nil, or_false, not_or] at opens
  simp [Json.skipBlank, opens]

theorem Opens.of_isDigit {byte : UInt8} (digit : isDigit byte = true) : Opens byte := by
  intro listed
  simp only [List.mem_cons, List.not_mem_nil, or_false] at listed
  rcases listed with rfl | rfl | rfl | rfl | rfl | rfl <;> cases digit

/-- A number begins with a minus sign or a digit. -/
theorem first_of_scanNumber {bytes rest : Bytes} {numeral : Numeral}
    (scanned : scanNumber bytes = some (numeral, rest)) :
    ∃ first tail, bytes = first :: tail ∧ (first = 0x2d ∨ isDigit first = true) := by
  cases bytes with
  | nil => cases scanned
  | cons first tail =>
    refine ⟨first, tail, rfl, ?_⟩
    refine Decidable.byContradiction fun other => ?_
    obtain ⟨minus, digit⟩ := not_or.mp other
    have nothing : scanWhole (first :: tail) = none := by
      simp [scanWhole, spanDigits, digit]
    unfold scanNumber at scanned
    split at scanned
    rename_i sign bytes same
    split at same
    · rename_i tail front
      exact minus (List.cons.inj front).1
    · obtain ⟨_, rfl⟩ := Prod.mk.inj same
      rw [nothing] at scanned
      cases scanned

/-- Where a number can be read, it is read. -/
theorem readValue_number {bytes rest : Bytes} {numeral : Numeral}
    (scanned : scanNumber bytes = some (numeral, rest)) (fuel : Nat) :
    readValue (fuel + 1) bytes = (.number numeral, some rest) := by
  obtain ⟨first, tail, rfl, start⟩ := first_of_scanNumber scanned
  have opens : Opens first := by
    rcases start with rfl | digit
    · decide
    · exact .of_isDigit digit
  have start' : ∀ byte ∈ [(0x22 : UInt8), 0x5b, 0x7b, 0x6e, 0x74, 0x66], first ≠ byte := by
    intro byte listed same
    subst same
    rcases start with rfl | digit
    · revert listed
      decide
    · simp only [List.mem_cons, List.not_mem_nil, or_false] at listed
      rcases listed with rfl | rfl | rfl | rfl | rfl | rfl <;> cases digit
  rw [readValue.eq_2, opens.skipBlank]
  split
  case h_7 =>
    rw [scanned]
  all_goals
    rename_i same
    exact absurd (List.cons.inj same).1 (start' _ (by decide))

theorem readValue_string (text : String) (rest : Bytes) (fuel : Nat) :
    readValue (fuel + 1) (quote text ++ rest) = (.string (some text), some rest) := by
  obtain ⟨units, scanned, spelled⟩ := scanUnits_quote text rest
  have front : quote text ++ rest = 0x22 :: ((quote text).tail ++ rest) := rfl
  have opens : Opens 0x22 := by decide
  rw [front, readValue.eq_2, opens.skipBlank]
  simp only [scanned, spelled]

/-- What is written of a document begins with a byte that opens a value. -/
theorem first_of_renderOnto (document : Json) (legible : document.Legible) (rest : Bytes)
    (closes : Closes rest) :
    ∃ first tail, document.renderOnto rest = first :: tail ∧ Opens first := by
  cases document with
  | null => exact ⟨0x6e, _, rfl, by decide⟩
  | bool value =>
    cases value with
    | true => exact ⟨0x74, _, rfl, by decide⟩
    | false => exact ⟨0x66, _, rfl, by decide⟩
  | int value =>
    obtain ⟨first, tail, front, start⟩ := first_of_scanNumber (scanNumber_int value closes)
    refine ⟨first, tail, front, ?_⟩
    rcases start with rfl | digit
    · decide
    · exact .of_isDigit digit
  | float value =>
    simp only [Legible] at legible
    obtain ⟨numeral, scanned⟩ := legible
    obtain ⟨first, tail, front, start⟩ := first_of_scanNumber (scanned rest closes)
    refine ⟨first, tail, front, ?_⟩
    rcases start with rfl | digit
    · decide
    · exact .of_isDigit digit
  | string text => exact ⟨0x22, _, rfl, by decide⟩
  | array items => exact ⟨0x5b, _, rfl, by decide⟩
  | object members => exact ⟨0x7b, _, rfl, by decide⟩

theorem closes_comma (rest : Bytes) : Closes (0x2c :: rest) := by
  rintro byte ⟨⟩
  exact .inl rfl

theorem closes_bracket (rest : Bytes) : Closes (0x5d :: rest) := by
  rintro byte ⟨⟩
  exact .inr (.inl rfl)

theorem closes_brace (rest : Bytes) : Closes (0x7d :: rest) := by
  rintro byte ⟨⟩
  exact .inr (.inr rfl)

theorem length_renderOnto (document : Json) (rest : Bytes) :
    (document.renderOnto rest).length = document.render.length + rest.length := by
  rw [renderOnto_eq, List.length_append]

theorem first_of_renderItems (item : Json) (items : List Json) (legible : item.Legible)
    (rest : Bytes) (closes : Closes rest) :
    ∃ first tail, renderItems (item :: items) rest = first :: tail ∧ Opens first := by
  cases items with
  | nil => exact first_of_renderOnto item legible rest closes
  | cons next more => exact first_of_renderOnto item legible _ (closes_comma _)

theorem length_renderItems (item next : Json) (more : List Json) :
    (renderItems (item :: next :: more) []).length =
      item.render.length + 1 + (renderItems (next :: more) []).length := by
  rw [renderItems, length_renderOnto, List.length_cons]
  omega

theorem length_renderMembers (key : String) (value : Json) (next : String × Json)
    (more : List (String × Json)) :
    (renderMembers ((key, value) :: next :: more) []).length =
      (quote key).length + value.render.length + 2 + (renderMembers (next :: more) []).length := by
  simp only [renderMembers, List.length_append, List.length_cons, length_renderOnto]
  omega

theorem length_renderMembers_single (key : String) (value : Json) :
    (renderMembers [(key, value)] []).length = (quote key).length + value.render.length + 1 := by
  simp only [renderMembers, List.length_append, List.length_cons, length_renderOnto,
    List.length_nil]
  omega

/-- What is written of an array or an object has the two brackets more than what is between them. -/
theorem length_render_array (items : List Json) :
    (array items).render.length = (renderItems items []).length + 2 := by
  have inside : renderItems items [0x5d] = renderItems items [] ++ [0x5d] :=
    renderItems_append items [] [0x5d]
  rw [render, renderOnto, inside]
  simp

theorem length_render_object (members : List (String × Json)) :
    (object members).render.length = (renderMembers members []).length + 2 := by
  have inside : renderMembers members [0x7d] = renderMembers members [] ++ [0x7d] :=
    renderMembers_append members [] [0x7d]
  rw [render, renderOnto, inside]
  simp

/-! ## Arrays and objects -/

theorem readValue_array {first : UInt8} (opens : Opens first) (tail : Bytes) (fuel : Nat) :
    readValue (fuel + 1) (0x5b :: first :: tail) =
      (.array (readItems fuel (first :: tail)).1, (readItems fuel (first :: tail)).2) := by
  have bracket : Opens 0x5b := by decide
  rw [readValue.eq_2, bracket.skipBlank]
  simp only [opens.skipBlank]
  split
  · rename_i same
    obtain ⟨rfl, _⟩ := List.cons.inj same
    exact absurd opens (by decide)
  · rfl

theorem readValue_object {first : UInt8} (opens : Opens first) (tail : Bytes) (fuel : Nat) :
    readValue (fuel + 1) (0x7b :: first :: tail) =
      (.object (readMembers fuel (first :: tail)).1, (readMembers fuel (first :: tail)).2) := by
  have brace : Opens 0x7b := by decide
  rw [readValue.eq_2, brace.skipBlank]
  simp only [opens.skipBlank]
  split
  · rename_i same
    obtain ⟨rfl, _⟩ := List.cons.inj same
    exact absurd opens (by decide)
  · rfl

/-- The last item of an array. -/
theorem readItems_last {fuel : Nat} {bytes rest : Bytes} {item : Draft}
    (read : readValue fuel bytes = (item, some (0x5d :: rest))) :
    readItems (fuel + 1) bytes = ([item], some rest) := by
  simp only [readItems, read]
  rfl

/-- An item that others follow. -/
theorem readItems_more {fuel : Nat} {bytes rest : Bytes} {item : Draft} {items : List Draft}
    {left : Option Bytes} (read : readValue fuel bytes = (item, some (0x2c :: rest)))
    (others : readItems fuel rest = (items, left)) :
    readItems (fuel + 1) bytes = (item :: items, left) := by
  have comma : skipBlank (0x2c :: rest) = 0x2c :: rest := rfl
  simp only [readItems, read, comma, others]

/-- A member begins with its key. -/
theorem readMembers_last {fuel : Nat} {bytes rest : Bytes} {key : String} {value : Draft}
    (read : readValue fuel bytes = (value, some (0x7d :: rest))) :
    readMembers (fuel + 1) (quote key ++ 0x3a :: bytes) = ([(some key, value)], some rest) := by
  obtain ⟨units, scanned, spelled⟩ := scanUnits_quote key (0x3a :: bytes)
  have front : quote key ++ 0x3a :: bytes = 0x22 :: ((quote key).tail ++ 0x3a :: bytes) := rfl
  have opens : Opens 0x22 := by decide
  have colon : skipBlank (0x3a :: bytes) = 0x3a :: bytes := rfl
  rw [front, readMembers, opens.skipBlank]
  simp only [scanned, spelled, colon, read]
  rfl

theorem readMembers_more {fuel : Nat} {bytes rest : Bytes} {key : String} {value : Draft}
    {members : List (Option String × Draft)} {left : Option Bytes}
    (read : readValue fuel bytes = (value, some (0x2c :: rest)))
    (others : readMembers fuel rest = (members, left)) :
    readMembers (fuel + 1) (quote key ++ 0x3a :: bytes) = ((some key, value) :: members, left) := by
  obtain ⟨units, scanned, spelled⟩ := scanUnits_quote key (0x3a :: bytes)
  have front : quote key ++ 0x3a :: bytes = 0x22 :: ((quote key).tail ++ 0x3a :: bytes) := rfl
  have opens : Opens 0x22 := by decide
  have colon : skipBlank (0x3a :: bytes) = 0x3a :: bytes := rfl
  have comma : skipBlank (0x2c :: rest) = 0x2c :: rest := rfl
  rw [front, readMembers, opens.skipBlank]
  simp only [scanned, spelled, colon, read, comma, others]

/-! ## Documents -/

mutual

/-- **A document is read as it was written**, and what follows it is left. -/
theorem readValue_renderOnto : ∀ (document : Json) (fuel : Nat) (rest : Bytes), document.Legible →
    Closes rest → document.render.length < fuel →
    readValue fuel (document.renderOnto rest) = (document.draft, some rest)
  | _, 0, _, _, _, enough => absurd enough (Nat.not_lt_zero _)
  | .null, _ + 1, _, _, _, _ => rfl
  | .bool true, _ + 1, _, _, _, _ => rfl
  | .bool false, _ + 1, _, _, _, _ => rfl
  | .int value, fuel + 1, rest, _, closes, _ =>
    readValue_number (scanNumber_int value closes) fuel
  | .float value, fuel + 1, rest, legible, closes, _ => by
    simp only [Legible] at legible
    obtain ⟨numeral, scanned⟩ := legible
    have alone := scanned [] (by rintro byte ⟨⟩)
    rw [List.append_nil] at alone
    rw [renderOnto, readValue_number (scanned rest closes) fuel, draft, alone]
  | .string text, fuel + 1, rest, _, _, _ => readValue_string text rest fuel
  | .array [], _ + 1, _, _, _, _ => rfl
  | .array (item :: items), fuel + 1, rest, legible, _, enough => by
    simp only [Legible] at legible
    rw [length_render_array] at enough
    obtain ⟨first, tail, front, opens⟩ := first_of_renderItems item items legible.1 (0x5d :: rest)
      (closes_bracket rest)
    rw [renderOnto, front, readValue_array opens, ← front,
      readItems_renderItems item items fuel rest legible (by omega)]
    rfl
  | .object [], _ + 1, _, _, _, _ => rfl
  | .object (member :: members), fuel + 1, rest, legible, _, enough => by
    simp only [Legible] at legible
    rw [length_render_object] at enough
    have opens : Opens 0x22 := by decide
    obtain ⟨tail, front⟩ :
        ∃ tail, renderMembers (member :: members) (0x7d :: rest) = 0x22 :: tail := by
      cases members <;> exact ⟨_, rfl⟩
    rw [renderOnto, front, readValue_object opens, ← front,
      readMembers_renderMembers member members fuel rest legible (by omega)]
    rfl

theorem readItems_renderItems : ∀ (item : Json) (items : List Json) (fuel : Nat) (rest : Bytes),
    LegibleItems (item :: items) → (renderItems (item :: items) []).length + 1 < fuel →
    readItems fuel (renderItems (item :: items) (0x5d :: rest)) =
      (draftItems (item :: items), some rest)
  | _, _, 0, _, _, enough => absurd enough (Nat.not_lt_zero _)
  | item, [], fuel + 1, rest, legible, enough =>
    readItems_last (readValue_renderOnto item fuel _ legible.1 (closes_bracket rest)
      (Nat.lt_of_succ_lt_succ enough))
  | item, next :: more, fuel + 1, rest, legible, enough => by
    rw [length_renderItems] at enough
    exact readItems_more
      (readValue_renderOnto item fuel _ legible.1 (closes_comma _) (by omega))
      (readItems_renderItems next more fuel rest legible.2 (by omega))

theorem readMembers_renderMembers : ∀ (member : String × Json) (members : List (String × Json))
    (fuel : Nat) (rest : Bytes), LegibleMembers (member :: members) →
    (renderMembers (member :: members) []).length + 1 < fuel →
    readMembers fuel (renderMembers (member :: members) (0x7d :: rest)) =
      (draftMembers (member :: members), some rest)
  | _, _, 0, _, _, enough => absurd enough (Nat.not_lt_zero _)
  | (key, value), [], fuel + 1, rest, legible, enough => by
    rw [length_renderMembers_single] at enough
    exact readMembers_last (readValue_renderOnto value fuel _ legible.1 (closes_brace rest)
      (by omega))
  | (key, value), next :: more, fuel + 1, rest, legible, enough => by
    rw [length_renderMembers] at enough
    exact readMembers_more
      (readValue_renderOnto value fuel _ legible.1 (closes_comma _) (by omega))
      (readMembers_renderMembers next more fuel rest legible.2 (by omega))

end

/-- The bytes of a document spell its draft and nothing else. -/
theorem read_render (document : Json) (legible : document.Legible) :
    Json.read document.render = (document.draft, true) := by
  have read : readValue (document.render.length + 1) document.render = (document.draft, some []) :=
    readValue_renderOnto document _ [] legible (by rintro byte ⟨⟩) (Nat.lt_succ_self _)
  rw [Json.read, read]
  rfl

end Courier.Json
