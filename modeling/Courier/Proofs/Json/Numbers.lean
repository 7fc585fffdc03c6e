import Courier.Json.Basic
import Courier.Json.Draft

/-!
# Whole numbers are read as they were written

The decimal digits of a number spell that number, and do not begin with a zero
unless they are a single one; so a whole number is read with all its digits, as
long as something follows that cannot belong to a number.
-/

namespace Courier.Json

set_option autoImplicit false

/-- The decimal digits of a number. -/
def digitsOf (number : Nat) : Bytes := Bytes.ofText (toString number)

/-- The byte of a digit. -/
def digitByte (digit : Nat) : UInt8 := UInt8.ofNat (0x30 + digit)

theorem ofText_ofList_append (first second : List Char) :
    Bytes.ofText (String.ofList (first ++ second)) =
      Bytes.ofText (String.ofList first) ++ Bytes.ofText (String.ofList second) := by
  simp [Bytes.ofText]

theorem ofText_digitChar : ∀ digit < 10,
    Bytes.ofText (String.ofList [Nat.digitChar digit]) = [digitByte digit] := by
  decide +kernel

theorem digitsOf_of_lt {number : Nat} (small : number < 10) :
    digitsOf number = [digitByte number] := by
  rw [digitsOf, Nat.toString_eq_ofList_toDigits, Nat.toDigits_of_lt_base small,
    ofText_digitChar number small]

theorem digitsOf_of_le {number : Nat} (large : 10 ≤ number) :
    digitsOf number = digitsOf (number / 10) ++ [digitByte (number % 10)] := by
  rw [digitsOf, digitsOf, Nat.toString_eq_ofList_toDigits, Nat.toString_eq_ofList_toDigits,
    Nat.toDigits_of_base_le (by omega) large, ofText_ofList_append,
    ofText_digitChar _ (Nat.mod_lt _ (by omega))]

theorem isDigit_digitByte : ∀ digit < 10, isDigit (digitByte digit) = true := by decide

theorem toNat_digitByte {digit : Nat} (small : digit < 10) :
    (digitByte digit).toNat - 0x30 = digit := by
  rw [digitByte, UInt8.toNat_ofNat']
  omega

theorem isDigit_of_mem_digitsOf (number : Nat) : ∀ byte ∈ digitsOf number, isDigit byte = true := by
  induction number using Nat.strongRecOn with
  | ind number ih =>
    intro byte member
    rcases Nat.lt_or_ge number 10 with small | large
    · rw [digitsOf_of_lt small, List.mem_singleton] at member
      exact member ▸ isDigit_digitByte number small
    · rw [digitsOf_of_le large, List.mem_append, List.mem_singleton] at member
      rcases member with earlier | rfl
      · exact ih _ (Nat.div_lt_self (by omega) (by omega)) byte earlier
      · exact isDigit_digitByte _ (Nat.mod_lt _ (by omega))

theorem digitsValue_append (digits : Bytes) (digit : UInt8) :
    digitsValue (digits ++ [digit]) = digitsValue digits * 10 + (digit.toNat - 0x30) := by
  simp [digitsValue]

/-- The digits of a number spell it. -/
@[simp] theorem digitsValue_digitsOf (number : Nat) : digitsValue (digitsOf number) = number := by
  induction number using Nat.strongRecOn with
  | ind number ih =>
    rcases Nat.lt_or_ge number 10 with small | large
    · rw [digitsOf_of_lt small]
      simpa [digitsValue] using toNat_digitByte small
    · rw [digitsOf_of_le large, digitsValue_append, ih _ (Nat.div_lt_self (by omega) (by omega)),
        toNat_digitByte (Nat.mod_lt _ (by omega))]
      omega

/-- The digits are a single zero, or do not begin with one. -/
theorem digitsOf_eq_cons (number : Nat) :
    digitsOf number = [0x30] ∨ ∃ first rest, digitsOf number = first :: rest ∧ first ≠ 0x30 := by
  induction number using Nat.strongRecOn with
  | ind number ih =>
    rcases Nat.lt_or_ge number 10 with small | large
    · rw [digitsOf_of_lt small]
      by_cases zero : number = 0
      · left
        rw [zero]
        rfl
      · refine .inr ⟨_, [], rfl, fun same => zero ?_⟩
        have value := toNat_digitByte small
        rw [same] at value
        exact value.symm
    · rw [digitsOf_of_le large]
      have smaller : number / 10 < number := Nat.div_lt_self (by omega) (by omega)
      rcases ih _ smaller with zero | ⟨first, rest, digits, other⟩
      · have spelled := digitsValue_digitsOf (number / 10)
        rw [zero] at spelled
        have : digitsValue [0x30] = 0 := rfl
        omega
      · rw [digits]
        exact .inr ⟨first, _, rfl, other⟩

/-! ## Reading a number -/

/-- What follows cannot belong to a number: nothing, a comma or a closing bracket or brace. -/
def Closes (rest : Bytes) : Prop := ∀ byte ∈ rest.head?, byte = 0x2c ∨ byte = 0x5d ∨ byte = 0x7d

theorem spanDigits_append {digits rest : Bytes} (all : ∀ byte ∈ digits, isDigit byte = true)
    (other : ∀ byte ∈ rest.head?, isDigit byte = false) :
    spanDigits (digits ++ rest) = (digits, rest) := by
  have none : rest.takeWhile isDigit = [] ∧ rest.dropWhile isDigit = rest := by
    cases rest with
    | nil => exact ⟨rfl, rfl⟩
    | cons byte rest => simp [other byte rfl]
  rw [spanDigits, List.takeWhile_append_of_pos all, List.dropWhile_append_of_pos all, none.1,
    none.2, List.append_nil]

theorem Closes.not_digit {rest : Bytes} (closes : Closes rest) :
    ∀ byte ∈ rest.head?, isDigit byte = false := by
  intro byte first
  rcases closes byte first with rfl | rfl | rfl <;> rfl

theorem scanWhole_digitsOf (number : Nat) {rest : Bytes} (closes : Closes rest) :
    scanWhole (digitsOf number ++ rest) = some (digitsOf number, rest) := by
  have span := spanDigits_append (isDigit_of_mem_digitsOf number) closes.not_digit
  rcases digitsOf_eq_cons number with zero | ⟨first, others, digits, other⟩
  · rw [scanWhole, span, zero]
    rfl
  · rw [scanWhole, span, digits]
    split
    · rename_i same
      cases same
    · rename_i same
      exact absurd (congrArg (·.1.head?) same) (by simpa using other)
    · rename_i same
      rw [← (Prod.mk.inj same).1, ← (Prod.mk.inj same).2]

theorem Closes.scanFraction {rest : Bytes} (closes : Closes rest) :
    scanFraction rest = some (none, rest) := by
  cases rest with
  | nil => rfl
  | cons byte rest => rcases closes byte rfl with rfl | rfl | rfl <;> rfl

theorem Closes.scanExponent {rest : Bytes} (closes : Closes rest) :
    scanExponent rest = some (none, rest) := by
  cases rest with
  | nil => rfl
  | cons byte rest => rcases closes byte rfl with rfl | rfl | rfl <;> rfl

/-- The numeral that spells an integer. -/
def Numeral.ofInt (value : Int) : Numeral := ⟨decide (value < 0), digitsOf value.natAbs, none, none⟩

/-- A byte that is a digit is no minus sign. -/
theorem digitsOf_ne_minus (number : Nat) (rest tail : Bytes) :
    digitsOf number ++ rest ≠ 0x2d :: tail := by
  intro same
  have digits := isDigit_of_mem_digitsOf number
  rcases digitsOf_eq_cons number with zero | ⟨first, others, front, _⟩
  · rw [zero] at same
    cases same
  · rw [front] at same digits
    obtain ⟨rfl, _⟩ := List.cons.inj same
    cases digits _ (List.mem_cons_self ..)

/-- The digits of a number are read, with or without a minus sign in front of them. -/
theorem scanNumber_digits (negative : Bool) (number : Nat) {rest : Bytes} (closes : Closes rest) :
    scanNumber ((if negative then [0x2d] else []) ++ (digitsOf number ++ rest)) =
      some (⟨negative, digitsOf number, none, none⟩, rest) := by
  have parts : (scanWhole (digitsOf number ++ rest) >>= fun whole =>
      scanFraction whole.2 >>= fun fraction =>
      scanExponent fraction.2 >>= fun power =>
      some ((⟨negative, whole.1, fraction.1, power.1⟩ : Numeral), power.2)) =
      some (⟨negative, digitsOf number, none, none⟩, rest) := by
    rw [scanWhole_digitsOf number closes, Option.bind_eq_bind, Option.bind_some,
      closes.scanFraction, Option.bind_eq_bind, Option.bind_some, closes.scanExponent]
    rfl
  cases negative with
  | true => exact parts
  | false =>
    unfold scanNumber
    split
    rename_i sign bytes same
    split at same
    · rename_i tail front
      exact absurd front (digitsOf_ne_minus number rest tail)
    · obtain ⟨rfl, rfl⟩ := Prod.mk.inj same
      exact parts

theorem ofText_toString_int (value : Int) :
    ascii (toString value) = (if value < 0 then [0x2d] else []) ++ digitsOf value.natAbs := by
  cases value with
  | ofNat number => rfl
  | negSucc number =>
    have sign : toString (Int.negSucc number) = "-" ++ toString (number + 1) := rfl
    have minus : "-".toByteArray.data.toList = [0x2d] := by decide +kernel
    rw [if_pos (Int.negSucc_lt_zero number), ascii, sign]
    simp [Bytes.ofText, digitsOf, minus]

/-- **A whole number is read as it was written.** -/
theorem scanNumber_int (value : Int) {rest : Bytes} (closes : Closes rest) :
    scanNumber (ascii (toString value) ++ rest) = some (.ofInt value, rest) := by
  have read := scanNumber_digits (decide (value < 0)) value.natAbs closes
  rw [ofText_toString_int, List.append_assoc]
  simpa [Numeral.ofInt] using read

/-! ## What the numeral says -/

@[simp] theorem Numeral.toInt?_ofInt (value : Int) : (Numeral.ofInt value).toInt? = some value := by
  by_cases negative : value < 0
  · have nonzero : value.natAbs ≠ 0 := by omega
    have magnitude : -(value.natAbs : Int) = value := by omega
    simp only [toInt?, ofInt, negative, decide_true, Bool.not_true, Bool.false_eq_true, if_false,
      digitsValue_digitsOf, nonzero, magnitude]
  · have magnitude : (value.natAbs : Int) = value := by omega
    simp only [toInt?, ofInt, negative, decide_false, Bool.not_false, if_true, digitsValue_digitsOf,
      magnitude]

/-- More digits spell no smaller number. -/
theorem le_foldl_digits (digits : Bytes) (number : Nat) :
    number ≤ digits.foldl (fun number digit => number * 10 + (digit.toNat - 0x30)) number := by
  induction digits generalizing number with
  | nil => exact Nat.le_refl number
  | cons digit digits ih =>
    refine Nat.le_trans ?_ (ih _)
    simp only
    omega

/-- Digits that spell a number of at most 64 bits all count. -/
theorem appendDigits_of_lt (digits : Bytes) (number : Nat)
    (small :
      digits.foldl (fun number digit => number * 10 + (digit.toNat - 0x30)) number < UInt64.size) :
    (appendDigits number digits).2 = [] := by
  induction digits generalizing number with
  | nil => rfl
  | cons digit digits ih =>
    rw [List.foldl_cons] at small
    rw [appendDigits, if_pos (Nat.lt_of_le_of_lt (le_foldl_digits digits _) small)]
    exact ih _ small

/-- An integer of 64 bits without its sign is in range. -/
theorem Numeral.inRange_ofInt {value : Int} (small : value.natAbs < UInt64.size) :
    (Numeral.ofInt value).inRange = true := by
  have all : (appendDigits 0 (digitsOf value.natAbs)).2 = [] := by
    refine appendDigits_of_lt _ 0 ?_
    have spelled := digitsValue_digitsOf value.natAbs
    rw [digitsValue] at spelled
    rw [spelled]
    exact small
  simp [inRange, isWord, ofInt, all]

end Courier.Json
