import Mathlib.Algebra.Group.Nat.Defs
import TableApi.Number.Decimal

/-!
# Numbers and the texts that spell them

A number is written without leading zeros and read back as itself, as a natural number, as an
integer and as a word.  Leading zeros change nothing: two runs of digits with the same value within
64 bits read as the same number, and a text that is no number equals neither of them.
-/

namespace TableApi.Text

/-! ## Natural numbers -/

/-- The value of digits is the number that the library reads off them. -/
theorem digitsValue?_eq_some {digits : List Char} {value : Nat} :
    digitsValue? digits = some value ↔
      digits ≠ [] ∧ (∀ digit ∈ digits, digit.isDigit = true) ∧
        Nat.ofDigitChars 10 digits 0 = value := by
  simp only [digitsValue?, Nat.ofDigitChars]
  split
  · rename_i proper
    simp only [Bool.and_eq_true, Bool.not_eq_true', List.isEmpty_eq_false_iff,
      List.all_eq_true] at proper
    exact ⟨fun same => ⟨proper.1, proper.2, Option.some.inj same⟩, fun same => by rw [same.2.2]⟩
  · rename_i improper
    simp only [Bool.and_eq_true, Bool.not_eq_true', List.isEmpty_eq_false_iff,
      List.all_eq_true] at improper
    simp only [reduceCtorEq, false_iff]
    rintro ⟨filled, digits, _⟩
    exact improper ⟨filled, digits⟩

theorem digitsValue?_toDigits (value : Nat) :
    digitsValue? (Nat.toDigits 10 value) = some value := by
  refine digitsValue?_eq_some.2 ⟨Nat.toDigits_ne_nil, ?_, Nat.ofDigitChars_ten_toDigits⟩
  intro digit member
  exact Nat.isDigit_of_mem_toDigits (by simp) (Nat.le_refl 10) member

/-- A digit is neither of the signs. -/
theorem isDigit_ne_sign {digit : Char} (isDigit : digit.isDigit = true) :
    digit ≠ '+' ∧ digit ≠ '-' := by
  constructor
  · rintro rfl
    revert isDigit
    decide
  · rintro rfl
    revert isDigit
    decide

/-- Digits are a natural number as they stand. -/
theorem natural?_of_digits {largest value : Nat} {digits : List Char}
    (spelled : digitsValue? digits = some value) (small : value ≤ largest) :
    natural? largest digits = some value := by
  rcases digitsValue?_eq_some.1 spelled with ⟨filled, proper, _⟩
  cases digits with
  | nil => exact absurd rfl filled
  | cons first others =>
    have unsigned := (isDigit_ne_sign (proper first List.mem_cons_self)).1
    simp [natural?, unsigned, spelled, small]

theorem word?_toString {value : Nat} (small : value ≤ largestWord) :
    word? (toString value).toList = some value := by
  rw [Nat.toString_eq_ofList_toDigits, String.toList_ofList]
  exact natural?_of_digits (digitsValue?_toDigits value) small

/-! ## Integers -/

/-- Digits are an integer when their value fits. -/
theorem integer?_digits {digits : List Char} (proper : ∀ digit ∈ digits, digit.isDigit = true) :
    integer? digits =
      ((digitsValue? digits).map Int.ofNat).filter fun value => value ≤ largestInteger := by
  have positive : ∀ value : Nat, leastInteger ≤ Int.ofNat value := by
    intro value
    simp only [leastInteger, Int.ofNat_eq_natCast]
    omega
  cases digits with
  | nil => rfl
  | cons first others =>
    have unsigned := isDigit_ne_sign (proper first List.mem_cons_self)
    cases found : digitsValue? (first :: others) with
    | none => simp [integer?, unsigned, found]
    | some value =>
      have least := positive value
      simp only [Int.ofNat_eq_natCast] at least
      simp [integer?, unsigned, found, Option.filter, least]

/-- The value of digits that read as an integer. -/
theorem digitsValue?_of_integer? {digits : List Char} {value : Int}
    (proper : ∀ digit ∈ digits, digit.isDigit = true) (spelled : integer? digits = some value) :
    ∃ natural : Nat, value = natural ∧ digitsValue? digits = some natural ∧
      (natural : Int) ≤ largestInteger := by
  rw [integer?_digits proper] at spelled
  rcases Option.filter_eq_some_iff.1 spelled with ⟨found, small⟩
  rcases Option.map_eq_some_iff.1 found with ⟨natural, read, rfl⟩
  exact ⟨natural, rfl, read, by simpa using small⟩

/-- A negative integer is written as its digits behind a sign. -/
theorem toList_negSucc (natural : Nat) :
    (toString (Int.negSucc natural)).toList = '-' :: Nat.toDigits 10 (natural + 1) := by
  have signed : toString (Int.negSucc natural) = "-" ++ (natural + 1).repr := rfl
  rw [signed, String.toList_append, Nat.toList_repr]
  rfl

theorem integer?_toString {value : Int} (least : leastInteger ≤ value)
    (largest : value ≤ largestInteger) : integer? (toString value).toList = some value := by
  cases value with
  | ofNat natural =>
    have same : toString (Int.ofNat natural) = toString natural := rfl
    have small : (natural : Int) ≤ largestInteger := largest
    rw [same, Nat.toString_eq_ofList_toDigits, String.toList_ofList, integer?_digits]
    · simp [digitsValue?_toDigits, Option.filter, small]
    · exact fun digit member => Nat.isDigit_of_mem_toDigits (by simp) (Nat.le_refl 10) member
  | negSucc natural =>
    have read : integer? ('-' :: Nat.toDigits 10 (natural + 1)) =
        (some (Int.negSucc natural)).filter fun value =>
          leastInteger ≤ value && value ≤ largestInteger := by
      simp only [integer?, digitsValue?_toDigits]
      rfl
    rw [toList_negSucc, read]
    exact Option.filter_some_pos
      (Bool.and_eq_true_iff.2 ⟨decide_eq_true least, decide_eq_true largest⟩)

end TableApi.Text

namespace TableApi.Reading

open TableApi.Text

/-! ## Readings -/

/-- What a natural number reads as. -/
def ofNatural (value : Nat) : Reading :=
  ofDecimal false (Nat.toDigits 10 value) 0

theorem ofDigitChars_dropWhile (digits : List Char) :
    Nat.ofDigitChars 10 (digits.dropWhile (· == '0')) 0 = Nat.ofDigitChars 10 digits 0 := by
  induction digits with
  | nil => rfl
  | cons digit digits step =>
    by_cases zero : digit = '0'
    · simp [zero, Nat.ofDigitChars_cons, step]
    · simp [zero]

/-- Digits of which the first is not zero are no more than the value is large. -/
theorem length_le_of_value {digits : List Char} {value size : Nat}
    (proper : ∀ digit ∈ digits, digit.isDigit = true) (leading : digits.head? ≠ some '0')
    (spelled : Nat.ofDigitChars 10 digits 0 = value) (small : value < 10 ^ size) :
    digits.length ≤ size := by
  cases digits with
  | nil => simp
  | cons first others =>
    have digit := proper first List.mem_cons_self
    have positive : 1 ≤ first.toNat - '0'.toNat := by
      have other : first ≠ '0' := by simpa using leading
      have bounds : 48 ≤ first.toNat := by
        simp only [Char.isDigit, Bool.and_eq_true, decide_eq_true_eq] at digit
        exact digit.1
      have unlike : first.toNat ≠ 48 := fun same => other (Char.toNat_inj.1 same)
      have zero : '0'.toNat = 48 := rfl
      omega
    rw [Nat.ofDigitChars_cons, Nat.ofDigitChars_eq_ofDigitChars_zero] at spelled
    have large : 10 ^ others.length ≤ value := by
      rw [← spelled]
      calc 10 ^ others.length = 10 ^ others.length * 1 := (Nat.mul_one _).symm
        _ ≤ 10 ^ others.length * (10 * 0 + (first.toNat - '0'.toNat)) :=
          Nat.mul_le_mul_left _ (by omega)
        _ ≤ _ := Nat.le_add_right _ _
    have less : others.length < size :=
      (Nat.pow_lt_pow_iff_right (by decide : 1 < 10)).1 (Nat.lt_of_le_of_lt large small)
    exact less

/-- Without the zeros in front, digits are no more than their value is large. -/
theorem length_significant_le {digits : List Char} {value size : Nat}
    (spelled : digitsValue? digits = some value) (small : value < 10 ^ size) :
    (digits.dropWhile (· == '0')).length ≤ size := by
  rcases digitsValue?_eq_some.1 spelled with ⟨_, proper, valued⟩
  apply length_le_of_value _ _ ((ofDigitChars_dropWhile digits).trans valued) small
  · exact fun digit member => proper digit ((List.dropWhile_sublist _).subset member)
  · intro leads
    have kept := List.head?_dropWhile_not (· == '0') digits
    rw [leads] at kept
    simp at kept

/-- A decimal without a fraction reads by its value alone, as long as that is not too large. -/
theorem ofDecimal_congr {digits other : List Char} {value : Nat}
    (spelled : digitsValue? digits = some value) (alike : digitsValue? other = some value)
    (small : value < 10 ^ 310) : ofDecimal false digits 0 = ofDecimal false other 0 := by
  have first := length_significant_le spelled small
  have second := length_significant_le alike small
  have notLarge : ¬(310 : Int) < ((digits.dropWhile (· == '0')).length : Int) + 0 := by omega
  have notLarge' : ¬(310 : Int) < ((other.dropWhile (· == '0')).length : Int) + 0 := by omega
  have notSmall : ¬((digits.dropWhile (· == '0')).length : Int) + 0 < -330 := by omega
  have notSmall' : ¬((other.dropWhile (· == '0')).length : Int) + 0 < -330 := by omega
  simp only [ofDecimal, spelled, alike, notLarge, notLarge', notSmall, notSmall', if_false]

theorem toLower_of_isDigit {digit : Char} (isDigit : digit.isDigit = true) :
    digit.toLower = digit := by
  simp only [Char.isDigit, Bool.and_eq_true, decide_eq_true_eq] at isDigit
  refine dif_neg fun upper => ?_
  exact absurd (UInt32.le_trans upper.1 isDigit.2) (by decide)

/-- Digits read as a decimal without a fraction, whatever sign stands before them. -/
theorem ofMagnitude?_of_digits {digits : List Char} {value : Nat}
    (spelled : digitsValue? digits = some value) (negative : Bool) :
    ofMagnitude? negative digits = some (ofDecimal negative digits 0) := by
  rcases digitsValue?_eq_some.1 spelled with ⟨filled, proper, _⟩
  have lowered : digits.map Char.toLower = digits :=
    (List.map_congr_left fun digit member => toLower_of_isDigit (proper digit member)).trans
      (List.map_id digits)
  have whole : digits.takeWhile Char.isDigit = digits := by
    simpa using @List.takeWhile_append_of_pos _ _ digits [] proper
  have nothing : digits.dropWhile Char.isDigit = [] := by
    simpa using @List.dropWhile_append_of_pos _ _ digits [] proper
  have lettered : ∀ name ∈ ["inf", "infinity", "nan"],
      ∃ letter ∈ name.toList, letter.isDigit = false := by simp
  have unnamed : ∀ name ∈ ["inf", "infinity", "nan"], ¬digits = name.toList := by
    rintro name member rfl
    rcases lettered name member with ⟨letter, inside, isLetter⟩
    rw [proper letter inside] at isLetter
    simp at isLetter
  simp only [ofMagnitude?, lowered, unnamed "inf" (by simp), unnamed "infinity" (by simp),
    unnamed "nan" (by simp), unsigned?, whole, nothing]
  simp [filled]

theorem ofText?_of_digitsValue? {digits : List Char} {value : Nat}
    (spelled : digitsValue? digits = some value) :
    ofText? digits = some (ofDecimal false digits 0) := by
  rcases digitsValue?_eq_some.1 spelled with ⟨filled, proper, _⟩
  cases digits with
  | nil => exact absurd rfl filled
  | cons first others =>
    have unsigned := isDigit_ne_sign (proper first List.mem_cons_self)
    have magnitude : ofText? (first :: others) = ofMagnitude? false (first :: others) := by
      simp [ofText?, unsigned]
    rw [magnitude, ofMagnitude?_of_digits spelled]

/-- Digits read as the number that is their value. -/
theorem ofText?_of_digits {digits : List Char} {value : Nat}
    (spelled : digitsValue? digits = some value) (small : value < 10 ^ 310) :
    ofText? digits = some (ofNatural value) := by
  have same : ofDecimal false digits 0 = ofNatural value :=
    ofDecimal_congr spelled (digitsValue?_toDigits value) small
  rw [ofText?_of_digitsValue? spelled, same]

/-- An integer reads as the decimal of its digits. -/
theorem ofText?_toString (value : Int) :
    ofText? (toString value).toList =
      some (ofDecimal (value < 0) (Nat.toDigits 10 value.natAbs) 0) := by
  cases value with
  | ofNat natural =>
    have same : toString (Int.ofNat natural) = toString natural := rfl
    rw [same, Nat.toString_eq_ofList_toDigits, String.toList_ofList,
      ofText?_of_digitsValue? (digitsValue?_toDigits natural)]
    have sign : decide (Int.ofNat natural < 0) = false := decide_eq_false (by simp)
    rw [sign]
    rfl
  | negSucc natural =>
    have signed : ofText? ('-' :: Nat.toDigits 10 (natural + 1)) =
        ofMagnitude? true (Nat.toDigits 10 (natural + 1)) := rfl
    have sign : decide (Int.negSucc natural < 0) = true := decide_eq_true (by simp)
    rw [toList_negSucc, signed, ofMagnitude?_of_digits (digitsValue?_toDigits _), sign]
    rfl

end TableApi.Reading
