import Mathlib.Data.String.Basic
import Mathlib.Order.Compare
import TableApi.Proofs.Database.Arrangement
import TableApi.Proofs.Database.Filtering

/-!
# Rows that can be ordered

Values that all spell numbers are compared by their height on one line, and values of which none
spells a number by their texts.  So rows whose values in a column are all of one kind are ordered by
the column, and their ordering does not break off; neither does that of a few rows, whatever they
hold.  Between the kinds nothing of this holds, since a number next to a word is compared as a text.
-/

namespace TableApi

open Memory

/-- Items that precede each other as their places on a line do are ordered. -/
theorem Arrangement.orders_of_places {α β : Type} [LinearOrder β] {precedes : α → α → Bool}
    {items : List α} (place : α → β) (placed : ∀ first ∈ items, ∀ second ∈ items,
      (precedes first second = true ↔ place first < place second)) : Orders precedes items where
  asymm first first_mem second second_mem before := by
    rw [placed first first_mem second second_mem] at before
    rw [← Bool.not_eq_true, placed second second_mem first first_mem]
    exact before.not_gt
  trans first first_mem second second_mem third third_mem before behind := by
    rw [← Bool.not_eq_true, placed first first_mem second second_mem, not_lt] at before
    rw [← Bool.not_eq_true, placed second second_mem third third_mem, not_lt] at behind
    rw [← Bool.not_eq_true, placed first first_mem third third_mem, not_lt]
    exact behind.trans before

namespace Memory

/-- The height of a reading on the line of the numbers: all finite ones lie between the two infinite
ones. -/
def height : Reading → List Int
  | .finite value => [0, value.signedUnits]
  | .infinite negative => if negative then [-1] else [1]
  | .notANumber => []

/-- Readings are compared by their heights. -/
theorem compare?_compares {first second : Reading} (number : first ≠ .notANumber)
    (other : second ≠ .notANumber) :
    ∃ ordering, Reading.compare? first second = some ordering ∧
      ordering.Compares (height first) (height second) := by
  have outside : ∀ {low high : Int} (rest others : List Int), low < high →
      low :: rest < high :: others :=
    fun _ _ less => List.cons_lt_cons_iff.2 (Or.inl less)
  have inside : ∀ {low high : Int}, low < high → [0, low] < [0, high] :=
    fun less => List.cons_lt_cons_iff.2 (Or.inr ⟨rfl, outside [] [] less⟩)
  cases first with
  | notANumber => exact absurd rfl number
  | finite left =>
    cases second with
    | notANumber => exact absurd rfl other
    | finite right =>
      refine ⟨_, rfl, ?_⟩
      have sizes := (compare_iff left.signedUnits right.signedUnits).1 rfl
      unfold Double.compare
      cases order : compare left.signedUnits right.signedUnits <;> rw [order] at sizes
      case lt => exact inside sizes
      case eq => exact congrArg (fun units => [0, units]) sizes
      case gt => exact inside sizes
    | infinite negative =>
      cases negative with
      | false => exact ⟨.lt, rfl, outside _ _ (by decide)⟩
      | true => exact ⟨.gt, rfl, outside _ _ (by decide)⟩
  | infinite negative =>
    cases second with
    | notANumber => exact absurd rfl other
    | finite right =>
      cases negative with
      | false => exact ⟨.gt, rfl, outside _ _ (by decide)⟩
      | true => exact ⟨.lt, rfl, outside _ _ (by decide)⟩
    | infinite otherNegative =>
      cases negative <;> cases otherNegative
      case false.false => exact ⟨.eq, rfl, rfl⟩
      case false.true => exact ⟨.gt, rfl, outside _ _ (by decide)⟩
      case true.false => exact ⟨.lt, rfl, outside _ _ (by decide)⟩
      case true.true => exact ⟨.eq, rfl, rfl⟩

/-- A value that spells a number. -/
def IsNumber (value : Option Json) (number : Reading) : Prop :=
  number ≠ .notANumber ∧
    ∃ text, value.bind textOf? = some text ∧ Reading.ofText? text.toList = some number

/-- A value whose text spells no number. -/
def IsWord (value : Option Json) (text : String) : Prop :=
  value.bind textOf? = some text ∧ Reading.ofText? text.toList = none

/-- What makes sure that rows can be ordered by a column. -/
inductive Orderable (column : String) (rows : List Row) : Prop where
  | few (few : rows.length ≤ Arrangement.mostInserted)
  | numbers (numbers : ∀ row ∈ rows, ∃ number, IsNumber (Fields.get? row column) number)
  | words (words : ∀ row ∈ rows, ∃ text, IsWord (Fields.get? row column) text)

variable {column : String} {rows : List Row}

theorem compareRows_of_texts {left right : Row} {first second : String}
    (held : (Fields.get? left column).bind textOf? = some first)
    (other : (Fields.get? right column).bind textOf? = some second) :
    compareRows column left right = (compareTexts? first second).getD .eq := by
  rcases Option.bind_eq_some_iff.1 held with ⟨value, leftHolds, leftText⟩
  rcases Option.bind_eq_some_iff.1 other with ⟨value', rightHolds, rightText⟩
  simp [compareRows, compareValues?, leftHolds, leftText, rightHolds, rightText]

theorem compareRows_of_numbers {left right : Row} {first second : Reading}
    (number : IsNumber (Fields.get? left column) first)
    (other : IsNumber (Fields.get? right column) second) :
    (compareRows column left right).Compares (height first) (height second) := by
  rcases number with ⟨finite, text, held, reads⟩
  rcases other with ⟨otherFinite, otherText, otherHeld, otherReads⟩
  rcases compare?_compares finite otherFinite with ⟨ordering, compared, compares⟩
  rw [compareRows_of_texts held otherHeld, compareTexts?, reads, otherReads]
  dsimp only
  rw [compared]
  exact compares

theorem compareRows_of_words {left right : Row} {first second : String}
    (word : IsWord (Fields.get? left column) first)
    (other : IsWord (Fields.get? right column) second) :
    (compareRows column left right).Compares first second := by
  rw [compareRows_of_texts word.1 other.1, compareTexts?, word.2]
  rcases lt_trichotomy first second with before | same | behind
  · simp [before]
  · simp [same]
  · simpa [behind.not_gt, behind.ne'] using behind

/-- Rows that are compared by their places on a line are ordered in both directions. -/
theorem orderRows?_of_places {β : Type} [LinearOrder β] {clause : List Char} (place : Row → β)
    (compared : ∀ left ∈ rows, ∀ right ∈ rows,
      (compareRows (orderKey clause).1 left right).Compares (place left) (place right)) :
    ∃ ordered, orderRows? clause rows = some ordered := by
  unfold orderRows?
  generalize orderKey clause = key at compared ⊢
  rcases key with ⟨column, descending⟩
  apply Arrangement.arrange?_of_orders
  cases descending with
  | false =>
    refine Arrangement.orders_of_places place fun left left_mem right right_mem => ?_
    exact beq_iff_eq.trans (compared left left_mem right right_mem).eq_lt
  | true =>
    refine Arrangement.orders_of_places (OrderDual.toDual ∘ place)
      fun left left_mem right right_mem => ?_
    exact beq_iff_eq.trans (compared left left_mem right right_mem).swap.eq_lt

theorem orderRows?_of_orderable {clause : List Char}
    (orderable : Orderable (orderKey clause).1 rows) :
    ∃ ordered, orderRows? clause rows = some ordered := by
  cases orderable with
  | few few => exact ⟨_, if_pos few⟩
  | numbers numbers =>
    have : Nonempty Reading := ⟨.notANumber⟩
    choose! number isNumber using numbers
    exact orderRows?_of_places (height ∘ number) fun left left_mem right right_mem =>
      compareRows_of_numbers (isNumber left left_mem) (isNumber right right_mem)
  | words words =>
    choose! text isWord using words
    exact orderRows?_of_places text fun left left_mem right right_mem =>
      compareRows_of_words (isWord left left_mem) (isWord right right_mem)

end Memory

/-- The rows that a filter set means can be listed if their order clause can order them. -/
theorem FilterSet.exists_arranged {filters : FilterSet} {rows : List Row}
    (orderable : ∀ clause ∈ filters.orderBy,
      Orderable (orderKey (Text.trim clause.toList)).1 rows) :
    ∃ ordered, filters.arranged? rows = some ordered := by
  unfold arranged?
  cases given : filters.orderBy with
  | none => exact ⟨rows, rfl⟩
  | some clause => exact orderRows?_of_orderable (orderable clause given)

end TableApi
