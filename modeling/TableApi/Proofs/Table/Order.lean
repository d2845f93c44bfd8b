import TableApi.Proofs.Table.Query

/-!
# Words of an accepted order clause

A schema accepts an order clause part by part, but the text of a statement is cut at spaces,
whatever the commas are.  A run of characters between two spaces is a word of one of the parts when
it has no blank and no comma in it, so the word `LIMIT` stands between two spaces of an accepted
clause only as the name of a column.
-/

namespace TableApi

/-- A part of the order clause names a column that is called `LIMIT`. -/
def FilterSet.OrdersByLimit (filters : FilterSet) : Prop :=
  ∃ clause ∈ filters.orderBy, ∃ part ∈ Text.splitAtChar ',' (Text.trim clause.toList),
    (Text.words part).head? = some "LIMIT".toList

namespace Schema

variable {schema : Schema}

/-- Accepted filters differ from the given ones by the blanks around their order clause. -/
theorem accept_eq_ok {filters accepted : FilterSet}
    (passed : schema.accept filters = .ok accepted) :
    accepted = { filters with orderBy := filters.orderBy.map Text.trimmed } ∧
      ∀ clause ∈ filters.orderBy, schema.checkOrderParts (Text.trim clause.toList)
        (Text.splitAtChar ',' (Text.trim clause.toList)) = .ok () := by
  unfold accept at passed
  rcases Result.ok_of_bind_ok passed with ⟨_, _, ordered⟩
  split at ordered
  · rename_i none
    cases Except.ok.inj ordered
    rcases filters with ⟨conditions, orderBy, limit, offset⟩
    cases none
    simp
  · rename_i clause given
    rcases Result.ok_of_bind_ok ordered with ⟨kept, allowed, returned⟩
    rcases Result.ok_of_bind_ok allowed with ⟨⟨⟩, checked, same⟩
    cases Except.ok.inj returned
    cases Except.ok.inj same
    exact ⟨by simp [given, Text.trimmed], by simpa [given] using checked⟩

/-- Conditions alone are accepted as they are. -/
theorem accept_of_conditions {filters : FilterSet}
    (passed : schema.requireColumns filters.columns = .ok ()) :
    schema.accept { FilterSet.empty with conditions := filters.conditions } =
      .ok { FilterSet.empty with conditions := filters.conditions } := by
  have checked : schema.requireColumns
      (FilterSet.columns { FilterSet.empty with conditions := filters.conditions }) = .ok () :=
    passed
  rw [accept, checked]
  rfl

/-- The words of an accepted part of an order clause: a column, and perhaps a direction. -/
theorem words_of_checkOrderPart {clause part word : List Char}
    (accepted : schema.checkOrderPart clause part = .ok ()) (member : word ∈ Text.words part) :
    (Text.words part).head? = some word ∨ isDirection word = true := by
  unfold checkOrderPart at accepted
  split at accepted
  · simp at accepted
  · rename_i column rest found
    rcases Result.ok_of_bind_ok accepted with ⟨_, _, directed⟩
    rw [found] at member ⊢
    rcases List.mem_cons.1 member with rfl | later
    · exact Or.inl rfl
    · split at directed
      · simp at later
      · rename_i direction
        split at directed
        · rename_i directs
          rw [List.mem_singleton.1 later]
          exact Or.inr directs
        · simp at directed
      · simp at directed

theorem checkOrderPart_of_parts {clause : List Char} {parts : List (List Char)}
    (accepted : schema.checkOrderParts clause parts = .ok ()) :
    ∀ part ∈ parts, schema.checkOrderPart clause part = .ok () := by
  induction parts with
  | nil => simp
  | cons first parts step =>
    unfold checkOrderParts at accepted
    rcases Result.ok_of_bind_ok accepted with ⟨_, checked, others⟩
    exact List.forall_mem_cons.2 ⟨checked, step others⟩

/-- Between two spaces of an accepted order clause the word `LIMIT` stands only as a column. -/
theorem limit_not_mem_of_accept {filters accepted : FilterSet}
    (passed : schema.accept filters = .ok accepted) (unnamed : ¬filters.OrdersByLimit) :
    ∀ clause ∈ accepted.orderBy.map String.toList,
      "LIMIT".toList ∉ Text.splitAtChar ' ' clause := by
  rcases accept_eq_ok passed with ⟨rfl, checked⟩
  intro text given member
  simp only [Option.map_map, Option.mem_def, Option.map_eq_some_iff] at given
  rcases given with ⟨clause, orders, rfl⟩
  simp only [Function.comp_apply, Text.toList_trimmed] at member
  have letters : ∀ letter ∈ "LIMIT".toList, Text.isBlank letter = false ∧ letter ≠ ',' := by
    simp [Text.isBlank]
  rcases Text.mem_words_of_mem_splitAtChar (by decide) member letters with ⟨part, isPart, isWord⟩
  have accepted := checkOrderPart_of_parts (checked clause orders) part isPart
  rcases words_of_checkOrderPart accepted isWord with named | directs
  · exact unnamed ⟨clause, orders, part, isPart, named⟩
  · revert directs
    decide

end Schema

end TableApi
