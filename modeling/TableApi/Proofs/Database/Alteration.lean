import TableApi.Proofs.Database.Operations

/-!
# What a change may make of a table

A table is altered in three ways: rows are added behind the others, fields are set in some rows, or
some rows are removed.  `Alters` has one constructor for each, with what is known of the fields, and
what a table keeps is proved once for each of them.

Two properties are kept.  The rows of a table have fields under its columns and the id only, and
when its ids are distinct integers they stay so: a new row without an id of its own gets one that is
larger than all there are, and no field that is set is the id.  This needs the largest 64-bit
integer not to be an id, since there is none after it.
-/

namespace TableApi.Memory

/-- The rows of a table have fields under its columns and under the name of the id only. -/
def Table.Fits (table : Table) : Prop :=
  ∀ row ∈ table.rows, ∀ key ∈ row.keys, key ∈ table.columns ∨ key = "id"

/-- The ids of a table are 64-bit integers, no two of them the same. -/
structure Table.Numbered (table : Table) : Prop where
  integers : ∀ row ∈ table.rows, ∃ id : Int, Text.leastInteger ≤ id ∧
    Fields.get? row "id" = some (Json.ofInt id)
  distinct : (table.rows.map fun row => Fields.get? row "id").Nodup

/-- No id of a table is the largest 64-bit integer, or more. -/
def Table.BelowLargest (table : Table) : Prop :=
  ∀ row ∈ table.rows, ∀ id : Int, Fields.get? row "id" = some (Json.ofInt id) →
    id < Text.largestInteger

/-! ## New ids -/

theorem integerOf_ofInt {id : Int} (least : Text.leastInteger ≤ id)
    (largest : id ≤ Text.largestInteger) : integerOf (some (Json.ofInt id)) = id := by
  have shown : textOf? (Json.ofInt id) = some (toString id) := rfl
  simp only [integerOf, Option.bind_some, shown, Text.integer?_toString least largest,
    Option.getD_some]

theorem leastInteger_le_integerOf (stored : Option Json) :
    Text.leastInteger ≤ integerOf stored := by
  unfold integerOf
  cases read : (stored.bind textOf?).bind fun text => Text.integer? text.toList with
  | none => decide
  | some id =>
    rcases Option.bind_eq_some_iff.1 read with ⟨text, _, spelled⟩
    have range := (Option.filter_eq_some_iff.1 spelled).2
    simp only [Bool.and_eq_true, decide_eq_true_eq] at range
    exact range.1

/-- The next id is larger than every integer id of the table. -/
theorem Table.lt_nextId {table : Table} {row : Row} (member : row ∈ table.rows) :
    integerOf (Fields.get? row "id") < table.nextId := by
  have listed : integerOf (Fields.get? row "id") ∈
      table.rows.map fun other => integerOf (Fields.get? other "id") :=
    List.mem_map_of_mem member
  unfold nextId
  split
  · rename_i none
    simp [none] at listed
  · rename_i first others all
    rw [all] at listed
    have largest : (first :: others).max? = some (others.foldl max first) := List.max?_cons'
    have bound := (List.max?_eq_some_iff.1 largest).2 _ listed
    omega

theorem Table.leastInteger_le_nextId (table : Table) : Text.leastInteger ≤ table.nextId := by
  cases rows : table.rows with
  | nil =>
    have first : table.nextId = 1 := by simp [nextId, rows]
    rw [first]
    decide
  | cons row others =>
    have member : row ∈ table.rows := rows ▸ List.mem_cons_self
    have least := leastInteger_le_integerOf (Fields.get? row "id")
    have next := Table.lt_nextId member
    omega

theorem Table.nextId_of_cons {table : Table} {first : Int} {others : List Int}
    (listed : (table.rows.map fun row => integerOf (Fields.get? row "id")) = first :: others) :
    table.nextId = others.foldl max first + 1 := by
  simp only [nextId, listed]

/-- A row with the next id takes the next id further by one. -/
theorem Table.nextId_append {table : Table} {row : Row}
    (counted : integerOf (Fields.get? row "id") = table.nextId) :
    Table.nextId ⟨table.columns, table.rows ++ [row]⟩ = table.nextId + 1 := by
  have mapped : ((table.rows ++ [row]).map fun other => integerOf (Fields.get? other "id")) =
      (table.rows.map fun other => integerOf (Fields.get? other "id")) ++ [table.nextId] := by
    rw [List.map_append, List.map_singleton, counted]
  cases listed : table.rows.map fun other => integerOf (Fields.get? other "id") with
  | nil =>
    rw [listed, List.nil_append] at mapped
    rw [Table.nextId_of_cons mapped, List.foldl_nil]
  | cons first others =>
    rw [listed, List.cons_append] at mapped
    have last : others.foldl max first ≤ table.nextId := by
      rw [Table.nextId_of_cons listed]
      exact Int.le_of_lt (Int.lt_add_one_iff.2 (Int.le_refl _))
    rw [Table.nextId_of_cons mapped, List.foldl_append, List.foldl_cons, List.foldl_nil,
      Int.max_eq_right last]

namespace Table.Numbered

variable {table : Table}

/-- Every id of a table with distinct integers below the largest one is smaller than the next. -/
theorem lt_nextId (numbered : table.Numbered) (below : table.BelowLargest) {row : Row} {id : Int}
    (member : row ∈ table.rows) (held : Fields.get? row "id" = some (Json.ofInt id)) :
    Text.leastInteger ≤ id ∧ id < table.nextId := by
  rcases numbered.integers row member with ⟨own, least, found⟩
  have same : own = id := by
    rw [held] at found
    simpa [Json.ofInt] using found.symm
  subst same
  have largest := below row member own held
  have next := Table.lt_nextId member
  rw [held, integerOf_ofInt least (Int.le_of_lt largest)] at next
  exact ⟨least, next⟩

end Table.Numbered

/-- The ids of new rows count up from the first one. -/
theorem ids_newRows {records : List Fields} (unnumbered : ∀ record ∈ records, "id" ∉ record.keys)
    (first : Int) :
    (∀ row ∈ newRows first records, ∃ id : Int, first ≤ id ∧
        Fields.get? row "id" = some (Json.ofInt id)) ∧
      ((newRows first records).map fun row => Fields.get? row "id").Nodup := by
  induction records generalizing first with
  | nil => simp [newRows]
  | cons record records step =>
    have absent : record.has "id" = false := by
      rw [Bool.eq_false_iff, ne_eq, Fields.has_eq_true_iff]
      exact unnumbered record List.mem_cons_self
    have given : Fields.get? (newRow first record) "id" = some (Json.ofInt first) := by
      simp [newRow, absent, Fields.get?_cons]
    rcases step (fun other member => unnumbered other (List.mem_cons_of_mem _ member)) (first + 1)
      with ⟨later, distinct⟩
    constructor
    · intro row member
      rcases List.mem_cons.1 member with rfl | inside
      · exact ⟨first, Int.le_refl _, given⟩
      · rcases later row inside with ⟨id, larger, held⟩
        exact ⟨id, by omega, held⟩
    · rw [newRows, List.map_cons, List.nodup_cons]
      refine ⟨?_, distinct⟩
      rw [given, List.mem_map]
      rintro ⟨row, inside, same⟩
      rcases later row inside with ⟨id, larger, held⟩
      rw [held] at same
      have equal : id = first := by simpa [Json.ofInt] using same
      omega

theorem keys_newRows {records : List Fields} {first : Int} {row : Row}
    (member : row ∈ newRows first records) {key : String} (held : key ∈ row.keys) :
    key = "id" ∨ ∃ record ∈ records, key ∈ record.keys := by
  induction records generalizing first with
  | nil => simp [newRows] at member
  | cons record records step =>
    rcases List.mem_cons.1 member with rfl | later
    · unfold newRow at held
      split at held
      · exact Or.inr ⟨record, List.mem_cons_self, held⟩
      · rcases List.mem_cons.1 held with same | inside
        · exact Or.inl same
        · exact Or.inr ⟨record, List.mem_cons_self, inside⟩
    · rcases step later with same | ⟨other, inside, found⟩
      · exact Or.inl same
      · exact Or.inr ⟨other, List.mem_cons_of_mem _ inside, found⟩

/-! ## Alterations -/

/--
The ways in which a table is altered; `unnumbered` says that no row is added
with an id of its own.
-/
inductive Alters (unnumbered : Prop) (table : Table) : Table → Prop
  | added {records : List Fields}
      (known : ∀ record ∈ records, ∀ key ∈ record.keys, key ∈ table.columns)
      (fresh : unnumbered → ∀ record ∈ records, "id" ∉ record.keys) :
      Alters unnumbered table ⟨table.columns, table.rows ++ newRows table.nextId records⟩
  | set {fields : Fields} (chosen : Row → Bool) (distinct : fields.keys.Nodup)
      (known : ∀ key ∈ fields.keys, key ∈ table.columns) (kept : "id" ∉ fields.keys) :
      Alters unnumbered table (table.update fields chosen)
  | removed (chosen : Row → Bool) : Alters unnumbered table (table.remove chosen)

namespace Alters

variable {unnumbered : Prop} {table altered : Table}

theorem imp {other : Prop} (alters : Alters unnumbered table altered)
    (implies : other → unnumbered) : Alters other table altered := by
  cases alters with
  | added known fresh => exact added known fun holds => fresh (implies holds)
  | set chosen distinct known kept => exact set chosen distinct known kept
  | removed chosen => exact removed chosen

/-- The columns of a table never change. -/
theorem columns_eq (alters : Alters unnumbered table altered) :
    altered.columns = table.columns := by
  cases alters <;> rfl

/-- An altered table has fields under its columns and the id only. -/
theorem fits (alters : Alters unnumbered table altered) (fitting : table.Fits) : altered.Fits := by
  cases alters with
  | @added records known fresh =>
    intro row member key held
    rcases List.mem_append.1 member with old | new
    · exact fitting row old key held
    · rcases keys_newRows new held with same | ⟨record, inside, found⟩
      · exact Or.inr same
      · exact Or.inl (known record inside key found)
  | @set fields chosen distinct known kept =>
    intro row member key held
    rcases List.mem_map.1 member with ⟨old, inside, rfl⟩
    split at held
    · rcases Fields.mem_keys_setAll.1 held with given | own
      · exact Or.inl (known key given)
      · exact fitting old inside key own
    · exact fitting old inside key held
  | removed chosen =>
    intro row member key held
    exact fitting row (List.mem_of_mem_filter member) key held

/-- Distinct integer ids stay distinct integers. -/
theorem numbered (alters : Alters unnumbered table altered) (fresh : unnumbered)
    (numbers : table.Numbered) (below : table.BelowLargest) : altered.Numbered := by
  cases alters with
  | @added records known without =>
    rcases ids_newRows (without fresh) table.nextId with ⟨integers, distinct⟩
    have least := table.leastInteger_le_nextId
    constructor
    · intro row member
      rcases List.mem_append.1 member with old | new
      · exact numbers.integers row old
      · rcases integers row new with ⟨id, larger, held⟩
        exact ⟨id, by omega, held⟩
    · rw [List.map_append, List.nodup_append]
      refine ⟨numbers.distinct, distinct, ?_⟩
      intro first old second new same
      rcases List.mem_map.1 old with ⟨row, member, rfl⟩
      rcases List.mem_map.1 new with ⟨other, inside, rfl⟩
      rcases integers other inside with ⟨id, larger, held⟩
      have smaller := numbers.lt_nextId below member (same.trans held)
      omega
  | @set fields chosen distinct known kept =>
    have same : ∀ row : Row, Fields.get? (if chosen row then row.setAll fields else row) "id" =
        Fields.get? row "id" := by
      intro row
      split
      · exact Fields.get?_setAll_of_not_mem distinct kept row
      · rfl
    constructor
    · intro row member
      rcases List.mem_map.1 member with ⟨old, inside, rfl⟩
      rw [same]
      exact numbers.integers old inside
    · rw [Table.update, List.map_map]
      simp only [Function.comp_def, same]
      exact numbers.distinct
  | removed chosen =>
    constructor
    · intro row member
      exact numbers.integers row (List.mem_of_mem_filter member)
    · exact (List.filter_sublist.map _).nodup numbers.distinct

end Alters

end TableApi.Memory
