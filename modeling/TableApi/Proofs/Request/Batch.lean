import TableApi.Proofs.Request.Change
import TableApi.Proofs.Request.Creation

/-!
# Several records at once

An array of records is inserted with one statement: the columns are the keys of the first record,
and the values of each record are looked up under these keys, so that the order in which a later
record has its keys does not matter.  The rows come out as if the records had been created one after
another.  Ids are the point where the two could part: one statement counts them up from the first,
while each creation takes the one after the largest that is there.  They agree as long as a new id
still fits 64 bits, since a larger one would count as zero.

Whatever else is posted is refused before anything is sent.
-/

namespace TableApi

open TableApi.Action Memory

/-- A name that is no column is the reason for which a check of columns fails. -/
theorem Schema.requireColumns_cases (schema : Schema) (names : List String) :
    schema.requireColumns names = .ok () ∨
      ∃ unknown, schema.requireColumns names = .error (.unknownColumns unknown) := by
  unfold requireColumns
  split
  · exact Or.inl rfl
  · exact Or.inr ⟨_, rfl⟩

/-! ## Batches -/

/-- Fields that hold the same value under every key, in whatever order. -/
def Fields.Same (first second : Fields) : Prop :=
  ∀ key, first.get? key = second.get? key

/--
Records that can go into a table together: there are some, none of them is
empty, all have the keys of the first, and these are columns.
-/
structure IsBatch (columns : List String) (records : List Fields) : Prop where
  several : records ≠ []
  filled : ∀ record ∈ records, record ≠ []
  alike : ∀ first ∈ records.head?, ∀ record ∈ records, ∀ key, key ∈ record.keys ↔ key ∈ first.keys
  known : ∀ record ∈ records, ∀ key ∈ record.keys, key ∈ columns

/--
Parameters that are laid out record by record: as many for each as there are
keys, and each the bound value that the record really has under its key.
-/
def LaidOut (keys : List String) (records : List Fields) (params : List Json) : Prop :=
  params.length = records.length * keys.length ∧
    ∀ index place record key, records[index]? = some record → keys[place]? = some key →
      ∃ value, record.get? key = some value ∧
        params[index * keys.length + place]? = some value.bound

/-! ## What is posted -/

namespace Execution

/-- Two records without double keys have as many keys, and one those of the other, when both have
the same. -/
theorem sameKeys_iff {first other : Fields} (distinct : first.keys.Nodup)
    (distinctOther : other.keys.Nodup) :
    sameKeys first other = true ↔ ∀ key, key ∈ other.keys ↔ key ∈ first.keys := by
  have sizes : ∀ fields : Fields, fields.keys.length = fields.length := fun fields => by
    simp [Fields.keys]
  have within : (first.all fun entry => other.has entry.1) = true ↔ first.keys ⊆ other.keys := by
    simp [Fields.has_eq_true_iff, Fields.keys, List.subset_def]
  rw [sameKeys, Bool.and_eq_true, beq_iff_eq, within]
  constructor
  · rintro ⟨length, inside⟩ key
    have perm : first.keys.Perm other.keys :=
      (List.subperm_of_subset distinct inside).perm_of_length_le (by simp [sizes, length])
    exact perm.mem_iff.symm
  · intro same
    have perm : other.keys.Perm first.keys :=
      (List.perm_ext_iff_of_nodup distinctOther distinct).2 same
    exact ⟨by rw [← sizes, ← sizes, perm.length_eq], fun key member => (same key).2 member⟩

theorem checkKeysFrom_eq_ok_iff {first : Fields} {index : Nat} {records : List Fields} :
    checkKeysFrom first index records = .ok () ↔
      ∀ record ∈ records, sameKeys first record = true := by
  induction records generalizing index with
  | nil => simp [checkKeysFrom]
  | cons record records step =>
    rw [checkKeysFrom, List.forall_mem_cons]
    split
    · rename_i same
      simp [step, same]
    · rename_i differ
      simp [differ]

theorem objectsFrom_map {records : List Fields} (filled : ∀ record ∈ records, record ≠ [])
    (index : Nat) : objectsFrom index (records.map Json.object) = .ok records := by
  induction records generalizing index with
  | nil => rfl
  | cons record records step =>
    rw [List.forall_mem_cons] at filled
    cases record with
    | nil => exact absurd rfl filled.1
    | cons entry entries =>
      rw [List.map_cons, objectsFrom, step filled.2]
      rfl

section Batches

variable {columns : List String} {posted : List Fields}

theorem nodup_keys_of_array {record : Fields} (tidy : (Json.array (posted.map .object)).Tidy)
    (member : record ∈ posted) : record.keys.Nodup := by
  cases tidy with
  | array each => exact (each _ (List.mem_map_of_mem member)).nodup_keys

/-- A batch is read as it was posted. -/
theorem records_of_batch (batch : IsBatch columns posted)
    (tidy : (Json.array (posted.map .object)).Tidy) :
    records (.array (posted.map .object)) = .ok posted := by
  have objects := objectsFrom_map batch.filled 0
  cases posted with
  | nil => exact absurd rfl batch.several
  | cons first others =>
    have checked : checkKeysFrom first 1 others = .ok () := by
      refine checkKeysFrom_eq_ok_iff.2 fun record member => ?_
      have inside := List.mem_cons_of_mem first member
      exact (sameKeys_iff (nodup_keys_of_array tidy List.mem_cons_self)
        (nodup_keys_of_array tidy inside)).2 (batch.alike first rfl record inside)
    rw [List.map_cons] at objects
    simp only [records, List.map_cons, objects]
    simp only [bind, Except.bind, checked]
    rfl

/-- What is read is a batch as soon as the keys of the first record are columns. -/
theorem batch_of_records {first : Fields} {others : List Fields} {params : Json}
    (tidy : params.Tidy) (read : records params = .ok (first :: others))
    (known : ∀ key ∈ first.keys, key ∈ columns) : IsBatch columns (first :: others) := by
  have params_eq := params_of_records read
  subst params_eq
  simp only [List.map_cons, records] at read
  rcases Result.ok_of_bind_ok read with ⟨found, objects, rest⟩
  cases found with
  | nil => cases rest
  | cons head tail =>
    rcases Result.ok_of_bind_ok rest with ⟨_, checked, returned⟩
    cases returned
    have alike : ∀ record ∈ first :: others, ∀ key, key ∈ record.keys ↔ key ∈ first.keys := by
      refine List.forall_mem_cons.2 ⟨fun _ => Iff.rfl, fun record member => ?_⟩
      exact (sameKeys_iff (nodup_keys_of_array tidy List.mem_cons_self)
        (nodup_keys_of_array tidy (List.mem_cons_of_mem _ member))).1
          (checkKeysFrom_eq_ok_iff.1 checked record member)
    constructor
    · exact List.cons_ne_nil _ _
    · exact (of_objectsFrom objects).1
    · rintro _ ⟨⟩
      exact alike
    · exact fun record member key held => known key ((alike record member key).1 held)

end Batches

/-! ## What is refused -/

/-- Whether a check fails by blaming the request only. -/
def Blames {α : Type} (check : Except ApiError α) : Prop :=
  ∀ error, check = .error error → ∃ message, error = .badRequest message

theorem blames_ok {α : Type} (value : α) : Blames (.ok value) := by
  intro error failed
  cases failed

theorem blames_badRequest {α : Type} (message : String) :
    Blames (.error (.badRequest message) : Except ApiError α) := by
  intro error failed
  cases failed
  exact ⟨message, rfl⟩

theorem Blames.bind {α β : Type} {first : Except ApiError α} {next : α → Except ApiError β}
    (blames : Blames first) (rest : ∀ value, Blames (next value)) : Blames (first >>= next) := by
  intro error failed
  cases first with
  | error cause =>
    have same : cause = error := Except.error.inj failed
    exact blames error (congrArg Except.error same)
  | ok value => exact rest value error failed

theorem checkKeysFrom_blames (first : Fields) (index : Nat) (records : List Fields) :
    Blames (checkKeysFrom first index records) := by
  induction records generalizing index with
  | nil => exact blames_ok ()
  | cons record records step =>
    rw [checkKeysFrom]
    split
    · exact step (index + 1)
    · exact blames_badRequest _

theorem objectsFrom_blames (index : Nat) (items : List Json) :
    Blames (objectsFrom index items) := by
  induction items generalizing index with
  | nil => exact blames_ok []
  | cons item items step =>
    unfold objectsFrom
    split
    · exact blames_ok []
    · rename_i same
      cases same
      exact (step (index + 1)).bind fun later => blames_ok _
    · exact blames_badRequest _

/-- Parameters that hold no records are blamed on the request. -/
theorem records_blames (params : Json) : Blames (records params) := by
  unfold records
  split
  · exact blames_badRequest _
  · refine (objectsFrom_blames 0 _).bind fun found => ?_
    split
    · exact blames_ok _
    · exact (checkKeysFrom_blames _ 1 _).bind fun _ => blames_ok _
  · exact blames_badRequest _

/-! ## Running an endpoint on a batch -/

section Statements

variable {σ : Type} {execution : Execution σ} {params : Json} {first : Fields}
  {others : List Fields}

/-- A batch is one insertion under the keys of its first record. -/
theorem insertBatch_eq (posted : records execution.input.params = .ok (first :: others))
    (known : ∀ column ∈ first.keys, column ∈ execution.schema.columns) :
    execution.insertBatch = (do
      let receipt ← execution.change (.insert execution.schema.name first.keys
        ((first :: others).map (Schema.rowOf first.keys)))
      return .ofNat receipt.affected : Action σ ApiError Json) := by
  have made : execution.schema.insertBatch (first :: others) =
      .ok (.insert execution.schema.name first.keys
        ((first :: others).map (Schema.rowOf first.keys))) := by
    simp only [Schema.insertBatch, Schema.requireColumns_of_known known]
    rfl
  have given : (ofExcept (records execution.input.params) : Action σ ApiError (List Fields)) =
      pure (first :: others) := by
    rw [posted]
    rfl
  have built : (build (execution.schema.insertBatch (first :: others)) :
      Action σ ApiError Statement) = pure (.insert execution.schema.name first.keys
        ((first :: others).map (Schema.rowOf first.keys))) := by
    rw [made]
    rfl
  rw [insertBatch, given, pure_bind, built, pure_bind]

/-- What is no batch is blamed on the request, and nothing is done for it. -/
theorem insertBatch_refused (tidy : execution.input.params.Tidy)
    (unfit : ∀ posted, execution.input.params = .array (posted.map .object) →
      ¬IsBatch execution.schema.columns posted) (state : σ) :
    ∃ message, execution.insertBatch state = ⟨.error (.badRequest message), [], state⟩ := by
  cases read : records execution.input.params with
  | error error =>
    rcases records_blames _ _ read with ⟨message, rfl⟩
    exact ⟨message, by rw [insertBatch, read]; rfl⟩
  | ok posted =>
    rcases records_eq_cons read with ⟨first, others, rfl, _⟩
    rcases execution.schema.requireColumns_cases first.keys with passed | ⟨unknown, refused⟩
    · have known := Schema.mem_columns_of_requireColumns passed
      exact absurd (batch_of_records tidy read known) (unfit _ (params_of_records read))
    · have failed : execution.schema.insertBatch (first :: others) =
          .error (.unknownColumns unknown) := by
        simp only [Schema.insertBatch, refused]
        rfl
      refine ⟨(SchemaError.unknownColumns unknown).message, ?_⟩
      have given : (ofExcept (.ok (first :: others)) : Action σ ApiError (List Fields)) =
          pure (first :: others) := rfl
      rw [insertBatch, read, given, pure_bind, failed]
      rfl

end Statements

end Execution

/-! ## The rows of a batch -/

theorem getElem?_flatten_of_width {α : Type} {width : Nat} {rows : List (List α)}
    (wide : ∀ row ∈ rows, row.length = width) (index : Nat) {place : Nat} (inside : place < width) :
    rows.flatten[index * width + place]? = rows[index]?.bind fun row => row[place]? := by
  induction rows generalizing index with
  | nil => simp
  | cons row rows step =>
    rw [List.forall_mem_cons] at wide
    rw [List.flatten_cons]
    cases index with
    | zero =>
      rw [Nat.zero_mul, Nat.zero_add, List.getElem?_append_left (by omega)]
      rfl
    | succ index =>
      rw [List.getElem?_append_right (by rw [wide.1, Nat.succ_mul]; omega), wide.1]
      have shorter : (index + 1) * width + place - width = index * width + place := by
        rw [Nat.succ_mul]
        omega
      rw [shorter, step wide.2 index]
      rfl

namespace IsBatch

variable {columns : List String} {first : Fields} {others : List Fields}

/-- The statement of a batch binds to each place the value that the record really has there. -/
theorem laidOut (batch : IsBatch columns (first :: others)) (name : String) :
    LaidOut first.keys (first :: others)
      (Statement.insert name first.keys
        ((first :: others).map (Schema.rowOf first.keys))).toSql.params := by
  have params : (Statement.insert name first.keys
      ((first :: others).map (Schema.rowOf first.keys))).toSql.params =
        ((first :: others).map (Schema.rowOf first.keys)).flatten := by
    simp [Statement.toSql_insert]
  have wide : ∀ row ∈ (first :: others).map (Schema.rowOf first.keys),
      row.length = first.keys.length := by
    intro row member
    rcases List.mem_map.1 member with ⟨record, _, rfl⟩
    simp [Schema.rowOf]
  rw [params]
  constructor
  · rw [Schema.length_flatten_of_width wide, List.length_map]
  · intro index place record key held named
    have short : place < first.keys.length := (List.getElem?_eq_some_iff.1 named).1
    have member := List.mem_of_getElem? held
    have listed : key ∈ record.keys :=
      (batch.alike first rfl record member key).2 (List.mem_of_getElem? named)
    cases found : record.get? key with
    | none => exact absurd listed (Fields.get?_eq_none_iff.1 found)
    | some value =>
      refine ⟨value, rfl, ?_⟩
      rw [getElem?_flatten_of_width wide index short, List.getElem?_map, held]
      simp [Schema.rowOf, named, found]

/-- Under the keys of the first record, each record has the fields that it has by itself. -/
theorem same_boundUnder (batch : IsBatch columns (first :: others)) {record : Fields}
    (member : record ∈ first :: others) :
    Fields.Same (record.boundUnder first.keys) record.bound := by
  intro key
  have alike := batch.alike first rfl record member key
  rw [Fields.get?_boundUnder, Fields.get?_bound]
  split
  · rename_i listed
    cases found : record.get? key with
    | none => exact absurd (alike.2 listed) (Fields.get?_eq_none_iff.1 found)
    | some value => rfl
  · rename_i absent
    rw [Fields.get?_eq_none_iff.2 fun held => absent (alike.1 held)]
    rfl

end IsBatch

namespace Memory

theorem same_newRow {first second : Fields} (same : first.Same second) (id : Int) :
    Fields.Same (newRow id first) (newRow id second) := by
  have has : first.has "id" = second.has "id" := by
    have absent : ∀ fields : Fields, fields.has "id" = true ↔ fields.get? "id" ≠ none := by
      intro fields
      rw [Fields.has_eq_true_iff, ne_eq, Fields.get?_eq_none_iff, not_not]
    rw [Bool.eq_iff_iff, absent, absent, same "id"]
  intro key
  rw [newRow, newRow, has]
  split
  · exact same key
  · rw [Fields.get?_cons, Fields.get?_cons, same key]

/-- Records with the same fields become rows with the same fields. -/
theorem same_newRows {records : List Fields} {view other : Fields → Fields}
    (same : ∀ record ∈ records, Fields.Same (view record) (other record)) (id : Int) :
    List.Forall₂ Fields.Same (newRows id (records.map view)) (newRows id (records.map other)) := by
  induction records generalizing id with
  | nil => exact List.Forall₂.nil
  | cons record records step =>
    rw [List.forall_mem_cons] at same
    exact List.Forall₂.cons (same_newRow same.1 id) (step same.2 (id + 1))

end Memory

/-! ## Ids one after another -/

namespace Memory

/-- Records all have an id of their own, or none has and there are ids for all from a first one. -/
def IdsFit (first : Int) (records : List Fields) : Prop :=
  (∀ record ∈ records, "id" ∈ record.keys) ∨
    (∀ record ∈ records, "id" ∉ record.keys) ∧ first + records.length ≤ Text.largestInteger

/-- Once a record has become a row, the rows of the records behind it get the ids that they would
have got together with it. -/
theorem IdsFit.step {table : Table} {record : Fields} {records : List Fields}
    (fits : IdsFit table.nextId (record :: records)) :
    IdsFit (Table.nextId ⟨table.columns, table.rows ++ [newRow table.nextId record.bound]⟩)
        records ∧
      newRows (Table.nextId ⟨table.columns, table.rows ++ [newRow table.nextId record.bound]⟩)
        (records.map Fields.bound) = newRows (table.nextId + 1) (records.map Fields.bound) := by
  rcases fits with given | ⟨unnumbered, room⟩
  · rw [List.forall_mem_cons] at given
    have bound : ∀ other ∈ records.map Fields.bound, "id" ∈ other.keys := by
      simpa using given.2
    exact ⟨Or.inl given.2, by rw [newRows_of_given bound, newRows_of_given bound]⟩
  · rw [List.forall_mem_cons] at unnumbered
    rw [List.length_cons] at room
    have counted :
        integerOf (Fields.get? (newRow table.nextId record.bound) "id") = table.nextId := by
      rw [get?_newRow unnumbered.1, if_pos rfl,
        integerOf_ofInt table.leastInteger_le_nextId (by omega)]
    rw [Table.nextId_append counted]
    exact ⟨Or.inr ⟨unnumbered.2, by omega⟩, rfl⟩

end Memory

/-! ## One after another -/

namespace Execution

/-- The state that is left when records are created one after another. -/
def creations {σ : Type} (execution : Execution σ) (records : List Fields) (state : σ) : σ :=
  records.foldl (fun before record =>
    ((execution.posting .create (.object record)).run before).state) state

section OverMemory

variable {setup : Setup} {execution : Execution Tables} {tables : Tables} {table : Table}
  {name : String} (bare : setup.Bare) (inMemory : execution.database = setup.database)
  (schema : execution.schema = table.schema name) (named : IsPlain name)
  (stored : Named.get? tables name = some table)
  (plain : ∀ column ∈ table.columns, IsPlain column)

include bare inMemory schema named stored plain

/--
Records that are created one after another leave the rows that are made of all
of them together.
-/
theorem creations_eq {record : Fields} {records : List Fields}
    (insertable : ∀ other ∈ record :: records, other ≠ [] ∧ other.keys.Nodup ∧
      ∀ column ∈ other.keys, column ∈ table.columns)
    (fits : IdsFit table.nextId (record :: records)) :
    execution.creations (record :: records) tables =
      Named.put tables name ⟨table.columns,
        table.rows ++ newRows table.nextId ((record :: records).map Fields.bound)⟩ := by
  -- The induction is on the records that follow; each creation starts from the table before it.
  induction records generalizing record tables table with
  | nil =>
    rcases insertable record List.mem_cons_self with ⟨filled, distinct, known⟩
    exact (run_posting_create bare inMemory schema named stored plain filled known distinct).1
  | cons next records step =>
    rcases insertable record List.mem_cons_self with ⟨filled, distinct, known⟩
    have left :=
      (run_posting_create bare inMemory schema named stored plain filled known distinct).1
    have about : execution.schema =
      Table.schema ⟨table.columns, table.rows ++ [newRow table.nextId record.bound]⟩ name := schema
    have created := Named.get?_put_self tables name
      ⟨table.columns, table.rows ++ [newRow table.nextId record.bound]⟩
    have others := fun other member => insertable other (List.mem_cons_of_mem record member)
    have rest := step about created plain others fits.step.1
    have opened : execution.creations (record :: next :: records) tables =
        execution.creations (next :: records) (Named.put tables name
          ⟨table.columns, table.rows ++ [newRow table.nextId record.bound]⟩) := by
      rw [← left]
      rfl
    rw [opened, rest, Named.put_put, fits.step.2, List.append_assoc]
    rfl

/-- A batch is inserted with one statement, under the keys of its first record. -/
theorem run_posting_insertBatch {first : Fields} {others : List Fields}
    (batch : IsBatch table.columns (first :: others))
    (tidy : (Json.array ((first :: others).map .object)).Tidy) :
    (execution.posting .insertBatch (.array ((first :: others).map .object))).run tables =
      ⟨.ok (.ofNat (first :: others).length),
        [.database (.execute (Statement.insert name first.keys
          ((first :: others).map (Schema.rowOf first.keys))).toSql)],
        Named.put tables name ⟨table.columns, table.rows ++
          newRows table.nextId ((first :: others).map (Fields.boundUnder first.keys))⟩⟩ := by
  have held : (execution.posting .insertBatch (.array ((first :: others).map .object))).database =
      setup.database := inMemory
  have about : (execution.posting .insertBatch (.array ((first :: others).map .object))).schema =
      table.schema name := schema
  have runs : (execution.posting .insertBatch (.array ((first :: others).map .object))).run =
      (execution.posting .insertBatch (.array ((first :: others).map .object))).insertBatch := rfl
  have known := batch.known first List.mem_cons_self
  have changed := change_insert_records named stored others (batch.filled first List.mem_cons_self)
    (fun column member => plain column (known column member))
    (nodup_keys_of_array tidy List.mem_cons_self)
  have carried := change_eq bare held changed
  rw [runs, insertBatch_eq (records_of_batch batch tidy) (by rw [about]; exact known), about]
  simp only [Table.schema]
  rw [bind_of_ok (by rw [carried]), carried]
  rfl

end OverMemory

end Execution

/-! ## All or nothing -/

/--
A batch is inserted into a table in memory with one statement that leaves
nothing out, returns how many records there are, and leaves the rows that single
creations leave, in the same order and with the same ids.  Everything else that
is posted is refused as a bad request, with nothing sent and nothing changed,
and so is a body that cannot be read.
-/
theorem Execution.insertBatch_eq_creations {setup : Setup} {execution : Execution Tables}
    {tables : Tables} {table : Table} {name : String} {params : Json} (bare : setup.Bare)
    (inMemory : execution.database = setup.database)
    (schema : execution.schema = table.schema name) (named : IsPlain name)
    (stored : Named.get? tables name = some table)
    (plain : ∀ column ∈ table.columns, IsPlain column) (tidy : params.Tidy) :
    (∀ (first : Fields) (others : List Fields), params = .array ((first :: others).map .object) →
      IsBatch table.columns (first :: others) →
      table.nextId + (first :: others).length ≤ Text.largestInteger →
        ∃ (sql : Sql) (together apart : List Row),
          ((execution.posting .insertBatch params).run tables).result =
            .ok (.ofNat (first :: others).length) ∧
          ((execution.posting .insertBatch params).run tables).statements = [sql] ∧
          Service.Suits .insertBatch sql.query ∧ LaidOut first.keys (first :: others) sql.params ∧
          ((execution.posting .insertBatch params).run tables).state =
            Named.put tables name ⟨table.columns, table.rows ++ together⟩ ∧
          execution.creations (first :: others) tables =
            Named.put tables name ⟨table.columns, table.rows ++ apart⟩ ∧
          List.Forall₂ Fields.Same together apart) ∧
      ((∀ posted, params = .array (posted.map .object) → ¬IsBatch table.columns posted) →
        ∃ message, (execution.posting .insertBatch params).run tables =
          ⟨.error (.badRequest message), [], tables⟩) ∧
      ∀ context error, Service.params context = .error error → error.kind = .badRequest := by
  refine ⟨?_, ?_, ?_⟩
  · rintro first others rfl batch room
    have distinct : ∀ record ∈ first :: others, record.keys.Nodup :=
      fun record member => nodup_keys_of_array tidy member
    have insertable : ∀ record ∈ first :: others, record ≠ [] ∧ record.keys.Nodup ∧
        ∀ column ∈ record.keys, column ∈ table.columns :=
      fun record member => ⟨batch.filled record member, distinct record member,
        batch.known record member⟩
    have fits : IdsFit table.nextId (first :: others) := by
      have alike := fun record member => batch.alike first rfl record member "id"
      by_cases given : "id" ∈ first.keys
      · exact Or.inl fun record member => (alike record member).2 given
      · exact Or.inr ⟨fun record member held => given ((alike record member).1 held), room⟩
    have suits : Service.Suits .insertBatch (Statement.insert name first.keys
        ((first :: others).map (Schema.rowOf first.keys))).toSql.query := by
      rw [List.map_cons, Statement.toSql_insert]
      simp only [String.append_assoc]
      exact Service.Suits.insertBatch _
    rw [run_posting_insertBatch bare inMemory schema named stored plain batch tidy,
      creations_eq bare inMemory schema named stored plain insertable fits]
    exact ⟨_, _, _, rfl, rfl, suits, batch.laidOut name, rfl, rfl,
      same_newRows (fun record member => batch.same_boundUnder member) table.nextId⟩
  · intro unfit
    have about : (execution.posting .insertBatch params).schema.columns = table.columns := by
      show execution.schema.columns = table.columns
      rw [schema]
      rfl
    exact insertBatch_refused tidy (by rw [about]; exact unfit) tables
  · intro context error failed
    unfold Service.params at failed
    split at failed
    · cases failed
    · cases read : Json.read context.body with
      | error cause =>
        rw [read] at failed
        cases failed
        rfl
      | ok value =>
        rw [read] at failed
        cases failed

/-- Two shelves, the second with its keys in another order. -/
def newShelves : List Fields :=
  [[("label", .string "plays"), ("books", .array [.string "Emma"])],
    [("books", .null), ("label", .string "maps")]]

/-- Two shelves are inserted together as they are created one after another. -/
theorem Execution.insertBatch_eq_creations_shelves :
    ∃ (sql : Sql) (together apart : List Row),
      ((shelfExecution.posting .insertBatch (.array (newShelves.map .object))).run
        [("shelves", shelves)]).result = .ok (.ofNat 2) ∧
      ((shelfExecution.posting .insertBatch (.array (newShelves.map .object))).run
        [("shelves", shelves)]).statements = [sql] ∧
      LaidOut ["label", "books"] newShelves sql.params ∧
      ((shelfExecution.posting .insertBatch (.array (newShelves.map .object))).run
        [("shelves", shelves)]).state =
          Named.put [("shelves", shelves)] "shelves" ⟨shelves.columns, shelves.rows ++ together⟩ ∧
      shelfExecution.creations newShelves [("shelves", shelves)] =
        Named.put [("shelves", shelves)] "shelves" ⟨shelves.columns, shelves.rows ++ apart⟩ ∧
      List.Forall₂ Fields.Same together apart := by
  have plain : ∀ column ∈ shelves.columns, IsPlain column := by
    decide
  have bare : Setup.plain.Bare := ⟨rfl, rfl⟩
  have schema : shelfExecution.schema = shelves.schema "shelves" := rfl
  have stored : Named.get? [("shelves", shelves)] "shelves" = some shelves := rfl
  have batch : IsBatch shelves.columns newShelves := by
    refine ⟨by simp [newShelves], by simp [newShelves], ?_, by decide⟩
    rintro first ⟨⟩ record member key
    rcases List.mem_pair.1 member with rfl | rfl
    · exact Iff.rfl
    · simp [or_comm]
  have tidy : (Json.array (newShelves.map .object)).Tidy := by
    refine Json.Tidy.array fun item member => ?_
    rcases List.mem_pair.1 member with rfl | rfl
    · refine Json.Tidy.object (by decide) fun entry inside => ?_
      rcases List.mem_pair.1 inside with rfl | rfl
      · exact Json.Tidy.string _
      · exact Json.Tidy.array fun book held => List.mem_singleton.1 held ▸ Json.Tidy.string _
    · refine Json.Tidy.object (by decide) fun entry inside => ?_
      rcases List.mem_pair.1 inside with rfl | rfl
      · exact Json.Tidy.null
      · exact Json.Tidy.string _
  have room : shelves.nextId + newShelves.length ≤ Text.largestInteger := by
    decide +kernel
  rcases (Execution.insertBatch_eq_creations bare rfl schema (by decide) stored plain tidy).1 _ _
      rfl batch room with
    ⟨sql, together, apart, returned, sent, _, laid, left, created, same⟩
  exact ⟨sql, together, apart, returned, sent, laid, left, created, same⟩

end TableApi
