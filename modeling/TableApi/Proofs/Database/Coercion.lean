import Mathlib.Data.List.Pairwise
import TableApi.Proofs.Database.Selection
import TableApi.Proofs.Database.Identity
import TableApi.Proofs.Number.Rounding
import TableApi.Request.Execution

/-!
# Rows and the integers that their ids count as

The rows that a request removes are selected by its filters, but they are named to the database by
integers: each id is taken for the integer that it counts as, and every row whose id compares as
equal to one of these goes.  A text that is no number counts as zero, and two integers that are not
the same may compare as equal.

Values compare as equal just when they have the same worth, so equality is symmetric and
transitive.  Rows that are found under their own integers, and whose ids are all different, are
therefore named without a mistake.  Distinct integers of 53 bits are such ids.
-/

namespace TableApi

namespace Memory

/-! ## Worth -/

/-- What a text is compared by: the number that it spells, or the text itself. -/
inductive Worth where
  | text (value : String)
  | number (units : Int)
  | infinite (negative : Bool)
deriving DecidableEq

/-- The worth of a reading; the absence of a number has none. -/
def readingWorth? : Reading → Option Worth
  | .finite value => some (.number value.signedUnits)
  | .infinite negative => some (.infinite negative)
  | .notANumber => none

def worth? (text : String) : Option Worth :=
  match Reading.ofText? text.toList with
  | some reading => readingWorth? reading
  | none => some (.text text)

theorem readings_eq_iff {first second : Reading} :
    Reading.compare? first second = some .eq ↔
      ∃ worth, readingWorth? first = some worth ∧ readingWorth? second = some worth := by
  cases first with
  | notANumber => simp [Reading.compare?, readingWorth?]
  | finite left =>
    cases second with
    | notANumber => simp [Reading.compare?, readingWorth?]
    | infinite negative => cases negative <;> simp [Reading.compare?, readingWorth?]
    | finite right =>
      have equal : Double.compare left right = .eq ↔ left.signedUnits = right.signedUnits :=
        Std.LawfulEqOrd.compare_eq_iff_eq
      simp only [Reading.compare?, readingWorth?, Option.some.injEq, exists_eq_left', equal,
        Worth.number.injEq]
      exact eq_comm
  | infinite negative =>
    cases second with
    | notANumber => simp [Reading.compare?, readingWorth?]
    | finite right => cases negative <;> simp [Reading.compare?, readingWorth?]
    | infinite other => cases negative <;> cases other <;> simp [Reading.compare?, readingWorth?]

theorem readingWorth?_ne_text (reading : Reading) (text : String) :
    readingWorth? reading ≠ some (.text text) := by
  cases reading <;> simp [readingWorth?]

/-- Texts of which one spells no number are equal when they are the same. -/
theorem compareTexts?_of_unread {left right : String}
    (unread : Reading.ofText? left.toList = none ∨ Reading.ofText? right.toList = none) :
    compareTexts? left right = some .eq ↔ left = right := by
  have order : compareTexts? left right =
      some (if left < right then .lt else if left = right then .eq else .gt) := by
    rcases unread with unread | unread
    · simp only [compareTexts?, unread]
    · cases reads : Reading.ofText? left.toList <;> simp only [compareTexts?, reads, unread]
  rw [order, Option.some.injEq]
  by_cases same : left = right
  · have itself : ¬right < right := String.lt_irrefl right
    simp only [same, itself, if_true, if_false]
  · by_cases less : left < right <;> simp [same, less]

/-- Texts compare as equal when they have the same worth. -/
theorem compareTexts?_eq_iff {left right : String} :
    compareTexts? left right = some .eq ↔
      ∃ worth, worth? left = some worth ∧ worth? right = some worth := by
  cases reads : Reading.ofText? left.toList with
  | some first =>
    cases readsOther : Reading.ofText? right.toList with
    | some second => simp only [compareTexts?, worth?, reads, readsOther, readings_eq_iff]
    | none =>
      have apart : left ≠ right := by
        rintro rfl
        rw [reads] at readsOther
        cases readsOther
      rw [compareTexts?_of_unread (Or.inr readsOther)]
      simp [worth?, reads, readsOther, apart, readingWorth?_ne_text]
  | none =>
    rw [compareTexts?_of_unread (Or.inl reads)]
    cases readsOther : Reading.ofText? right.toList with
    | some second =>
      have apart : left ≠ right := by
        rintro rfl
        rw [reads] at readsOther
        cases readsOther
      simp [worth?, reads, readsOther, apart, readingWorth?_ne_text]
    | none => simp [worth?, reads, readsOther, eq_comm]

/-! ## Ids -/

/-- The ids of two rows compare as equal. -/
def SameId (row other : Row) : Prop :=
  ∃ id, Fields.get? other "id" = some id ∧ matchesAt "id" id row = true

/-- A row is found under the integer that its id counts as. -/
def FindsItself (row : Row) : Prop :=
  matchesAt "id" (Json.ofInt (Json.toInteger (Fields.get? row "id"))) row = true

instance (row other : Row) : Decidable (SameId row other) :=
  decidable_of_iff ((Fields.get? other "id").any fun id => matchesAt "id" id row)
    (by simp [SameId, Option.any_eq_true])

instance (row : Row) : Decidable (FindsItself row) :=
  inferInstanceAs (Decidable (_ = true))

/-- The worth of the id of a row. -/
def idWorth? (row : Row) : Option Worth :=
  ((Fields.get? row "id").bind textOf?).bind worth?

theorem matchesAt_id_iff {value : Json} {row : Row} :
    matchesAt "id" value row = true ↔
      ∃ worth, idWorth? row = some worth ∧ (textOf? value).bind worth? = some worth := by
  cases spelled : textOf? value with
  | none =>
    cases held : Fields.get? row "id" with
    | none => simp [matchesAt, compareValues?, held]
    | some stored => cases textOf? stored <;>
        simp [matchesAt, compareValues?, held, spelled]
  | some text =>
    rw [matchesAt_of_text spelled]
    cases held : (Fields.get? row "id").bind textOf? with
    | none => simp [idWorth?, held]
    | some stored => simp [idWorth?, held, compareTexts?_eq_iff]

/-- The ids of two rows compare as equal when they have the same worth. -/
theorem sameId_iff {row other : Row} :
    SameId row other ↔ ∃ worth, idWorth? row = some worth ∧ idWorth? other = some worth := by
  cases held : Fields.get? other "id" with
  | none => simp [SameId, idWorth?, held]
  | some id => simp [SameId, matchesAt_id_iff, held, idWorth?]

theorem SameId.symm {row other : Row} (same : SameId row other) : SameId other row := by
  rcases sameId_iff.1 same with ⟨worth, first, second⟩
  exact sameId_iff.2 ⟨worth, second, first⟩

/-- Two rows that are found under one integer have the same id. -/
theorem sameId_of_matchesAt {row other : Row} {value : Json}
    (first : matchesAt "id" value row = true) (second : matchesAt "id" value other = true) :
    SameId row other := by
  rcases matchesAt_id_iff.1 first with ⟨worth, own, spelled⟩
  rcases matchesAt_id_iff.1 second with ⟨others, same, alike⟩
  rw [spelled] at alike
  cases alike
  exact sameId_iff.2 ⟨worth, own, same⟩

/-! ## Rows named by integers -/

section Naming

variable {rows selected : List Row}

/-- Rows with different ids are equal when their ids are. -/
theorem eq_of_sameId (apart : rows.Pairwise fun row other => ¬SameId row other) {row other : Row}
    (member : row ∈ rows) (memberOther : other ∈ rows) (same : SameId row other) : row = other := by
  have symmetric : Std.Symm fun row other => ¬SameId row other :=
    ⟨fun _ _ differ same => differ same.symm⟩
  by_contra unlike
  exact apart.forall member memberOther unlike same

/-- The integers that ids count as name just the rows that they were taken from. -/
theorem any_idsOf_iff (apart : rows.Pairwise fun row other => ¬SameId row other)
    (within : selected ⊆ rows) (found : ∀ row ∈ selected, FindsItself row) {row : Row}
    (member : row ∈ rows) :
    ((Execution.idsOf selected).any fun id => matchesAt "id" (Json.ofInt id) row) = true ↔
      row ∈ selected := by
  simp only [Execution.idsOf, List.any_map, List.any_eq_true, Function.comp_apply]
  constructor
  · rintro ⟨other, chosen, named⟩
    have same := sameId_of_matchesAt named (found other chosen)
    rwa [eq_of_sameId apart member (within chosen) same]
  · intro chosen
    exact ⟨row, chosen, found row chosen⟩

/-- Rows that are found under integers, and whose ids are different, are different. -/
theorem nodup_of_found (apart : rows.Pairwise fun row other => ¬SameId row other)
    (found : ∀ row ∈ rows, ∃ value, matchesAt "id" value row = true) : rows.Nodup := by
  refine List.Pairwise.imp_of_mem ?_ apart
  rintro row other member _ differ rfl
  rcases found row member with ⟨value, here⟩
  exact differ (sameId_of_matchesAt here here)

/-- The rows that the integers name are those that they were taken from, each as often. -/
theorem filter_idsOf_perm (apart : rows.Pairwise fun row other => ¬SameId row other)
    (within : selected.Subperm rows) (found : ∀ row ∈ selected, FindsItself row) :
    (rows.filter fun row => (Execution.idsOf selected).any fun id =>
      matchesAt "id" (Json.ofInt id) row).Perm selected := by
  have named : ∀ row ∈ rows.filter fun row => (Execution.idsOf selected).any fun id =>
      matchesAt "id" (Json.ofInt id) row, row ∈ selected := by
    intro row member
    rcases List.mem_filter.1 member with ⟨inside, chosen⟩
    exact (any_idsOf_iff apart within.subset found inside).1 chosen
  have distinct : (rows.filter fun row => (Execution.idsOf selected).any fun id =>
      matchesAt "id" (Json.ofInt id) row).Nodup :=
    nodup_of_found (apart.sublist List.filter_sublist)
      fun row member => ⟨_, found row (named row member)⟩
  have selectedOnce : selected.Nodup := by
    rcases within with ⟨arranged, perm, sublist⟩
    exact perm.nodup_iff.1 (nodup_of_found (apart.sublist sublist)
      fun row member => ⟨_, found row (perm.mem_iff.1 member)⟩)
  refine (List.perm_ext_iff_of_nodup distinct selectedOnce).2 fun row => ⟨named row, ?_⟩
  intro chosen
  have inside := within.subset chosen
  exact List.mem_filter.2 ⟨inside, (any_idsOf_iff apart within.subset found inside).2 chosen⟩

end Naming

/-! ## Integers as ids -/

theorem ofDecimal_ne_notANumber (negative : Bool) (digits : List Char) (exponent : Int) :
    Reading.ofDecimal negative digits exponent ≠ .notANumber := by
  unfold Reading.ofDecimal
  dsimp only
  split
  · simp
  · split
    · simp
    · split
      · simp
      · split <;> simp

/-- Every integer has a worth. -/
theorem exists_worth_toString (value : Int) : ∃ worth, worth? (toString value) = some worth := by
  rw [worth?, Reading.ofText?_toString]
  cases read : Reading.ofDecimal (value < 0) (Nat.toDigits 10 value.natAbs) 0 with
  | finite value => exact ⟨_, rfl⟩
  | infinite negative => exact ⟨_, rfl⟩
  | notANumber => exact absurd read (ofDecimal_ne_notANumber _ _ _)

/-- A row with a signed integer as its id is found under it. -/
theorem findsItself_of_integer {row : Row} {id : Int}
    (held : Fields.get? row "id" = some (Json.ofInt id)) (fits : id ≤ Text.largestInteger) :
    FindsItself row := by
  have counted : Json.toInteger (some (Json.ofInt id)) = id := if_pos fits
  rcases exists_worth_toString id with ⟨worth, valued⟩
  have own : idWorth? row = some worth := by
    rw [idWorth?, held]
    exact valued
  rw [FindsItself, held, counted]
  exact matchesAt_id_iff.2 ⟨worth, own, valued⟩

/-- Rows whose ids are distinct integers of 53 bits have different ids. -/
theorem not_sameId_of_exact {row other : Row} {first second : Int}
    (held : Fields.get? row "id" = some (Json.ofInt first))
    (heldOther : Fields.get? other "id" = some (Json.ofInt second))
    (small : first.natAbs < Double.exactBound) (smaller : second.natAbs < Double.exactBound)
    (distinct : first ≠ second) : ¬SameId row other := by
  intro same
  have shown : ∀ value, textOf? (Json.ofInt value) = some (toString value) := fun _ => rfl
  have equal : compareTexts? (toString first) (toString second) = some .eq := by
    rcases sameId_iff.1 same with ⟨worth, own, alike⟩
    simp only [idWorth?, held, heldOther, Option.bind_some, shown] at own alike
    exact compareTexts?_eq_iff.2 ⟨worth, own, alike⟩
  simp only [compareTexts?, Reading.ofText?_toString] at equal
  exact distinct (Reading.eq_of_compare? small smaller (Reading.ofText?_toString first)
    (Reading.ofText?_toString second) equal)

/-- No row is found under the integer that the id of a different row counts as. -/
def Table.IdsApart (table : Table) : Prop :=
  ∀ row ∈ table.rows, ∀ other ∈ table.rows,
    matchesAt "id" (Json.ofInt (Json.toInteger (Fields.get? row "id"))) other = true → other = row

/-- Rows that are found under their own integers, and whose ids are different, are apart. -/
theorem Table.idsApart_of_found {table : Table} (found : ∀ row ∈ table.rows, FindsItself row)
    (apart : table.rows.Pairwise fun row other => ¬SameId row other) : table.IdsApart :=
  fun row member _ memberOther named =>
    eq_of_sameId apart memberOther member (sameId_of_matchesAt named (found row member))

/-- Rows whose ids are distinct integers of 53 bits are apart. -/
theorem Table.idsApart_of_exact {table : Table}
    (numbered : ∀ row ∈ table.rows, ∃ id : Int, id.natAbs < Double.exactBound ∧
      Fields.get? row "id" = some (Json.ofInt id))
    (distinct : (table.rows.map fun row => Fields.get? row "id").Nodup) : table.IdsApart := by
  refine idsApart_of_found (fun row member => ?_) ?_
  · rcases numbered row member with ⟨id, small, held⟩
    refine findsItself_of_integer held ?_
    have below : Double.exactBound ≤ 9007199254740992 := by decide
    simp only [Text.largestInteger]
    omega
  · refine List.Pairwise.imp_of_mem ?_ (List.pairwise_map.1 distinct)
    intro row other member memberOther differ
    rcases numbered row member with ⟨first, small, held⟩
    rcases numbered other memberOther with ⟨second, smaller, heldOther⟩
    refine not_sameId_of_exact held heldOther small smaller ?_
    rintro rfl
    exact differ (held.trans heldOther.symm)

end Memory

end TableApi
