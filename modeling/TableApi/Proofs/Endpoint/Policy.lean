import TableApi.Endpoint.Descriptor
import TableApi.Proofs.Json.Fields

/-!
# The values that are policies

A value decodes to a policy when each rule that it gives is of the type of this rule.
`Policy.Shaped` says so without the decoder: a rule that is not given is of no type at all, names
that are no rules do not count in an object, and an array gives its rules by position.
-/

namespace TableApi.Policy

/-! ## The types of the rules -/

/-- One role or one id. -/
inductive IsEntry : Json → Prop
  | text (text : String) : IsEntry (.string text)
  | number (number : Number) : IsEntry (.number number)

/-- Roles or ids: one for a list of one, and null for none. -/
inductive AreEntries : Json → Prop
  | none : AreEntries .null
  | one {value : Json} (entry : IsEntry value) : AreEntries value
  | many {items : List Json} (each : ∀ item ∈ items, IsEntry item) : AreEntries (.array items)

/-- The number of a segment, as a number or as a text that spells it between blanks. -/
inductive IsSegment : Json → Prop
  | number {number : Number} {value : Nat} (fits : number.word? = some value) :
      IsSegment (.number number)
  | text {text : String} {value : Nat} (spells : Text.word? (Text.trim text.toList) = some value) :
      IsSegment (.string text)

/-- A column and the number of a segment, by their names or in this order. -/
inductive IsOwned : Json → Prop
  | object {fields : Fields} {column : String} {segment : Json}
      (named : fields.get? "column" = some (.string column))
      (placed : fields.get? "segmentNum" = some segment) (fits : IsSegment segment) :
      IsOwned (.object fields)
  | array {column : String} {segment : Json} (fits : IsSegment segment) :
      IsOwned (.array [.string column, segment])

/-- Every rule that is given is of its type. -/
structure WellTyped (fields : Fields) : Prop where
  roles : ∀ value, fields.get? "roles" = some value → AreEntries value
  userIds : ∀ value, fields.get? "userIds" = some value → AreEntries value
  userIdSegment : ∀ value, fields.get? "userIdSegment" = some value →
    value = .null ∨ IsSegment value
  userCodeSegment : ∀ value, fields.get? "userCodeSegment" = some value →
    value = .null ∨ IsSegment value
  ownedSegment : ∀ value, fields.get? "userOwnedSegment" = some value →
    value = .null ∨ IsOwned value

/-- A value is an object or a short array of well-typed rules. -/
inductive Shaped : Json → Prop
  | object {fields : Fields} (typed : WellTyped fields) : Shaped (.object fields)
  | array {items : List Json} (few : items.length ≤ 5) (typed : WellTyped (fieldNames.zip items)) :
      Shaped (.array items)

/-! ## The decoder -/

theorem entryOf?_eq_some {value : Json} : (∃ text, entryOf? value = some text) ↔ IsEntry value := by
  constructor
  · rintro ⟨text, decoded⟩
    cases value with
    | string own => exact IsEntry.text own
    | number own => exact IsEntry.number own
    | _ => cases decoded
  · rintro (text | number)
    · exact ⟨_, rfl⟩
    · exact ⟨_, rfl⟩

theorem mapM_entryOf?_eq_some {items : List Json} :
    (∃ texts, items.mapM entryOf? = some texts) ↔ ∀ item ∈ items, IsEntry item := by
  induction items with
  | nil => simp
  | cons item items step =>
    rw [List.forall_mem_cons, ← step, ← entryOf?_eq_some, List.mapM_cons]
    cases first : entryOf? item with
    | none => simp
    | some text =>
      cases rest : items.mapM entryOf? with
      | none => simp
      | some texts => simp

theorem entriesOf?_eq_some (value : Json) :
    (∃ texts, entriesOf? value = some texts) ↔ AreEntries value := by
  have single : ∀ {value : Json},
      (∃ texts, (entryOf? value).map (fun entry => [entry]) = some texts) ↔
      IsEntry value := by
    intro value
    rw [← entryOf?_eq_some]
    cases entryOf? value <;> simp
  constructor
  · intro decoded
    cases value with
    | null => exact AreEntries.none
    | array items => exact AreEntries.many (mapM_entryOf?_eq_some.1 decoded)
    | string text => exact AreEntries.one (IsEntry.text text)
    | number number => exact AreEntries.one (IsEntry.number number)
    | bool value => exact AreEntries.one (single.1 decoded)
    | object fields => exact AreEntries.one (single.1 decoded)
  · rintro (_ | entry | each)
    · exact ⟨[], rfl⟩
    · cases entry <;> exact ⟨_, rfl⟩
    · exact mapM_entryOf?_eq_some.2 each

theorem segmentOf?_eq_some {value : Json} :
    (∃ number, segmentOf? value = some number) ↔ IsSegment value := by
  constructor
  · rintro ⟨number, decoded⟩
    cases value with
    | number own => exact IsSegment.number decoded
    | string own => exact IsSegment.text decoded
    | _ => cases decoded
  · rintro (fits | spells)
    · exact ⟨_, fits⟩
    · exact ⟨_, spells⟩

theorem textOf?_eq_some {value : Json} {text : String} :
    textOf? value = some text ↔ value = .string text := by
  cases value <;> simp [textOf?]

theorem ownedOf?_eq_some {value : Json} :
    (∃ owned, ownedOf? value = some owned) ↔ IsOwned value := by
  constructor
  · rintro ⟨owned, decoded⟩
    unfold ownedOf? at decoded
    split at decoded
    · rename_i fields
      simp only [Option.bind_eq_bind, Option.bind_eq_some_iff] at decoded
      rcases decoded with ⟨named, column, text, read, segment, placed, number, spelled, _⟩
      rw [textOf?_eq_some.1 read] at column
      exact IsOwned.object column placed (segmentOf?_eq_some.1 ⟨number, spelled⟩)
    · rename_i column segment
      simp only [Option.bind_eq_bind, Option.bind_eq_some_iff] at decoded
      rcases decoded with ⟨text, read, number, spelled, _⟩
      rw [textOf?_eq_some.1 read]
      exact IsOwned.array (segmentOf?_eq_some.1 ⟨number, spelled⟩)
    · cases decoded
  · rintro (@⟨fields, column, segment, named, placed, fits⟩ | @⟨column, segment, fits⟩)
    · rcases segmentOf?_eq_some.2 fits with ⟨number, spelled⟩
      refine ⟨⟨column, number⟩, ?_⟩
      simp [ownedOf?, named, placed, spelled, textOf?]
    · rcases segmentOf?_eq_some.2 fits with ⟨number, spelled⟩
      refine ⟨⟨column, number⟩, ?_⟩
      simp [ownedOf?, spelled, textOf?]

theorem optionalSegmentOf?_eq_some (value : Json) :
    (∃ found, optionalSegmentOf? value = some found) ↔ value = .null ∨ IsSegment value := by
  rw [← segmentOf?_eq_some]
  cases value <;> simp [optionalSegmentOf?]

theorem optionalOwnedOf?_eq_some (value : Json) :
    (∃ found, optionalOwnedOf? value = some found) ↔ value = .null ∨ IsOwned value := by
  rw [← ownedOf?_eq_some]
  cases value <;> simp [optionalOwnedOf?]

/-- A rule is decoded unless it is given with a value of another type. -/
theorem read_eq_some {α : Type} (fields : Fields) (name : String) (absent : α)
    {decode : Json → Option α} {fits : Json → Prop}
    (decodes : ∀ value, (∃ found, decode value = some found) ↔ fits value) :
    (∃ found, (match fields.get? name with
      | some value => decode value
      | none => some absent) = some found) ↔
      ∀ value, fields.get? name = some value → fits value := by
  cases given : fields.get? name with
  | none => simp
  | some value => simp [← decodes]

/-- Fields decode to a policy when they are well typed. -/
theorem ofFields?_eq_some {fields : Fields} :
    (∃ policy, ofFields? fields = some policy) ↔ WellTyped fields := by
  have roles := read_eq_some fields "roles" [] entriesOf?_eq_some
  have userIds := read_eq_some fields "userIds" [] entriesOf?_eq_some
  have userIdSegment := read_eq_some fields "userIdSegment" none optionalSegmentOf?_eq_some
  have userCodeSegment := read_eq_some fields "userCodeSegment" none optionalSegmentOf?_eq_some
  have ownedSegment := read_eq_some fields "userOwnedSegment" none optionalOwnedOf?_eq_some
  simp only [ofFields?, Option.bind_eq_bind, Option.bind_eq_some_iff]
  constructor
  · rintro ⟨policy, first, readFirst, second, readSecond, third, readThird, fourth, readFourth,
      fifth, readFifth, _⟩
    exact ⟨roles.1 ⟨first, readFirst⟩, userIds.1 ⟨second, readSecond⟩,
      userIdSegment.1 ⟨third, readThird⟩, userCodeSegment.1 ⟨fourth, readFourth⟩,
      ownedSegment.1 ⟨fifth, readFifth⟩⟩
  · intro typed
    rcases roles.2 typed.roles with ⟨first, readFirst⟩
    rcases userIds.2 typed.userIds with ⟨second, readSecond⟩
    rcases userIdSegment.2 typed.userIdSegment with ⟨third, readThird⟩
    rcases userCodeSegment.2 typed.userCodeSegment with ⟨fourth, readFourth⟩
    rcases ownedSegment.2 typed.ownedSegment with ⟨fifth, readFifth⟩
    exact ⟨_, first, readFirst, second, readSecond, third, readThird, fourth, readFourth, fifth,
      readFifth, rfl⟩

/-- A value decodes to a policy when it is shaped as one. -/
theorem ofJson?_eq_some {value : Json} :
    (∃ policy, ofJson? value = some policy) ↔ Shaped value := by
  cases value with
  | object fields =>
    constructor
    · exact fun decoded => Shaped.object (ofFields?_eq_some.1 decoded)
    · rintro ⟨typed⟩
      exact ofFields?_eq_some.2 typed
  | array items =>
    by_cases few : items.length ≤ 5
    · have read : ofJson? (.array items) = ofFields? (fieldNames.zip items) := if_pos few
      rw [read, ofFields?_eq_some]
      constructor
      · exact Shaped.array few
      · rintro (_ | ⟨_, typed⟩)
        exact typed
    · have read : ofJson? (.array items) = none := if_neg few
      rw [read]
      constructor
      · rintro ⟨_, impossible⟩
        cases impossible
      · rintro (_ | ⟨short, _⟩)
        exact absurd short few
  | _ =>
    constructor
    · rintro ⟨_, impossible⟩
      cases impossible
    · rintro ⟨⟩

end TableApi.Policy
