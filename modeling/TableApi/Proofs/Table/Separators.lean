import TableApi.Proofs.Database.Reading
import TableApi.Proofs.Table.Order
import TableApi.Proofs.Text.Percent

/-!
# Order clauses cut by another reader

A schema cuts an order clause at commas and each part at white space, looks the columns up, and
passes the clause on as it was written.  Whoever reads the statement cuts the clause once more, at
the white space that it knows itself.  Both see the same columns and directions exactly when every
blank of the clause is white space to that reader too: `readsOrder_iff`.

White space beyond the ASCII characters is none in the text of a statement.  A clause with such a
blank is accepted all the same, and what the database takes for the name of a column in it has not
been looked up: `orderBy_hides_column`.
-/

namespace TableApi

namespace Text

/-- The white space among the ASCII characters. -/
def isAsciiBlank (character : Char) : Bool :=
  isBlank character && character.toNat < 128

end Text

namespace Schema

variable {schema : Schema}

/-- The words of a part of an order: a known column, perhaps with a direction behind it. -/
def IsOrderPart (columns : List String) : List (List Char) → Prop
  | [column] => String.ofList column ∈ columns
  | [column, direction] =>
      String.ofList column ∈ columns ∧ Grammar.Direction (String.ofList direction)
  | _ => False

/-- A reader who cuts a clause at its commas, and the parts at these separators, sees an order by
columns of the table. -/
def ReadsOrder (schema : Schema) (separates : Char → Bool) (clause : String) : Prop :=
  ∀ part ∈ Text.splitAtChar ',' clause.toList,
    IsOrderPart schema.columns (Text.runs separates part)

/-! ## What the schema reads -/

theorem checkOrderPart_eq_ok_iff {clause part : List Char} :
    schema.checkOrderPart clause part = .ok () ↔
      IsOrderPart schema.columns (Text.runs Text.isBlank part) := by
  rw [Text.runs_isBlank]
  unfold checkOrderPart
  rcases Text.words part with _ | ⟨name, _ | ⟨direction, _ | ⟨third, others⟩⟩⟩
  · simp [IsOrderPart]
  · by_cases known : String.ofList name ∈ schema.columns
    · simp [IsOrderPart, column, known, bind, Except.bind]
    · simp [IsOrderPart, column, known, bind, Except.bind]
  · by_cases known : String.ofList name ∈ schema.columns
    · simp [IsOrderPart, column, known, bind, Except.bind, isDirection_iff]
    · simp [IsOrderPart, column, known, bind, Except.bind]
  · by_cases known : String.ofList name ∈ schema.columns
    · simp [IsOrderPart, column, known, bind, Except.bind]
    · simp [IsOrderPart, column, known, bind, Except.bind]

theorem checkOrderParts_of_parts {clause : List Char} {parts : List (List Char)}
    (checked : ∀ part ∈ parts, schema.checkOrderPart clause part = .ok ()) :
    schema.checkOrderParts clause parts = .ok () := by
  induction parts with
  | nil => rfl
  | cons part parts step =>
    rw [List.forall_mem_cons] at checked
    rw [checkOrderParts, checked.1]
    exact step checked.2

/-- The accepted clauses are those that the schema reads as an order by its columns, without the
white space around them. -/
theorem orderBy_eq_ok_iff {text clause : String} :
    schema.orderBy text = .ok clause ↔
      clause = Text.trimmed text ∧ schema.ReadsOrder Text.isBlank clause := by
  constructor
  · intro accepted
    rcases Result.ok_of_bind_ok accepted with ⟨_, checked, given⟩
    obtain rfl := Except.ok.inj given
    refine ⟨rfl, fun part member => ?_⟩
    rw [String.toList_ofList] at member
    exact checkOrderPart_eq_ok_iff.1 (checkOrderPart_of_parts checked part member)
  · rintro ⟨rfl, reads⟩
    have checked : schema.checkOrderParts (Text.trim text.toList)
        (Text.splitAtChar ',' (Text.trim text.toList)) = .ok () := by
      apply checkOrderParts_of_parts
      intro part member
      rw [← Text.toList_trimmed] at member
      exact checkOrderPart_eq_ok_iff.2 (reads part member)
    simp only [orderBy, checked]
    rfl

/-! ## What other readers read -/

theorem isIdentifierChar_of_toLower {character : Char}
    (lowered : isIdentifierChar character.toLower = true) : isIdentifierChar character = true := by
  unfold Char.toLower at lowered
  split at lowered
  · rename_i upper
    have capital : character.isUpper = true := decide_eq_true upper
    have letter : character.isAlpha = true := Bool.or_eq_true_iff.2 (Or.inl capital)
    simp [isIdentifierChar, Char.isAlphanum, letter]
  · exact lowered

theorem isBlank_of_isIdentifierChar {character : Char}
    (plain : isIdentifierChar character = true) : Text.isBlank character = false := by
  have ascii : character.toNat < 0x80 := by
    simp only [isIdentifierChar, Bool.or_eq_true, beq_iff_eq] at plain
    rcases plain with alphanumeric | rfl
    · exact Text.toNat_lt_of_isAlphanum alphanumeric
    · decide
  have all : ∀ code < 0x80, isIdentifierChar (Char.ofNat code) = true →
      Text.isBlank (Char.ofNat code) = false := by
    decide
  have found := all character.toNat ascii
  rw [Char.ofNat_toNat] at found
  exact found plain

/-- The words of an order are made of characters that may stand in an identifier. -/
theorem isIdentifierChar_of_isOrderPart {columns : List String}
    (plain : ∀ column ∈ columns, IsPlain column) {words : List (List Char)}
    (part : IsOrderPart columns words) :
    ∀ word ∈ words, ∀ character ∈ word, isIdentifierChar character = true := by
  have named : ∀ name, String.ofList name ∈ columns →
      ∀ character ∈ name, isIdentifierChar character = true := by
    intro name known character member
    apply plain _ known
    rwa [String.toList_ofList]
  have directed : ∀ direction, Grammar.Direction (String.ofList direction) →
      ∀ character ∈ direction, isIdentifierChar character = true := by
    intro direction known character member
    apply isIdentifierChar_of_toLower
    have lowered : character.toLower ∈ (String.ofList direction).toList.map Char.toLower := by
      rw [String.toList_ofList]
      exact List.mem_map_of_mem member
    have letters : ∀ word ∈ ["asc".toList, "desc".toList],
        word.all isIdentifierChar = true := by
      decide
    exact List.all_eq_true.1 (letters _ known) _ lowered
  match words, part with
  | [name], known =>
    exact List.forall_mem_singleton.2 (named name known)
  | [name, direction], ⟨known, directs⟩ =>
    intro word member
    rcases List.mem_cons.1 member with rfl | later
    · exact named _ known
    · rw [List.mem_singleton.1 later]
      exact directed direction directs

/-- A character of a clause is a comma or stands in one of the parts. -/
theorem exists_part_of_mem {clause : String} {character : Char}
    (member : character ∈ clause.toList) :
    character = ',' ∨ ∃ part ∈ Text.splitAtChar ',' clause.toList, character ∈ part := by
  by_cases comma : character = ','
  · exact Or.inl comma
  · rw [Text.splitAtChar_eq_splitWhen]
    exact Or.inr (Text.exists_mem_splitWhen member (by simpa using comma))

section Readers

variable (plain : ∀ column ∈ schema.columns, IsPlain column) {separates : Char → Bool}
  {clause : String}

include plain

/-- An order by columns holds identifiers, commas and separators. -/
theorem isIdentifierChar_of_readsOrder (reads : schema.ReadsOrder separates clause) :
    ∀ character ∈ clause.toList,
      isIdentifierChar character = true ∨ character = ',' ∨ separates character = true := by
  intro character member
  rcases exists_part_of_mem member with comma | ⟨part, isPart, inside⟩
  · exact Or.inr (Or.inl comma)
  · by_cases marks : separates character = true
    · exact Or.inr (Or.inr marks)
    · rcases Text.exists_mem_runs inside (by simpa using marks) with ⟨run, isRun, within⟩
      exact Or.inl (isIdentifierChar_of_isOrderPart plain (reads part isPart) run isRun _ within)

/-- A reader whose separators are white space sees the order that the schema has checked exactly
when it takes every blank of the clause for a separator. -/
theorem readsOrder_iff (checked : schema.ReadsOrder Text.isBlank clause)
    (blanks : ∀ character, separates character = true → Text.isBlank character = true) :
    schema.ReadsOrder separates clause ↔
      ∀ character ∈ clause.toList, Text.isBlank character = true →
        separates character = true := by
  constructor
  · intro reads character member blank
    rcases isIdentifierChar_of_readsOrder plain reads character member with
      letter | rfl | marks
    · rw [isBlank_of_isIdentifierChar letter] at blank
      cases blank
    · exact absurd blank (by decide)
    · exact marks
  · intro every part isPart
    have agree : ∀ character ∈ part, separates character = Text.isBlank character := by
      intro character inside
      have member : character ∈ clause.toList := by
        rw [Text.splitAtChar_eq_splitWhen] at isPart
        exact Text.mem_of_mem_splitWhen isPart character inside
      rw [Bool.eq_iff_iff]
      exact ⟨blanks character, every character member⟩
    rw [Text.runs_congr agree]
    exact checked part isPart

/-- An accepted clause holds identifiers, commas and white space only.  A reader that takes no white
space but that of ASCII for separators sees what the schema has checked exactly if the clause has no
other. -/
theorem orderBy_reads {text : String} (accepted : schema.orderBy text = .ok clause) :
    clause = Text.trimmed text ∧
      schema.ReadsOrder Text.isBlank clause ∧
      (∀ character ∈ clause.toList, isIdentifierChar character = true ∨ character = ',' ∨
        Text.isBlank character = true) ∧
      (schema.ReadsOrder Text.isAsciiBlank clause ↔
        ∀ character ∈ clause.toList, Text.isBlank character = true →
          Text.isAsciiBlank character = true) := by
  rcases orderBy_eq_ok_iff.1 accepted with ⟨trimmed, checked⟩
  have blanks : ∀ character, Text.isAsciiBlank character = true →
      Text.isBlank character = true := by
    intro character ascii
    rw [Text.isAsciiBlank, Bool.and_eq_true] at ascii
    exact ascii.1
  exact ⟨trimmed, checked, isIdentifierChar_of_readsOrder plain checked,
    readsOrder_iff plain checked blanks⟩

end Readers

theorem orderBy_reads_products :
    let products : Schema := ⟨"products", ["id", "price"]⟩
    products.orderBy " price  dEsC,\tid " = .ok "price  dEsC,\tid" ∧
      products.ReadsOrder Text.isAsciiBlank "price  dEsC,\tid" := by
  intro products
  have accepted : products.orderBy " price  dEsC,\tid " = .ok "price  dEsC,\tid" :=
    Result.ok_of_toOption (by decide +kernel)
  exact ⟨accepted, (orderBy_reads (by decide) accepted).2.2.2.2
    (Text.forall_of_all (by decide +kernel))⟩

/-- Behind a no-break space the word of the direction becomes part of a name that is no column. -/
theorem orderBy_hides_column :
    let products : Schema := ⟨"products", ["id", "price"]⟩
    (∀ column ∈ products.columns, column ≠ "" ∧ IsPlain column) ∧
      products.orderBy "price\u00a0desc" = .ok "price\u00a0desc" ∧
      Text.splitAtChar ',' "price\u00a0desc".toList = ["price\u00a0desc".toList] ∧
      Text.runs Text.isAsciiBlank "price\u00a0desc".toList = ["price\u00a0desc".toList] ∧
      ¬products.ReadsOrder Text.isAsciiBlank "price\u00a0desc" := by
  intro products
  have whole : Text.splitAtChar ',' "price\u00a0desc".toList = ["price\u00a0desc".toList] := by
    decide +kernel
  have single : Text.runs Text.isAsciiBlank "price\u00a0desc".toList =
      ["price\u00a0desc".toList] := by
    decide +kernel
  refine ⟨by decide, Result.ok_of_toOption (by decide +kernel), whole, single, ?_⟩
  intro reads
  have part := reads "price\u00a0desc".toList (by rw [whole]; exact List.mem_singleton_self _)
  rw [single, IsOrderPart, String.ofList_toList] at part
  revert part
  decide

end Schema

end TableApi
