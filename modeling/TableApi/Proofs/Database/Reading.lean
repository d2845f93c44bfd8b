import TableApi.Database.Memory.Reading
import TableApi.Proofs.Number.Decimal
import TableApi.Proofs.Text.Cutting
import TableApi.Table.Schema

/-!
# Statement texts read back

The database in memory reads the texts that statements were written as.  Here each text is read back
as what it was written from.  Names consist of letters, digits and underscores, so none of the marks
at which a text is cut starts within a name, and none of the words between spaces is a term or a
name.

Only an order clause may hold such a word: a column whose name is `LIMIT`.  A clause whose pieces
between spaces are all different from it is read back too.

The columns of conditions may be less plain: a condition is read back if its column has no space and
does not complete its sign to a longer one, `IsLegible`.
-/

namespace TableApi

/-- Every character of a name may stand in an identifier. -/
def IsPlain (name : String) : Prop :=
  ∀ character ∈ name.toList, isIdentifierChar character = true

instance (name : String) : Decidable (IsPlain name) :=
  decidable_of_iff (name.toList.all isIdentifierChar = true) List.all_eq_true

theorem IsPlain.not_mem {name : String} (plain : IsPlain name) {character : Char}
    (other : isIdentifierChar character = false) : character ∉ name.toList := by
  intro member
  rw [plain character member] at other
  simp at other

theorem isPlain_id : IsPlain "id" := by decide

/-! ## Clauses of conditions -/

namespace Condition

/-- The terms of a clause and the words between them. -/
def pieces : List Condition → List (List Char)
  | [] => []
  | first :: others =>
      first.term.toList ::
        others.flatMap fun condition => [condition.conjunction.word.toList, condition.term.toList]

/-- The pieces of a clause, its first word among them. -/
def wordedPieces (conditions : List Condition) : List (List Char) :=
  if conditions.isEmpty then [] else "WHERE".toList :: pieces conditions

theorem toList_clause (conditions : List Condition) :
    (clause conditions).toList = Text.spaced (wordedPieces conditions) := by
  cases conditions with
  | nil => rfl
  | cons first others =>
    have joined : (String.join (others.map joinedTerm)).toList =
        Text.spaced (others.flatMap fun condition =>
          [condition.conjunction.word.toList, condition.term.toList]) := by
      simp [Text.spaced, List.flatMap_assoc, List.flatMap_map, joinedTerm]
    have word : " WHERE ".toList = ' ' :: ("WHERE".toList ++ [' ']) := rfl
    simp [clause, joined, word, wordedPieces, pieces]

theorem toList_term (condition : Condition) :
    condition.term.toList =
      condition.column.toList ++ condition.comparison.symbol.toList ++ ['?'] := by
  simp [term]

/-- A condition whose term is read back: its column has no space, and no character at its end that
an equals sign behind it completes to another sign. -/
structure IsLegible (condition : Condition) : Prop where
  spaceless : ' ' ∉ condition.column.toList
  unsigned : condition.comparison = .equal →
    ∀ sign ∈ ['!', '<', '>'], condition.column.toList.getLast? ≠ some sign

theorem isLegible_of_isPlain {condition : Condition} (plain : IsPlain condition.column) :
    condition.IsLegible := by
  have outside : ∀ sign ∈ ['!', '<', '>'], isIdentifierChar sign = false := by
    simp [isIdentifierChar]
  exact ⟨plain.not_mem (by decide), fun _ sign known ends =>
    plain.not_mem (outside sign known) (List.mem_of_getLast? ends)⟩

theorem space_not_mem_term {condition : Condition} (legible : condition.IsLegible) :
    ' ' ∉ condition.term.toList := by
  have named := legible.spaceless
  have signed : ∀ comparison : Comparison, ' ' ∉ comparison.symbol.toList := by
    intro comparison
    cases comparison <;> decide
  simp [toList_term, named, signed]

variable {conditions : List Condition}

theorem mem_wordedPieces {piece : List Char} (member : piece ∈ wordedPieces conditions) :
    piece ∈ ["WHERE".toList, "AND".toList, "OR".toList] ∨
      ∃ condition ∈ conditions, piece = condition.term.toList := by
  cases conditions with
  | nil => simp [wordedPieces] at member
  | cons first others =>
    rcases List.mem_cons.1 member with rfl | member
    · exact Or.inl List.mem_cons_self
    rcases List.mem_cons.1 member with rfl | later
    · exact Or.inr ⟨first, List.mem_cons_self, rfl⟩
    rcases List.mem_flatMap.1 later with ⟨condition, inside, found⟩
    rcases List.mem_cons.1 found with rfl | found
    · cases condition.conjunction <;> exact Or.inl (by decide)
    · rw [List.mem_singleton.1 found]
      exact Or.inr ⟨condition, List.mem_cons_of_mem _ inside, rfl⟩

theorem mem_wordedPieces_of_mem_pieces {piece : List Char} (member : piece ∈ pieces conditions) :
    piece ∈ wordedPieces conditions := by
  cases conditions with
  | nil => simp [pieces] at member
  | cons first others => exact List.mem_cons_of_mem _ member

/-- The pieces of a clause hold no spaces. -/
theorem space_not_mem_wordedPieces (legible : ∀ condition ∈ conditions, condition.IsLegible) :
    ∀ piece ∈ wordedPieces conditions, ' ' ∉ piece := by
  intro piece member
  rcases mem_wordedPieces member with word | ⟨condition, inside, rfl⟩
  · have words : ∀ word ∈ ["WHERE".toList, "AND".toList, "OR".toList], ' ' ∉ word := by decide
    exact words piece word
  · exact space_not_mem_term (legible condition inside)

/-- A word that ends in no placeholder is a piece of a clause only if a clause has it as a word. -/
theorem wordedPieces_ne {word : List Char}
    (other : word ∉ ["WHERE".toList, "AND".toList, "OR".toList]) (ends : word.getLast? ≠ some '?') :
    ∀ piece ∈ wordedPieces conditions, piece ≠ word := by
  rintro piece member rfl
  rcases mem_wordedPieces member with same | ⟨condition, _, rfl⟩
  · exact other same
  · simp [toList_term] at ends

/-- Every piece of a clause ends in a character that is not blank. -/
theorem wordedPieces_end :
    ∀ piece ∈ wordedPieces conditions,
      ∃ before last, piece = before ++ [last] ∧ Text.isBlank last = false := by
  intro piece member
  rcases mem_wordedPieces member with word | ⟨condition, _, rfl⟩
  · have ends : ∀ word ∈ ["WHERE".toList, "AND".toList, "OR".toList],
        word = word.dropLast ++ [word.getLast?.getD ' '] ∧
          Text.isBlank (word.getLast?.getD ' ') = false := by decide
    exact ⟨_, _, ends piece word⟩
  · exact ⟨_, '?', toList_term condition, by decide⟩

end Condition

/-! ## Queries -/

namespace Memory.Query

open Text

variable {pieces : List (List Char)}

/-- A clause of conditions is read without its word, whatever pieces it has. -/
theorem conditionsOf_spaced {first : List Char} {others : List (List Char)}
    (ends : ∀ piece ∈ "WHERE".toList :: first :: others,
      ∃ before last, piece = before ++ [last] ∧ isBlank last = false) :
    conditionsOf (spaced ("WHERE".toList :: first :: others)) =
      joinWith [' '] (first :: others) := by
  have trimmed := @trim_spaced 'W' "HERE".toList (first :: others) (by decide) ends
  have word : "WHERE".toList = 'W' :: "HERE".toList := rfl
  have lead : 'W' :: "HERE".toList ++ spaced (first :: others) =
      "WHERE ".toList ++ joinWith [' '] (first :: others) := by
    rw [joinWith_space, spaced_cons]
    rfl
  rw [conditionsOf, word, trimmed, lead, dropLead?_append]
  rfl

theorem conditionsOf_wordedPieces (conditions : List Condition) :
    conditionsOf (spaced (Condition.wordedPieces conditions)) =
      joinWith [' '] (Condition.pieces conditions) := by
  cases conditions with
  | nil => decide
  | cons first others => exact conditionsOf_spaced (@Condition.wordedPieces_end (first :: others))

/-- An order clause as the end of a statement. -/
def orderText (order : Option (List Char)) : List Char :=
  order.elim [] fun clause => " ORDER BY ".toList ++ clause

/-- The pieces of an order clause at the end of a statement. -/
def orderPieces (order : Option (List Char)) : List (List Char) :=
  order.elim [] fun clause => "ORDER".toList :: "BY".toList :: splitAtChar ' ' clause

theorem orderText_eq_spaced (order : Option (List Char)) :
    orderText order = spaced (orderPieces order) := by
  cases order with
  | none => rfl
  | some clause =>
    simp only [orderPieces, Option.elim_some, spaced_cons, spaced_splitAtChar]
    rfl

theorem space_not_mem_orderPieces {order : Option (List Char)} :
    ∀ piece ∈ orderPieces order, ' ' ∉ piece := by
  intro piece member
  cases order with
  | none => simp [orderPieces] at member
  | some clause =>
    rcases List.mem_cons.1 member with rfl | member
    · decide
    rcases List.mem_cons.1 member with rfl | later
    · decide
    · exact not_mem_of_mem_splitAtChar later

theorem limit_not_mem_orderPieces {order : Option (List Char)}
    (unlimited : ∀ clause ∈ order, "LIMIT".toList ∉ splitAtChar ' ' clause) :
    "LIMIT".toList ∉ orderPieces order := by
  cases order with
  | none => simp [orderPieces]
  | some clause =>
    intro member
    rcases List.mem_cons.1 member with same | member
    · revert same
      decide
    rcases List.mem_cons.1 member with same | later
    · revert same
      decide
    · exact unlimited clause rfl later

/-- A window as the end of a statement. -/
def windowText (window : Option (Nat × Nat)) : List Char :=
  window.elim [] fun (offset, limit) =>
    " LIMIT ".toList ++ ((toString offset).toList ++ ", ".toList ++ (toString limit).toList)

theorem window?_eq {offset limit : Nat} (small : offset ≤ largestWord ∧ limit ≤ largestWord) :
    window? ((toString offset).toList ++ ", ".toList ++ (toString limit).toList) =
      some (offset, limit) := by
  have absent : ',' ∉ (toString offset).toList := by
    rw [Nat.toString_eq_ofList_toDigits, String.toList_ofList]
    intro member
    have digit := Nat.isDigit_of_mem_toDigits (by simp) (Nat.le_refl 10) member
    revert digit
    decide
  have cut : cut? ", ".toList
      ((toString offset).toList ++ ", ".toList ++ (toString limit).toList) =
        some ((toString offset).toList, (toString limit).toList) := cut?_between absent _
  simp only [window?, cut, Option.bind_eq_bind, Option.bind_some, word?_toString small.1,
    word?_toString small.2]
  rfl

theorem cutWindow?_spaced (plain : ∀ piece ∈ pieces, ' ' ∉ piece)
    (other : ∀ piece ∈ pieces, piece ≠ "LIMIT".toList) {window : Option (Nat × Nat)}
    (small : ∀ bounds ∈ window, bounds.1 ≤ largestWord ∧ bounds.2 ≤ largestWord) :
    cutWindow? (spaced pieces ++ windowText window) = some (spaced pieces, window) := by
  cases window with
  | none =>
    have uncut : cut? " LIMIT ".toList (spaced pieces) = none :=
      cut?_spaced_eq_none "LIMIT".toList [] (by decide) plain other
    simp only [cutWindow?, windowText, Option.elim_none, List.append_nil, uncut]
  | some bounds =>
    rcases bounds with ⟨offset, limit⟩
    have cut : cut? " LIMIT ".toList (spaced pieces ++ windowText (some (offset, limit))) =
        some (spaced pieces,
          (toString offset).toList ++ ", ".toList ++ (toString limit).toList) := by
      rw [windowText, Option.elim_some, ← List.append_assoc]
      exact cut?_spaced_append "LIMIT".toList [] (by decide) plain other _
    simp only [cutWindow?, cut, window?_eq (small _ rfl)]
    rfl

/-- The window is cut off behind an order clause too, unless the clause holds the word `LIMIT`. -/
theorem cutWindow?_orderText (plain : ∀ piece ∈ pieces, ' ' ∉ piece)
    (other : ∀ piece ∈ pieces, piece ≠ "LIMIT".toList) {order : Option (List Char)}
    (unlimited : ∀ clause ∈ order, "LIMIT".toList ∉ splitAtChar ' ' clause)
    {window : Option (Nat × Nat)}
    (small : ∀ bounds ∈ window, bounds.1 ≤ largestWord ∧ bounds.2 ≤ largestWord) :
    cutWindow? (spaced pieces ++ orderText order ++ windowText window) =
      some (spaced pieces ++ orderText order, window) := by
  have plainAll : ∀ piece ∈ pieces ++ orderPieces order, ' ' ∉ piece := by
    intro piece member
    rcases List.mem_append.1 member with front | back
    · exact plain piece front
    · exact space_not_mem_orderPieces piece back
  have otherAll : ∀ piece ∈ pieces ++ orderPieces order, piece ≠ "LIMIT".toList := by
    intro piece member
    rcases List.mem_append.1 member with front | back
    · exact other piece front
    · rintro rfl
      exact limit_not_mem_orderPieces unlimited back
  have windowed := cutWindow?_spaced plainAll otherAll small
  rwa [spaced_append, ← orderText_eq_spaced] at windowed

theorem cutOrder_spaced (plain : ∀ piece ∈ pieces, ' ' ∉ piece)
    (other : ∀ piece ∈ pieces, piece ≠ "ORDER".toList) (order : Option (List Char)) :
    cutOrder (spaced pieces ++ orderText order) = (spaced pieces, order) := by
  cases order with
  | none =>
    have uncut : cut? " ORDER BY ".toList (spaced pieces) = none :=
      cut?_spaced_eq_none "ORDER".toList "BY ".toList (by decide) plain other
    simp only [cutOrder, orderText, Option.elim_none, List.append_nil, uncut]
  | some clause =>
    have cut : cut? " ORDER BY ".toList (spaced pieces ++ orderText (some clause)) =
        some (spaced pieces, clause) := by
      rw [orderText, Option.elim_some, ← List.append_assoc]
      exact cut?_spaced_append "ORDER".toList "BY ".toList (by decide) plain
        other clause
    simp only [cutOrder, cut]

theorem cutTable {table tail : List Char} (plain : ' ' ∉ table)
    (next : ∀ first ∈ tail.head?, first = ' ') :
    (cutAt? ' ' (table ++ tail)).getD (table ++ tail, []) = (table, tail.drop 1) := by
  cases tail with
  | nil => simp [cutAt?_of_not_mem plain]
  | cons first rest =>
    have space : first = ' ' := next first rfl
    rw [space, cutAt?_append plain]
    rfl

/-- A selection is read back as its projection, its table, its clause, its order and its window. -/
theorem ofText?_eq (projection : Projection) {table : String} (named : IsPlain table)
    {order : Option (List Char)} {window : Option (Nat × Nat)}
    (plain : ∀ piece ∈ pieces, ' ' ∉ piece)
    (other : ∀ piece ∈ pieces, piece ≠ "LIMIT".toList ∧ piece ≠ "ORDER".toList)
    (unlimited : ∀ clause ∈ order, "LIMIT".toList ∉ splitAtChar ' ' clause)
    (small : ∀ bounds ∈ window, bounds.1 ≤ largestWord ∧ bounds.2 ≤ largestWord) :
    ofText? ("SELECT ".toList ++ (projection.text.toList ++ (" FROM ".toList ++ (table.toList ++
        (spaced pieces ++ orderText order ++ windowText window))))) =
      some ⟨projection.text, table, conditionsOf (spaced pieces), order, window⟩ := by
  generalize tailIs : spaced pieces ++ orderText order ++ windowText window = tail
  have cut : cut? " FROM ".toList (projection.text.toList ++ (" FROM ".toList ++
      (table.toList ++ tail))) = some (projection.text.toList, table.toList ++ tail) := by
    cases projection <;> rfl
  have next : ∀ first ∈ tail.head?, first = ' ' := by
    rw [← tailIs, orderText_eq_spaced, ← spaced_append]
    cases both : pieces ++ orderPieces order with
    | cons piece others => simp
    | nil =>
      cases window with
      | none => simp [windowText]
      | some bounds => simp [windowText]
  have space : ' ' ∉ table.toList := named.not_mem (by decide)
  simp only [ofText?, dropLead?_append, cut, cutTable space next, Option.bind_eq_bind,
    Option.bind_some]
  cases tail with
  | nil =>
    simp only [List.append_eq_nil_iff] at tailIs
    rcases tailIs with ⟨⟨noPieces, noOrder⟩, noWindow⟩
    have none : order = none := by
      cases order with
      | none => rfl
      | some clause => simp [orderText] at noOrder
    have unbound : window = .none := by
      cases window with
      | none => rfl
      | some bounds => simp [windowText] at noWindow
    have cutBlank : cutWindow? [' '] = some ([' '], .none) := by decide
    have unordered : cutOrder [' '] = ([' '], .none) := by decide
    have nothing : conditionsOf [' '] = conditionsOf [] := by decide
    simp [noPieces, none, unbound, cutBlank, unordered, nothing]
  | cons first rest =>
    have start : first = ' ' := next first rfl
    have windowed := cutWindow?_orderText plain (fun piece member => (other piece member).1)
      unlimited small
    rw [tailIs, start] at windowed
    have ordered := cutOrder_spaced plain (fun piece member => (other piece member).2) order
    simp [windowed, ordered]

end Memory.Query

/-! ## Changes -/

namespace Memory

open Text

variable {table : String} {columns : List String}

/-- The columns of an insertion are the pieces of what stands between its brackets. -/
theorem readInsertion?_of_unclosed (named : IsPlain table) {text : List Char}
    (unclosed : ')' ∉ text)
    (rows : List Char) :
    readInsertion? ("INSERT INTO ".toList ++ (table.toList ++ (" (".toList ++
        (text ++ (") VALUES ".toList ++ rows))))) =
      some (table, (splitAt ", ".toList text).map String.ofList) := by
  have space : ' ' ∉ table.toList := named.not_mem (by decide)
  have cutTable (rest : List Char) : cut? " (".toList (table.toList ++ (" (".toList ++ rest)) =
      some (table.toList, rest) := by
    rw [← List.append_assoc]
    exact cut?_between space rest
  have cutColumns : cut? ") VALUES ".toList (text ++ (") VALUES ".toList ++ rows)) =
      some (text, rows) := by
    rw [← List.append_assoc]
    exact cut?_between unclosed _
  simp only [readInsertion?, dropLead?_append, cutTable, cutColumns, Option.bind_eq_bind,
    Option.bind_some, String.ofList_toList]
  rfl

/-- An insertion is read back as its table and its columns. -/
theorem readInsertion?_eq (named : IsPlain table) (several : columns ≠ [])
    (plain : ∀ column ∈ columns, IsPlain column) (rows : List Char) :
    readInsertion? ("INSERT INTO ".toList ++ (table.toList ++ (" (".toList ++
        ((String.intercalate ", " columns).toList ++ (") VALUES ".toList ++ rows))))) =
      some (table, columns) := by
  have absent : ∀ character ∈ [')', ','], ∀ piece ∈ columns.map String.toList,
      character ∉ piece := by
    intro character known piece member
    rcases List.mem_map.1 member with ⟨column, inside, rfl⟩
    have outside : ∀ character ∈ [')', ','], isIdentifierChar character = false := by
      simp [isIdentifierChar]
    exact (plain column inside).not_mem (outside character known)
  have split : splitAt ", ".toList (", ".toList.intercalate (columns.map String.toList)) =
      columns.map String.toList :=
    splitAt_intercalate (by simpa using several) (absent ',' (by simp))
  rw [String.toList_intercalate, readInsertion?_of_unclosed named
    (not_mem_intercalate (by decide) (absent ')' (by simp))), split]
  simp

/-- Pieces that are joined by commas and spaces are spaced, and the commas stand at their ends. -/
theorem intercalate_eq_spaced {pieces : List (List Char)} (several : pieces ≠ []) :
    ∃ first others, ", ".toList.intercalate pieces = first ++ spaced others ∧
      ∀ piece ∈ first :: others, ∃ bare ∈ pieces, piece = bare ∨ piece = bare ++ [','] := by
  induction pieces with
  | nil => exact absurd rfl several
  | cons piece pieces step =>
    cases pieces with
    | nil => exact ⟨piece, [], by simp, by simp⟩
    | cons next pieces =>
      rcases step (by simp) with ⟨first, others, joined, each⟩
      refine ⟨piece ++ [','], first :: others, ?_, ?_⟩
      · rw [List.intercalate_cons_cons, joined, spaced_cons]
        simp
      · intro other member
        rcases List.mem_cons.1 member with rfl | later
        · exact ⟨piece, List.mem_cons_self, Or.inr rfl⟩
        · rcases each other later with ⟨bare, inside, same⟩
          exact ⟨bare, List.mem_cons_of_mem _ inside, same⟩

/-- The assignments of an update. -/
def assignments (columns : List String) : List (List Char) :=
  columns.map fun column => column.toList ++ "=?".toList

theorem toList_assignments (columns : List String) :
    (String.intercalate ", " (columns.map fun column => column ++ "=?")).toList =
      ", ".toList.intercalate (assignments columns) := by
  simp [assignments, String.toList_intercalate, Function.comp_def]

theorem assignments_ne_nil (several : columns ≠ []) : assignments columns ≠ [] := by
  simpa [assignments] using several

/-- No mark between assignments starts within one of them. -/
theorem not_mem_assignments (plain : ∀ column ∈ columns, IsPlain column) (character : Char)
    (known : character ∈ [' ', ',']) :
    ∀ assignment ∈ assignments columns, character ∉ assignment := by
  intro assignment member
  rcases List.mem_map.1 member with ⟨column, inside, rfl⟩
  have outside : ∀ character ∈ [' ', ','],
      isIdentifierChar character = false ∧ character ∉ "=?".toList := by
    simp [isIdentifierChar]
  have unnamed := (plain column inside).not_mem (outside character known).1
  simpa [unnamed] using (outside character known).2

/-- The conditions of an update stand behind its assignments. -/
theorem cut?_assignments (several : columns ≠ []) (plain : ∀ column ∈ columns, IsPlain column)
    (conditions : List Char) :
    cut? " WHERE ".toList (", ".toList.intercalate (assignments columns) ++
        (" WHERE ".toList ++ conditions)) =
      some (", ".toList.intercalate (assignments columns), conditions) := by
  -- Between two assignments stands a space, but a piece with a placeholder in it is not the word.
  rcases intercalate_eq_spaced (assignments_ne_nil several) with ⟨first, others, joined, each⟩
  have spaceless : ∀ piece ∈ first :: others, ' ' ∉ piece := by
    intro piece member
    rcases each piece member with ⟨bare, inside, rfl | rfl⟩
    · exact not_mem_assignments plain ' ' (by simp) piece inside
    · simpa using not_mem_assignments plain ' ' (by simp) bare inside
  have wordless : ∀ piece ∈ others, piece ≠ "WHERE".toList := by
    rintro piece member rfl
    rcases each _ (List.mem_cons_of_mem _ member) with ⟨bare, inside, same⟩
    rcases List.mem_map.1 inside with ⟨column, _, rfl⟩
    have marked : '?' ∈ "WHERE".toList := by
      rcases same with same | same
      · rw [same]
        simp
      · rw [same]
        simp
    revert marked
    decide
  have behind : cut? " WHERE ".toList (spaced others ++ (" WHERE ".toList ++ conditions)) =
      some (spaced others, conditions) := by
    rw [← List.append_assoc]
    exact cut?_spaced_append "WHERE".toList [] (by decide)
      (fun piece member => spaceless piece (List.mem_cons_of_mem _ member)) wordless conditions
  have passed : cut? " WHERE ".toList
      (first ++ (spaced others ++ (" WHERE ".toList ++ conditions))) =
      (cut? " WHERE ".toList (spaced others ++ (" WHERE ".toList ++ conditions))).map fun cut =>
        (first ++ cut.1, cut.2) := cut?_append (spaceless first List.mem_cons_self) _
  rw [joined, List.append_assoc, passed, behind]
  rfl

/-- An assignment without its sign and its placeholder is its column. -/
theorem dropTails_assignments (plain : ∀ column ∈ columns, IsPlain column) :
    ((assignments columns).map (dropTails "=?".toList)).map String.ofList = columns := by
  rw [assignments, List.map_map, List.map_map]
  refine (List.map_congr_left fun column inside => ?_).trans (List.map_id columns)
  have apart : ¬"=?".toList <:+ column.toList := by
    rintro ⟨before, same⟩
    have unmarked : '?' ∉ column.toList := (plain column inside).not_mem (by decide)
    rw [← same] at unmarked
    simp at unmarked
  simp only [Function.comp_apply, dropTails_append (by decide) apart, String.ofList_toList, id]

/-- The columns of an update are the pieces of what stands before its conditions. -/
theorem readUpdate?_of_cut (named : IsPlain table) {text conditions : List Char}
    (cut : cut? " WHERE ".toList (text ++ (" WHERE ".toList ++ conditions)) =
      some (text, conditions)) :
    readUpdate? ("UPDATE ".toList ++ (table.toList ++ (" SET ".toList ++
        (text ++ (" WHERE ".toList ++ conditions))))) =
      some (table, ((splitAt ", ".toList text).map (dropTails "=?".toList)).map String.ofList,
        conditions) := by
  have space : ' ' ∉ table.toList := named.not_mem (by decide)
  have cutTable (rest : List Char) :
      cut? " SET ".toList (table.toList ++ (" SET ".toList ++ rest)) =
      some (table.toList, rest) := by
    rw [← List.append_assoc]
    exact cut?_between space rest
  simp only [readUpdate?, dropLead?_append, cutTable, cut, Option.bind_eq_bind, Option.bind_some,
    String.ofList_toList]
  rfl

/-- An update is read back as its table, its columns and its conditions. -/
theorem readUpdate?_eq (named : IsPlain table) (several : columns ≠ [])
    (plain : ∀ column ∈ columns, IsPlain column) (conditions : List Char) :
    readUpdate? ("UPDATE ".toList ++ (table.toList ++ (" SET ".toList ++
        ((String.intercalate ", " (columns.map fun column => column ++ "=?")).toList ++
          (" WHERE ".toList ++ conditions))))) = some (table, columns, conditions) := by
  have split : splitAt ", ".toList (", ".toList.intercalate (assignments columns)) =
      assignments columns :=
    splitAt_intercalate (assignments_ne_nil several) (not_mem_assignments plain ',' (by simp))
  rw [toList_assignments, readUpdate?_of_cut named (cut?_assignments several plain conditions),
    split, dropTails_assignments plain]

/-- A deletion is read back as its table and its conditions. -/
theorem readDeletion?_eq (named : IsPlain table) (conditions : List Char) :
    readDeletion? ("DELETE FROM ".toList ++ (table.toList ++ (" WHERE ".toList ++ conditions))) =
      some (table, conditions) := by
  have space : ' ' ∉ table.toList := named.not_mem (by decide)
  have cut : cut? " WHERE ".toList (table.toList ++ (" WHERE ".toList ++ conditions)) =
      some (table.toList, conditions) := by
    rw [← List.append_assoc]
    exact cut?_between space _
  simp only [readDeletion?, dropLead?_append, cut, Option.bind_eq_bind, Option.bind_some,
    Option.getD_some, String.ofList_toList]
  rfl

/-- Rows of one width are the pieces of that length of all their values. -/
theorem pieces_flatten {α : Type} {width : Nat} (positive : 0 < width) {rows : List (List α)}
    (wide : ∀ row ∈ rows, row.length = width) : pieces width rows.flatten = rows := by
  induction rows with
  | nil => simp [pieces]
  | cons row rows step =>
    have others := step fun other member => wide other (List.mem_cons_of_mem _ member)
    have long := wide row List.mem_cons_self
    cases row with
    | nil => simp at long; omega
    | cons item items =>
      have count : width - 1 = items.length := by simp at long; omega
      rw [List.flatten_cons, List.cons_append, pieces, count, List.take_left, List.drop_left,
        others]

end Memory

end TableApi
