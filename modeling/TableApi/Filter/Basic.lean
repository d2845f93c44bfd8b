import TableApi.Json.Printer
import TableApi.Text.Blank
import TableApi.Text.Integer
import TableApi.Text.Scan

/-!
# Filter sets

A filter set says which rows of a table a request is about: conditions on columns, an order
clause and a window given by a limit and an offset.  Filter sets form a monoid under `++`: the
conditions of the left one come first, and a directive of the right one wins.  The two filter
grammars read a request part by part and append what the parts contribute.

A key of either grammar is a directive when its first word is the name of one; otherwise it
names a column, possibly after the mark of an alternative.
-/

namespace TableApi

/-- How a column is compared with a value. -/
inductive Comparison where
  | equal
  | notEqual
  | less
  | greater
  | atMost
  | atLeast
deriving DecidableEq, Repr

namespace Comparison

/-- The sign of a comparison, in a statement and in the body of a request. -/
def symbol : Comparison → String
  | equal => "="
  | notEqual => "!="
  | less => "<"
  | greater => ">"
  | atMost => "<="
  | atLeast => ">="

def all : List Comparison :=
  [equal, notEqual, less, greater, atMost, atLeast]

def ofSymbol? (symbol : String) : Option Comparison :=
  all.find? fun comparison => comparison.symbol = symbol

/-- Whether two values in this order satisfy the comparison. -/
def holds : Comparison → Ordering → Bool
  | equal, ordering => ordering == .eq
  | notEqual, ordering => ordering != .eq
  | less, ordering => ordering == .lt
  | greater, ordering => ordering == .gt
  | atMost, ordering => ordering != .gt
  | atLeast, ordering => ordering != .lt

@[simp]
theorem ofSymbol?_symbol (comparison : Comparison) :
    ofSymbol? comparison.symbol = some comparison := by
  cases comparison <;> decide

end Comparison

/-- How a condition joins the ones before it. -/
inductive Conjunction where
  | and
  | or
deriving DecidableEq, Repr

namespace Conjunction

/-- The word for a conjunction in a statement. -/
def word : Conjunction → String
  | and => "AND"
  | or => "OR"

/-- The truth of a term joined to what came before it. -/
def join : Conjunction → Bool → Bool → Bool
  | and, before, term => before && term
  | or, before, term => before || term

end Conjunction

/-- A comparison of one column with one text. -/
structure Condition where
  column : String
  comparison : Comparison
  value : String
  conjunction : Conjunction
deriving DecidableEq, Repr

namespace Condition

/-- The condition as an alternative to the ones before it. -/
def alternative (condition : Condition) : Condition :=
  { condition with conjunction := .or }

end Condition

/-- What a request says about the rows that it means. -/
structure FilterSet where
  conditions : List Condition
  orderBy : Option String
  limit : Option Nat
  offset : Option Nat
deriving DecidableEq, Repr

namespace FilterSet

def empty : FilterSet :=
  ⟨[], none, none, none⟩

def ofCondition (condition : Condition) : FilterSet :=
  { empty with conditions := [condition] }

def isEmpty (filters : FilterSet) : Bool :=
  filters.conditions.isEmpty && filters.orderBy.isNone && filters.limit.isNone &&
    filters.offset.isNone

/-- The conditions of both, and for each directive the later value. -/
def append (first second : FilterSet) : FilterSet where
  conditions := first.conditions ++ second.conditions
  orderBy := second.orderBy.or first.orderBy
  limit := second.limit.or first.limit
  offset := second.offset.or first.offset

instance : Append FilterSet where
  append := append

/-- All filter sets of a list appended. -/
def concat (parts : List FilterSet) : FilterSet :=
  parts.foldr (· ++ ·) empty

/-- The columns that the conditions name, in order. -/
def columns (filters : FilterSet) : List String :=
  filters.conditions.map Condition.column

@[simp]
theorem conditions_append (first second : FilterSet) :
    (first ++ second).conditions = first.conditions ++ second.conditions := rfl

@[simp]
theorem orderBy_append (first second : FilterSet) :
    (first ++ second).orderBy = second.orderBy.or first.orderBy := rfl

@[simp]
theorem limit_append (first second : FilterSet) :
    (first ++ second).limit = second.limit.or first.limit := rfl

@[simp]
theorem offset_append (first second : FilterSet) :
    (first ++ second).offset = second.offset.or first.offset := rfl

@[ext]
theorem ext_parts {first second : FilterSet} (conditions : first.conditions = second.conditions)
    (orderBy : first.orderBy = second.orderBy) (limit : first.limit = second.limit)
    (offset : first.offset = second.offset) : first = second := by
  cases first
  cases second
  simp_all

@[simp]
theorem empty_append (filters : FilterSet) : empty ++ filters = filters := by
  ext1 <;> simp [empty]

@[simp]
theorem append_empty (filters : FilterSet) : filters ++ empty = filters := by
  ext1 <;> simp [empty]

theorem append_assoc (first second third : FilterSet) :
    first ++ second ++ third = first ++ (second ++ third) := by
  ext1 <;> simp [List.append_assoc, Option.or_assoc]

theorem concat_append (first second : List FilterSet) :
    concat (first ++ second) = concat first ++ concat second := by
  induction first with
  | nil => simp [concat]
  | cons part parts step =>
    simp only [concat, List.cons_append, List.foldr_cons] at step ⊢
    rw [step, append_assoc]

end FilterSet

/-- What a key asks for when it names no column. -/
inductive Directive where
  | orderBy
  | limit
  | offset
deriving DecidableEq, Repr

namespace Directive

/-- Whether two words agree up to the case of their ASCII letters. -/
def sameWord (left right : List Char) : Bool :=
  left.map Char.toLower == right.map Char.toLower

/-- The directive whose name is the first word of a key.  The order directive has two names; the
names of the other two may be written in any case. -/
def ofKey? (key : List Char) : Option Directive :=
  match Text.words key with
  | [] => none
  | word :: _ =>
      if word = "orderBy".toList ∨ word = "order_by".toList then some orderBy
      else if sameWord word "limit".toList then some limit
      else if sameWord word "offset".toList then some offset
      else none

/-- What a directive with this value contributes.  An order clause that is blank and a window
bound that is no 64-bit word contribute nothing. -/
def filters (directive : Directive) (value : List Char) : FilterSet :=
  let value := Text.trim value
  match directive with
  | orderBy =>
      if value.isEmpty then .empty else { FilterSet.empty with orderBy := some (.ofList value) }
  | limit => { FilterSet.empty with limit := Text.word? value }
  | offset => { FilterSet.empty with offset := Text.word? value }

end Directive

namespace Conjunction

/-- The marks of an alternative at the start of a key. -/
def marks : List (List Char) :=
  ["OR ".toList, "or ".toList]

/-- The conjunction that a key starts with, and the rest of the key without blanks around it. -/
def ofKey (key : List Char) : Conjunction × List Char :=
  let key := Text.trimStart key
  match marks.findSome? fun mark => Text.dropLead? mark key with
  | some rest => (or, Text.trim rest)
  | none => (and, Text.trim key)

end Conjunction

end TableApi
