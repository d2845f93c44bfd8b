import TableApi.Named

/-!
# Values in the order of their names

What is found under a name is what was put there last.  A list that was built by putting one value
after the other is `Ordered`: its names are in strict order, so each of them stands once.
-/

namespace TableApi.Named

variable {α : Type} {entries : Named α} {name other : String} {value : α}

/-- The names are in strict order. -/
def Ordered (entries : Named α) : Prop :=
  entries.names.Pairwise (· < ·)

@[simp]
theorem names_nil : names ([] : Named α) = [] := rfl

@[simp]
theorem names_cons (entry : String × α) (entries : Named α) :
    names (entry :: entries) = entry.1 :: names entries := rfl

theorem get?_cons (entry : String × α) (entries : Named α) (name : String) :
    get? (entry :: entries) name = if entry.1 = name then some entry.2 else get? entries name := by
  obtain ⟨first, held⟩ := entry
  simp only [get?, List.lookup_cons]
  by_cases same : first = name
  · simp [same]
  · have unlike : (name == first) = false := by simpa using Ne.symm same
    simp [same, unlike]

theorem get?_eq_none_iff : get? entries name = none ↔ name ∉ names entries := by
  induction entries with
  | nil => simp [get?]
  | cons entry entries step =>
    rw [get?_cons, names_cons, List.mem_cons]
    by_cases same : entry.1 = name
    · simp [same]
    · simp [same, Ne.symm same, step]

/-- A name is listed exactly if there is a value under it. -/
theorem mem_names_iff : name ∈ names entries ↔ ∃ value, get? entries name = some value := by
  constructor
  · intro listed
    cases found : get? entries name with
    | none => exact absurd listed (get?_eq_none_iff.1 found)
    | some value => exact ⟨value, rfl⟩
  · rintro ⟨value, found⟩
    apply Decidable.byContradiction
    intro absent
    rw [get?_eq_none_iff.2 absent] at found
    cases found

/-! ## Putting -/

theorem get?_put (entries : Named α) (name other : String) (value : α) :
    get? (put entries name value) other =
      if other = name then some value else get? entries other := by
  by_cases same : other = name
  · rw [if_pos same, same, get?_put_self]
  · rw [if_neg same, get?_put_of_ne entries value same]

theorem mem_names_put :
    other ∈ names (put entries name value) ↔ other = name ∨ other ∈ names entries := by
  rw [mem_names_iff, mem_names_iff, get?_put]
  by_cases same : other = name
  · simp [same]
  · simp [same]

/-- Putting a value keeps the names in order. -/
theorem Ordered.put (ordered : Ordered entries) (name : String) (value : α) :
    Ordered (put entries name value) := by
  induction entries with
  | nil => simp [Ordered, Named.put]
  | cons entry entries step =>
    rcases List.pairwise_cons.1 ordered with ⟨first, rest⟩
    by_cases same : entry.1 = name
    · have equal : names (Named.put (entry :: entries) name value) = names (entry :: entries) := by
        simp [Named.put, same]
      rw [Ordered, equal]
      exact ordered
    · by_cases before : name < entry.1
      · have placed : Named.put (entry :: entries) name value =
            (name, value) :: entry :: entries := by
          simp [Named.put, same, before]
        rw [Ordered, placed, names_cons, List.pairwise_cons]
        refine ⟨fun other member => ?_, ordered⟩
        rcases List.mem_cons.1 member with rfl | later
        · exact before
        · exact String.lt_trans before (first other later)
      · have placed : Named.put (entry :: entries) name value =
            entry :: Named.put entries name value := by
          simp [Named.put, same, before]
        have behind : entry.1 < name :=
          Std.lt_of_le_of_ne (String.not_lt.1 before) same
        rw [Ordered, placed, names_cons, List.pairwise_cons]
        refine ⟨fun other member => ?_, step rest⟩
        rcases mem_names_put.1 member with rfl | later
        · exact behind
        · exact first other later

/-! ## Putting one value after the other -/

/-- Where no name is given twice, each value is found under its name. -/
theorem get?_ofList {given : List (String × α)} (distinct : (given.map Prod.fst).Nodup)
    (name : String) : get? (ofList given) name = get? given name := by
  have found : ∀ start : Named α,
      get? (given.foldl (fun result entry => put result entry.1 entry.2) start) name =
        (get? given name).or (get? start name) := by
    induction given with
    | nil => exact fun start => rfl
    | cons entry given step =>
      intro start
      rw [List.map_cons, List.nodup_cons] at distinct
      rw [List.foldl_cons, step distinct.2, get?_put, get?_cons]
      by_cases same : entry.1 = name
      · have later : get? given name = none := get?_eq_none_iff.2 (same ▸ distinct.1)
        simp [same, later]
      · simp [same, Ne.symm same]
  rw [ofList, found []]
  exact Option.or_none

end TableApi.Named
