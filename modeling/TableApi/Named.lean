/-!
# Values under names

A `Named` list holds values under distinct names, in the order of the names.  Putting a value under
a name that is taken replaces the value that was there.
-/

namespace TableApi

/-- Values under their names, in the order of the names. -/
abbrev Named (α : Type) := List (String × α)

namespace Named

variable {α : Type}

def get? (entries : Named α) (name : String) : Option α :=
  List.lookup name entries

def names (entries : Named α) : List String :=
  entries.map Prod.fst

def put (entries : Named α) (name : String) (value : α) : Named α :=
  match entries with
  | [] => [(name, value)]
  | entry :: rest =>
      if entry.1 = name then (name, value) :: rest
      else if name < entry.1 then (name, value) :: entry :: rest
      else entry :: put rest name value

/-- Puts every value of a list under its name, the first one first. -/
def ofList (entries : List (String × α)) : Named α :=
  entries.foldl (fun result entry => put result entry.1 entry.2) []

@[simp]
theorem get?_put_self (entries : Named α) (name : String) (value : α) :
    get? (put entries name value) name = some value := by
  induction entries with
  | nil => simp [put, get?]
  | cons entry rest step =>
    obtain ⟨first, held⟩ := entry
    simp only [put]
    split
    · simp [get?]
    · split
      · simp [get?]
      · rename_i other _
        have differs : (name == first) = false := by simpa using fun same => other same.symm
        simpa [get?, List.lookup_cons, differs] using step

theorem get?_put_of_ne (entries : Named α) {name other : String} (value : α)
    (differ : other ≠ name) : get? (put entries name value) other = get? entries other := by
  induction entries with
  | nil =>
    have unlike : (other == name) = false := by simpa using differ
    simp [put, get?, List.lookup_cons, unlike]
  | cons entry rest step =>
    obtain ⟨first, held⟩ := entry
    have unlike : (other == name) = false := by simpa using differ
    simp only [put]
    split
    · rename_i same
      have absent : (other == first) = false := by rw [same]; exact unlike
      simp [get?, List.lookup_cons, unlike, absent]
    · split
      · simp [get?, List.lookup_cons, unlike]
      · simp only [get?, List.lookup_cons]
        split
        · rfl
        · exact step

/-- Of two values that are put under one name the later one stays. -/
theorem put_put (entries : Named α) (name : String) (value later : α) :
    put (put entries name value) name later = put entries name later := by
  induction entries with
  | nil => simp [put]
  | cons entry rest step =>
    by_cases same : entry.1 = name
    · simp [put, same]
    · by_cases before : name < entry.1
      · simp [put, same, before]
      · simp [put, same, before, step]

end Named

end TableApi
