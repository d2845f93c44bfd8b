import Mathlib.Data.List.Nodup
import TableApi.Json.Basic
import TableApi.Proofs.Named

/-!
# The fields of an object

A field that is set holds its value, and the other fields hold theirs.  Fields that are set together
win over those that were there; where the two have no key in common they come behind them.  A key
that is taken out leaves the other fields, of which one may have moved.
-/

namespace TableApi.Fields

variable {fields entries : Fields} {key : String}

/-! ## Looking up -/

@[simp]
theorem keys_nil : keys [] = [] := rfl

@[simp]
theorem keys_cons (entry : String × Json) (fields : Fields) :
    keys (entry :: fields) = entry.1 :: keys fields := rfl

@[simp]
theorem keys_append (first second : Fields) : keys (first ++ second) = keys first ++ keys second :=
  List.map_append

@[simp]
theorem get?_nil (key : String) : get? [] key = none := rfl

theorem get?_cons (entry : String × Json) (fields : Fields) (key : String) :
    get? (entry :: fields) key = if entry.1 = key then some entry.2 else get? fields key :=
  Named.get?_cons entry fields key

theorem get?_eq_none_iff : get? fields key = none ↔ key ∉ fields.keys :=
  Named.get?_eq_none_iff

theorem has_eq_true_iff : has fields key = true ↔ key ∈ fields.keys := by
  simp [has, keys]

theorem mem_of_get? {value : Json} (found : get? fields key = some value) :
    (key, value) ∈ fields := by
  induction fields with
  | nil => simp at found
  | cons entry fields step =>
    rw [get?_cons] at found
    split at found
    · rename_i same
      cases found
      rw [← same]
      exact List.mem_cons_self
    · exact List.mem_cons_of_mem _ (step found)

/-- A field is found under its key when no key stands twice. -/
theorem get?_of_mem {entry : String × Json} (distinct : fields.keys.Nodup)
    (member : entry ∈ fields) : get? fields entry.1 = some entry.2 := by
  induction fields with
  | nil => simp at member
  | cons first fields step =>
    rw [keys_cons, List.nodup_cons] at distinct
    rw [get?_cons]
    rcases List.mem_cons.1 member with rfl | later
    · simp
    · have other : first.1 ≠ entry.1 := by
        intro same
        exact distinct.1 (by rw [same]; exact List.mem_map_of_mem later)
      simp [other, step distinct.2 later]

/-! ## Setting -/

theorem get?_set (fields : Fields) (key other : String) (value : Json) :
    get? (set fields key value) other = if key = other then some value else get? fields other := by
  induction fields with
  | nil => simp [set, get?_cons]
  | cons entry fields step =>
    simp only [set]
    by_cases here : entry.1 = key
    · rw [if_pos here, get?_cons, get?_cons, here]
      split <;> rfl
    · rw [if_neg here, get?_cons, get?_cons, step]
      by_cases first : entry.1 = other
      · have later : key ≠ other := fun same => here (first.trans same.symm)
        simp [first, later]
      · simp [first]

theorem mem_keys_set {other : String} {value : Json} :
    other ∈ (set fields key value).keys ↔ other = key ∨ other ∈ fields.keys := by
  have found := get?_set fields key other value
  have absent : get? (set fields key value) other = none ↔
      key ≠ other ∧ get? fields other = none := by
    rw [found]
    split <;> simp_all
  rw [get?_eq_none_iff, get?_eq_none_iff] at absent
  have present := not_congr absent
  simp only [not_not, not_and_or, ne_eq] at present
  rw [present, eq_comm]

/-- A new key is set behind the others. -/
theorem set_of_not_mem (absent : key ∉ fields.keys) (value : Json) :
    set fields key value = fields ++ [(key, value)] := by
  induction fields with
  | nil => rfl
  | cons entry fields step =>
    simp only [keys_cons, List.mem_cons, not_or] at absent
    simp [set, Ne.symm absent.1, step absent.2]

@[simp]
theorem setAll_nil (fields : Fields) : setAll fields [] = fields := rfl

theorem setAll_cons (fields : Fields) (entry : String × Json) (entries : Fields) :
    setAll fields (entry :: entries) = setAll (set fields entry.1 entry.2) entries := rfl

/-- What is set wins, and everything else stays. -/
theorem get?_setAll (distinct : entries.keys.Nodup) (fields : Fields) (key : String) :
    get? (setAll fields entries) key = (get? entries key).or (get? fields key) := by
  induction entries generalizing fields with
  | nil => simp
  | cons entry entries step =>
    rw [keys_cons, List.nodup_cons] at distinct
    rw [setAll_cons, step distinct.2, get?_set, get?_cons]
    by_cases same : entry.1 = key
    · have later : get? entries key = none := get?_eq_none_iff.2 (by rw [← same]; exact distinct.1)
      simp [same, later]
    · simp [same]

theorem mem_keys_setAll {other : String} :
    other ∈ (setAll fields entries).keys ↔ other ∈ entries.keys ∨ other ∈ fields.keys := by
  induction entries generalizing fields with
  | nil => simp
  | cons entry entries step =>
    rw [setAll_cons, step, mem_keys_set, keys_cons, List.mem_cons]
    tauto

/-- A value stays under a key that is not set. -/
theorem get?_setAll_of_not_mem (distinct : entries.keys.Nodup) (unset : key ∉ entries.keys)
    (fields : Fields) : get? (setAll fields entries) key = get? fields key := by
  rw [get?_setAll distinct, get?_eq_none_iff.2 unset, Option.none_or]

theorem keys_prefix_set (fields : Fields) (key : String) (value : Json) :
    fields.keys <+: (set fields key value).keys := by
  induction fields with
  | nil => exact List.nil_prefix
  | cons entry fields step =>
    rw [set, keys_cons]
    split
    · rename_i here
      rw [here]
      exact List.prefix_refl (key :: keys fields)
    · rw [keys_cons]
      exact List.cons_prefix_cons.2 ⟨rfl, step⟩

/-- The fields that were there keep their places, and new ones come behind them. -/
theorem keys_prefix_setAll (fields entries : Fields) :
    fields.keys <+: (setAll fields entries).keys := by
  induction entries generalizing fields with
  | nil => exact List.prefix_refl _
  | cons entry entries step =>
    rw [setAll_cons]
    exact (keys_prefix_set fields entry.1 entry.2).trans (step _)

/-- Fields with new keys are set behind the others. -/
theorem setAll_eq_append (distinct : entries.keys.Nodup)
    (apart : ∀ key ∈ entries.keys, key ∉ fields.keys) :
    setAll fields entries = fields ++ entries := by
  induction entries generalizing fields with
  | nil => simp
  | cons entry entries step =>
    simp only [keys_cons, List.nodup_cons, List.mem_cons, forall_eq_or_imp] at distinct apart
    rw [setAll_cons, set_of_not_mem apart.1, step distinct.2]
    · simp
    · intro key member inside
      rw [keys_append, List.mem_append] at inside
      rcases inside with before | last
      · exact apart.2 key member before
      · have same : key = entry.1 := by simpa using last
        exact distinct.1 (same ▸ member)

/-! ## Taking out -/

/-- The first field with a key. -/
theorem eq_append_of_mem_keys (member : key ∈ fields.keys) :
    ∃ (before : Fields) (value : Json) (after : Fields),
      fields = before ++ (key, value) :: after ∧ key ∉ before.keys := by
  induction fields with
  | nil => simp at member
  | cons entry fields step =>
    by_cases here : entry.1 = key
    · exact ⟨[], entry.2, fields, by simp [← here], by simp⟩
    · have later : key ∈ keys fields := by simpa [Ne.symm here] using member
      rcases step later with ⟨before, value, after, rfl, absent⟩
      exact ⟨entry :: before, value, after, rfl,
        by rw [keys_cons]; simp [Ne.symm here, absent]⟩

theorem findIdx?_of_not_mem {before : Fields} (absent : key ∉ before.keys) :
    before.findIdx? (fun entry => entry.1 == key) = none := by
  rw [List.findIdx?_eq_none_iff]
  intro entry inside
  have other : entry.1 ≠ key := fun same => absent (same ▸ List.mem_map_of_mem inside)
  simpa using other

theorem remove_of_not_mem (absent : key ∉ fields.keys) : remove fields key = fields := by
  simp [remove, findIdx?_of_not_mem absent]

/-- The first field with a key goes, and the others stay, in some order. -/
theorem remove_perm {before after : Fields} (value : Json) (absent : key ∉ before.keys) :
    (remove (before ++ (key, value) :: after) key).Perm (before ++ after) := by
  have place : (before ++ (key, value) :: after).findIdx? (fun entry => entry.1 == key) =
      some before.length := by
    simp [List.findIdx?_append, findIdx?_of_not_mem absent, List.findIdx?_cons]
  rcases List.eq_nil_or_concat after with rfl | ⟨middle, last, rfl⟩
  · simp [remove, place]
  · -- The last field moves into the place of the one that goes.
    rw [List.concat_eq_append] at place ⊢
    have ends : (before ++ (key, value) :: (middle ++ [last])).getLast? = some last := by
      rw [← List.cons_append, ← List.append_assoc, List.getLast?_append]
      simp
    have shorter : (before ++ (key, value) :: (middle ++ [last])).dropLast =
        before ++ (key, value) :: middle := by
      rw [← List.cons_append, ← List.append_assoc, List.dropLast_concat]
    have inside : before.length + 1 ≠ (before ++ (key, value) :: (middle ++ [last])).length := by
      simp
    have moved : remove (before ++ (key, value) :: (middle ++ [last])) key =
        before ++ last :: middle := by
      simp only [remove, place, ends, inside, if_false, shorter]
      simp
    rw [moved]
    exact List.Perm.append_left before (List.perm_append_singleton last middle).symm

theorem filter_of_not_mem (absent : key ∉ fields.keys) :
    fields.filter (fun entry => entry.1 ≠ key) = fields := by
  rw [List.filter_eq_self]
  intro entry inside
  have other : entry.1 ≠ key := fun same => absent (same ▸ List.mem_map_of_mem inside)
  simpa using other

/-- Where a key stands once, taking it out leaves the fields under the other keys, in some order. -/
theorem remove_perm_filter (distinct : fields.keys.Nodup) (key : String) :
    (remove fields key).Perm (fields.filter fun entry => entry.1 ≠ key) := by
  by_cases held : key ∈ fields.keys
  · rcases eq_append_of_mem_keys held with ⟨before, value, after, rfl, absent⟩
    rw [keys_append, keys_cons, List.nodup_middle, List.nodup_cons, ← keys_append] at distinct
    rw [List.filter_append, List.filter_cons_of_neg (by simp), ← List.filter_append,
      filter_of_not_mem distinct.1]
    exact remove_perm value absent
  · rw [remove_of_not_mem held, filter_of_not_mem held]

theorem keys_remove_perm (distinct : fields.keys.Nodup) (key : String) :
    (remove fields key).keys.Perm (fields.keys.filter fun other => other ≠ key) := by
  rw [keys, keys, List.filter_map]
  exact (remove_perm_filter distinct key).map Prod.fst

/-- A key that stands once is gone when it was taken out, and every other key still stands once. -/
theorem nodup_keys_remove (distinct : fields.keys.Nodup) (key : String) :
    key ∉ (remove fields key).keys ∧ (remove fields key).keys.Nodup := by
  have left := keys_remove_perm distinct key
  constructor
  · rw [left.mem_iff]
    simp
  · exact left.nodup_iff.2 (distinct.filter _)

/-- Taking out a key leaves the values under the others. -/
theorem get?_remove (distinct : fields.keys.Nodup) (key other : String) :
    get? (remove fields key) other = if other = key then none else get? fields other := by
  have left := remove_perm_filter distinct key
  by_cases same : other = key
  · rw [if_pos same, same, get?_eq_none_iff]
    exact (nodup_keys_remove distinct key).1
  rw [if_neg same]
  cases found : get? fields other with
  | none =>
    rw [get?_eq_none_iff] at found ⊢
    rw [(keys_remove_perm distinct key).mem_iff]
    exact fun member => found (List.mem_of_mem_filter member)
  | some value =>
    have inside : (other, value) ∈ remove fields key := by
      rw [left.mem_iff, List.mem_filter]
      exact ⟨mem_of_get? found, by simpa using same⟩
    exact get?_of_mem (nodup_keys_remove distinct key).2 inside

end TableApi.Fields
