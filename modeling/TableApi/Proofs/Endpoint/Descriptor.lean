import TableApi.Proofs.Effect.Result
import TableApi.Proofs.Endpoint.Policy
import TableApi.Proofs.Json.Tidy

/-!
# The authorization of a descriptor

A descriptor is read field by field, and only the field of the authorization has a say in who may
call.  `supplied` is the value that an entry gives for it, under its key or in the third place;
`silenced` puts null in its place, so that an entry with a readable rest is one that can be read
when it is silenced.  What the authorization becomes then depends on the supplied value alone:
nothing and null make none, the text `*` makes the wildcard, what is `Policy.Shaped` makes a policy,
and what is `Unreadable` makes no descriptor at all.
-/

namespace TableApi.Descriptor

/-- The value that an entry supplies for its authorization. -/
def supplied : Json → Option Json
  | .object fields => Fields.get? fields "authorization"
  | .array items => items[2]?
  | _ => none

/-- The fields with null for the authorization. -/
def silence (fields : Fields) : Fields :=
  fields.map fun entry => if entry.1 = "authorization" then (entry.1, .null) else entry

/-- An entry with null in the place of its authorization. -/
def silenced : Json → Json
  | .object fields => .object (silence fields)
  | .array items => .array (items.set 2 .null)
  | other => other

/-- Everything in an entry but its authorization can be read. -/
def OthersFit (entry : Json) : Prop :=
  ∃ descriptor, ofJson (silenced entry) = .ok descriptor

/-! ## One field after the other -/

/-- A field of another name reads the same whatever the authorization is, and leaves it alone. -/
theorem Draft.read_other {draft next : Draft} {name : String} {value : Json}
    (other : name ≠ "authorization") (read : draft.read name value = .ok next) :
    next.authorization = draft.authorization ∧
      ∀ own, { draft with authorization := own }.read name value =
        .ok { next with authorization := own } := by
  unfold Draft.read at read
  split at read
  case h_3 => exact absurd rfl other
  case h_7 =>
    cases read
    refine ⟨rfl, fun own => ?_⟩
    simp only [Draft.read]
  -- The five other fields differ only in the decoder that they are read with.
  all_goals
    rcases Result.ok_of_bind_ok read with ⟨field, decoded, returned⟩
    cases returned
    refine ⟨rfl, fun own => ?_⟩
    simp only [Draft.read, decoded]
    rfl

theorem Draft.read_authorization (draft : Draft) {value : Json} {found : Option Authorization}
    (decoded : authorizationOf value = .ok found) :
    draft.read "authorization" value = .ok { draft with authorization := found } := by
  simp only [Draft.read, decoded]
  rfl

/-- The authorization that all fields give is that of the supplied value, or the one before. -/
theorem Draft.authorization_of_readAll {draft final : Draft} {fields : Fields}
    (distinct : fields.keys.Nodup) (read : draft.readAll fields = .ok final) :
    (∀ value, fields.get? "authorization" = some value →
      authorizationOf value = .ok final.authorization) ∧
    (fields.get? "authorization" = none → final.authorization = draft.authorization) := by
  induction fields generalizing draft with
  | nil =>
    cases read
    simp
  | cons entry fields step =>
    obtain ⟨name, value⟩ := entry
    rw [Fields.keys_cons, List.nodup_cons] at distinct
    rcases Result.ok_of_bind_ok read with ⟨next, first, rest⟩
    rcases step distinct.2 rest with ⟨given, absent⟩
    by_cases here : name = "authorization"
    · subst here
      rcases Result.ok_of_bind_ok first with ⟨found, decoded, returned⟩
      cases returned
      have last := absent (Fields.get?_eq_none_iff.2 distinct.1)
      simp [Fields.get?_cons, decoded, last]
    · rcases Draft.read_other here first with ⟨same, _⟩
      rw [same] at absent
      simpa [Fields.get?_cons, here] using ⟨given, absent⟩

/-- Fields that can be read when they are silenced can be read, if the authorization can. -/
theorem Draft.readAll_of_silence {draft final : Draft} {fields : Fields}
    (fits : ∀ entry ∈ fields, entry.1 = "authorization" →
      ∃ found, authorizationOf entry.2 = .ok found)
    (read : draft.readAll (silence fields) = .ok final) (own : Option Authorization) :
    ∃ found, { draft with authorization := own }.readAll fields =
      .ok { final with authorization := found } := by
  induction fields generalizing draft own with
  | nil =>
    cases read
    exact ⟨own, rfl⟩
  | cons entry fields step =>
    obtain ⟨name, value⟩ := entry
    have later : ∀ entry ∈ fields, entry.1 = "authorization" →
        ∃ found, authorizationOf entry.2 = .ok found :=
      fun entry member => fits entry (List.mem_cons_of_mem _ member)
    by_cases here : name = "authorization"
    · subst here
      rcases fits _ List.mem_cons_self rfl with ⟨found, decoded⟩
      have rest : { draft with authorization := none }.readAll (silence fields) = .ok final := read
      rcases step later rest found with ⟨last, whole⟩
      refine ⟨last, ?_⟩
      rw [Draft.readAll, Draft.read_authorization _ decoded]
      exact whole
    · have kept : silence ((name, value) :: fields) = (name, value) :: silence fields := by
        simp [silence, here]
      rw [kept] at read
      rcases Result.ok_of_bind_ok read with ⟨next, first, rest⟩
      rcases step later rest own with ⟨last, whole⟩
      refine ⟨last, ?_⟩
      rw [Draft.readAll, (Draft.read_other here first).2 own]
      exact whole

/-! ## Arrays -/

theorem keys_zip_isPrefixOf (names : List String) (items : List Json) :
    Fields.keys (names.zip items) <+: names := by
  induction names generalizing items with
  | nil => simp [Fields.keys]
  | cons name names step =>
    cases items with
    | nil => simp [Fields.keys]
    | cons item items => simpa [Fields.keys] using step items

theorem silence_of_not_mem {fields : Fields} (absent : "authorization" ∉ fields.keys) :
    silence fields = fields := by
  refine (List.map_congr_left fun entry member => ?_).trans (List.map_id fields)
  have other : entry.1 ≠ "authorization" := fun same => absent (same ▸ List.mem_map_of_mem member)
  simp [other]

/-- The authorization of an array is its third item. -/
theorem zip_fieldNames (items : List Json) :
    Fields.get? (fieldNames.zip items) "authorization" = items[2]? ∧
      silence (fieldNames.zip items) = fieldNames.zip (items.set 2 .null) := by
  rcases items with _ | ⟨first, _ | ⟨second, _ | ⟨third, rest⟩⟩⟩
  · exact ⟨rfl, rfl⟩
  · exact ⟨rfl, rfl⟩
  · exact ⟨rfl, rfl⟩
  · have absent : "authorization" ∉
        Fields.keys (["beforeHook", "afterHook", "enableParams"].zip rest) := by
      intro member
      have named := (keys_zip_isPrefixOf _ rest).subset member
      simp at named
    refine ⟨rfl, ?_⟩
    have others := silence_of_not_mem absent
    simp only [silence, fieldNames, List.zip_cons_cons, List.map_cons] at others ⊢
    rw [others]
    rfl

/-! ## Whole entries -/

theorem Draft.of_finish {draft : Draft} {descriptor : Descriptor}
    (finished : draft.finish = .ok descriptor) :
    descriptor.authorization = draft.authorization ∧
      ∀ own, { draft with authorization := own }.finish =
        .ok { descriptor with authorization := own } := by
  unfold Draft.finish at finished
  split at finished
  · cases finished
  · rename_i verb given
    cases finished
    exact ⟨rfl, fun own => by simp only [Draft.finish, given]⟩

/-- The authorization of a descriptor is what the supplied value reads as. -/
theorem authorization_of_ofJson {entry : Json} {descriptor : Descriptor} (tidy : entry.Tidy)
    (decoded : ofJson entry = .ok descriptor) :
    authorizationOf ((supplied entry).getD .null) = .ok descriptor.authorization := by
  have readOff : ∀ {fields : Fields} {draft : Draft}, fields.keys.Nodup →
      Draft.empty.readAll fields = .ok draft →
        authorizationOf ((fields.get? "authorization").getD .null) = .ok draft.authorization := by
    intro fields draft distinct read
    rcases Draft.authorization_of_readAll distinct read with ⟨given, absent⟩
    cases held : fields.get? "authorization" with
    | none =>
      rw [absent held]
      rfl
    | some value => exact given value held
  unfold ofJson at decoded
  split at decoded
  · rcases Result.ok_of_bind_ok decoded with ⟨draft, read, finished⟩
    rw [(Draft.of_finish finished).1]
    exact readOff tidy.nodup_keys read
  · cases decoded
  · rename_i items _
    rcases Result.ok_of_bind_ok decoded with ⟨draft, read, rest⟩
    split at rest
    · rw [(Draft.of_finish rest).1, supplied, ← (zip_fieldNames items).1]
      have distinct : (Fields.keys (fieldNames.zip items)).Nodup :=
        (keys_zip_isPrefixOf fieldNames items).sublist.nodup (by decide)
      exact readOff distinct read
    · cases rest
  · cases decoded

/-- An entry can be read when the supplied value and everything else can. -/
theorem ofJson_of_othersFit {entry : Json} {found : Option Authorization} (tidy : entry.Tidy)
    (fit : OthersFit entry)
    (decoded : authorizationOf ((supplied entry).getD .null) = .ok found) :
    ∃ descriptor, ofJson entry = .ok descriptor := by
  rcases fit with ⟨descriptor, read⟩
  have readable : ∀ {fields : Fields}, fields.keys.Nodup →
      fields.get? "authorization" = supplied entry → ∀ field ∈ fields, field.1 = "authorization" →
        ∃ found, authorizationOf field.2 = .ok found := by
    intro fields distinct same field member named
    have held := Fields.get?_of_mem distinct member
    rw [named, same] at held
    rw [held] at decoded
    exact ⟨found, decoded⟩
  cases entry with
  | object fields =>
    rcases Result.ok_of_bind_ok read with ⟨draft, drafted, finished⟩
    rcases Draft.readAll_of_silence (readable tidy.nodup_keys rfl) drafted none with ⟨last, whole⟩
    have drafts : Draft.empty.readAll fields = .ok { draft with authorization := last } := whole
    refine ⟨{ descriptor with authorization := last }, ?_⟩
    simp only [ofJson, drafts]
    exact (Draft.of_finish finished).2 last
  | array items =>
    rcases items with _ | ⟨first, others⟩
    · cases read
    rcases Result.ok_of_bind_ok read with ⟨draft, drafted, rest⟩
    have silent : Draft.empty.readAll (silence (fieldNames.zip (first :: others))) = .ok draft := by
      rw [(zip_fieldNames (first :: others)).2]
      exact drafted
    have distinct : (Fields.keys (fieldNames.zip (first :: others))).Nodup :=
      (keys_zip_isPrefixOf fieldNames _).sublist.nodup (by decide)
    rcases Draft.readAll_of_silence (readable distinct (zip_fieldNames _).1) silent none with
      ⟨last, whole⟩
    have drafts : Draft.empty.readAll (fieldNames.zip (first :: others)) =
        .ok { draft with authorization := last } := whole
    have length : ((first :: others).set 2 .null).length = (first :: others).length :=
      List.length_set
    rw [length] at rest
    split at rest
    · rename_i few
      refine ⟨{ descriptor with authorization := last }, ?_⟩
      simp only [ofJson, drafts]
      exact (if_pos few).trans ((Draft.of_finish rest).2 last)
    · cases rest
  | _ => cases read

/-! ## What a supplied value asks for -/

/-- The values that cannot be read as an authorization. -/
inductive Unreadable : Json → Prop
  | text {text : String} (other : Text.trimmed text ≠ "*") : Unreadable (.string text)
  | number (number : Number) : Unreadable (.number number)
  | bool (value : Bool) : Unreadable (.bool value)
  | object {fields : Fields} (misshapen : ¬Policy.Shaped (.object fields)) :
      Unreadable (.object fields)
  | array {items : List Json} (misshapen : ¬Policy.Shaped (.array items)) :
      Unreadable (.array items)

theorem authorizationOf_null : authorizationOf .null = .ok none := rfl

theorem authorizationOf_eq_wildcard {value : Json} :
    authorizationOf value = .ok (some .wildcard) ↔
      ∃ text, value = .string text ∧ Text.trimmed text = "*" := by
  constructor
  · intro decoded
    cases value with
    | null => cases decoded
    | string text =>
      by_cases star : Text.trimmed text = "*"
      · exact ⟨text, rfl, star⟩
      · simp [authorizationOf, Authorization.ofJson, Authorization.openText, star,
          Except.map] at decoded
    | _ =>
      simp only [authorizationOf, Authorization.ofJson] at decoded
      split at decoded <;> cases decoded
  · rintro ⟨text, rfl, star⟩
    simp [authorizationOf, Authorization.ofJson, Authorization.openText, star, Except.map]

/-- The endpoints that are open to everyone are those whose entry supplies the text `*`. -/
theorem authorization_eq_wildcard {entry : Json} {descriptor : Descriptor} (tidy : entry.Tidy)
    (decoded : ofJson entry = .ok descriptor) :
    descriptor.authorization = some .wildcard ↔
      ∃ text, supplied entry = some (.string text) ∧ Text.trimmed text = "*" := by
  have same := authorization_of_ofJson tidy decoded
  cases given : supplied entry with
  | none =>
    rw [given, Option.getD_none, authorizationOf_null] at same
    simp [← Except.ok.inj same]
  | some value =>
    rw [given, Option.getD_some] at same
    have opens := @authorizationOf_eq_wildcard value
    rw [same, Except.ok.injEq] at opens
    simpa using opens

/-- What is shaped as a policy reads as one. -/
theorem authorizationOf_of_shaped {value : Json} (shaped : Policy.Shaped value) :
    ∃ policy, authorizationOf value = .ok (some (.policy policy)) := by
  rcases Policy.ofJson?_eq_some.2 shaped with ⟨policy, decoded⟩
  refine ⟨policy, ?_⟩
  cases shaped with
  | object typed =>
    simp only [authorizationOf, Authorization.ofJson, decoded]
    rfl
  | array few typed =>
    simp only [authorizationOf, Authorization.ofJson, decoded]
    rfl

theorem authorizationOf_of_unreadable {value : Json} (unreadable : Unreadable value) :
    ∃ fault, authorizationOf value = .error fault := by
  have undecoded : ∀ {value : Json}, ¬Policy.Shaped value → Policy.ofJson? value = none := by
    intro value misshapen
    cases decoded : Policy.ofJson? value with
    | none => rfl
    | some policy => exact absurd (Policy.ofJson?_eq_some.1 ⟨policy, decoded⟩) misshapen
  cases unreadable with
  | @text text other =>
    refine ⟨.unsupportedAuthorization text, ?_⟩
    simp [authorizationOf, Authorization.ofJson, Authorization.openText, other, Except.map]
  | number number => exact ⟨_, rfl⟩
  | bool value => exact ⟨_, rfl⟩
  | object misshapen =>
    refine ⟨.unreadableAuthorization, ?_⟩
    simp only [authorizationOf, Authorization.ofJson, undecoded misshapen]
    rfl
  | array misshapen =>
    refine ⟨.unreadableAuthorization, ?_⟩
    simp only [authorizationOf, Authorization.ofJson, undecoded misshapen]
    rfl

end TableApi.Descriptor
