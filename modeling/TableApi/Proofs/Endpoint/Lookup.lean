import TableApi.Endpoint.Document
import TableApi.Proofs.Effect.Result
import TableApi.Proofs.Json.Tidy
import TableApi.Proofs.Named

/-!
# The descriptor of one endpoint and those of all

A document can be loaded as a whole, which fails at the first entry that is no descriptor, or be
asked for the descriptor of one endpoint, which looks at one entry only.  The two agree: what was
loaded holds the descriptor of every endpoint, up to the identifier that an endpoint lends to a
descriptor without one, and a document that is not there or no object fails both in the same way.
They part only where an entry is malformed, and there an endpoint fails for its own entry alone.
-/

namespace TableApi

/-- Whether there is a document that cannot be used. -/
def DocumentError.isInvalid : DocumentError → Bool
  | malformed _ _ | badEntry _ _ _ => true
  | notFound _ | unreadable _ _ => false

namespace Documents

variable {documents : Documents} {table name : String} {endpoint : Endpoint} {entries : Fields}
  {entry : Json} {descriptors : List (String × Descriptor)} {error : DocumentError}

/-! ## The entries of a document -/

theorem tidy_of_document (document : documents.document table = .ok entries) :
    Json.Tidy (.object entries) := by
  unfold Documents.document at document
  split at document
  · dsimp only at document
    split at document
    · cases document
    · cases document
    · exact Json.tidy_of_readObject (Result.mapError_eq_ok.1 document)
  · cases document

/-- The keys of a document stand once each. -/
theorem nodup_of_document (document : documents.document table = .ok entries) :
    entries.keys.Nodup := by
  cases tidy_of_document document with
  | object distinct each => exact distinct

/-- The entry of an endpoint is a value of its document. -/
theorem tidy_of_entryOf? (document : documents.document table = .ok entries)
    (found : entryOf? entries endpoint = some entry) : entry.Tidy := by
  have under : ∃ name, Fields.get? entries name = some entry := by
    unfold entryOf? at found
    split at found
    · rename_i own given
      cases found
      exact ⟨_, given⟩
    · split at found
      · exact ⟨_, found⟩
      · cases found
  rcases under with ⟨name, given⟩
  cases tidy_of_document document with
  | object distinct each => exact each _ (Fields.mem_of_get? given)

/-- A descriptor is read from the entry of its endpoint. -/
theorem descriptor_of_entryOf? (document : documents.document table = .ok entries)
    (found : entryOf? entries endpoint = some entry) :
    documents.descriptor table endpoint =
      (documents.readEntry table endpoint.name entry).map (complete endpoint) := by
  simp only [Documents.descriptor, document, bind, Except.bind, found]
  cases documents.readEntry table endpoint.name entry <;> rfl

theorem descriptor_of_no_entry (document : documents.document table = .ok entries)
    (absent : entryOf? entries endpoint = none) :
    documents.descriptor table endpoint = .error (.notFound (table ++ "/" ++ endpoint.name)) := by
  simp only [Documents.descriptor, document, bind, Except.bind, absent]

theorem descriptor_of_no_document (missing : documents.document table = .error error)
    (endpoint : Endpoint) : documents.descriptor table endpoint = .error error := by
  simp only [Documents.descriptor, missing, bind, Except.bind]

theorem load_of_no_document (missing : documents.document table = .error error) :
    documents.load table = .error error := by
  simp only [Documents.load, missing, bind, Except.bind]

theorem load_of_document (document : documents.document table = .ok entries) :
    documents.load table = (documents.readEntries table entries).map Named.ofList := by
  simp only [Documents.load, document, bind, Except.bind]
  cases documents.readEntries table entries <;> rfl

/-- The entries play no part in whether there is a document. -/
theorem document_ne_badEntry {path : String} {fault : DescriptorFault} :
    documents.document table ≠ .error (.badEntry path name fault) := by
  intro document
  unfold Documents.document at document
  split at document
  · dsimp only at document
    split at document
    · cases document
    · cases document
    · rename_i contents _
      cases read : Json.readObject contents <;> rw [read] at document <;> cases document
  · cases document

/-! ## All entries -/

/-- Of what was read from all entries, the descriptor under a name is that of the entry there. -/
theorem rel_of_readEntries (read : documents.readEntries table entries = .ok descriptors)
    (name : String) :
    Option.Rel (fun entry descriptor => Descriptor.ofJson entry = .ok descriptor)
      (Fields.get? entries name) (Named.get? descriptors name) := by
  induction entries generalizing descriptors with
  | nil =>
    cases read
    exact .none
  | cons entry entries step =>
    rcases Result.ok_of_bind_ok read with ⟨descriptor, first, rest⟩
    rcases Result.ok_of_bind_ok rest with ⟨others, later, returned⟩
    cases returned
    rw [Fields.get?_cons, Named.get?_cons]
    by_cases same : entry.1 = name
    · simpa [same] using Option.Rel.some (Result.mapError_eq_ok.1 first)
    · simpa [same] using step later

theorem names_of_readEntries (read : documents.readEntries table entries = .ok descriptors) :
    descriptors.map Prod.fst = entries.keys := by
  induction entries generalizing descriptors with
  | nil =>
    cases read
    rfl
  | cons entry entries step =>
    rcases Result.ok_of_bind_ok read with ⟨descriptor, first, rest⟩
    rcases Result.ok_of_bind_ok rest with ⟨others, later, returned⟩
    cases returned
    rw [List.map_cons, step later]
    rfl

/-- The first entry that is no descriptor has this name and this fault. -/
def FirstFault (entries : Fields) (name : String) (fault : DescriptorFault) : Prop :=
  ∃ (before : Fields) (entry : Json) (after : Fields), entries = before ++ (name, entry) :: after ∧
    (∀ field ∈ before, ∃ descriptor, Descriptor.ofJson field.2 = .ok descriptor) ∧
    Descriptor.ofJson entry = .error fault

theorem firstFault_of_readEntries (failed : documents.readEntries table entries = .error error) :
    ∃ name fault, FirstFault entries name fault ∧
      error = .badEntry (documents.documentPath table) name fault := by
  induction entries with
  | nil => cases failed
  | cons field entries step =>
    obtain ⟨name, entry⟩ := field
    cases decoded : Descriptor.ofJson entry with
    | error fault =>
      simp only [readEntries, readEntry, decoded] at failed
      cases failed
      exact ⟨name, fault, ⟨[], entry, entries, rfl, by simp, decoded⟩, rfl⟩
    | ok descriptor =>
      have later : documents.readEntries table entries = .error error := by
        cases rest : documents.readEntries table entries with
        | error other =>
          simp only [readEntries, readEntry, decoded, rest] at failed
          cases failed
          rfl
        | ok others =>
          simp only [readEntries, readEntry, decoded, rest] at failed
          cases failed
      rcases step later with ⟨other, fault, ⟨before, bad, after, rfl, good, undecoded⟩, told⟩
      refine ⟨other, fault, ⟨(name, entry) :: before, bad, after, rfl, ?_, undecoded⟩, told⟩
      intro field member
      rcases List.mem_cons.1 member with rfl | earlier
      · exact ⟨descriptor, decoded⟩
      · exact good field earlier

/-- Loading fails where there is no document, or at the first entry that is no descriptor. -/
theorem load_error_cases (load : documents.load table = .error error) :
    documents.document table = .error error ∨
      ∃ entries, documents.document table = .ok entries ∧ ∃ name fault,
        FirstFault entries name fault ∧
        error = .badEntry (documents.documentPath table) name fault := by
  cases document : documents.document table with
  | error missing =>
    rw [load_of_no_document document] at load
    cases load
    exact Or.inl rfl
  | ok entries =>
    rw [load_of_document document] at load
    cases read : documents.readEntries table entries with
    | ok descriptors =>
      rw [read] at load
      cases load
    | error cause =>
      rw [read] at load
      cases load
      exact Or.inr ⟨entries, rfl, firstFault_of_readEntries read⟩

/-! ## One endpoint -/

/-- The descriptor of an endpoint among loaded ones: the one under its name or, for the search
endpoint, the one under its other name. -/
def loaded? (descriptors : Named Descriptor) (endpoint : Endpoint) : Option Descriptor :=
  match descriptors.get? endpoint.name with
  | some descriptor => some descriptor
  | none => if endpoint = .search then descriptors.get? searchAlias else none

/-- What was loaded holds under each name the descriptor of the entry there. -/
theorem rel_of_load {loaded : Named Descriptor} (load : documents.load table = .ok loaded) :
    ∃ entries, documents.document table = .ok entries ∧
      ∀ endpoint, Option.Rel (fun entry descriptor => Descriptor.ofJson entry = .ok descriptor)
        (entryOf? entries endpoint) (loaded? loaded endpoint) := by
  rcases Result.ok_of_bind_ok load with ⟨entries, document, rest⟩
  rcases Result.ok_of_bind_ok rest with ⟨descriptors, read, returned⟩
  cases returned
  have distinct : (descriptors.map Prod.fst).Nodup := by
    rw [names_of_readEntries read]
    exact nodup_of_document document
  have under : ∀ name, Option.Rel
      (fun entry descriptor => Descriptor.ofJson entry = .ok descriptor)
      (Fields.get? entries name) ((Named.ofList descriptors).get? name) := by
    intro name
    rw [Named.get?_ofList distinct]
    exact rel_of_readEntries read name
  refine ⟨entries, document, fun endpoint => ?_⟩
  rw [entryOf?, loaded?]
  have own := under endpoint.name
  generalize Fields.get? entries endpoint.name = entry at own ⊢
  generalize Named.get? (Named.ofList descriptors) endpoint.name = descriptor at own ⊢
  cases own with
  | some decoded => exact .some decoded
  | none =>
    dsimp only
    split
    · exact under searchAlias
    · exact .none

/-- How the descriptor of one endpoint of a table goes with those of all its entries. -/
structure LookupAgrees (documents : Documents) (table : String) (endpoint : Endpoint) : Prop where
  loaded : ∀ descriptors, documents.load table = .ok descriptors →
    documents.descriptor table endpoint =
      match loaded? descriptors endpoint with
      | some descriptor => .ok (complete endpoint descriptor)
      | none => .error (.notFound (table ++ "/" ++ endpoint.name))
  /-- Every failure but that of an entry is shared. -/
  failed : ∀ error, documents.load table = .error error →
    (∀ path name fault, error ≠ .badEntry path name fault) →
      documents.descriptor table endpoint = .error error
  malformed : ∀ path name fault, documents.load table = .error (.badEntry path name fault) →
    ∃ entries, documents.document table = .ok entries ∧ FirstFault entries name fault ∧
      ((∃ error, documents.descriptor table endpoint = .error error ∧ error.isInvalid = true) ↔
        ∃ entry, entryOf? entries endpoint = some entry ∧
          ∃ fault, Descriptor.ofJson entry = .error fault)
  /-- A table whose name cannot be part of a path is not found, whatever files there are. -/
  unnamed : (table = "" ∨ ∃ character ∈ table.toList, isIdentifierChar character = false) →
    ∀ files, { documents with files }.load table = .error (.notFound table) ∧
      { documents with files }.descriptor table endpoint = .error (.notFound table)

/-- An endpoint cannot be used exactly if its own entry is malformed. -/
theorem invalid_iff (document : documents.document table = .ok entries) :
    (∃ error, documents.descriptor table endpoint = .error error ∧ error.isInvalid = true) ↔
      ∃ entry, entryOf? entries endpoint = some entry ∧
        ∃ fault, Descriptor.ofJson entry = .error fault := by
  cases found : entryOf? entries endpoint with
  | none => simp [descriptor_of_no_entry document found, DocumentError.isInvalid]
  | some entry =>
    cases decoded : Descriptor.ofJson entry with
    | error fault =>
      simp [descriptor_of_entryOf? document found, readEntry, decoded, Except.mapError, Except.map,
        DocumentError.isInvalid]
    | ok descriptor =>
      simp [descriptor_of_entryOf? document found, readEntry, decoded, Except.mapError, Except.map]

theorem document_of_unnamed
    (unnamed : table = "" ∨ ∃ character ∈ table.toList, isIdentifierChar character = false) :
    documents.document table = .error (.notFound table) := by
  have refused : isTableName table = false := by
    rcases unnamed with rfl | ⟨character, member, other⟩
    · rfl
    · have some : table.toList.all isIdentifierChar = false :=
        List.all_eq_false.2 ⟨character, member, by simp [other]⟩
      rw [isTableName, some, Bool.and_false]
  simp [Documents.document, refused]

/-- The descriptor of one endpoint follows from what loading the whole document gives. -/
theorem lookup_agrees (documents : Documents) (table : String) (endpoint : Endpoint) :
    documents.LookupAgrees table endpoint where
  loaded descriptors load := by
    rcases rel_of_load load with ⟨entries, document, found⟩
    have under := found endpoint
    cases held : loaded? descriptors endpoint with
    | none =>
      rw [held] at under
      cases looked : entryOf? entries endpoint with
      | none => exact descriptor_of_no_entry document looked
      | some entry => rw [looked] at under; cases under
    | some descriptor =>
      rw [held] at under
      cases looked : entryOf? entries endpoint with
      | none => rw [looked] at under; cases under
      | some entry =>
        rw [looked] at under
        cases under with
        | some decoded =>
          rw [descriptor_of_entryOf? document looked, readEntry, decoded]
          rfl
  failed error load other := by
    rcases load_error_cases load with document | ⟨_, _, name, fault, _, told⟩
    · exact descriptor_of_no_document document endpoint
    · exact absurd told (other _ name fault)
  malformed path name fault load := by
    rcases load_error_cases load with document | ⟨entries, document, _, _, first, told⟩
    · exact absurd document document_ne_badEntry
    · cases told
      exact ⟨entries, document, first, invalid_iff document⟩
  unnamed unnamed files :=
    ⟨load_of_no_document (document_of_unnamed unnamed),
      descriptor_of_no_document (document_of_unnamed unnamed) endpoint⟩

/-- The search endpoint takes the descriptor under its other name, and lends it its identifier. -/
theorem lookup_agrees_alias :
    let documents : Documents := ⟨"modules", Files.empty.write "modules/notes/assets/api.json"
      (some "\x7b\"Get By Post\":\x7b\"request_type\":\"POST\"\x7d\x7d".toUTF8.toList)⟩
    documents.load "notes" = .ok [(searchAlias, ⟨.post, none, none, none, none, false⟩)] ∧
      documents.descriptor "notes" .search =
        .ok ⟨.post, some "search", none, none, none, false⟩ := by
  intro documents
  have load : documents.load "notes" =
      .ok [(searchAlias, ⟨.post, none, none, none, none, false⟩)] :=
    Result.ok_of_toOption (by decide +kernel)
  exact ⟨load, (lookup_agrees documents "notes" .search).loaded _ load⟩

end Documents

end TableApi
