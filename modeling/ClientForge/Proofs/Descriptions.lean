import ClientForge.Proofs.Outcomes
import ClientForge.Schema.Reading

namespace ClientForge.Schema

open Outcome

def HasDoc (s : Schema) : Prop := ∃ doc, s.marks.description = .ofText? doc

def isObject : Schema → Bool
  | .object _ _ _ _ => true
  | _ => false

theorem description_of_checkMarks {record : RecordKind} {entries : Entries} {marks m : Marks}
    (h : checkMarks record entries marks = .ok m) : ∃ doc, m.description = .ofText? doc := by
  unfold checkMarks at h
  split at h <;> cases h
  exact ⟨_, rfl⟩

theorem readEnum_hasDoc {marks : Marks} {entries : Entries} {values : List Document} {s : Schema}
    (h : readEnum marks entries values = .ok s) : s.HasDoc := by
  obtain ⟨m, hm, h⟩ := bind_eq_ok.mp h
  cases h
  exact description_of_checkMarks hm

theorem readPrimitive_hasDoc {marks : Marks} {entries : Entries} {type : PrimitiveType} {s : Schema}
    (h : readPrimitive marks entries type = .ok s) : s.HasDoc := by
  unfold readPrimitive at h
  split at h <;> cases h
  exact ⟨_, rfl⟩

section Mapping

variable {read : Document → Except Failure Schema} {marks : Marks} {entries : Entries} {s : Schema}

theorem ofTyped_hasDoc {type : Option String} (h : ofTyped read marks entries type = .ok s) :
    s.isObject = true ∨ s.HasDoc := by
  unfold ofTyped at h
  split at h
  · obtain ⟨additional, -, h⟩ := bind_eq_ok.mp h
    obtain ⟨given, -, h⟩ := bind_eq_ok.mp h
    obtain ⟨properties, -, h⟩ := bind_eq_ok.mp h
    obtain ⟨required, -, h⟩ := bind_eq_ok.mp h
    cases h
    exact .inl rfl
  · obtain ⟨item, -, h⟩ := bind_eq_ok.mp h
    obtain ⟨m, hm, h⟩ := bind_eq_ok.mp h
    cases h
    exact .inr (description_of_checkMarks (liftM_eq_ok.mp hm))
  · exact .inr (readPrimitive_hasDoc (liftM_eq_ok.mp h))
  · obtain ⟨m, hm, h⟩ := bind_eq_ok.mp h
    cases h
    exact .inr (description_of_checkMarks (liftM_eq_ok.mp hm))

theorem ofTypes_hasDoc {types : List String} (h : ofTypes read marks entries types = .ok s) :
    s.isObject = true ∨ s.HasDoc := by
  unfold ofTypes at h
  split at h
  · exact ofTyped_hasDoc h
  · exact ofTyped_hasDoc h
  · obtain ⟨members, -, h⟩ := bind_eq_ok.mp h
    obtain ⟨m, hm, h⟩ := bind_eq_ok.mp h
    cases h
    exact .inr (description_of_checkMarks (liftM_eq_ok.mp hm))

theorem ofAllOf_hasDoc (h : ofAllOf read marks entries = .ok s) : s.HasDoc := by
  obtain ⟨members, -, h⟩ := bind_eq_ok.mp h
  dsimp only at h
  split at h
  all_goals
    obtain ⟨own, -, h⟩ := bind_eq_ok.mp h
    obtain ⟨m, hm, h⟩ := bind_eq_ok.mp h
    cases h
    exact description_of_checkMarks (liftM_eq_ok.mp hm)

theorem ofUnion_hasDoc {record : RecordKind} {kind : UnionKind} {d : Document}
    (h : ofUnion read record kind marks entries d = .ok s) : s.HasDoc := by
  obtain ⟨members, -, h⟩ := bind_eq_ok.mp h
  obtain ⟨m, hm, h⟩ := bind_eq_ok.mp h
  cases h
  exact description_of_checkMarks (liftM_eq_ok.mp hm)

theorem ofMapping_hasDoc (h : ofMapping read entries = .ok s) : s.isObject = true ∨ s.HasDoc := by
  obtain ⟨types, -, h⟩ := bind_eq_ok.mp h
  dsimp only at h
  split at h
  · split at h
    · cases h
    · obtain ⟨name, -, h⟩ := bind_eq_ok.mp h
      obtain ⟨m, hm, h⟩ := bind_eq_ok.mp h
      cases h
      exact .inr (description_of_checkMarks (liftM_eq_ok.mp hm))
  split at h
  · obtain ⟨values, -, h⟩ := bind_eq_ok.mp h
    exact .inr (readEnum_hasDoc (liftM_eq_ok.mp h))
  split at h
  · exact .inr (readEnum_hasDoc (liftM_eq_ok.mp h))
  split at h
  · exact .inr (ofAllOf_hasDoc h)
  split at h
  · exact .inr (ofUnion_hasDoc h)
  split at h
  · exact .inr (ofUnion_hasDoc h)
  · exact ofTypes_hasDoc h

end Mapping

theorem anything_hasDoc {s : Schema} (h : (Except.ok anything : Except Failure Schema) = .ok s) : s.HasDoc := by
  cases h
  exact ⟨none, rfl⟩

theorem ofDocumentWithin_hasDoc {fuel : ℕ} {met : List ℕ} {d : Document} {s : Schema}
    (h : ofDocumentWithin fuel met d = .ok s) : s.isObject = true ∨ s.HasDoc := by
  unfold ofDocumentWithin at h
  split at h
  · exact .inr (anything_hasDoc h)
  · exact ofMapping_hasDoc h
  · split at h
    · cases h
    · split at h
      · exact ofMapping_hasDoc h
      · exact .inr (anything_hasDoc h)
  · exact .inr (anything_hasDoc h)

theorem ofDocument_hasDoc {d : Document} {s : Schema} (h : ofDocument d = .ok s) : s.isObject = true ∨ s.HasDoc := by
  unfold ofDocument at h
  split at h
  · exact .inr (anything_hasDoc h)
  · exact ofMapping_hasDoc h
  · exact ofDocumentWithin_hasDoc h

end ClientForge.Schema
