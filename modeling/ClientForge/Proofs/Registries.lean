import ClientForge.Proofs.Names
import ClientForge.Proofs.Outcomes
import ClientForge.Schema.Registry

namespace ClientForge.Registry

structure WellFormed (r : Registry) : Prop where
  names : r.names.Nodup
  symbols : r.symbols.Nodup
  modules : r.modules.Nodup
  module_isWord : ∀ e ∈ r.entries, Naming.IsWord e.module
  module_ne_index : ∀ e ∈ r.entries, e.module ≠ indexModule

theorem mem_insertEntry {entries : List NamedSchema} {new e : NamedSchema} (h : e ∈ insertEntry entries new) :
    e = new ∨ e ∈ entries := by
  induction entries with
  | nil => exact .inl (List.mem_singleton.mp h)
  | cons e' rest ih =>
    unfold insertEntry at h
    split at h
    · rcases List.mem_cons.mp h with h | h
      · exact .inl h
      · exact .inr (List.mem_cons_of_mem _ h)
    · rcases List.mem_cons.mp h with rfl | h
      · exact .inr List.mem_cons_self
      · exact (ih h).imp_right (List.mem_cons_of_mem _)

theorem nodup_map_insertEntry {α : Type} {f : NamedSchema → α} {entries : List NamedSchema} {new : NamedSchema}
    (h : (entries.map f).Nodup) (hnew : f new ∉ entries.map f) : ((insertEntry entries new).map f).Nodup := by
  induction entries with
  | nil => simp [insertEntry]
  | cons e rest ih =>
    rw [List.map_cons, List.nodup_cons] at h
    rw [List.map_cons, List.mem_cons, not_or] at hnew
    unfold insertEntry
    split
    · exact List.nodup_cons.mpr ⟨hnew.2, h.2⟩
    · refine List.nodup_cons.mpr ⟨fun hmem => ?_, ih h.2 hnew.2⟩
      obtain ⟨e', he', heq⟩ := List.mem_map.mp hmem
      rcases mem_insertEntry he' with rfl | he'
      · exact hnew.1 heq
      · exact h.1 (heq ▸ List.mem_map_of_mem he')

theorem nodup_names_insertEntry {entries : List NamedSchema} {new : NamedSchema}
    (h : (entries.map (·.name)).Nodup) : ((insertEntry entries new).map (·.name)).Nodup := by
  induction entries with
  | nil => simp [insertEntry]
  | cons e rest ih =>
    have hrest := (List.nodup_cons.mp h).2
    unfold insertEntry
    split
    · rename_i he
      -- The entry that gives up its place had the name of the new one.
      rw [List.map_cons, ← he]
      exact h
    · rename_i he
      refine List.nodup_cons.mpr ⟨fun hmem => ?_, ih hrest⟩
      obtain ⟨e', he', heq⟩ := List.mem_map.mp hmem
      rcases mem_insertEntry he' with rfl | he'
      · exact he heq.symm
      · exact (List.nodup_cons.mp h).1 (heq ▸ List.mem_map_of_mem he')

theorem empty_wellFormed : empty.WellFormed := by constructor <;> simp [empty, names, symbols, modules]

theorem WellFormed.insert {r : Registry} (h : r.WellFormed) (name : String) (schema : Schema) :
    (r.insert name schema).WellFormed := by
  have hsymbol := Naming.unique_notMem (Naming.classSymbol name) r.symbols "_"
  dsimp only [Registry.insert]
  generalize Naming.unique (Naming.classSymbol name) r.symbols "_" = symbol at *
  have hmodule := Naming.unique_notMem (Naming.moduleName symbol) (indexModule :: r.modules) "_"
  have hword := Naming.unique_isWord (Naming.moduleName_isWord symbol) (indexModule :: r.modules)
  generalize Naming.unique (Naming.moduleName symbol) (indexModule :: r.modules) "_" = module at *
  rw [List.mem_cons, not_or] at hmodule
  constructor
  · exact nodup_names_insertEntry h.names
  · apply nodup_map_insertEntry (f := (·.symbol)) h.symbols
    exact hsymbol
  · apply nodup_map_insertEntry (f := (·.module)) h.modules
    exact hmodule.2
  · intro e he
    rcases mem_insertEntry he with rfl | he
    · exact hword
    · exact h.module_isWord e he
  · intro e he
    rcases mem_insertEntry he with rfl | he
    · exact hmodule.1
    · exact h.module_ne_index e he

theorem wellFormed_of_ofDocument {d : Document} {r : Registry} (h : ofDocument d = .ok r) : r.WellFormed := by
  unfold ofDocument at h
  split at h
  · cases h
    exact empty_wellFormed
  · apply Outcome.foldlM_induction h empty_wellFormed
    intro r entry r' hr hstep
    obtain ⟨name, -, hstep⟩ := Outcome.bind_eq_ok.mp hstep
    obtain ⟨schema, -, hstep⟩ := Outcome.bind_eq_ok.mp hstep
    exact Outcome.pure_eq_ok.mp hstep ▸ hr.insert name schema
  · cases h

theorem forall_entries {P : NamedSchema → Prop} {d : Document} {r : Registry} (h : ofDocument d = .ok r)
    (hP : ∀ name d schema symbols modules, Schema.ofDocument d = .ok schema →
      P ⟨name, Naming.unique (Naming.classSymbol name) symbols "_",
        Naming.unique (Naming.moduleName (Naming.unique (Naming.classSymbol name) symbols "_")) modules "_", schema⟩) :
    ∀ e ∈ r.entries, P e := by
  unfold ofDocument at h
  split at h
  · cases h
    intro e he
    cases he
  · apply Outcome.foldlM_induction h (fun e he => by cases he)
    intro r entry r' hr hstep e he
    obtain ⟨name, -, hstep⟩ := Outcome.bind_eq_ok.mp hstep
    obtain ⟨schema, hschema, hstep⟩ := Outcome.bind_eq_ok.mp hstep
    obtain rfl := Outcome.pure_eq_ok.mp hstep
    rcases mem_insertEntry he with rfl | he
    · exact hP name _ schema _ _ hschema
    · exact hr e he
  · cases h

theorem mem_of_get? {r : Registry} {name : String} {e : NamedSchema} (h : r.get? name = some e) :
    e ∈ r.entries ∧ e.name = name :=
  ⟨List.mem_of_find?_eq_some h, by simpa using List.find?_some h⟩

theorem WellFormed.get?_name {r : Registry} (h : r.WellFormed) {e : NamedSchema} (he : e ∈ r.entries) :
    r.get? e.name = some e := by
  cases hf : r.get? e.name with
  | none => simpa using List.find?_eq_none.mp hf e he
  | some e' =>
    obtain ⟨he', hname⟩ := mem_of_get? hf
    rw [List.inj_on_of_nodup_map h.names he' he hname]

theorem WellFormed.eq_of_module {r : Registry} (h : r.WellFormed) {a b : NamedSchema} (ha : a ∈ r.entries)
    (hb : b ∈ r.entries) (hm : a.module = b.module) : a = b :=
  List.inj_on_of_nodup_map h.modules ha hb hm

section Documents

def plainMarks : Marks := ⟨false, .absent⟩

def referenceTo (name : String) : Document := .map [(.text "$ref", .text ("#/components/schemas/" ++ name))]

def objectOf (properties : Entries) : Document :=
  .map [(.text "type", .text "object"), (.text "properties", .map properties)]

def intersectionOf (members : List Document) : Document := .map [(.text "allOf", .list members)]

end Documents

end ClientForge.Registry
