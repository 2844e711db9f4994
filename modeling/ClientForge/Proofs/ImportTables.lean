import ClientForge.Proofs.LibraryImports
import ClientForge.Proofs.ModuleNames

namespace ClientForge

def Module.Takes (m : Module) (deferred : Bool) (source : ModuleName) (name : ImportedName) : Prop :=
  ∃ i ∈ (if deferred then m.deferred else m.imports), i.group = Import.own ∧ i.source = source ∧ name ∈ i.names

namespace ImportTable

variable {α : Type}

def Has (t : ImportTable) (source : ModuleName) (deferred : Bool) (name : ImportedName) : Prop :=
  ∃ i ∈ t.own, i.source = source ∧ i.deferred = deferred ∧ name ∈ i.names

theorem mem_foldl_add [DecidableEq α] (items start : List α) (a : α) :
    a ∈ items.foldl add start ↔ a ∈ start ∨ a ∈ items := by
  induction items generalizing start with
  | nil => simp
  | cons b items ih => rw [List.foldl_cons, ih, mem_add, List.mem_cons, or_assoc]

theorem foldl_unchanged {β : Type} {step : ImportTable → α → ImportTable} {part : ImportTable → β}
    (h : ∀ t a, part (step t a) = part t) (items : List α) (t : ImportTable) : part (items.foldl step t) = part t := by
  induction items generalizing t with
  | nil => rfl
  | cons a items ih => rw [List.foldl_cons, ih, h]

theorem mem_addNames (own : List OwnImport) (source s : ModuleName) (deferred d : Bool) (names : List ImportedName)
    (n : ImportedName) :
    (∃ i ∈ addNames own source deferred names, i.source = s ∧ i.deferred = d ∧ n ∈ i.names) ↔
      (∃ i ∈ own, i.source = s ∧ i.deferred = d ∧ n ∈ i.names) ∨ s = source ∧ d = deferred ∧ n ∈ names := by
  induction own with
  | nil =>
    simp only [addNames, List.mem_singleton, exists_eq_left, mem_foldl_add, List.not_mem_nil, false_or, false_and,
      exists_false, eq_comm]
  | cons i own ih =>
    unfold addNames
    split
    · rename_i h
      simp only [List.mem_cons, exists_eq_or_imp, mem_foldl_add, h.1, h.2]
      grind
    · simp only [List.mem_cons, exists_eq_or_imp, ih, or_assoc]

theorem has_start (naming : ModuleNaming) (path : ModulePath) (s : ModuleName) (d : Bool) (n : ImportedName) :
    ¬(start naming path).Has s d n := by
  simp [Has, start]

variable (t : ImportTable) (s : ModuleName) (d : Bool) (n : ImportedName)

theorem has_addFrom (folder : List String) (target : ModulePath) (deferred : Bool) (names : List ImportedName) :
    (t.addFrom folder target deferred names).Has s d n ↔
      t.Has s d n ∨ s = t.naming.nameOf t.package folder ∧ d = deferred ∧ n ∈ names :=
  mem_addNames ..

theorem has_takeNames (target : ModulePath) (names : List String) (deferred : Bool) :
    (t.takeNames target names deferred).Has s d n ↔
      t.Has s d n ∨ s = t.naming.nameOf t.package target.dotted ∧ d = deferred ∧ n.asName = none ∧ n.name ∈ names := by
  unfold takeNames
  split
  · rename_i h
    simp [List.isEmpty_iff.mp h]
  · rw [has_addFrom]
    have hn : n ∈ names.map (⟨·, none⟩) ↔ n.asName = none ∧ n.name ∈ names := by
      obtain ⟨name, asName⟩ := n
      simp [and_comm, eq_comm]
    rw [hn]

theorem has_takeModule (target : ModulePath) (asName : Option String) :
    (t.takeModule target asName).Has s d n ↔
      t.Has s d n ∨ s = t.naming.nameOf t.package target.dotted.dropLast ∧ d = false ∧
        n.name = target.dotted.getLast?.getD "" ∧ n.asName = asName.filter (· ≠ n.name) := by
  obtain ⟨name, asName'⟩ := n
  rw [takeModule, has_addFrom, List.mem_singleton, ImportedName.mk.injEq]
  grind

@[simp] theorem naming_takeNames (target : ModulePath) (names : List String) (deferred : Bool) :
    (t.takeNames target names deferred).naming = t.naming := by
  unfold takeNames
  split <;> rfl

@[simp] theorem package_takeNames (target : ModulePath) (names : List String) (deferred : Bool) :
    (t.takeNames target names deferred).package = t.package := by
  unfold takeNames
  split <;> rfl

theorem mem_references_takeNames (target p : ModulePath) (names : List String) (deferred : Bool) :
    p ∈ (t.takeNames target names deferred).references ↔ p ∈ t.references ∨ p = target ∧ names ≠ [] := by
  unfold takeNames
  split
  · rename_i h
    simp [List.isEmpty_iff.mp h]
  · rename_i h
    rw [List.isEmpty_iff] at h
    simp [addFrom, mem_add, h]

theorem mem_references_takeModule (target p : ModulePath) (asName : Option String) :
    p ∈ (t.takeModule target asName).references ↔ p ∈ t.references ∨ p = target :=
  mem_add ..

theorem has_foldl_takeNames (items : List α) (target : α → ModulePath) (names : α → List String)
    (deferred : α → Bool) :
    (items.foldl (fun t a => t.takeNames (target a) (names a) (deferred a)) t).Has s d n ↔
      t.Has s d n ∨ ∃ a ∈ items, s = t.naming.nameOf t.package (target a).dotted ∧ d = deferred a ∧
        n.asName = none ∧ n.name ∈ names a := by
  induction items generalizing t with
  | nil => simp
  | cons a items ih =>
    rw [List.foldl_cons, ih, has_takeNames, naming_takeNames, package_takeNames]
    simp only [List.mem_cons, exists_eq_or_imp, or_assoc]

theorem groupOf_ne_own (source : String) : Library.groupOf source ≠ Import.own := by
  unfold Library.groupOf
  split <;> decide

theorem group_ne_own_of_mem_library {used : List String} {i : Import} (h : i ∈ Library.imports used) :
    i.group ≠ Import.own := by
  obtain ⟨source, -, hs⟩ := Library.mem_imports.mp h
  obtain ⟨-, rfl⟩ := Library.statement?_eq_some.mp hs
  exact groupOf_ne_own _

theorem takes_into (m : Module) : (t.into m).Takes d s n ↔ t.Has s d n := by
  cases d with
  | true =>
    constructor
    · rintro ⟨i, hi, -, rfl, hn⟩
      obtain ⟨o, ho, rfl⟩ := List.mem_map.mp hi
      rw [List.mem_filter] at ho
      exact ⟨o, ho.1, rfl, ho.2, hn⟩
    · rintro ⟨o, ho, rfl, hd, hn⟩
      exact ⟨_, List.mem_map_of_mem (List.mem_filter.mpr ⟨ho, hd⟩), rfl, rfl, hn⟩
  | false =>
    constructor
    · rintro ⟨i, hi, hg, rfl, hn⟩
      rcases List.mem_append.mp hi with hi | hi
      · rcases List.mem_append.mp hi with hi | hi
        · obtain ⟨name, -, rfl⟩ := List.mem_map.mp hi
          cases hg
        · exact absurd hg (group_ne_own_of_mem_library hi)
      · obtain ⟨o, ho, rfl⟩ := List.mem_map.mp hi
        rw [List.mem_filter] at ho
        exact ⟨o, ho.1, rfl, by simpa using ho.2, hn⟩
    · rintro ⟨o, ho, rfl, hd, hn⟩
      refine ⟨⟨o.source, o.names, Import.own⟩, List.mem_append_right _ ?_, rfl, rfl, hn⟩
      exact List.mem_map_of_mem (List.mem_filter.mpr ⟨ho, by simp [hd]⟩)

end ImportTable

end ClientForge
