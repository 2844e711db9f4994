import ClientForge.Proofs.BaseClasses

namespace ClientForge

def futureNames : Bool → List String
  | true => ["annotations"]
  | false => []

/-- The names that a module binds, each as often as a statement binds it. -/
def Module.bound (m : Module) : List String :=
  futureNames m.future ++ (m.imports ++ m.deferred).flatMap Import.bound
    ++ (m.classes.map (·.name) ++ m.adapters.map (·.name) ++ m.operations.map (·.name) ++ m.assigns.map (·.target))

namespace Library

variable {used : List String}

theorem bound_statements {l : List (String × List String)} (h : ∀ source ∈ l, source.2.Nodup) :
    ((l.filterMap (statement? used)).flatMap Import.bound).Perm ((l.flatMap (·.2)).filter (· ∈ used)) := by
  induction l with
  | nil => rfl
  | cons source l ih =>
    have hperm : (used.eraseDups.filter (· ∈ source.2)).Perm (source.2.filter (· ∈ used)) := by
      rw [List.perm_ext_iff_of_nodup ((nodup_eraseDups used).filter _) ((h source List.mem_cons_self).filter _)]
      simp [and_comm]
    have hsorted := (List.mergeSort_perm (used.eraseDups.filter (· ∈ source.2)) comesBefore).trans hperm
    have ih := ih fun source hsource => h source (List.mem_cons_of_mem _ hsource)
    rw [List.flatMap_cons, List.filter_append]
    cases hany : source.2.any (· ∈ used) with
    | false =>
      have hnone : source.2.filter (· ∈ used) = [] := by simpa using hany
      rw [List.filterMap_cons_none (statement?_eq_none.mpr hany), hnone, List.nil_append]
      exact ih
    | true =>
      obtain ⟨i, hi, hbound⟩ : ∃ i, statement? used source = some i ∧
          i.bound = (used.eraseDups.filter (· ∈ source.2)).mergeSort comesBefore := by
        refine ⟨_, statement?_eq_some.mpr ⟨hany, rfl⟩, ?_⟩
        have hnames : (used.eraseDups.filter (· ∈ source.2)).mergeSort comesBefore ≠ [] := by
          rw [ne_eq, ← List.length_eq_zero_iff, hsorted.length_eq, List.length_eq_zero_iff]
          simpa using hany
        rw [Import.bound, if_neg (by simpa using hnames), List.map_map]
        exact List.map_id' _
      rw [List.filterMap_cons_some hi, List.flatMap_cons, hbound]
      exact hsorted.append ih

theorem bound_imports (used : List String) :
    ((imports used).flatMap Import.bound).Perm (symbols.filter (· ∈ used)) :=
  bound_statements (by decide +kernel)

theorem symbols_subset_reserved : symbols ⊆ Naming.reservedSymbols := by decide

end Library

namespace ImportTable

variable {α : Type} {t : ImportTable} {names : List String}

theorem foldl_add_of_nodup [DecidableEq α] {items start : List α} (h : (start ++ items).Nodup) :
    items.foldl add start = start ++ items := by
  induction items generalizing start with
  | nil => rw [List.foldl_nil, List.append_nil]
  | cons a items ih =>
    have ha : a ∉ start := fun hmem => (List.nodup_append.mp h).2.2 a hmem a List.mem_cons_self rfl
    rw [List.append_cons] at h
    rw [List.foldl_cons, add, if_neg ha, ih h, ← List.append_cons]

theorem bound_addNames_list {own : List OwnImport} {names : List ImportedName}
    (h : (bound own ++ names.map ImportedName.bound).Nodup) (source : ModuleName) (deferred : Bool) :
    (bound (addNames own source deferred names)).Perm (bound own ++ names.map ImportedName.bound) := by
  induction own with
  | nil =>
    have hnames : names.foldl add [] = [] ++ names := foldl_add_of_nodup (List.Nodup.of_map _ h)
    simp [addNames, bound, hnames]
  | cons i own ih =>
    rw [bound, List.flatMap_cons, ← bound, List.append_assoc] at h
    unfold addNames
    split
    · have hnames : names.foldl add i.names = i.names ++ names := by
        apply foldl_add_of_nodup (List.Nodup.of_map ImportedName.bound _)
        rw [List.map_append]
        exact h.sublist (.append_left (List.sublist_append_right _ _) _)
      simp only [bound, List.flatMap_cons, hnames, List.map_append, List.append_assoc]
      exact List.perm_append_comm.append_left _
    · rw [bound, bound, List.flatMap_cons, List.flatMap_cons, List.append_assoc]
      exact (ih h.of_append_right).append_left _

/-- A table brings some names from the package: each of its imports names something, and these are the names. -/
structure Brings (t : ImportTable) (names : List String) : Prop where
  named : ∀ i ∈ t.own, i.names ≠ []
  bound : (bound t.own).Perm names

theorem brings_start (naming : ModuleNaming) (path : ModulePath) : (start naming path).Brings [] where
  named := by simp [start]
  bound := .refl _

theorem Brings.use (h : t.Brings names) (symbols : List String) : (t.use symbols).Brings names := ⟨h.named, h.bound⟩

theorem Brings.useLibrary (h : t.Brings names) (library : String) : (t.useLibrary library).Brings names :=
  ⟨h.named, h.bound⟩

theorem ne_nil_of_mem_addNames {own : List OwnImport} {source : ModuleName} {deferred : Bool}
    {names : List ImportedName} (hown : ∀ i ∈ own, i.names ≠ []) (hne : names ≠ []) :
    ∀ i ∈ addNames own source deferred names, i.names ≠ [] := by
  obtain ⟨n, hn⟩ := List.exists_mem_of_ne_nil _ hne
  have hadd (start : List ImportedName) : names.foldl add start ≠ [] :=
    List.ne_nil_of_mem ((mem_foldl_add names start n).mpr (.inr hn))
  induction own with
  | nil => exact fun i hi => List.mem_singleton.mp hi ▸ hadd []
  | cons i own ih =>
    obtain ⟨hi, hown⟩ := List.forall_mem_cons.mp hown
    unfold addNames
    split
    · exact List.forall_mem_cons.mpr ⟨hadd _, hown⟩
    · exact List.forall_mem_cons.mpr ⟨hi, ih hown⟩

theorem Brings.addFrom (h : t.Brings names) (more : List ImportedName) (hne : more ≠ [])
    (hn : (names ++ more.map ImportedName.bound).Nodup) (folder : List String) (target : ModulePath)
    (deferred : Bool) : (t.addFrom folder target deferred more).Brings (names ++ more.map ImportedName.bound) where
  named := ne_nil_of_mem_addNames h.named hne
  bound := by
    have hperm := h.bound.append_right (more.map ImportedName.bound)
    exact (bound_addNames_list (hperm.nodup_iff.mpr hn) _ _).trans hperm

theorem Brings.takeNames (h : t.Brings names) (target : ModulePath) (more : List String) (deferred : Bool)
    (hn : (names ++ more).Nodup) : (t.takeNames target more deferred).Brings (names ++ more) := by
  have hmore : (more.map fun name => ImportedName.mk name none).map ImportedName.bound = more := by
    rw [List.map_map]
    exact List.map_id' _
  unfold ImportTable.takeNames
  split
  · rename_i hempty
    rw [List.isEmpty_iff.mp hempty, List.append_nil]
    exact h
  · rename_i hne
    have hne : (more.map fun name => ImportedName.mk name none) ≠ [] := by simpa using hne
    have hbrings := h.addFrom _ hne (hmore.symm ▸ hn) target.dotted target deferred
    rwa [hmore] at hbrings

theorem Brings.takeModule (h : t.Brings names) (target : ModulePath) (asName : Option String)
    (hn : (names ++ [(moduleName target asName).bound]).Nodup) :
    (t.takeModule target asName).Brings (names ++ [(moduleName target asName).bound]) :=
  h.addFrom [moduleName target asName] (List.cons_ne_nil _ _) hn _ target false

theorem Brings.foldl_takeNames (h : t.Brings names) (items : List α) (target : α → ModulePath)
    (more : α → List String) (deferred : α → Bool) (hn : (names ++ items.flatMap more).Nodup) :
    (items.foldl (fun t a => t.takeNames (target a) (more a) (deferred a)) t).Brings
      (names ++ items.flatMap more) := by
  induction items generalizing t names with
  | nil => rwa [List.flatMap_nil, List.append_nil]
  | cons a items ih =>
    rw [List.flatMap_cons, ← List.append_assoc] at hn ⊢
    exact ih (h.takeNames (target a) (more a) (deferred a) hn.of_append_left) hn

theorem Brings.foldl_takeModule (h : t.Brings names) (items : List α) (target : α → ModulePath)
    (asName : α → Option String) (hn : (names ++ items.map fun a => (moduleName (target a) (asName a)).bound).Nodup) :
    (items.foldl (fun t a => t.takeModule (target a) (asName a)) t).Brings
      (names ++ items.map fun a => (moduleName (target a) (asName a)).bound) := by
  induction items generalizing t names with
  | nil => rwa [List.map_nil, List.append_nil]
  | cons a items ih =>
    rw [List.map_cons, List.append_cons] at hn ⊢
    exact ih (h.takeModule (target a) (asName a) hn.of_append_left) hn

def used (t : ImportTable) : List String :=
  t.symbols ++ if t.own.any (·.deferred) then ["TYPE_CHECKING"] else []

def foreign (t : ImportTable) (future : Bool) : List String :=
  futureNames future ++ t.libraries.map (fun name => (name.pieces '.').headD "")
    ++ Library.symbols.filter (· ∈ t.used)

theorem Brings.bound_imports (h : t.Brings names) : ((t.imports ++ t.deferredImports).flatMap Import.bound).Perm
    (t.libraries.map (fun name => (name.pieces '.').headD "") ++ Library.symbols.filter (· ∈ t.used) ++ names) := by
  have hown (i : OwnImport) (hi : i ∈ t.own) :
      (⟨i.source, i.names, Import.own⟩ : Import).bound = i.names.map ImportedName.bound :=
    if_neg (h.named i hi)
  have hlibraries : (t.libraries.map fun name => Import.mk (.dotted name) [] Import.thirdParty).flatMap Import.bound =
      t.libraries.map fun name => (name.pieces '.').headD "" := by
    rw [List.flatMap_map]
    exact List.flatMap_pure_eq_map _ _
  have hsplit : ((t.own.filter (!·.deferred) ++ t.own.filter (·.deferred)).flatMap
      fun i => i.names.map ImportedName.bound).Perm names := by
    refine List.Perm.trans (List.Perm.flatMap_right _ ?_) h.bound
    exact List.perm_append_comm.trans (List.filter_append_perm _ t.own)
  have hnames : (((t.own.filter (!·.deferred)).map fun i => (⟨i.source, i.names, Import.own⟩ : Import)) ++
      t.deferredImports).flatMap Import.bound = (t.own.filter (!·.deferred) ++ t.own.filter (·.deferred)).flatMap
        fun i => i.names.map ImportedName.bound := by
    rw [deferredImports, ← List.map_append, List.flatMap_map]
    apply List.flatMap_congr
    intro i hi
    rcases List.mem_append.mp hi with hi | hi <;> exact hown i (List.mem_of_mem_filter hi)
  rw [imports, List.append_assoc, List.append_assoc, List.flatMap_append, List.flatMap_append, hnames, hlibraries,
    List.append_assoc]
  exact ((Library.bound_imports _).append hsplit).append_left _

theorem Brings.bound_into (h : t.Brings names) (m : Module) :
    (t.into m).bound.Perm (t.foreign m.future ++ (names ++ (m.classes.map (·.name) ++ m.adapters.map (·.name)
      ++ m.operations.map (·.name) ++ m.assigns.map (·.target)))) := by
  have hall := h.bound_imports.append_left (futureNames m.future)
  have hrest := hall.append_right (m.classes.map (·.name) ++ m.adapters.map (·.name) ++ m.operations.map (·.name)
    ++ m.assigns.map (·.target))
  rw [foreign]
  simpa only [Module.bound, into, List.append_assoc] using hrest

theorem foreign_sublist (h : t.libraries.Sublist ["httpx"]) (future : Bool) :
    (t.foreign future).Sublist ("annotations" :: "httpx" :: Library.symbols) := by
  have hfuture : (futureNames future).Sublist ["annotations"] := by cases future <;> decide
  have hlibraries := h.map fun name => (name.pieces '.').headD ""
  exact (hfuture.append hlibraries).append List.filter_sublist

theorem foreign_nodup (h : t.libraries.Sublist ["httpx"]) (future : Bool) : (t.foreign future).Nodup :=
  List.Nodup.sublist (foreign_sublist h future) (by decide)

theorem foreign_subset_reserved (h : t.libraries.Sublist ["httpx"]) (future : Bool) :
    t.foreign future ⊆ Naming.reservedSymbols :=
  List.Subset.trans (foreign_sublist h future).subset (by decide)

theorem any_deferred (h : t.Brings names) (hhas : ∀ s n, ¬t.Has s true n) : t.own.any (·.deferred) = false := by
  rw [List.any_eq_false]
  intro i hi hdeferred
  obtain ⟨n, hn⟩ := List.exists_mem_of_ne_nil _ (h.named i hi)
  exact hhas i.source n ⟨i, hi, rfl, hdeferred, hn⟩

section Fields

variable (t : ImportTable) (items : List α) (target : α → ModulePath)

@[simp] theorem libraries_takeNames (target : ModulePath) (names : List String) (deferred : Bool) :
    (t.takeNames target names deferred).libraries = t.libraries := by
  unfold takeNames
  split <;> rfl

@[simp] theorem libraries_takeModule (target : ModulePath) (asName : Option String) :
    (t.takeModule target asName).libraries = t.libraries := rfl

@[simp] theorem symbols_takeModule (target : ModulePath) (asName : Option String) :
    (t.takeModule target asName).symbols = t.symbols := rfl

theorem libraries_foldl_takeNames (names : α → List String) (deferred : α → Bool) :
    (items.foldl (fun t a => t.takeNames (target a) (names a) (deferred a)) t).libraries = t.libraries :=
  foldl_unchanged (fun t _ => libraries_takeNames t _ _ _) items t

theorem libraries_foldl_takeModule (asName : α → Option String) :
    (items.foldl (fun t a => t.takeModule (target a) (asName a)) t).libraries = t.libraries :=
  foldl_unchanged (fun t _ => libraries_takeModule t _ _) items t

theorem symbols_foldl_takeModule (asName : α → Option String) :
    (items.foldl (fun t a => t.takeModule (target a) (asName a)) t).symbols = t.symbols :=
  foldl_unchanged (fun t _ => symbols_takeModule t _ _) items t

end Fields

structure Inner (t : ImportTable) (names : List String) : Prop extends t.Brings names where
  nodup : names.Nodup
  libraries : t.libraries = []
  symbols : t.symbols = []
  not_deferred : ∀ s n, ¬t.Has s true n

theorem Inner.any_deferred (h : t.Inner names) : t.own.any (·.deferred) = false :=
  ImportTable.any_deferred h.toBrings h.not_deferred

theorem Inner.foreign_eq_nil (h : t.Inner names) : t.foreign false = [] := by
  simp [foreign, futureNames, used, h.libraries, h.symbols, h.any_deferred]

theorem inner_start (naming : ModuleNaming) (path : ModulePath) : (start naming path).Inner [] :=
  ⟨brings_start naming path, List.nodup_nil, rfl, rfl, fun s n => has_start naming path s true n⟩

theorem Inner.takeNames (h : t.Inner names) (target : ModulePath) (more : List String) (hn : (names ++ more).Nodup) :
    (t.takeNames target more false).Inner (names ++ more) := by
  refine ⟨h.toBrings.takeNames target more false hn, hn, (libraries_takeNames ..).trans h.libraries,
    (symbols_takeNames ..).trans h.symbols, fun s n => ?_⟩
  simpa [has_takeNames] using h.not_deferred s n

theorem Inner.takeModule (h : t.Inner names) (target : ModulePath) (asName : Option String)
    (hn : (names ++ [(moduleName target asName).bound]).Nodup) :
    (t.takeModule target asName).Inner (names ++ [(moduleName target asName).bound]) := by
  refine ⟨h.toBrings.takeModule target asName hn, hn, h.libraries, h.symbols, fun s n => ?_⟩
  simpa [has_takeModule] using h.not_deferred s n

theorem Inner.foldl_takeNames (h : t.Inner names) (items : List α) (target : α → ModulePath) (more : α → List String)
    (hn : (names ++ items.flatMap more).Nodup) :
    (items.foldl (fun t a => t.takeNames (target a) (more a) false) t).Inner (names ++ items.flatMap more) := by
  refine ⟨h.toBrings.foldl_takeNames items target more _ hn, hn, (libraries_foldl_takeNames ..).trans h.libraries,
    (symbols_foldl_takeNames ..).trans h.symbols, fun s n => ?_⟩
  simpa [has_foldl_takeNames] using h.not_deferred s n

theorem Inner.foldl_takeModule (h : t.Inner names) (items : List α) (target : α → ModulePath)
    (asName : α → Option String) (hn : (names ++ items.map fun a => (moduleName (target a) (asName a)).bound).Nodup) :
    (items.foldl (fun t a => t.takeModule (target a) (asName a)) t).Inner
      (names ++ items.map fun a => (moduleName (target a) (asName a)).bound) := by
  refine ⟨h.toBrings.foldl_takeModule items target asName hn, hn, (libraries_foldl_takeModule ..).trans h.libraries,
    (symbols_foldl_takeModule ..).trans h.symbols, fun s n => ?_⟩
  simpa [has_foldl_takeModule] using h.not_deferred s n

end ImportTable

end ClientForge
