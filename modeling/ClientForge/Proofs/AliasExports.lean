import ClientForge.Proofs.Exports

namespace ClientForge

open Outcome

namespace Package

open ImportTable

section Aliases

theorem localNames_fst (taken : List String) (packages : List (List String)) :
    (localNames taken packages).map (·.1) = packages := by
  induction packages generalizing taken with
  | nil => rfl
  | cons package packages ih => rw [localNames, List.map_cons, ih]

theorem lookup_localNames {taken : List String} {packages : List (List String)} (hnodup : packages.Nodup)
    {package : List String} {name : String} (h : (package, name) ∈ localNames taken packages) :
    (localNames taken packages).lookup package = some name := by
  have hpackage : package ∈ packages := fst_mem_of_mem_localNames h
  obtain ⟨name', hname', hlookup⟩ := exists_localName taken hpackage
  have hfst : ((localNames taken packages).map (·.1)).Nodup := by rwa [localNames_fst]
  obtain rfl := (Prod.mk.inj (List.inj_on_of_nodup_map hfst h hname' rfl)).2
  exact hlookup

theorem isWordChar_of_mem_joined {names : List String} (h : ∀ s ∈ names, Naming.IsWord s) :
    ∀ c ∈ ("__".intercalate names).toList, Naming.isWordChar c = true := by
  induction names with
  | nil => simp
  | cons name names ih =>
    obtain ⟨hname, hnames⟩ := List.forall_mem_cons.mp h
    cases names with
    | nil => simpa using hname.2
    | cons name' names =>
      intro c hc
      rw [String.intercalate_cons_cons, String.toList_append, String.toList_append, List.mem_append,
        List.mem_append] at hc
      rcases hc with (hc | hc) | hc
      · exact hname.2 c hc
      · exact List.all_eq_true.mp (by decide : "__".toList.all Naming.isWordChar = true) c hc
      · exact ih hnames c hc

theorem localNames_areWords {taken : List String} {packages : List (List String)}
    (h : ∀ package ∈ packages, ∀ s ∈ package, Naming.IsWord s) :
    ∀ x ∈ localNames taken packages, Naming.IsWord x.2 := by
  induction packages generalizing taken with
  | nil => simp [localNames]
  | cons package packages ih =>
    obtain ⟨hpackage, hpackages⟩ := List.forall_mem_cons.mp h
    rw [localNames]
    refine List.forall_mem_cons.mpr ⟨Naming.unique_isWord ?_ _, ih hpackages⟩
    split
    · decide
    · exact Naming.IsWord.append (by decide) (isWordChar_of_mem_joined hpackage)

variable {operations : List Operation} {table : AliasTable} (htable : Route.aliases operations = .ok table)
  (naming : ModuleNaming)

include htable

theorem locals_areWords : ∀ x ∈ localNames table.symbols table.packages, Naming.IsWord x.2 := by
  apply localNames_areWords
  intro package hpackage
  obtain ⟨o, -, rfl⟩ := Route.exists_operation_of_mem_packages htable hpackage
  exact Route.package_isWord _

theorem exists_operation_of_alias {e : AliasEntry} (he : e ∈ table.entries) :
    ∃ o ∈ operations, ∃ id, Route.idOf? o = some id ∧ e = Route.aliasOf o id := by
  rw [(Route.entries_of_aliases htable).1] at he
  obtain ⟨o, ho, hentry⟩ := List.mem_filterMap.mp he
  obtain ⟨id, hid, rfl⟩ := Option.map_eq_some_iff.mp hentry
  exact ⟨o, ho, id, hid, rfl⟩

theorem scope_local (hexports : "__all__" ∉ (aliasesModule naming table).imports.flatMap Import.bound)
    {x : List String × String} (hx : x ∈ localNames table.symbols table.packages) :
    (aliasesModule naming table).scope x.2 = some (.member (functionsPath x.1).dotted.dropLast
      ((functionsPath x.1).dotted.getLast?.getD "")) := by
  have hbound := nodup_bound_aliases naming htable
  have hfile (folders : List String) : aliasPath ≠ .index folders := by
    intro h
    exact absurd (ModulePath.inFolders_inj.mp h).2 (by decide)
  have hhas : (aliasImports naming table).Has ((aliasImports naming table).naming.nameOf
      (aliasImports naming table).package (functionsPath x.1).dotted.dropLast) false
        (moduleName (functionsPath x.1) (some x.2)) := by
    rw [aliasImports, naming_foldl_takeModule, package_foldl_takeModule, has_foldl_takeModule]
    exact .inr ⟨x, hx, rfl, rfl, rfl⟩
  have hpackage : (aliasImports naming table).package = aliasPath.package := package_foldl_takeModule ..
  have hscope := scope_taken (imports_into ..) hbound hpackage hhas (hfile _) ⟨?_, ?_, fun h => absurd rfl h⟩
  · rwa [bound_moduleName] at hscope
  · intro i _ hi
    rw [Module.incidental_of_file hfile i] at hi
    cases hi
  · intro _ hname
    exact hexports (hname ▸ bound_mem_imports hhas)

theorem scope_alias {e : AliasEntry} (he : e ∈ table.entries) {name : String}
    (hname : (e.package, name) ∈ localNames table.symbols table.packages) :
    (aliasesModule naming table).scope e.symbol =
      ((aliasesModule naming table).scope name).map (.attribute · e.function) := by
  have hbound := nodup_bound_aliases naming htable
  have hassign : aliasAssign (localNames table.symbols table.packages) e ∈ (aliasesModule naming table).assigns :=
    List.mem_map_of_mem he
  obtain ⟨s, hscope, hsame⟩ := Module.scope_of_assign hbound hassign rfl
  have hlocal : name ∉ (aliasesModule naming table).defined := by
    have hnodup := nodup_localNames (Route.entries_of_aliases htable).2.2 table.packages
    have hdefined : (aliasesModule naming table).defined = table.symbols := List.map_map ..
    rw [hdefined]
    exact fun h => List.disjoint_of_nodup_append hnodup h (List.mem_map_of_mem hname)
  have hpackages : table.packages.Nodup := nodup_eraseDups _
  have hlookup := lookup_localNames hpackages hname
  have hword : Naming.IsWord name := locals_areWords htable _ hname
  obtain ⟨o, -, id, -, rfl⟩ := exists_operation_of_alias htable he
  have hfunction : '.' ∉ (Route.functionName o.method).toList := (Naming.identifier_isWord _).dot_notMem
  rw [aliasAssign, hlookup, Option.getD_some] at hscope
  refine hscope.trans ?_
  rw [← hsame _ hlocal]
  exact Scope.evaluate_attribute s hword.dot_notMem hfunction

theorem scope_alias_of_operation (hexports : "__all__" ∉ (aliasesModule naming table).imports.flatMap Import.bound)
    {o : Operation} (ho : o ∈ operations) {id : String} (hid : Route.idOf? o = some id) :
    (aliasesModule naming table).scope (Naming.identifier id) = some (aliasMeaning o) := by
  have he := Route.aliasOf_mem_entries htable ho hid
  have hpackage : (Route.aliasOf o id).package ∈ table.packages := by
    rw [AliasTable.packages, List.mem_eraseDups]
    exact List.mem_map_of_mem he
  obtain ⟨name, hname, -⟩ := exists_localName table.symbols hpackage
  have hscope := scope_alias htable naming he hname
  rw [scope_local htable naming hexports hname] at hscope
  exact hscope

end Aliases

theorem Build.IsOf.aliases_survive_iff {style : ImportStyle} {package : Option String} {api : Api} {b : Build}
    (hb : b.IsOf style package api) :
    (∀ x ∈ (aliasesModule b.naming b.table).exports.getD [],
      Survives api b.root (b.modules api) (aliasesModule b.naming b.table) x) ↔
        "__all__" ∉ (aliasesModule b.naming b.table).imports.flatMap Import.bound := by
  constructor
  · intro hall himported
    have hdefined := Module.notMem_defined (nodup_bound_aliases b.naming hb.table) himported
    have hnames := Module.scope_of_exports rfl hdefined
    have hlocals := (inner_aliases b.naming hb.table).mem_imports.mp himported
    obtain ⟨⟨package, name⟩, hx, hname⟩ := List.mem_map.mp hlocals
    obtain rfl : name = "__all__" := hname
    have hpackage := fst_mem_of_mem_localNames hx
    rw [AliasTable.packages, List.mem_eraseDups] at hpackage
    obtain ⟨e, he, rfl⟩ := List.mem_map.mp hpackage
    obtain ⟨v, w, hscope, hdenotes, hfor⟩ := hall e.symbol (List.mem_map_of_mem he)
    -- The alias is then an attribute of the list of exports.
    rw [scope_alias hb.table b.naming he hx, hnames, Option.map_some, Option.some_inj] at hscope
    subst hscope
    rw [hdenotes.eq fun _ _ => Meaning.noConfusion] at hfor
    exact hfor.attribute rfl
  · intro hexports x hx
    obtain ⟨e, he, rfl⟩ := List.mem_map.mp hx
    obtain ⟨o, ho, id, hid, rfl⟩ := exists_operation_of_alias hb.table he
    exact ⟨_, _, scope_alias_of_operation hb.table b.naming hexports ho hid, .self fun _ _ => Meaning.noConfusion,
      .byId ho hid (.inl rfl)⟩

end Package

end ClientForge
