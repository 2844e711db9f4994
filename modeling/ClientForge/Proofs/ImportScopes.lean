import ClientForge.Proofs.ModuleRuns

namespace ClientForge

open Outcome

namespace Module

variable {m : Module} {foreign own : List Import} {i : Import} {place : List String} {n : ImportedName}

theorem incidental_of_file (h : ∀ folders, m.path ≠ .index folders) (i : Import) : m.incidental i = [] := by
  rw [List.eq_nil_iff_forall_not_mem]
  intro x hx
  obtain ⟨place, -, hx | ⟨hown, -⟩⟩ := mem_incidental.mp hx
  · exact h _ (submodule?_eq_some.mp hx).1
  · exact h place hown

theorem mem_incidental_of_index {folders : List String} (hpath : m.path = .index folders) {x : String} :
    x ∈ m.incidental i ↔ ∃ place, i.source.place? folders = some place ∧
      ((∃ rest, place = folders ++ x :: rest) ∨ place = folders ∧ ∃ n ∈ i.names, n.asName.isSome ∧ n.name = x) := by
  have hpackage : m.path.package = folders := by
    rw [hpath]
    exact ModulePath.package_index folders
  have hindex {place : List String} : m.path = .index place ↔ place = folders := by
    rw [hpath, ModulePath.index, ModulePath.index]
    exact ⟨fun h => (List.append_inj_left' h rfl).symm, fun h => by rw [h]⟩
  simp only [mem_incidental, submodule?_eq_some, hindex, hpackage, true_and]

theorem scope_of_own (himports : m.Imports foreign own) (hbound : m.bound.Nodup) {before after : List Import}
    (hsplit : own = before ++ i :: after) (hn : n ∈ i.names) (hown : m.path = .index place)
    (hplace : i.source.place? m.path.package = some place) (hplain : ∀ n ∈ i.names, n.asName = none)
    (hearlier : ∀ j ∈ before, n.name ∉ m.incidental j) (hquiet : m.Quiet after n.name) :
    m.scope n.name = some (.module (place ++ [n.name])) := by
  have hname {n' : ImportedName} (hn' : n' ∈ i.names) : n'.bound = n'.name := by
    rw [ImportedName.bound, hplain n' hn', Option.getD_none]
  obtain ⟨hfuture, hforeign, hbefore, hnames, -, -⟩ := once himports hbound hsplit hn
  rw [hname hn] at hfuture hforeign hbefore
  obtain ⟨ns, ns', heq⟩ := List.append_of_mem hn
  have hother : ∀ n' ∈ ns ++ ns', n'.name ≠ n.name := by
    rw [heq, List.map_append, List.map_cons, List.nodup_middle, List.nodup_cons, ← List.map_append] at hnames
    intro n' hn' hsame
    have hmem : n' ∈ i.names := by
      rw [heq]
      rcases List.mem_append.mp hn' with h | h
      · exact List.mem_append_left _ h
      · exact List.mem_append_right _ (List.mem_cons_of_mem _ h)
    apply hnames.1
    rw [hname hn, ← hsame, ← hname hmem]
    exact List.mem_map_of_mem hn'
  have hscope := scope_of_package himports hbound hsplit hn hown hplace (by rwa [hname hn]) heq hfuture
    (by simp only [List.flatMap_append, List.mem_append, not_or]; exact ⟨hforeign, hbefore⟩) hearlier (by
      intro n' hn'
      have hmem : n' ∈ i.names := by
        rw [heq]
        rcases List.mem_append.mp hn' with h | h
        · exact List.mem_append_left _ h
        · exact List.mem_append_right _ (List.mem_cons_of_mem _ h)
      rw [hname hn, hname hmem]
      exact ⟨hother n' hn', hother n' hn', hother n' hn'⟩)
  rwa [hname hn] at hscope

end Module

namespace ImportTable

variable {α : Type} {t : ImportTable} {s : ModuleName} {n : ImportedName} {names : List String} {i : Import}

def foreignImports (t : ImportTable) : List Import :=
  t.libraries.map (⟨.dotted ·, [], Import.thirdParty⟩) ++ Library.imports t.used

def ownImports (t : ImportTable) : List Import :=
  (t.own.filter (!·.deferred)).map fun i => ⟨i.source, i.names, Import.own⟩

theorem mem_library {used : List String} (h : i ∈ Library.imports used) :
    ∃ name, i.source = .dotted name ∧ i.group < Import.own := by
  obtain ⟨source, -, hs⟩ := Library.mem_imports.mp h
  obtain ⟨-, rfl⟩ := Library.statement?_eq_some.mp hs
  refine ⟨source.1, rfl, ?_⟩
  dsimp only [Library.groupOf]
  split <;> decide

theorem imports_into (t : ImportTable) (m : Module) : (t.into m).Imports t.foreignImports t.ownImports where
  eq := rfl
  foreign_group i hi := by
    rcases List.mem_append.mp hi with hi | hi
    · obtain ⟨name, -, rfl⟩ := List.mem_map.mp hi
      have hlt : Import.thirdParty < Import.own := by decide
      exact hlt
    · obtain ⟨-, -, hgroup⟩ := mem_library hi
      exact hgroup
  foreign_place i hi := by
    rcases List.mem_append.mp hi with hi | hi
    · obtain ⟨name, -, rfl⟩ := List.mem_map.mp hi
      rfl
    · obtain ⟨name, hname, -⟩ := mem_library hi
      rw [hname]
      rfl
  own_group i hi := by
    obtain ⟨i, -, rfl⟩ := List.mem_map.mp hi
    rfl

theorem Inner.foreignImports_eq_nil (h : t.Inner names) : t.foreignImports = [] := by
  simp [foreignImports, used, h.libraries, h.symbols, h.any_deferred, Library.imports, Library.statement?]

theorem Inner.ownImports_eq (h : t.Inner names) :
    t.ownImports = t.own.map fun i => ⟨i.source, i.names, Import.own⟩ := by
  rw [ownImports, List.filter_eq_self.mpr]
  intro i hi
  simpa using List.any_eq_false.mp h.any_deferred i hi

theorem Brings.bound_statements (h : t.Brings names) :
    ((t.own.map fun i => (⟨i.source, i.names, Import.own⟩ : Import)).flatMap Import.bound).Perm names := by
  rw [List.flatMap_map]
  refine List.Perm.trans (.of_eq ?_) h.bound
  exact List.flatMap_congr fun i hi => if_neg (h.named i hi)

theorem Inner.exists_has (h : t.Inner names) {o : OwnImport} (ho : o ∈ t.own) : ∃ n, t.Has o.source false n := by
  obtain ⟨n, hn⟩ := List.exists_mem_of_ne_nil _ (h.named o ho)
  refine ⟨n, o, ho, rfl, ?_, hn⟩
  by_contra hdeferred
  exact h.not_deferred o.source n ⟨o, ho, rfl, by simpa using hdeferred, hn⟩

theorem Inner.imports_into (h : t.Inner names) (m : Module) :
    (t.into m).Imports [] (t.own.map fun i => ⟨i.source, i.names, Import.own⟩) := by
  have himports := ImportTable.imports_into t m
  rwa [h.foreignImports_eq_nil, h.ownImports_eq] at himports

theorem Inner.mem_imports (h : t.Inner names) {x : String} : x ∈ t.imports.flatMap Import.bound ↔ x ∈ names := by
  have himports : t.imports = t.own.map fun i => ⟨i.source, i.names, Import.own⟩ :=
    (h.imports_into (Module.blank [])).eq.trans (List.nil_append _)
  rw [himports, h.bound_statements.mem_iff]

theorem Brings.mem_of_imports (h : t.Brings names) (hlibraries : t.libraries.Sublist ["httpx"]) {x : String}
    (hx : x ∈ t.imports.flatMap Import.bound) (hforeign : x ∉ "httpx" :: Library.symbols) : x ∈ names := by
  have hall : x ∈ (t.imports ++ t.deferredImports).flatMap Import.bound := by
    rw [List.flatMap_append]
    exact List.mem_append_left _ hx
  rw [h.bound_imports.mem_iff, List.mem_append, List.mem_append] at hall
  rcases hall with (hlibrary | hsymbol) | hname
  · exact absurd (List.mem_cons.mpr (.inl (List.mem_singleton.mp ((hlibraries.map _).subset hlibrary)))) hforeign
  · exact absurd (List.mem_cons_of_mem _ (List.mem_of_mem_filter hsymbol)) hforeign
  · exact hname

theorem has_of_ownImport (hi : i ∈ t.ownImports) (hn : n ∈ i.names) : t.Has i.source false n := by
  obtain ⟨o, ho, rfl⟩ := List.mem_map.mp hi
  rw [List.mem_filter] at ho
  exact ⟨o, ho.1, rfl, by simpa using ho.2, hn⟩

theorem exists_has_of_incidental (h : t.Brings names) {m : Module} {folders : List String}
    (hpath : m.path = .index folders) {x : String} (hi : i ∈ t.ownImports) (hx : x ∈ m.incidental i) :
    ∃ s n place, t.Has s false n ∧ s.place? folders = some place ∧
      ((∃ rest, place = folders ++ x :: rest) ∨ place = folders ∧ n.asName.isSome ∧ n.name = x) := by
  obtain ⟨place, hplace, hx⟩ := (Module.mem_incidental_of_index hpath).mp hx
  rcases hx with hx | ⟨hown, n, hn, hname⟩
  · have hne : i.names ≠ [] := by
      obtain ⟨o, ho, rfl⟩ := List.mem_map.mp hi
      exact h.named o (List.mem_of_mem_filter ho)
    obtain ⟨n, hn⟩ := List.exists_mem_of_ne_nil _ hne
    exact ⟨i.source, n, place, has_of_ownImport hi hn, hplace, .inl hx⟩
  · exact ⟨i.source, n, place, has_of_ownImport hi hn, hplace, .inr ⟨hown, hname⟩⟩

theorem exists_submodule_of_incidental (h : t.Brings names) {m : Module} {folders : List String}
    (hpath : m.path = .index folders) {naming : ModuleNaming} {P : List String → Prop}
    (hsource : ∀ s n, t.Has s false n → n.asName = none ∧ ∃ place, s = naming.nameOf folders place ∧ P place)
    {x : String} (hi : i ∈ t.ownImports) (hx : x ∈ m.incidental i) : ∃ rest, P (folders ++ x :: rest) := by
  obtain ⟨s, n, place, hhas, hplace, hx⟩ := exists_has_of_incidental h hpath hi hx
  obtain ⟨hplain, place', rfl, hP⟩ := hsource s n hhas
  rw [ModuleNaming.place?_nameOf, Option.some_inj] at hplace
  subst hplace
  rcases hx with ⟨rest, rfl⟩ | ⟨-, hnamed, -⟩
  · exact ⟨rest, hP⟩
  · rw [hplain] at hnamed
    cases hnamed

theorem exists_ownImport (h : t.Has s false n) :
    ∃ before i after, t.ownImports = before ++ i :: after ∧ i.source = s ∧ n ∈ i.names := by
  obtain ⟨o, ho, rfl, hd, hn⟩ := h
  have hi : (⟨o.source, o.names, Import.own⟩ : Import) ∈ t.ownImports :=
    List.mem_map.mpr ⟨o, List.mem_filter.mpr ⟨ho, by simp [hd]⟩, rfl⟩
  obtain ⟨before, after, hsplit⟩ := List.append_of_mem hi
  exact ⟨before, _, after, hsplit, rfl, hn⟩

theorem bound_mem_imports (h : t.Has s false n) : n.bound ∈ t.imports.flatMap Import.bound := by
  obtain ⟨before, i, after, hsplit, -, hn⟩ := exists_ownImport h
  have hi : i ∈ t.ownImports := hsplit ▸ List.mem_append_right _ List.mem_cons_self
  rw [List.mem_flatMap]
  exact ⟨i, List.mem_append_right _ hi, Module.bound_of_mem hn ▸ List.mem_map_of_mem hn⟩

section Scopes

variable {m : Module} {place : List String} (himports : m.Imports t.foreignImports t.ownImports)
  (hbound : m.bound.Nodup) (hpackage : t.package = m.path.package)
  (hhas : t.Has (t.naming.nameOf t.package place) false n)

include himports hbound hpackage hhas

theorem scope_taken (hother : m.path ≠ .index place) (hquiet : m.Quiet t.ownImports n.bound) :
    m.scope n.bound = some (.member place n.name) := by
  obtain ⟨before, i, after, hsplit, hs, hn⟩ := exists_ownImport hhas
  have hplace : i.source.place? m.path.package = some place := by
    rw [hs, hpackage]
    exact ModuleNaming.place?_nameOf ..
  refine Module.scope_of_member himports hbound hsplit hn hplace hother ?_
  refine ⟨fun j hj => hquiet.imports j ?_, hquiet.exports, hquiet.loop⟩
  rw [hsplit]
  exact List.mem_append_right _ (List.mem_cons_of_mem _ hj)

theorem scope_taken_own (hown : m.path = .index place)
    (hplain : ∀ n', t.Has (t.naming.nameOf t.package place) false n' → n'.asName = none)
    (hquiet : m.Quiet t.ownImports n.name) : m.scope n.name = some (.module (place ++ [n.name])) := by
  obtain ⟨before, i, after, hsplit, hs, hn⟩ := exists_ownImport hhas
  have hi : i ∈ t.ownImports := hsplit ▸ List.mem_append_right _ List.mem_cons_self
  have hplace : i.source.place? m.path.package = some place := by
    rw [hs, hpackage]
    exact ModuleNaming.place?_nameOf ..
  have hplain : ∀ n' ∈ i.names, n'.asName = none := fun n' hn' => hplain n' (hs ▸ has_of_ownImport hi hn')
  refine Module.scope_of_own himports hbound hsplit hn hown hplace hplain ?_ ?_
  · intro j hj
    exact hquiet.imports j (hsplit ▸ List.mem_append_left _ hj)
  · refine ⟨fun j hj => hquiet.imports j ?_, hquiet.exports, hquiet.loop⟩
    rw [hsplit]
    exact List.mem_append_right _ (List.mem_cons_of_mem _ hj)

end Scopes

theorem addNames_of_notMem {own : List OwnImport} (h : ∀ i ∈ own, i.source ≠ s) (deferred : Bool)
    (names : List ImportedName) : addNames own s deferred names = own ++ [⟨s, deferred, names.foldl add []⟩] := by
  induction own with
  | nil => rfl
  | cons i own ih =>
    obtain ⟨hi, hown⟩ := List.forall_mem_cons.mp h
    rw [addNames, if_neg (fun h => hi h.1), ih hown, List.cons_append]

theorem own_takeNames (target : ModulePath) {more : List String} (deferred : Bool) (hne : more ≠ [])
    (hnodup : more.Nodup) (h : ∀ i ∈ t.own, i.source ≠ t.naming.nameOf t.package target.dotted) :
    (t.takeNames target more deferred).own =
      t.own ++ [⟨t.naming.nameOf t.package target.dotted, deferred, more.map (⟨·, none⟩)⟩] := by
  have hnames : (more.map fun name => ImportedName.mk name none).foldl add [] = more.map (⟨·, none⟩) := by
    rw [foldl_add_of_nodup, List.nil_append]
    exact hnodup.map fun a c hac => (ImportedName.mk.inj hac).1
  rw [takeNames, if_neg (by simpa using hne)]
  dsimp only [addFrom]
  rw [addNames_of_notMem h, hnames]

theorem own_foldl_takeNames {items : List α} {target : α → ModulePath} {more : α → List String}
    (hne : ∀ a ∈ items, more a ≠ [] ∧ (more a).Nodup) (htargets : (items.map fun a => (target a).dotted).Nodup)
    (hfresh : ∀ i ∈ t.own, ∀ a ∈ items, i.source ≠ t.naming.nameOf t.package (target a).dotted) :
    (items.foldl (fun t a => t.takeNames (target a) (more a) false) t).own = t.own ++ items.map fun a =>
      ⟨t.naming.nameOf t.package (target a).dotted, false, (more a).map (⟨·, none⟩)⟩ := by
  induction items generalizing t with
  | nil => exact (List.append_nil _).symm
  | cons a items ih =>
    obtain ⟨ha, hne⟩ := List.forall_mem_cons.mp hne
    obtain ⟨hnew, htargets⟩ := List.nodup_cons.mp htargets
    have hown := own_takeNames (target a) false ha.1 ha.2 fun i hi => hfresh i hi a List.mem_cons_self
    rw [List.foldl_cons, ih hne htargets, hown, naming_takeNames, package_takeNames, List.map_cons, List.append_assoc,
      List.singleton_append]
    intro i hi a' ha'
    rw [hown] at hi
    rw [naming_takeNames, package_takeNames]
    rcases List.mem_append.mp hi with hi | hi
    · exact hfresh i hi a' (List.mem_cons_of_mem _ ha')
    · rw [List.mem_singleton.mp hi]
      intro heq
      exact hnew (List.mem_map.mpr ⟨a', ha', (ModuleNaming.nameOf_injective _ _ heq).symm⟩)

end ImportTable

end ClientForge
