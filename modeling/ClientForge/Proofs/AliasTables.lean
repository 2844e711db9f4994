import ClientForge.Package.Routes
import ClientForge.Proofs.ImportTables
import ClientForge.Proofs.Outcomes
import Mathlib.Data.List.Nodup
import Mathlib.Data.List.Pairwise

namespace ClientForge

open Outcome

namespace Route

theorem notMem_of_aliasConflict? {before : List AliasEntry} {e : AliasEntry} (h : aliasConflict? before e = none) :
    e.operationId ∉ before.map (·.operationId) ∧ e.symbol ∉ before.map (·.symbol) := by
  unfold aliasConflict? at h
  split at h
  · cases h
  · cases h
  · rename_i hid hsymbol
    constructor <;> intro hmem <;> obtain ⟨first, hfirst, heq⟩ := List.mem_map.mp hmem
    · exact List.find?_eq_none.mp hid first hfirst (by simpa using heq)
    · exact List.find?_eq_none.mp hsymbol first hfirst (by simpa using heq)

theorem nodup_map_concat {α β : Type} {f : α → β} {l : List α} {a : α} (h : (l.map f).Nodup) (ha : f a ∉ l.map f) :
    ((l ++ [a]).map f).Nodup := by
  rw [List.map_append, List.map_singleton, ← List.concat_eq_append]
  exact List.Nodup.concat ha h

def aliasOf? (o : Operation) : Option AliasEntry := (idOf? o).map (aliasOf o)

theorem aliasesAfter_eq_ok {before entries : List AliasEntry} {operations : List Operation}
    (h : aliasesAfter before operations = .ok entries) (hids : (before.map (·.operationId)).Nodup)
    (hsymbols : (before.map (·.symbol)).Nodup) :
    entries = before ++ operations.filterMap aliasOf? ∧ (entries.map (·.operationId)).Nodup ∧
      (entries.map (·.symbol)).Nodup := by
  induction operations generalizing before with
  | nil =>
    cases h
    exact ⟨(List.append_nil _).symm, hids, hsymbols⟩
  | cons o operations ih =>
    unfold aliasesAfter at h
    split at h
    · rename_i hid
      have hnone : aliasOf? o = none := by rw [aliasOf?, hid, Option.map_none]
      rw [List.filterMap_cons_none hnone]
      exact ih h hids hsymbols
    · rename_i id hid
      have hsome : aliasOf? o = some (aliasOf o id) := by rw [aliasOf?, hid, Option.map_some]
      dsimp only at h
      split at h
      · cases h
      · rename_i hconflict
        obtain ⟨hnewId, hnewSymbol⟩ := notMem_of_aliasConflict? hconflict
        rw [List.filterMap_cons_some hsome, List.append_cons]
        exact ih h (nodup_map_concat hids hnewId) (nodup_map_concat hsymbols hnewSymbol)

section Table

variable {operations : List Operation} {table : AliasTable}

theorem entries_of_aliases (h : aliases operations = .ok table) :
    table.entries = operations.filterMap aliasOf? ∧ (table.entries.map (·.operationId)).Nodup ∧
      table.symbols.Nodup := by
  obtain ⟨entries, hentries, rfl⟩ := map_eq_ok.mp h
  exact aliasesAfter_eq_ok hentries List.nodup_nil List.nodup_nil

theorem symbols_of_aliases (h : aliases operations = .ok table) :
    table.symbols = (operations.filterMap idOf?).map Naming.identifier := by
  rw [AliasTable.symbols, (entries_of_aliases h).1, List.map_filterMap, List.map_filterMap]
  apply List.filterMap_congr
  intro o _
  rw [aliasOf?, Option.map_map]
  rfl

theorem aliasOf_mem_entries (h : aliases operations = .ok table) {o : Operation} (ho : o ∈ operations) {id : String}
    (hid : idOf? o = some id) : aliasOf o id ∈ table.entries := by
  rw [(entries_of_aliases h).1]
  exact List.mem_filterMap.mpr ⟨o, ho, by rw [aliasOf?, hid, Option.map_some]⟩

theorem eq_of_idOf? (h : aliases operations = .ok table) {a b : Operation} (ha : a ∈ operations)
    (hb : b ∈ operations) {id : String} (hida : idOf? a = some id) (hidb : idOf? b = some id) : a = b := by
  obtain ⟨hentries, hids, -⟩ := entries_of_aliases h
  have hmap : table.entries.map (·.operationId) = operations.filterMap idOf? := by
    rw [hentries, List.map_filterMap]
    apply List.filterMap_congr
    intro o _
    rw [aliasOf?, Option.map_map]
    exact Option.map_id'
  rw [hmap, List.Nodup, List.pairwise_filterMap] at hids
  have hsymm : Std.Symm fun a b : Operation => ∀ x, idOf? a = some x → ∀ y, idOf? b = some y → x ≠ y :=
    ⟨fun a b hab x hx y hy => (hab y hy x hx).symm⟩
  by_contra hne
  exact hids.forall ha hb hne id hida id hidb rfl

end Table

end Route

def ImportedName.bound (n : ImportedName) : String := n.asName.getD n.name

def Import.bound (i : Import) : List String :=
  if i.names = [] then [(i.source.text.pieces '.').headD ""] else i.names.map ImportedName.bound

namespace ImportTable

def bound (own : List OwnImport) : List String := own.flatMap (·.names.map ImportedName.bound)

theorem bound_addNames {own : List OwnImport} {n : ImportedName} (h : n.bound ∉ bound own) (source : ModuleName)
    (deferred : Bool) : (bound (addNames own source deferred [n])).Perm (bound own ++ [n.bound]) := by
  induction own with
  | nil => exact .refl _
  | cons i own ih =>
    rw [bound, List.flatMap_cons, List.mem_append, not_or] at h
    unfold addNames
    split
    · have hn : n ∉ i.names := fun hmem => h.1 (List.mem_map_of_mem hmem)
      simp only [bound, List.flatMap_cons, List.foldl_cons, List.foldl_nil, add, if_neg hn, List.map_append,
        List.map_cons, List.map_nil, List.append_assoc]
      exact List.perm_append_comm.append_left _
    · rw [bound, bound, List.flatMap_cons, List.flatMap_cons, List.append_assoc]
      exact (ih h.2).append_left _

def IsPlain (own : List OwnImport) : Prop := ∀ i ∈ own, i.deferred = false ∧ i.names ≠ []

theorem isPlain_addNames {own : List OwnImport} (h : IsPlain own) (source : ModuleName) (n : ImportedName) :
    IsPlain (addNames own source false [n]) := by
  have hadd (names : List ImportedName) : add names n ≠ [] :=
    List.ne_nil_of_mem ((mem_add names n n).mpr (.inr rfl))
  induction own with
  | nil => exact fun i hi => List.mem_singleton.mp hi ▸ ⟨rfl, hadd []⟩
  | cons i own ih =>
    obtain ⟨hi, hown⟩ := List.forall_mem_cons.mp h
    unfold addNames
    split
    · exact List.forall_mem_cons.mpr ⟨⟨hi.1, hadd _⟩, hown⟩
    · exact List.forall_mem_cons.mpr ⟨hi, ih hown⟩

theorem bound_imports {t : ImportTable} (h : IsPlain t.own) (hsymbols : t.symbols = [])
    (hlibraries : t.libraries = []) : t.imports.flatMap Import.bound = bound t.own := by
  have hdeferred : t.own.any (·.deferred) = false := by
    rw [List.any_eq_false]
    intro i hi
    simp [(h i hi).1]
  have hown : t.own.filter (!·.deferred) = t.own := by
    rw [List.filter_eq_self]
    intro i hi
    simp [(h i hi).1]
  have hlibrary : Library.imports [] = [] := by simp [Library.imports, Library.statement?]
  rw [imports, hsymbols, hlibraries, hdeferred, hown]
  simp only [List.map_nil, List.nil_append, hlibrary, Bool.false_eq_true, if_false, List.flatMap_map, bound]
  exact List.flatMap_congr fun i hi => if_neg (h i hi).2

variable (t : ImportTable) (target : ModulePath) (s : ModuleName) (d : Bool) (n : ImportedName)

def moduleName (target : ModulePath) (asName : Option String) : ImportedName :=
  let name := target.dotted.getLast?.getD ""
  ⟨name, asName.filter (· ≠ name)⟩

theorem bound_moduleName (asName : String) : (moduleName target (some asName)).bound = asName := by
  unfold moduleName ImportedName.bound
  dsimp only
  by_cases h : asName = target.dotted.getLast?.getD "" <;> simp [Option.filter, h]

theorem has_foldl_takeModule {α : Type} (items : List α) (target : α → ModulePath) (asName : α → Option String) :
    (items.foldl (fun t a => t.takeModule (target a) (asName a)) t).Has s d n ↔
      t.Has s d n ∨ ∃ a ∈ items, s = t.naming.nameOf t.package (target a).dotted.dropLast ∧ d = false ∧
        n = moduleName (target a) (asName a) := by
  induction items generalizing t with
  | nil => simp
  | cons a items ih =>
    have htake : (t.takeModule (target a) (asName a)).Has s d n ↔ t.Has s d n ∨
          s = t.naming.nameOf t.package (target a).dotted.dropLast ∧ d = false ∧
            n = moduleName (target a) (asName a) := by
      rw [takeModule, has_addFrom, List.mem_singleton]
      rfl
    have hnaming : (t.takeModule (target a) (asName a)).naming = t.naming := rfl
    have hpackage : (t.takeModule (target a) (asName a)).package = t.package := rfl
    rw [List.foldl_cons, ih, htake, hnaming, hpackage]
    simp only [List.mem_cons, exists_eq_or_imp, or_assoc]

theorem bound_foldl_takeModule {α : Type} (items : List α) (target : α → ModulePath) (asName : α → String)
    (h : (bound t.own ++ items.map asName).Nodup) (hplain : IsPlain t.own) (hsymbols : t.symbols = [])
    (hlibraries : t.libraries = []) :
    ((items.foldl (fun t a => t.takeModule (target a) (some (asName a))) t).imports.flatMap Import.bound).Perm
      (bound t.own ++ items.map asName) := by
  induction items generalizing t with
  | nil =>
    rw [List.foldl_nil, bound_imports hplain hsymbols hlibraries, List.map_nil, List.append_nil]
  | cons a items ih =>
    have hnew : (moduleName (target a) (some (asName a))).bound ∉ bound t.own := by
      rw [bound_moduleName]
      intro hmem
      rw [List.map_cons, List.nodup_middle, List.nodup_cons] at h
      exact h.1 (List.mem_append_left _ hmem)
    have hperm : (bound (t.takeModule (target a) (some (asName a))).own ++ items.map asName).Perm
        (bound t.own ++ (a :: items).map asName) := by
      rw [List.map_cons, List.append_cons]
      apply List.Perm.append_right
      have hadd := bound_addNames hnew (t.naming.nameOf t.package (target a).dotted.dropLast) false
      rwa [bound_moduleName] at hadd
    have hplain := isPlain_addNames hplain (t.naming.nameOf t.package (target a).dotted.dropLast)
      (moduleName (target a) (some (asName a)))
    have hrest := ih (t.takeModule (target a) (some (asName a))) (hperm.nodup_iff.mpr h) hplain hsymbols hlibraries
    exact hrest.trans hperm

end ImportTable

namespace Package

theorem nodup_localNames {taken : List String} (h : taken.Nodup) (packages : List (List String)) :
    (taken ++ (localNames taken packages).map (·.2)).Nodup := by
  induction packages generalizing taken with
  | nil => simpa [localNames] using h
  | cons package packages ih =>
    rw [localNames, List.map_cons, List.append_cons]
    apply ih
    rw [← List.concat_eq_append]
    exact List.Nodup.concat (Naming.unique_notMem _ _ _) h

theorem exists_localName (taken : List String) {packages : List (List String)} {package : List String}
    (h : package ∈ packages) : ∃ name, (package, name) ∈ localNames taken packages ∧
      (localNames taken packages).lookup package = some name := by
  induction packages generalizing taken with
  | nil => cases h
  | cons first packages ih =>
    rw [localNames]
    by_cases heq : package = first
    · subst heq
      exact ⟨_, List.mem_cons_self, List.lookup_cons_self⟩
    · obtain ⟨name, hmem, hlookup⟩ := ih _ ((List.mem_cons.mp h).resolve_left heq)
      refine ⟨name, List.mem_cons_of_mem _ hmem, ?_⟩
      rw [List.lookup_cons, beq_eq_false_iff_ne.mpr heq, hlookup]

end Package

end ClientForge
