import ClientForge.Proofs.AliasTables
import ClientForge.Proofs.FieldNames
import ClientForge.Proofs.Lists
import ClientForge.Proofs.RoutePlaces

/-!
When a list of operations has no table of aliases, and what the table holds if there is one.
-/

namespace ClientForge

open Outcome

namespace Route

/-- Two operations at different positions have ids, not empty ones, that make the same identifier. -/
def SharesAlias (operations : List Operation) : Prop :=
  ∃ (i j : Fin operations.length) (a b : String), i ≠ j ∧ operations[i].operationId = some a ∧ a ≠ "" ∧
    operations[j].operationId = some b ∧ b ≠ "" ∧ Naming.identifier a = Naming.identifier b

def identified (operations : List Operation) : List Operation :=
  operations.filter fun o => o.operationId.any (· ≠ "")

structure IsAliasOf (o : Operation) (e : AliasEntry) : Prop where
  operationId : o.operationId = some e.operationId
  symbol : e.symbol = Naming.identifier e.operationId
  package : e.package = packageOf o.path
  function : e.function = functionName o.method
  location : e.location = o.location

/-- A table has an entry for each operation with an id, in their order, under symbols of their own. Its packages are
those of the entries, each once and as it is first used, and in the tree of the same operations the package of an entry
is that of the only node with its operation. -/
structure Lists (operations : List Operation) (t : AliasTable) : Prop where
  entries : List.Forall₂ IsAliasOf (identified operations) t.entries
  nodup_symbols : t.symbols.Nodup
  symbols : ∀ s ∈ t.symbols, Naming.IsIdentifier s ∧ s ∉ Naming.keywords
  nodup_packages : t.packages.Nodup
  mem_packages : ∀ p, p ∈ t.packages ↔ ∃ e ∈ t.entries, e.package = p
  packages_first : t.packages.Pairwise fun p q =>
    t.entries.findIdx (·.package == p) < t.entries.findIdx (·.package == q)
  held : ∀ root, tree operations = .ok root → List.Forall₂ (fun o e => ∃ n ∈ root.postOrder,
    (∀ m ∈ root.postOrder, o ∈ m.operations ↔ m = n) ∧ e.package = n.package) (identified operations) t.entries

section Conflicts

variable {before : List AliasEntry} {operations : List Operation} {o : Operation} {e : AliasEntry}

theorem idOf?_eq_some {id : String} : idOf? o = some id ↔ o.operationId = some id ∧ id ≠ "" := by
  simp [idOf?, Option.filter_eq_some_iff]

theorem isSome_idOf? (o : Operation) : (idOf? o).isSome = o.operationId.any (· ≠ "") := by
  rw [idOf?, Option.isSome_filter]

theorem isAliasOf_of_aliasOf? (h : aliasOf? o = some e) : IsAliasOf o e := by
  obtain ⟨id, hid, rfl⟩ := Option.map_eq_some_iff.mp h
  exact ⟨(idOf?_eq_some.mp hid).1, rfl, rfl, rfl, rfl⟩

theorem aliasConflict?_eq_none_iff (hbefore : ∀ x ∈ before, x.symbol = Naming.identifier x.operationId)
    (he : e.symbol = Naming.identifier e.operationId) :
    aliasConflict? before e = none ↔ e.symbol ∉ before.map (·.symbol) := by
  refine ⟨fun h => (notMem_of_aliasConflict? h).2, fun h => ?_⟩
  have hsymbol : before.find? (·.symbol == e.symbol) = none := by
    refine List.find?_eq_none.mpr fun x hx heq => h ?_
    exact beq_iff_eq.mp heq ▸ List.mem_map_of_mem hx
  have hid : before.find? (·.operationId == e.operationId) = none := by
    refine List.find?_eq_none.mpr fun x hx heq => h ?_
    rw [he, ← beq_iff_eq.mp heq, ← hbefore x hx]
    exact List.mem_map_of_mem hx
  rw [aliasConflict?, hid, hsymbol]

theorem aliasesAfter_isOk_iff (hbefore : ∀ x ∈ before, x.symbol = Naming.identifier x.operationId)
    (hnodup : (before.map (·.symbol)).Nodup) : (∃ entries, aliasesAfter before operations = .ok entries) ↔
      ((before ++ operations.filterMap aliasOf?).map (·.symbol)).Nodup := by
  -- `before` grows by the entry that is made, which keeps what is asked of it unless there is a conflict.
  induction operations generalizing before with
  | nil => simpa [aliasesAfter] using hnodup
  | cons o operations ih =>
    cases hid : idOf? o with
    | none =>
      have hnone : aliasOf? o = none := by rw [aliasOf?, hid, Option.map_none]
      rw [aliasesAfter, hid, List.filterMap_cons_none hnone]
      exact ih hbefore hnodup
    | some id =>
      have hsome : aliasOf? o = some (aliasOf o id) := by rw [aliasOf?, hid, Option.map_some]
      have hfree := aliasConflict?_eq_none_iff hbefore (e := aliasOf o id) rfl
      rw [aliasesAfter, hid, List.filterMap_cons_some hsome, List.append_cons]
      dsimp only
      cases hconflict : aliasConflict? before (aliasOf o id) with
      | none =>
        refine ih ?_ (nodup_map_concat hnodup (hfree.mp hconflict))
        simp only [List.mem_append, List.mem_singleton]
        rintro x (hx | rfl)
        · exact hbefore x hx
        · rfl
      | some fault =>
        have hmem : (aliasOf o id).symbol ∈ before.map (·.symbol) := by
          by_contra hnot
          rw [hfree.mpr hnot] at hconflict
          cases hconflict
        refine iff_of_false (by rintro ⟨entries, h⟩; cases h) fun h => ?_
        rw [List.map_append, List.map_append, List.map_singleton] at h
        exact (List.nodup_append.mp h.of_append_left).2.2 _ hmem _ (List.mem_singleton_self _) rfl

theorem nodup_identifiers_iff :
    ((operations.filterMap idOf?).map Naming.identifier).Nodup ↔ ¬SharesAlias operations := by
  rw [List.Nodup, List.pairwise_map, List.pairwise_filterMap, List.pairwise_iff_getElem]
  simp only [idOf?_eq_some]
  constructor
  · rintro h ⟨i, j, a, b, hne, ha, ha', hb, hb', heq⟩
    rcases Nat.lt_or_gt_of_ne (Fin.val_ne_of_ne hne) with hlt | hlt
    · exact h i j i.2 j.2 hlt a ⟨ha, ha'⟩ b ⟨hb, hb'⟩ heq
    · exact h j i j.2 i.2 hlt b ⟨hb, hb'⟩ a ⟨ha, ha'⟩ heq.symm
  · intro h i j hi hj hlt a ha b hb heq
    exact h ⟨⟨i, hi⟩, ⟨j, hj⟩, a, b, Fin.ne_of_lt hlt, ha.1, ha.2, hb.1, hb.2, heq⟩

theorem aliases_isOk_iff : (∃ t, aliases operations = .ok t) ↔ ¬SharesAlias operations := by
  have hsymbols : (operations.filterMap aliasOf?).map (·.symbol) =
      (operations.filterMap idOf?).map Naming.identifier := by
    rw [List.map_filterMap, List.map_filterMap]
    refine List.filterMap_congr fun o _ => ?_
    rw [aliasOf?, Option.map_map]
    rfl
  have hentries : (∃ entries, aliasesAfter [] operations = .ok entries) ↔
      (([] ++ operations.filterMap aliasOf?).map AliasEntry.symbol).Nodup := aliasesAfter_isOk_iff (by simp) (by simp)
  rw [List.nil_append, hsymbols, nodup_identifiers_iff] at hentries
  rw [← hentries]
  constructor
  · rintro ⟨t, h⟩
    obtain ⟨entries, hok, -⟩ := map_eq_ok.mp h
    exact ⟨entries, hok⟩
  · rintro ⟨entries, h⟩
    exact ⟨⟨entries⟩, map_eq_ok.mpr ⟨entries, h, rfl⟩⟩

theorem aliases_fails : FailsOnly Failure.IsAliasConflict (aliases operations) := (aliasesAfter_fails []).map _

end Conflicts

section Table

variable {operations : List Operation} {t : AliasTable}

theorem isAliasOf_entries (h : aliases operations = .ok t) :
    List.Forall₂ IsAliasOf (identified operations) t.entries := by
  rw [(entries_of_aliases h).1]
  clear h
  induction operations with
  | nil => exact .nil
  | cons o operations ih =>
    cases hid : idOf? o with
    | none =>
      have hnone : aliasOf? o = none := by rw [aliasOf?, hid, Option.map_none]
      rw [identified, List.filter_cons_of_neg (by rw [← isSome_idOf?, hid]; simp), List.filterMap_cons_none hnone]
      exact ih
    | some id =>
      have hsome : aliasOf? o = some (aliasOf o id) := by rw [aliasOf?, hid, Option.map_some]
      rw [identified, List.filter_cons_of_pos (by rw [← isSome_idOf?, hid]; rfl), List.filterMap_cons_some hsome]
      exact .cons (isAliasOf_of_aliasOf? hsome) ih

theorem lists_of_aliases (h : aliases operations = .ok t) : Lists operations t where
  entries := isAliasOf_entries h
  nodup_symbols := (entries_of_aliases h).2.2
  symbols s hs := by
    rw [symbols_of_aliases h] at hs
    obtain ⟨id, -, rfl⟩ := List.mem_map.mp hs
    exact ⟨Naming.identifier_isIdentifier id, Naming.identifier_notMem_keywords id⟩
  nodup_packages := nodup_eraseDups _
  mem_packages p := by rw [AliasTable.packages, List.mem_eraseDups, List.mem_map]
  packages_first := pairwise_findIdx_eraseDups AliasEntry.package t.entries
  held root hroot := by
    have hentries := isAliasOf_entries h
    refine List.forall₂_iff_zip.mpr ⟨hentries.length_eq, fun {o e} hmem => ?_⟩
    have hmade := (List.forall₂_iff_zip.mp hentries).2 hmem
    obtain ⟨n, hn, hparts, honly⟩ := held_by hroot (List.mem_of_mem_filter (List.of_mem_zip hmem).1)
    refine ⟨n, hn, honly, ?_⟩
    rw [hmade.package, packageOf, RouteNode.package, hparts]

/-- There is no table exactly if two operations share an alias, and nothing else is wrong then. Otherwise the table
lists all operations that have an id. -/
theorem aliases_conflict_iff (operations : List Operation) :
    ((∃ fault, aliases operations = .error (.aliasConflict fault)) ↔ SharesAlias operations) ∧
      (∀ e, aliases operations = .error e → ∃ fault, e = .aliasConflict fault) ∧
      (¬SharesAlias operations → ∃ t, aliases operations = .ok t ∧ Lists operations t) := by
  have hok : (∃ t, aliases operations = .ok t) ↔ ¬SharesAlias operations := aliases_isOk_iff
  refine ⟨⟨?_, fun hshared => ?_⟩, aliases_fails, fun hapart => ?_⟩
  · rintro ⟨fault, h⟩
    by_contra hapart
    obtain ⟨t, ht⟩ := hok.mpr hapart
    cases h.symm.trans ht
  · cases h : aliases operations with
    | error e =>
      obtain ⟨fault, rfl⟩ := aliases_fails e h
      exact ⟨fault, rfl⟩
    | ok t => exact absurd hshared (hok.mp ⟨t, h⟩)
  · obtain ⟨t, h⟩ := hok.mpr hapart
    exact ⟨t, h, lists_of_aliases h⟩

theorem aliases_conflict_iff_keywords :
    let operations : List Operation := [.bare .get "/pets" (some "class"), .bare .get "/" (some ""),
      .bare .put "/{id}/all" (some "put-all"), .bare .post "/pets/" (some "2nd"), .bare .delete "/" none]
    ∃ t, aliases operations = .ok t ∧ Lists operations t ∧ t.symbols = ["class_", "put_all", "_2nd"] ∧
      t.packages = [["pets"], ["by_id", "all"]] := by
  intro operations
  have hmade : (aliases operations).toOption.map (fun t => (t.symbols, t.packages)) =
      some (["class_", "put_all", "_2nd"], [["pets"], ["by_id", "all"]]) := by decide +kernel
  have hapart : ¬SharesAlias operations := by
    rw [← nodup_identifiers_iff]
    decide +kernel
  obtain ⟨t, ht, hlists⟩ := (aliases_conflict_iff operations).2.2 hapart
  rw [ht] at hmade
  obtain ⟨hsymbols, hpackages⟩ := Prod.mk.inj (Option.some.inj hmade)
  exact ⟨t, ht, hlists, hsymbols, hpackages⟩

end Table

end Route

end ClientForge
