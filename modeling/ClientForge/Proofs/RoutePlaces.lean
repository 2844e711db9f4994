import ClientForge.Proofs.ModulePaths

/-!
The tree of routes as a whole: which nodes it has, in which order siblings stand, and what each node holds.
-/

namespace ClientForge.Route

open Outcome

def firstNeed (operations : List Operation) (q : List String) : ℕ :=
  operations.findIdx fun o => q.isPrefixOf (segments o.path)

/-- A tree with one node for every place on the way to an operation. Siblings stand as they are first needed, each
operation is held by the node at the end of its path, and nodes neither share a package nor export a name twice. -/
structure Covers (operations : List Operation) (root : RouteNode) : Prop where
  nodup_parts : (root.postOrder.map RouteNode.parts).Nodup
  mem_parts : ∀ q, q ∈ root.postOrder.map RouteNode.parts ↔ q = [] ∨ ∃ o ∈ operations, q <+: segments o.path
  child_parts : ∀ n ∈ root.postOrder, ∀ c ∈ n.children, ∃ segment, c.parts = n.parts ++ [segment]
  siblings : ∀ n ∈ root.postOrder,
    n.children.Pairwise fun a b => firstNeed operations a.parts < firstNeed operations b.parts
  held : ∀ o ∈ operations, ∃ n ∈ root.postOrder, n.parts = segments o.path ∧
    ∀ m ∈ root.postOrder, o ∈ m.operations ↔ m = n
  declared : ∀ n ∈ root.postOrder, n.operations = operations.filter fun o => segments o.path = n.parts
  nodup_packages : (root.postOrder.map RouteNode.package).Nodup
  exports : ∀ n ∈ root.postOrder, n.exports.Nodup ∧
    n.exports = n.operations.map (fun o => functionName o.method) ++ n.children.map RouteNode.symbol

section Need

variable {paths : List (List String)} {p q : List String}

theorem findIdx_isPrefixOf_nil (paths : List (List String)) : paths.findIdx (List.isPrefixOf []) = 0 := by
  cases paths <;> simp [List.findIdx_cons]

theorem mem_block {p q : List String} : q ∈ strictBeginnings p ++ [p] ↔ q <+: p ∧ (q ≠ [] ∨ q = p) := by
  rw [List.mem_append, List.mem_singleton, mem_strictBeginnings]
  constructor
  · rintro (⟨hq, hne, -⟩ | rfl)
    · exact ⟨hq, .inl hne⟩
    · exact ⟨List.prefix_rfl, .inr rfl⟩
  · rintro ⟨hq, hne⟩
    by_cases h : q = p
    · exact .inr h
    · exact .inl ⟨hq, hne.resolve_right h, h⟩

theorem findIdx_lt_of_mem_places (hq : q ∈ places paths) (hne : q ≠ []) :
    paths.findIdx q.isPrefixOf < paths.length := by
  obtain ⟨p, hp, hbegins⟩ := (mem_places.mp hq).resolve_left hne
  exact List.findIdx_lt_length_of_exists ⟨p, hp, List.isPrefixOf_iff_prefix.mpr hbegins⟩

theorem places_pairwise (paths : List (List String)) :
    (places paths).Pairwise fun a b => paths.findIdx a.isPrefixOf ≤ paths.findIdx b.isPrefixOf := by
  -- From the end: the last path adds its places behind the others, and needs none of them earlier.
  induction paths using List.reverseRecOn with
  | nil => exact List.pairwise_singleton _ _
  | append_singleton paths p ih =>
    have hold (q : List String) (hq : q ∈ places paths) :
        (paths ++ [p]).findIdx q.isPrefixOf = paths.findIdx q.isPrefixOf := by
      by_cases hne : q = []
      · rw [hne, findIdx_isPrefixOf_nil, findIdx_isPrefixOf_nil]
      · rw [List.findIdx_append, if_pos (findIdx_lt_of_mem_places hq hne)]
    have hnew (q : List String) (hq : q ∉ places paths) : paths.length ≤ (paths ++ [p]).findIdx q.isPrefixOf := by
      have hnone : ∀ p ∈ paths, q.isPrefixOf p = false := by
        intro p hp
        rw [Bool.eq_false_iff, Ne, List.isPrefixOf_iff_prefix]
        exact fun h => hq (mem_places.mpr (.inr ⟨p, hp, h⟩))
      rw [List.findIdx_append, if_neg (by rw [List.findIdx_eq_length.mpr hnone]; exact lt_irrefl _)]
      exact Nat.le_add_left _ _
    have hplaces : places (paths ++ [p]) = places paths ++
        ((strictBeginnings p ++ [p]).removeAll ([] :: paths.flatMap fun p => strictBeginnings p ++ [p])).eraseDups := by
      rw [places, List.flatMap_append, List.flatMap_singleton, ← List.cons_append, List.eraseDups_append]
      rfl
    rw [hplaces, List.pairwise_append]
    have hmem (q : List String) (hq : q ∈ ((strictBeginnings p ++ [p]).removeAll
        ([] :: paths.flatMap fun p => strictBeginnings p ++ [p])).eraseDups) : q ∉ places paths ∧ q <+: p := by
      rw [List.mem_eraseDups, List.removeAll, List.mem_filter, mem_block] at hq
      rw [places, List.mem_eraseDups]
      exact ⟨by simpa using hq.2, hq.1.1⟩
    have hlast (q : List String) (hq : q <+: p) : (paths ++ [p]).findIdx q.isPrefixOf ≤ paths.length := by
      have hlt : (paths ++ [p]).findIdx q.isPrefixOf < (paths ++ [p]).length :=
        List.findIdx_lt_length_of_exists ⟨p, by simp, List.isPrefixOf_iff_prefix.mpr hq⟩
      rw [List.length_append, List.length_singleton] at hlt
      omega
    refine ⟨?_, ?_, ?_⟩
    · refine ih.imp_of_mem fun {a b} ha hb h => ?_
      rwa [hold a ha, hold b hb]
    · apply List.pairwise_of_forall_mem_list
      intro a ha b hb
      exact (hlast a (hmem a ha).2).trans (hnew b (hmem b hb).1)
    · intro a ha b hb
      rw [hold a ha]
      refine le_trans ?_ (hnew b (hmem b hb).1)
      by_cases hne : a = []
      · rw [hne, findIdx_isPrefixOf_nil]
        exact Nat.zero_le _
      · exact (findIdx_lt_of_mem_places ha hne).le

theorem eq_of_findIdx_eq {a b : List String} (ha : a ∈ places paths) (hlength : a.length = b.length)
    (h : paths.findIdx a.isPrefixOf = paths.findIdx b.isPrefixOf) : a = b := by
  by_cases hne : a = []
  · rw [hne, List.length_nil] at hlength
    rw [hne, List.length_eq_zero_iff.mp hlength.symm]
  · have hlt := findIdx_lt_of_mem_places ha hne
    have hbegins := List.isPrefixOf_iff_prefix.mp (List.findIdx_getElem (w := hlt))
    have hbegins' := List.isPrefixOf_iff_prefix.mp (List.findIdx_getElem (w := h ▸ hlt))
    simp only [← h] at hbegins'
    exact (List.prefix_of_prefix_length_le hbegins hbegins' hlength.le).eq_of_length hlength

end Need

section Tree

variable {operations : List Operation} {root n : RouteNode}

theorem symbol_eq_of_parts {a b : RouteNode} (h : a.parts = b.parts) : a.symbol = b.symbol := by
  have hroot : a.isRoot = b.isRoot := by rw [RouteNode.isRoot, RouteNode.isRoot, h]
  rw [RouteNode.symbol, RouteNode.symbol, RouteNode.segment, RouteNode.segment, h, hroot]

theorem exports_of_mem_tree (h : tree operations = .ok root) (hn : n ∈ root.postOrder) : n.exports.Nodup ∧
    n.exports = n.operations.map (fun o => functionName o.method) ++ n.children.map RouteNode.symbol := by
  obtain ⟨fuel, hnode⟩ := nodeAt_of_mem_postOrder h hn
  obtain ⟨-, -, -, hexports, hnodup, -⟩ := makeNode_eq_ok (nodeAt_made hnode)
  refine ⟨hnodup, ?_⟩
  rw [hexports, exportClaims, List.map_append, List.map_map, List.map_map]
  rfl

theorem siblings_of_mem_tree (h : tree operations = .ok root) (hn : n ∈ root.postOrder) :
    n.children.Pairwise fun a b => firstNeed operations a.parts < firstNeed operations b.parts := by
  obtain ⟨hnodup, hexports⟩ := exports_of_mem_tree h hn
  rw [hexports] at hnodup
  have hsymbols := List.pairwise_map.mp hnodup.of_append_right
  have hsublist := (children_of_mem_tree h hn).trans List.filter_sublist
  have hordered := List.pairwise_map.mp ((places_pairwise _).sublist hsublist)
  refine (hordered.and hsymbols).imp_of_mem fun {a b} ha hb hboth => ?_
  obtain ⟨hle, hsymbol⟩ := hboth
  rw [List.findIdx_map, List.findIdx_map] at hle
  refine lt_of_le_of_ne hle fun heq => hsymbol ?_
  obtain ⟨sa, hsa⟩ := (child_of_mem_tree h hn ha).2
  obtain ⟨sb, hsb⟩ := (child_of_mem_tree h hn hb).2
  have hparts : a.parts = b.parts := by
    apply eq_of_findIdx_eq (hsublist.subset (List.mem_map_of_mem ha))
    · simp [hsa, hsb]
    · rw [List.findIdx_map, List.findIdx_map]
      exact heq
  exact symbol_eq_of_parts hparts

theorem nodup_postOrder (h : tree operations = .ok root) : (root.postOrder.map RouteNode.parts).Nodup := by
  have hpackages : (root.postOrder.map RouteNode.package) = (root.postOrder.map RouteNode.parts).map package := by
    rw [List.map_map]
    rfl
  exact List.Nodup.of_map _ (hpackages ▸ nodup_packages h)

theorem mem_parts_iff (h : tree operations = .ok root) (q : List String) :
    q ∈ root.postOrder.map RouteNode.parts ↔ q = [] ∨ ∃ o ∈ operations, q <+: segments o.path := by
  have hplaces : q ∈ places (operations.map fun o => segments o.path) ↔
      q = [] ∨ ∃ o ∈ operations, q <+: segments o.path := by
    simp only [mem_places, List.mem_map, exists_exists_and_eq_and]
  rw [← hplaces]
  constructor
  · intro hq
    obtain ⟨n, hn, rfl⟩ := List.mem_map.mp hq
    rcases parent_of_mem_tree h hn with ⟨hroot, -⟩ | ⟨-, p, hp, hchild, -⟩
    · rw [List.isEmpty_iff.mp hroot]
      exact mem_places.mpr (.inl rfl)
    · exact (mem_childrenOf.mp ((children_of_mem_tree h hp).subset (List.mem_map_of_mem hchild))).1
  · intro hq
    have hlength := length_le_of_mem_places hq
    rw [← Nat.zero_add (List.foldl _ _ _), ← List.length_nil (α := String)] at hlength
    obtain ⟨n, hn, hparts⟩ := exists_node (fun _ hq _ => mem_places_of_prefix hq) h hq List.nil_prefix hlength
    exact hparts ▸ List.mem_map_of_mem hn

theorem held_by (h : tree operations = .ok root) {o : Operation} (ho : o ∈ operations) :
    ∃ n ∈ root.postOrder, n.parts = segments o.path ∧ ∀ m ∈ root.postOrder, o ∈ m.operations ↔ m = n := by
  obtain ⟨n, hn, hparts, hmine⟩ := exists_node_of_operation h ho
  refine ⟨n, hn, hparts, fun m hm => ⟨fun hother => ?_, fun heq => heq ▸ hmine⟩⟩
  rw [operations_of_mem_tree h hm] at hother
  have hm' : segments o.path = m.parts := by simpa using (List.mem_filter.mp hother).2
  exact List.inj_on_of_nodup_map (nodup_postOrder h) hm hn (hm'.symm.trans hparts.symm)

/-- A tree that is made covers the operations that it is made for. -/
theorem covers_of_tree (h : tree operations = .ok root) : Covers operations root where
  nodup_parts := nodup_postOrder h
  mem_parts := mem_parts_iff h
  child_parts n hn c hc := (child_of_mem_tree h hn hc).2
  siblings n hn := siblings_of_mem_tree h hn
  held o ho := held_by h ho
  declared n hn := by
    rw [operations_of_mem_tree h hn, operationsAt]
    exact List.filter_congr fun o _ => beq_eq_decide ..
  nodup_packages := nodup_packages h
  exports n hn := exports_of_mem_tree h hn

theorem covers_scattered : ∃ root, tree [.bare .get "/b/\x7bid\x7d/parts" none, .bare .get "/" none,
    .bare .put "/a" none, .bare .get "//b/all/" none, .bare .get "/a/" none] = .ok root ∧
      root.postOrder.map RouteNode.parts =
        [["b", "\x7bid\x7d", "parts"], ["b", "\x7bid\x7d"], ["b", "all"], ["b"], ["a"], []] ∧
      Covers [.bare .get "/b/\x7bid\x7d/parts" none, .bare .get "/" none, .bare .put "/a" none,
        .bare .get "//b/all/" none, .bare .get "/a/" none] root := by
  have hok : (fun root => root.postOrder.map RouteNode.parts) <$> tree [.bare .get "/b/\x7bid\x7d/parts" none,
      .bare .get "/" none, .bare .put "/a" none, .bare .get "//b/all/" none, .bare .get "/a/" none] =
        .ok [["b", "\x7bid\x7d", "parts"], ["b", "\x7bid\x7d"], ["b", "all"], ["b"], ["a"], []] := by
    decide +kernel
  obtain ⟨root, h, hparts⟩ := map_eq_ok.mp hok
  exact ⟨root, h, hparts, covers_of_tree h⟩

end Tree

end ClientForge.Route
