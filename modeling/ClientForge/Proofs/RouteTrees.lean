import ClientForge.Proofs.Names
import ClientForge.Proofs.Outcomes
import ClientForge.Route.Alias

namespace ClientForge

open Outcome

namespace RouteNode

mutual

theorem mem_postOrder (m : RouteNode) : ∀ n : RouteNode, m ∈ n.postOrder ↔ m = n ∨ ∃ c ∈ n.children, m ∈ c.postOrder
  | mk parts operations children exports => by
    rw [postOrder, List.mem_append, List.mem_singleton, mem_postOrders m children, or_comm]
    rfl

theorem mem_postOrders (m : RouteNode) : ∀ ns : List RouteNode, m ∈ postOrders ns ↔ ∃ n ∈ ns, m ∈ n.postOrder
  | [] => by simp [postOrders]
  | n :: rest => by simp [postOrders, mem_postOrders m rest]

end

theorem self_mem_postOrder (n : RouteNode) : n ∈ n.postOrder := (mem_postOrder n n).mpr (.inl rfl)

theorem mem_postOrder_of_child {n c m : RouteNode} (hc : c ∈ n.children) (hm : m ∈ c.postOrder) : m ∈ n.postOrder :=
  (mem_postOrder m n).mpr (.inr ⟨c, hc, hm⟩)

mutual

theorem child_mem_postOrder {m c : RouteNode} (hc : c ∈ m.children) :
    ∀ n : RouteNode, m ∈ n.postOrder → c ∈ n.postOrder
  | mk parts operations children exports, hm => by
    rcases List.mem_append.mp hm with hm | hm
    · exact List.mem_append_left _ (child_mem_postOrders hc children hm)
    · rw [List.mem_singleton.mp hm] at hc
      exact mem_postOrder_of_child hc c.self_mem_postOrder

theorem child_mem_postOrders {m c : RouteNode} (hc : c ∈ m.children) :
    ∀ ns : List RouteNode, m ∈ postOrders ns → c ∈ postOrders ns
  | [], hm => by cases hm
  | n :: rest, hm => by
    rcases List.mem_append.mp hm with hm | hm
    · exact List.mem_append_left _ (child_mem_postOrder hc n hm)
    · exact List.mem_append_right _ (child_mem_postOrders hc rest hm)

end

mutual

theorem eq_or_exists_parent (m : RouteNode) :
    ∀ n : RouteNode, m ∈ n.postOrder → m = n ∨ ∃ p ∈ n.postOrder, m ∈ p.children
  | mk parts operations children exports, hm => by
    rcases List.mem_append.mp hm with hm | hm
    · rcases mem_or_exists_parent m children hm with hm | ⟨p, hp, hm⟩
      · exact .inr ⟨_, self_mem_postOrder _, hm⟩
      · exact .inr ⟨p, List.mem_append_left _ hp, hm⟩
    · exact .inl (List.mem_singleton.mp hm)

theorem mem_or_exists_parent (m : RouteNode) :
    ∀ ns : List RouteNode, m ∈ postOrders ns → m ∈ ns ∨ ∃ p ∈ postOrders ns, m ∈ p.children
  | [], hm => by cases hm
  | n :: rest, hm => by
    rcases List.mem_append.mp hm with hm | hm
    · rcases eq_or_exists_parent m n hm with rfl | ⟨p, hp, hm⟩
      · exact .inl List.mem_cons_self
      · exact .inr ⟨p, List.mem_append_left _ hp, hm⟩
    · rcases mem_or_exists_parent m rest hm with hm | ⟨p, hp, hm⟩
      · exact .inl (List.mem_cons_of_mem _ hm)
      · exact .inr ⟨p, List.mem_append_right _ hp, hm⟩

end

end RouteNode

namespace Route

theorem mem_strictBeginnings {q p : List String} : q ∈ strictBeginnings p ↔ q <+: p ∧ q ≠ [] ∧ q ≠ p := by
  rw [strictBeginnings, List.mem_map]
  constructor
  · rintro ⟨k, hk, rfl⟩
    rw [List.mem_range] at hk
    refine ⟨List.take_prefix _ _, fun h => ?_, fun h => ?_⟩ <;> have hl := congrArg List.length h <;>
      rw [List.length_take] at hl
    · rw [List.length_nil] at hl
      omega
    · omega
  · rintro ⟨hbegins, hne, hp⟩
    have hlt : q.length < p.length :=
      Nat.lt_of_le_of_ne hbegins.length_le fun h => hp (hbegins.eq_of_length h)
    have hpos := List.length_pos_iff.mpr hne
    refine ⟨q.length - 1, List.mem_range.mpr (by omega), ?_⟩
    rw [Nat.sub_add_cancel hpos, ← List.prefix_iff_eq_take.mp hbegins]

theorem mem_places {paths : List (List String)} {q : List String} :
    q ∈ places paths ↔ q = [] ∨ ∃ p ∈ paths, q <+: p := by
  rw [places, List.mem_eraseDups, List.mem_cons, List.mem_flatMap]
  simp only [List.mem_append, List.mem_singleton, mem_strictBeginnings]
  constructor
  · rintro (rfl | ⟨p, hp, ⟨hq, -, -⟩ | rfl⟩)
    · exact .inl rfl
    · exact .inr ⟨p, hp, hq⟩
    · exact .inr ⟨q, hp, List.prefix_rfl⟩
  · rintro (rfl | ⟨p, hp, hq⟩)
    · exact .inl rfl
    · by_cases hne : q = []
      · exact .inl hne
      · by_cases heq : q = p
        · exact .inr ⟨p, hp, .inr heq⟩
        · exact .inr ⟨p, hp, .inl ⟨hq, hne, heq⟩⟩

theorem mem_places_of_prefix {paths : List (List String)} {q q' : List String} (hq : q ∈ places paths)
    (h : q' <+: q) : q' ∈ places paths := by
  rw [mem_places] at hq ⊢
  rcases hq with rfl | ⟨p, hp, hq⟩
  · exact .inl (List.prefix_nil.mp h)
  · exact .inr ⟨p, hp, h.trans hq⟩

theorem le_foldl_max (lengths : List ℕ) (start : ℕ) :
    start ≤ lengths.foldl max start ∧ ∀ k ∈ lengths, k ≤ lengths.foldl max start := by
  induction lengths generalizing start with
  | nil => simp
  | cons k lengths ih =>
    obtain ⟨hstart, hall⟩ := ih (max start k)
    rw [List.foldl_cons]
    refine ⟨by omega, fun j hj => ?_⟩
    rcases List.mem_cons.mp hj with rfl | hj
    · omega
    · exact hall j hj

theorem length_le_of_mem_places {paths : List (List String)} {q : List String} (hq : q ∈ places paths) :
    q.length ≤ (paths.map List.length).foldl max 0 := by
  rcases mem_places.mp hq with rfl | ⟨p, hp, hq⟩
  · exact Nat.zero_le _
  · exact Nat.le_trans hq.length_le ((le_foldl_max _ 0).2 _ (List.mem_map_of_mem hp))

theorem mem_childrenOf {parts q : List String} {all : List (List String)} :
    q ∈ childrenOf parts all ↔ q ∈ all ∧ ∃ segment, q = parts ++ [segment] := by
  rw [childrenOf, List.mem_filter]
  simp only [Bool.and_eq_true, decide_eq_true_eq, beq_iff_eq]
  constructor
  · rintro ⟨hq, hlength, htake⟩
    have hone : (q.drop parts.length).length = 1 := by
      rw [List.length_drop]
      omega
    obtain ⟨segment, hdrop⟩ := List.length_eq_one_iff.mp hone
    exact ⟨hq, segment, by rw [← List.take_append_drop parts.length q, htake, hdrop]⟩
  · rintro ⟨hq, segment, rfl⟩
    exact ⟨hq, by simp, by simp⟩

section Nodes

variable {operations : List Operation} {all : List (List String)} {fuel : ℕ} {parts : List String}
  {children : List RouteNode} {n : RouteNode}

theorem makeNode_eq_ok (h : makeNode operations parts children = .ok n) :
    n.parts = parts ∧ n.operations = operationsAt operations parts ∧ n.children = children ∧
      n.exports = (exportClaims n.operations n.children).map (·.name) ∧ n.exports.Nodup ∧
        reservedClash parts n.exports = none := by
  unfold makeNode at h
  dsimp only at h
  split at h
  · cases h
  · rename_i hclash
    split at h
    · cases h
    · rename_i hreserved
      cases h
      exact ⟨rfl, rfl, rfl, rfl, Naming.nodup_of_clash hclash, hreserved⟩

theorem nodeAt_succ (h : nodeAt operations all (fuel + 1) parts = .ok n) :
    List.Forall₂ (fun q c => nodeAt operations all fuel q = .ok c) (childrenOf parts all) n.children ∧
      makeNode operations parts n.children = .ok n := by
  obtain ⟨children, hchildren, h⟩ := bind_eq_ok.mp h
  obtain ⟨-, -, rfl, -⟩ := makeNode_eq_ok h
  exact ⟨forall₂_of_mapM hchildren, h⟩

theorem nodeAt_made (h : nodeAt operations all fuel parts = .ok n) : makeNode operations parts n.children = .ok n := by
  cases fuel with
  | zero =>
    obtain ⟨-, -, hchildren, -⟩ := makeNode_eq_ok h
    rwa [hchildren]
  | succ fuel => exact (nodeAt_succ h).2

theorem parts_of_nodeAt (h : nodeAt operations all fuel parts = .ok n) : n.parts = parts :=
  (makeNode_eq_ok (nodeAt_made h)).1

theorem nodeAt_of_mem_postOrder (h : nodeAt operations all fuel parts = .ok n) {m : RouteNode}
    (hm : m ∈ n.postOrder) : ∃ fuel', nodeAt operations all fuel' m.parts = .ok m := by
  induction fuel generalizing parts n with
  | zero =>
    obtain ⟨-, -, hchildren, -⟩ := makeNode_eq_ok h
    rcases (RouteNode.mem_postOrder m n).mp hm with rfl | ⟨c, hc, -⟩
    · exact ⟨0, (parts_of_nodeAt h).symm ▸ h⟩
    · rw [hchildren] at hc
      cases hc
  | succ fuel ih =>
    rcases (RouteNode.mem_postOrder m n).mp hm with rfl | ⟨c, hc, hm⟩
    · exact ⟨fuel + 1, (parts_of_nodeAt h).symm ▸ h⟩
    · obtain ⟨q, -, hq⟩ := exists_left_of_mem (nodeAt_succ h).1 hc
      exact ih hq hm

theorem exists_node (hall : ∀ q ∈ all, ∀ q', q' <+: q → q' ∈ all) (h : nodeAt operations all fuel parts = .ok n)
    {q : List String} (hq : q ∈ all) (hbegins : parts <+: q) (hlength : q.length ≤ parts.length + fuel) :
    ∃ m ∈ n.postOrder, m.parts = q := by
  induction fuel generalizing parts n with
  | zero =>
    exact ⟨n, n.self_mem_postOrder, (parts_of_nodeAt h).trans (hbegins.eq_of_length_le hlength)⟩
  | succ fuel ih =>
    obtain ⟨rest, rfl⟩ := hbegins
    cases rest with
    | nil => exact ⟨n, n.self_mem_postOrder, by rw [List.append_nil, parts_of_nodeAt h]⟩
    | cons segment rest =>
      have hbelow : parts ++ [segment] <+: parts ++ segment :: rest := ⟨rest, by simp⟩
      have hchild : parts ++ [segment] ∈ childrenOf parts all :=
        mem_childrenOf.mpr ⟨hall _ hq _ hbelow, segment, rfl⟩
      obtain ⟨c, hc, hnode⟩ := exists_right_of_mem (nodeAt_succ h).1 hchild
      obtain ⟨m, hm, hparts⟩ := ih hnode hbelow (by simp at hlength ⊢; omega)
      exact ⟨m, RouteNode.mem_postOrder_of_child hc hm, hparts⟩

end Nodes

section Tree

variable {operations : List Operation} {root n : RouteNode}

theorem parts_of_tree (h : tree operations = .ok root) : root.parts = [] := parts_of_nodeAt h

theorem isRoot_of_tree (h : tree operations = .ok root) : root.isRoot = true := by
  rw [RouteNode.isRoot, parts_of_tree h, List.isEmpty_nil]

theorem operations_of_mem_tree (h : tree operations = .ok root) (hn : n ∈ root.postOrder) :
    n.operations = operationsAt operations n.parts := by
  obtain ⟨fuel, hnode⟩ := nodeAt_of_mem_postOrder h hn
  exact (makeNode_eq_ok (nodeAt_made hnode)).2.1

theorem exists_node_of_operation (h : tree operations = .ok root) {o : Operation} (ho : o ∈ operations) :
    ∃ n ∈ root.postOrder, n.parts = segments o.path ∧ o ∈ n.operations := by
  have hplace : segments o.path ∈ places (operations.map fun o => segments o.path) :=
    mem_places.mpr (.inr ⟨_, List.mem_map_of_mem ho, List.prefix_rfl⟩)
  have hlength : (segments o.path).length ≤ ([] : List String).length +
      ((operations.map fun o => segments o.path).map List.length).foldl max 0 := by
    rw [List.length_nil, Nat.zero_add]
    exact length_le_of_mem_places hplace
  obtain ⟨n, hn, hparts⟩ := exists_node (fun _ hq _ => mem_places_of_prefix hq) h hplace List.nil_prefix hlength
  refine ⟨n, hn, hparts, ?_⟩
  rw [operations_of_mem_tree h hn]
  exact List.mem_filter.mpr ⟨ho, by simp [hparts]⟩

theorem nodup_functionNames (h : tree operations = .ok root) (hn : n ∈ root.postOrder) :
    (n.operations.map fun o => functionName o.method).Nodup := by
  obtain ⟨fuel, hnode⟩ := nodeAt_of_mem_postOrder h hn
  obtain ⟨-, -, -, hexports, hnodup, -⟩ := makeNode_eq_ok (nodeAt_made hnode)
  rw [hexports, exportClaims, List.map_append, List.map_map] at hnodup
  exact hnodup.of_append_left

theorem children_of_mem_tree (h : tree operations = .ok root) (hn : n ∈ root.postOrder) :
    (n.children.map RouteNode.parts).Sublist
      (childrenOf n.parts (places (operations.map fun o => segments o.path))) := by
  obtain ⟨fuel, hnode⟩ := nodeAt_of_mem_postOrder h hn
  cases fuel with
  | zero =>
    obtain ⟨-, -, hchildren, -⟩ := makeNode_eq_ok hnode
    rw [hchildren]
    exact List.nil_sublist _
  | succ fuel =>
    have hparts : childrenOf n.parts (places (operations.map fun o => segments o.path)) =
        n.children.map RouteNode.parts := by
      rw [← List.forall₂_eq_eq_eq, List.forall₂_map_right_iff]
      exact (nodeAt_succ hnode).1.imp fun q c hc => (parts_of_nodeAt hc).symm
    exact hparts ▸ List.Sublist.refl _

theorem child_of_mem_tree (h : tree operations = .ok root) (hn : n ∈ root.postOrder) {c : RouteNode}
    (hc : c ∈ n.children) : c ∈ root.postOrder ∧ ∃ segment, c.parts = n.parts ++ [segment] := by
  have hplace := (children_of_mem_tree h hn).subset (List.mem_map_of_mem hc)
  exact ⟨RouteNode.child_mem_postOrder hc root hn, (mem_childrenOf.mp hplace).2⟩

theorem parent_of_mem_tree (h : tree operations = .ok root) (hn : n ∈ root.postOrder) :
    n.isRoot = true ∧ n = root ∨
      n.isRoot = false ∧ ∃ p ∈ root.postOrder, n ∈ p.children ∧ ∃ segment, n.parts = p.parts ++ [segment] := by
  rcases RouteNode.eq_or_exists_parent n root hn with rfl | ⟨p, hp, hchild⟩
  · exact .inl ⟨isRoot_of_tree h, rfl⟩
  · obtain ⟨segment, hparts⟩ := (child_of_mem_tree h hp hchild).2
    exact .inr ⟨by simp [RouteNode.isRoot, hparts], p, hp, hchild, segment, hparts⟩

theorem package_child {c : RouteNode} {segment : String} (h : c.parts = n.parts ++ [segment]) :
    c.package = n.package ++ [c.symbol] := by
  have hroot : c.isRoot = false := by simp [RouteNode.isRoot, h]
  simp [RouteNode.symbol, hroot, RouteNode.package, RouteNode.segment, package, h]

theorem package_ne_reserved (h : tree operations = .ok root) (hn : n ∈ root.postOrder) {name : String}
    (hname : name ∈ [rootModule, aliasModule]) : n.package ≠ [name] := by
  intro hpackage
  rcases parent_of_mem_tree h hn with ⟨hroot, -⟩ | ⟨-, p, hp, hchild, segment, hparts⟩
  · rw [RouteNode.isRoot, List.isEmpty_iff] at hroot
    rw [RouteNode.package, hroot] at hpackage
    cases hpackage
  · rw [package_child hparts, ← List.nil_append [name]] at hpackage
    -- A package of one name stands right below the root, where the name was checked.
    obtain ⟨hnil, hsymbol⟩ := List.append_inj' hpackage rfl
    have hroot : p = root := by
      rcases parent_of_mem_tree h hp with ⟨-, hroot⟩ | ⟨-, p', -, -, segment', hparts'⟩
      · exact hroot
      · rw [package_child hparts'] at hnil
        simp at hnil
    subst hroot
    obtain ⟨-, -, -, hexports, -, hreserved⟩ := makeNode_eq_ok (nodeAt_made h)
    have hfree := List.find?_eq_none.mp hreserved name hname
    refine absurd ?_ hfree
    rw [hexports, ← List.singleton_inj.mp hsymbol]
    simp only [exportClaims, List.map_append, List.map_map, List.contains_eq_mem, List.mem_append, decide_eq_true_eq]
    exact .inr (List.mem_map.mpr ⟨n, hchild, rfl⟩)

end Tree

theorem exists_operation_of_mem_aliasesAfter {before entries : List AliasEntry} {operations : List Operation}
    (h : aliasesAfter before operations = .ok entries) {e : AliasEntry} (he : e ∈ entries) :
    e ∈ before ∨ ∃ o ∈ operations, ∃ id, e = aliasOf o id := by
  induction operations generalizing before with
  | nil =>
    cases h
    exact .inl he
  | cons o operations ih =>
    unfold aliasesAfter at h
    split at h
    · exact (ih h).imp_right fun ⟨o', ho', heq⟩ => ⟨o', List.mem_cons_of_mem _ ho', heq⟩
    · rename_i id hid
      dsimp only at h
      split at h
      · cases h
      · rcases ih h with hbefore | ⟨o', ho', heq⟩
        · rcases List.mem_append.mp hbefore with hbefore | hlast
          · exact .inl hbefore
          · exact .inr ⟨o, List.mem_cons_self, id, List.mem_singleton.mp hlast⟩
        · exact .inr ⟨o', List.mem_cons_of_mem _ ho', heq⟩

theorem exists_operation_of_mem_packages {operations : List Operation} {table : AliasTable}
    (h : aliases operations = .ok table) {folders : List String} (hf : folders ∈ table.packages) :
    ∃ o ∈ operations, folders = packageOf o.path := by
  obtain ⟨entries, hentries, rfl⟩ := map_eq_ok.mp h
  rw [AliasTable.packages, List.mem_eraseDups] at hf
  obtain ⟨e, he, rfl⟩ := List.mem_map.mp hf
  rcases exists_operation_of_mem_aliasesAfter hentries he with he | ⟨o, ho, id, rfl⟩
  · cases he
  · exact ⟨o, ho, rfl⟩

theorem package_isWord (parts : List String) : ∀ s ∈ package parts, Naming.IsWord s := by
  intro s hs
  obtain ⟨segment, -, rfl⟩ := List.mem_map.mp hs
  exact Naming.segmentSymbol_isWord segment

end Route

end ClientForge
