import ClientForge.Proofs.Lists
import ClientForge.Proofs.Failures
import ClientForge.Proofs.RouteTrees

/-!
When no tree is made of a list of operations: two of them need one name, or a package needs the name of a module.
-/

namespace ClientForge

open Outcome

namespace Naming

theorem clashAfter_eq_none {held claims : List Claim} (h : ((held ++ claims).map (·.name)).Nodup) :
    clashAfter held claims = none := by
  induction claims generalizing held with
  | nil => rfl
  | cons c claims ih =>
    have hfree : held.find? (·.name == c.name) = none := by
      refine List.find?_eq_none.mpr fun first hfirst hname => ?_
      rw [List.map_append, List.nodup_append] at h
      exact h.2.2 _ (List.mem_map_of_mem hfirst) _ List.mem_cons_self (beq_iff_eq.mp hname)
    rw [clashAfter, hfree]
    exact ih (by rwa [List.append_assoc])

theorem clash_eq_none_iff {claims : List Claim} : clash claims = none ↔ (claims.map (·.name)).Nodup :=
  ⟨nodup_of_clash, @clashAfter_eq_none [] claims⟩

end Naming

namespace Route

def placesOf (operations : List Operation) : List (List String) := places (operations.map fun o => segments o.path)

def Declared (operations : List Operation) (q : List String) : Prop := ∃ o ∈ operations, q <+: segments o.path

/-- What keeps operations from being put into one tree. -/
inductive Conflicts (operations : List Operation) : Prop
  | sameRoute {o o' : Operation} (h : [o, o'].Sublist operations) (hpath : segments o.path = segments o'.path)
      (hmethod : o.method = o'.method)
  | sameSymbol {above : List String} {s s' : String} (hs : Declared operations (above ++ [s]))
      (hs' : Declared operations (above ++ [s'])) (hne : s ≠ s') (h : Naming.segmentSymbol s = Naming.segmentSymbol s')
  | sameAsFunction {o : Operation} {s : String} (ho : o ∈ operations)
      (hs : Declared operations (segments o.path ++ [s])) (h : Naming.segmentSymbol s = functionName o.method)
  | reserved {s : String} (hs : Declared operations [s]) (h : Naming.segmentSymbol s ∈ [rootModule, aliasModule])

def symbolAt (q : List String) : String := if q.isEmpty then "" else Naming.segmentSymbol (q.getLast?.getD "")

def exportNames (operations : List Operation) (all : List (List String)) (q : List String) : List String :=
  (operationsAt operations q).map (fun o => functionName o.method) ++ (childrenOf q all).map symbolAt

structure IsFree (operations : List Operation) (all : List (List String)) (q : List String) : Prop where
  nodup : (exportNames operations all q).Nodup
  unreserved : reservedClash q (exportNames operations all q) = none

variable {operations operations' : List Operation} {all : List (List String)} {fuel : ℕ} {parts q : List String}
  {children : List RouteNode} {s : String}

section Nodes

theorem exportClaims_names (h : children.map RouteNode.parts = childrenOf parts all) :
    (exportClaims (operationsAt operations parts) children).map (·.name) = exportNames operations all parts := by
  rw [exportClaims, exportNames, ← h, List.map_append, List.map_map, List.map_map, List.map_map]
  rfl

theorem makeNode_isOk_iff (h : children.map RouteNode.parts = childrenOf parts all) :
    (∃ n, makeNode operations parts children = .ok n) ↔ IsFree operations all parts := by
  have hnames : (exportClaims (operationsAt operations parts) children).map (·.name) =
      exportNames operations all parts := exportClaims_names h
  constructor
  · rintro ⟨n, hn⟩
    obtain ⟨-, hoperations, hchildren, hexports, hnodup, hreserved⟩ := makeNode_eq_ok hn
    rw [hoperations, hchildren, hnames] at hexports
    exact ⟨hexports ▸ hnodup, hexports ▸ hreserved⟩
  · rintro ⟨hnodup, hreserved⟩
    rw [← hnames] at hnodup hreserved
    unfold makeNode
    dsimp only
    rw [Naming.clash_eq_none_iff.mpr hnodup, hreserved]
    exact ⟨_, rfl⟩

theorem parts_of_forall₂
    (h : List.Forall₂ (fun q c => nodeAt operations all fuel q = .ok c) (childrenOf parts all) children) :
    children.map RouteNode.parts = childrenOf parts all := by
  rw [← List.forall₂_eq_eq_eq, List.forall₂_map_left_iff]
  exact h.flip.imp fun c q hc => parts_of_nodeAt hc

theorem nodeAt_isOk_iff (hall : ∀ q ∈ all, ∀ q', q' <+: q → q' ∈ all) (hparts : parts ∈ all)
    (hlength : ∀ q ∈ all, parts <+: q → q.length ≤ parts.length + fuel) :
    (∃ n, nodeAt operations all fuel parts = .ok n) ↔ ∀ q ∈ all, parts <+: q → IsFree operations all q := by
  -- The fuel reaches as deep as the longest place below `parts`: without any, no place is below.
  induction fuel generalizing parts with
  | zero =>
    have hnone : childrenOf parts all = [] := by
      refine List.eq_nil_iff_forall_not_mem.mpr fun q hq => ?_
      obtain ⟨hmem, segment, rfl⟩ := mem_childrenOf.mp hq
      have hle := hlength _ hmem (List.prefix_append _ _)
      rw [List.length_append, List.length_singleton] at hle
      omega
    have hmade : (∃ n, nodeAt operations all 0 parts = .ok n) ↔ IsFree operations all parts :=
      makeNode_isOk_iff hnone.symm
    rw [hmade]
    constructor
    · intro h q hq hbegins
      exact hbegins.eq_of_length_le (hlength q hq hbegins) ▸ h
    · intro h
      exact h parts hparts List.prefix_rfl
  | succ fuel ih =>
    have hchild {q : List String} (hq : q ∈ childrenOf parts all) : parts <+: q ∧
        ((∃ n, nodeAt operations all fuel q = .ok n) ↔ ∀ q' ∈ all, q <+: q' → IsFree operations all q') := by
      obtain ⟨hmem, segment, rfl⟩ := mem_childrenOf.mp hq
      refine ⟨List.prefix_append _ _, ih hmem fun q' hq' hbegins => ?_⟩
      have hle := hlength q' hq' ((List.prefix_append _ _).trans hbegins)
      simp
      omega
    constructor
    · rintro ⟨n, h⟩ q hq ⟨rest, rfl⟩
      obtain ⟨hchildren, hmade⟩ := nodeAt_succ h
      cases rest with
      | nil =>
        rw [List.append_nil]
        exact (makeNode_isOk_iff (parts_of_forall₂ hchildren)).mp ⟨n, hmade⟩
      | cons segment rest =>
        have hbelow : parts ++ [segment] <+: parts ++ segment :: rest := ⟨rest, by simp⟩
        have hmem := mem_childrenOf.mpr ⟨hall _ hq _ hbelow, segment, rfl⟩
        obtain ⟨c, -, hc⟩ := exists_right_of_mem hchildren hmem
        exact (hchild hmem).2.mp ⟨c, hc⟩ _ hq hbelow
    · intro h
      have hbelow (q : List String) (hq : q ∈ childrenOf parts all) :=
        (hchild hq).2.mpr fun q' hq' hbegins => h q' hq' ((hchild hq).1.trans hbegins)
      obtain ⟨children, hchildren⟩ := exists_mapM hbelow
      obtain ⟨n, hn⟩ := (makeNode_isOk_iff (parts_of_forall₂ (forall₂_of_mapM hchildren))).mpr
        (h parts hparts List.prefix_rfl)
      exact ⟨n, by rw [nodeAt, hchildren]; exact hn⟩

end Nodes

section Places

theorem functionName_injective : Function.Injective functionName := by
  intro m m' h
  cases m <;> cases m' <;> first | rfl | exact absurd h (by decide)

theorem functionName_notMem_reserved (m : Method) : functionName m ∉ [rootModule, aliasModule] := by
  cases m <;> decide

theorem symbolAt_append (q : List String) (s : String) : symbolAt (q ++ [s]) = Naming.segmentSymbol s := by
  simp [symbolAt]

theorem append_mem_placesOf_iff :
    q ++ [s] ∈ placesOf operations ↔ Declared operations (q ++ [s]) := by
  simp [placesOf, mem_places, Declared]

theorem nodup_placesOf (operations : List Operation) : (placesOf operations).Nodup := nodup_eraseDups _

theorem nodup_functions_iff : ((operationsAt operations q).map fun o => functionName o.method).Nodup ↔
    ∀ o o', [o, o'].Sublist operations → segments o.path = q → segments o'.path = q → o.method ≠ o'.method := by
  rw [List.Nodup, List.pairwise_map, operationsAt, List.pairwise_filter, List.pairwise_iff_forall_sublist]
  simp only [beq_iff_eq, functionName_injective.ne_iff]

theorem nodup_symbols_iff (hall : all.Nodup) : ((childrenOf q all).map symbolAt).Nodup ↔
    ∀ s s', q ++ [s] ∈ all → q ++ [s'] ∈ all → Naming.segmentSymbol s = Naming.segmentSymbol s' → s = s' := by
  have hchildren : (childrenOf q all).Nodup := hall.filter _
  rw [List.nodup_map_iff_inj_on hchildren]
  constructor
  · intro h s s' hs hs' hsymbol
    have heq := h _ (mem_childrenOf.mpr ⟨hs, s, rfl⟩) _ (mem_childrenOf.mpr ⟨hs', s', rfl⟩)
      (by rw [symbolAt_append, symbolAt_append, hsymbol])
    simpa using heq
  · intro h c hc c' hc' hsymbol
    obtain ⟨hmem, s, rfl⟩ := mem_childrenOf.mp hc
    obtain ⟨hmem', s', rfl⟩ := mem_childrenOf.mp hc'
    rw [symbolAt_append, symbolAt_append] at hsymbol
    rw [h s s' hmem hmem' hsymbol]

theorem mem_symbols_iff {name : String} :
    name ∈ (childrenOf q all).map symbolAt ↔ ∃ s, q ++ [s] ∈ all ∧ Naming.segmentSymbol s = name := by
  rw [List.mem_map]
  constructor
  · rintro ⟨c, hc, rfl⟩
    obtain ⟨hmem, s, rfl⟩ := mem_childrenOf.mp hc
    exact ⟨s, hmem, (symbolAt_append q s).symm⟩
  · rintro ⟨s, hs, rfl⟩
    exact ⟨q ++ [s], mem_childrenOf.mpr ⟨hs, s, rfl⟩, symbolAt_append q s⟩

theorem reservedClash_eq_none_iff : reservedClash q (exportNames operations all q) = none ↔
    (q = [] → ∀ s, [s] ∈ all → Naming.segmentSymbol s ∉ [rootModule, aliasModule]) := by
  cases q with
  | cons segment q => simp [reservedClash]
  | nil =>
    have hfind : reservedClash [] (exportNames operations all []) =
        [rootModule, aliasModule].find? ((exportNames operations all []).contains ·) := rfl
    rw [hfind, List.find?_eq_none]
    constructor
    · intro h _ s hs hname
      refine h _ hname (List.contains_iff_mem.mpr (List.mem_append_right _ ?_))
      exact mem_symbols_iff.mpr ⟨s, hs, rfl⟩
    · intro h name hname hmem
      rcases List.mem_append.mp (List.contains_iff_mem.mp hmem) with hmem | hmem
      · obtain ⟨o, -, rfl⟩ := List.mem_map.mp hmem
        exact functionName_notMem_reserved o.method hname
      · obtain ⟨s, hs, rfl⟩ := mem_symbols_iff.mp hmem
        exact h rfl s hs hname

theorem isFree_iff_not_conflicts :
    (∀ q ∈ placesOf operations, IsFree operations (placesOf operations) q) ↔ ¬ Conflicts operations := by
  -- Each way to conflict needs one name twice at one place, and the names of a place have no other use.
  have hall := nodup_placesOf operations
  have habove {q : List String} {s : String} (hs : Declared operations (q ++ [s])) :
      q ∈ placesOf operations :=
    mem_places_of_prefix (append_mem_placesOf_iff.mpr hs) (List.prefix_append _ _)
  constructor
  · intro hfree hconflict
    cases hconflict with
    | @sameRoute o o' h hpath hmethod =>
      have hplace : segments o.path ∈ placesOf operations :=
        mem_places.mpr (.inr ⟨_, List.mem_map_of_mem (h.subset List.mem_cons_self), List.prefix_rfl⟩)
      have hfunctions := (List.nodup_append.mp (hfree _ hplace).nodup).1
      exact nodup_functions_iff.mp hfunctions o o' h rfl hpath.symm hmethod
    | @sameSymbol above s s' hs hs' hne h =>
      have hsymbols := (List.nodup_append.mp (hfree _ (habove hs)).nodup).2.1
      exact hne ((nodup_symbols_iff hall).mp hsymbols s s' (append_mem_placesOf_iff.mpr hs)
        (append_mem_placesOf_iff.mpr hs') h)
    | @sameAsFunction o s ho hs h =>
      have hapart := (List.nodup_append.mp (hfree _ (habove hs)).nodup).2.2
      refine hapart (functionName o.method) (List.mem_map.mpr ⟨o, ?_, rfl⟩) _
        (mem_symbols_iff.mpr ⟨s, append_mem_placesOf_iff.mpr hs, h⟩) rfl
      exact List.mem_filter.mpr ⟨ho, by simp⟩
    | @reserved s hs h =>
      have hreserved := (hfree [] (mem_places.mpr (.inl rfl))).unreserved
      exact reservedClash_eq_none_iff.mp hreserved rfl s (append_mem_placesOf_iff (q := []).mpr hs) h
  · intro hconflict q hq
    refine ⟨List.nodup_append.mpr ⟨?_, ?_, ?_⟩, ?_⟩
    · refine nodup_functions_iff.mpr fun o o' h hpath hpath' hmethod => hconflict ?_
      exact .sameRoute h (hpath.trans hpath'.symm) hmethod
    · refine (nodup_symbols_iff hall).mpr fun s s' hs hs' h => ?_
      by_contra hne
      exact hconflict (.sameSymbol (append_mem_placesOf_iff.mp hs) (append_mem_placesOf_iff.mp hs') hne h)
    · rintro name hname _ hsymbol rfl
      obtain ⟨o, ho, rfl⟩ := List.mem_map.mp hname
      obtain ⟨s, hs, h⟩ := mem_symbols_iff.mp hsymbol
      obtain ⟨hmem, hpath⟩ := List.mem_filter.mp ho
      cases beq_iff_eq.mp hpath
      exact hconflict (.sameAsFunction hmem (append_mem_placesOf_iff.mp hs) h)
    · refine reservedClash_eq_none_iff.mpr ?_
      rintro rfl s hs h
      exact hconflict (.reserved (append_mem_placesOf_iff (q := []).mp hs) h)

end Places

section Tree

theorem tree_isOk_iff : (∃ root, tree operations = .ok root) ↔ ¬ Conflicts operations := by
  have hlength (q : List String) (hq : q ∈ placesOf operations) (_ : [] <+: q) :
      q.length ≤ ([] : List String).length +
        ((operations.map fun o => segments o.path).map List.length).foldl max 0 := by
    rw [List.length_nil, Nat.zero_add]
    exact length_le_of_mem_places hq
  have hmade : (∃ root, tree operations = .ok root) ↔ ∀ q ∈ placesOf operations, [] <+: q →
      IsFree operations (placesOf operations) q :=
    nodeAt_isOk_iff (fun _ hq _ => mem_places_of_prefix hq) (mem_places.mpr (.inl rfl)) hlength
  rw [← isFree_iff_not_conflicts]
  exact hmade.trans ⟨fun h q hq => h q hq List.nil_prefix, fun h q hq _ => h q hq⟩

theorem Declared.perm (h : Declared operations q) (hperm : operations.Perm operations') : Declared operations' q := by
  obtain ⟨o, ho, hbegins⟩ := h
  exact ⟨o, hperm.subset ho, hbegins⟩

theorem Conflicts.perm (h : Conflicts operations) (hperm : operations.Perm operations') : Conflicts operations' := by
  cases h with
  | @sameRoute o o' h hpath hmethod =>
    by_contra hconflict
    have hapart : operations'.Pairwise fun a b => segments a.path = segments b.path → a.method ≠ b.method :=
      List.pairwise_iff_forall_sublist.mpr fun h hpath hmethod => hconflict (.sameRoute h hpath hmethod)
    have hapart := hapart.perm hperm.symm fun h hpath hmethod => h hpath.symm hmethod.symm
    exact List.pairwise_iff_forall_sublist.mp hapart h hpath hmethod
  | sameSymbol hs hs' hne h => exact .sameSymbol (hs.perm hperm) (hs'.perm hperm) hne h
  | sameAsFunction ho hs h => exact .sameAsFunction (hperm.subset ho) (hs.perm hperm) h
  | reserved hs h => exact .reserved (hs.perm hperm) h

theorem tree_fails : FailsOnly Failure.IsRouteConflict (tree operations) := nodeAt_fails _ _ _

theorem tree_error_iff : (∃ e, tree operations = .error e) ↔ Conflicts operations := by
  rw [← not_iff_not, ← tree_isOk_iff]
  cases tree operations <;> simp

/-- There is no tree exactly if the operations conflict, and the failure says no more. In which order they are declared
makes no difference. -/
theorem tree_conflicts_iff (operations : List Operation) :
    ((∃ fault, tree operations = .error (.routeConflict fault)) ↔ Conflicts operations) ∧
      (∀ e, tree operations = .error e → ∃ fault, e = .routeConflict fault) ∧
      ∀ operations', operations.Perm operations' →
        ((∃ e, tree operations = .error e) ↔ ∃ e, tree operations' = .error e) := by
  refine ⟨?_, tree_fails, fun operations' hperm => ?_⟩
  · rw [← tree_error_iff]
    constructor
    · rintro ⟨fault, h⟩
      exact ⟨_, h⟩
    · rintro ⟨e, h⟩
      obtain ⟨fault, rfl⟩ := tree_fails e h
      exact ⟨fault, h⟩
  · rw [tree_error_iff, tree_error_iff]
    exact ⟨fun h => h.perm hperm, fun h => h.perm hperm.symm⟩

theorem tree_conflicts_iff_dashed :
    (∃ fault, tree [.bare .get "/a-b/c" none, .bare .get "/a_b" none] = .error (.routeConflict fault)) ∧
      ∃ e, tree [.bare .get "/a_b" none, .bare .get "/a-b/c" none] = .error e := by
  obtain ⟨hiff, -, hperm⟩ := tree_conflicts_iff [.bare .get "/a-b/c" none, .bare .get "/a_b" none]
  have hdash : Declared [.bare .get "/a-b/c" none, .bare .get "/a_b" none] ([] ++ ["a-b"]) :=
    ⟨.bare .get "/a-b/c" none, by simp, by decide +kernel⟩
  have hline : Declared [.bare .get "/a-b/c" none, .bare .get "/a_b" none] ([] ++ ["a_b"]) :=
    ⟨.bare .get "/a_b" none, by simp, by decide +kernel⟩
  obtain ⟨fault, hfault⟩ := hiff.mpr (.sameSymbol hdash hline (by decide) (by decide +kernel))
  exact ⟨⟨fault, hfault⟩, (hperm _ (.swap _ _ _)).mp ⟨_, hfault⟩⟩

end Tree

end Route

end ClientForge
