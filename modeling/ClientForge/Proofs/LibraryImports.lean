import ClientForge.Code.ImportTable
import ClientForge.Proofs.Lists
import Mathlib.Data.List.Sort
import Mathlib.Data.Prod.Lex
import Mathlib.Data.String.Basic

/-!
The statements that import library names. How they look is said for every list of known names, and the look is that
of one list of statements only, so that neither the order nor the repetitions of the names matter.
-/

namespace ClientForge.Library

variable {used used' : List String} {statements statements' : List Import} {symbol source : String} {i : Import}

def IsFrom (symbol source : String) : Prop := ∃ names, (source, names) ∈ sources ∧ symbol ∈ names

theorem exists_isFrom (h : symbol ∈ symbols) : ∃ source, IsFrom symbol source := by
  obtain ⟨⟨source, names⟩, hsource, hname⟩ := List.mem_flatMap.mp h
  exact ⟨source, names, hsource, hname⟩

theorem IsFrom.unique {source' : String} (h : IsFrom symbol source) (h' : IsFrom symbol source') :
    source = source' := by
  have happart : ∀ s ∈ sources, ∀ s' ∈ sources, ∀ a ∈ s.2, a ∈ s'.2 → s.1 = s'.1 := by decide +kernel
  obtain ⟨names, hsource, hname⟩ := h
  obtain ⟨names', hsource', hname'⟩ := h'
  exact happart _ hsource _ hsource' symbol hname hname'

theorem nodup_sources_filter (p : String × List String → Bool) :
    ((sources.filter p).map fun s => ModuleName.dotted s.1).Nodup := by
  have hfixed : (sources.map fun s => ModuleName.dotted s.1).Nodup := by decide +kernel
  exact hfixed.sublist (List.filter_sublist.map _)

section Order

def sortKey (name : String) : Bool ×ₗ String := toLex (!isCapital name, name)

theorem sortKey_injective : Function.Injective sortKey :=
  fun _ _ h => congrArg Prod.snd (toLex_inj.mp h)

theorem comesBefore_iff {a b : String} : comesBefore a b = true ↔ sortKey a ≤ sortKey b := by
  rw [sortKey, sortKey, Prod.Lex.toLex_le_toLex, comesBefore]
  cases isCapital a <;> cases isCapital b <;> simp

def IsSorted (names : List String) : Prop := names.Pairwise fun a b => sortKey a < sortKey b

theorem isSorted_mergeSort {names : List String} (h : names.Nodup) : IsSorted (names.mergeSort comesBefore) := by
  have hsorted : (names.mergeSort comesBefore).Pairwise fun a b => comesBefore a b = true := by
    apply List.pairwise_mergeSort
    · intro a b c hab hbc
      rw [comesBefore_iff] at *
      exact hab.trans hbc
    · intro a b
      simpa only [Bool.or_eq_true, comesBefore_iff] using le_total (sortKey a) (sortKey b)
  have hnodup : (names.mergeSort comesBefore).Nodup := (List.mergeSort_perm names comesBefore).nodup_iff.mpr h
  exact (hsorted.and hnodup).imp fun ⟨hab, hne⟩ => lt_of_le_of_ne (comesBefore_iff.mp hab) (sortKey_injective.ne hne)

theorem IsSorted.eq_of_mem_iff {names names' : List String} (h : IsSorted names) (h' : IsSorted names')
    (hmem : ∀ a, a ∈ names ↔ a ∈ names') : names = names' := by
  apply sortKey_injective.list_map
  apply (List.pairwise_map.mpr h).eq_of_mem_iff (List.pairwise_map.mpr h')
  intro key
  simp only [List.mem_map, hmem]

end Order

/-- The statements for a set of names: one for each source of such a name, in the order of the sources. -/
structure IsGrouped (used : List String) (statements : List Import) : Prop where
  sources_eq : statements.map (·.source) = (sources.filter fun s => s.2.any (· ∈ used)).map (.dotted ·.1)
  named : ∀ i ∈ statements, i.names ≠ []
  placed : ∀ symbol ∈ used, ∃ source, IsFrom symbol source ∧
    (statements.filter (⟨symbol, none⟩ ∈ ·.names)).map (·.source) = [.dotted source]
  plain : ∀ i ∈ statements, ∀ n ∈ i.names, n.asName = none ∧ n.name ∈ used
  sorted : ∀ i ∈ statements, IsSorted (i.names.map (·.name))
  group_eq : ∀ i ∈ statements, ∀ source, i.source = .dotted source → i.group = groupOf source

namespace IsGrouped

theorem nodup_sources (h : IsGrouped used statements) : (statements.map (·.source)).Nodup := by
  rw [h.sources_eq]
  exact nodup_sources_filter _

theorem exists_source (h : IsGrouped used statements) (hi : i ∈ statements) : ∃ source, i.source = .dotted source := by
  have hmem := List.mem_map_of_mem (f := (·.source)) hi
  rw [h.sources_eq] at hmem
  obtain ⟨s, -, hs⟩ := List.mem_map.mp hmem
  exact ⟨s.1, hs.symm⟩

theorem mem_names_iff (h : IsGrouped used statements) (hi : i ∈ statements) (hsource : i.source = .dotted source) :
    ⟨symbol, none⟩ ∈ i.names ↔ symbol ∈ used ∧ IsFrom symbol source := by
  constructor
  · intro hmem
    obtain ⟨-, hused⟩ := h.plain i hi _ hmem
    obtain ⟨source', hfrom, hplace⟩ := h.placed symbol hused
    have hi' : i.source ∈ (statements.filter (⟨symbol, none⟩ ∈ ·.names)).map (·.source) :=
      List.mem_map_of_mem (List.mem_filter.mpr ⟨hi, decide_eq_true hmem⟩)
    rw [hplace, List.mem_singleton, hsource, ModuleName.dotted.injEq] at hi'
    exact ⟨hused, hi' ▸ hfrom⟩
  · rintro ⟨hused, hfrom⟩
    obtain ⟨source', hfrom', hplace⟩ := h.placed symbol hused
    obtain rfl := hfrom.unique hfrom'
    obtain ⟨j, hj, hjsource⟩ := List.mem_map.mp (hplace ▸ List.mem_singleton_self (ModuleName.dotted source))
    obtain ⟨hj, hmem⟩ := List.mem_filter.mp hj
    -- The statement of the symbol has the same source, and no two statements have one source.
    obtain rfl := List.inj_on_of_nodup_map h.nodup_sources hi hj (hsource.trans hjsource.symm)
    exact of_decide_eq_true hmem

theorem exists_names (h : IsGrouped used statements) (hi : i ∈ statements) :
    ∃ names, IsSorted names ∧ i.names = names.map (⟨·, none⟩) := by
  refine ⟨i.names.map (·.name), h.sorted i hi, ?_⟩
  have hplain : (i.names.map (·.name)).map (⟨·, none⟩) = i.names.map id := by
    rw [List.map_map]
    apply List.map_congr_left
    intro n hn
    have hname := (h.plain i hi n hn).1
    simp [← hname]
  rw [hplain, List.map_id]

theorem names_eq (h : IsGrouped used statements) (hi : i ∈ statements) (hsource : i.source = .dotted source)
    {names : List String} (hsorted : IsSorted names) (hmem : ∀ a, a ∈ names ↔ a ∈ used ∧ IsFrom a source) :
    i.names = names.map (⟨·, none⟩) := by
  obtain ⟨names', hsorted', heq⟩ := h.exists_names hi
  have hmem' (a : String) : a ∈ names' ↔ ⟨a, none⟩ ∈ i.names := by simp [heq]
  rw [heq, hsorted'.eq_of_mem_iff hsorted fun a => ?_]
  rw [hmem', hmem, h.mem_names_iff hi hsource]

theorem unique (h : IsGrouped used statements) (h' : IsGrouped used' statements')
    (hused : ∀ symbol, symbol ∈ used' ↔ symbol ∈ used) : statements' = statements := by
  have hsources : statements'.map (·.source) = statements.map (·.source) := by
    simp only [h.sources_eq, h'.sources_eq, hused]
  apply eq_of_map_eq hsources
  intro j hj i hi hsame
  obtain ⟨source, hsource⟩ := h.exists_source hi
  obtain ⟨names, hsorted, heq⟩ := h.exists_names hi
  have hnames : j.names = i.names := by
    rw [heq]
    apply h'.names_eq hj (hsame.trans hsource) hsorted
    intro a
    rw [hused, ← h.mem_names_iff hi hsource, heq]
    simp
  have hgroup : j.group = i.group := by
    rw [h.group_eq i hi source hsource, h'.group_eq j hj source (hsame.trans hsource)]
  obtain ⟨_, _, _⟩ := i
  obtain ⟨_, _, _⟩ := j
  simp_all

end IsGrouped

theorem statement?_eq_some {s : String × List String} : statement? used s = some i ↔ s.2.any (· ∈ used) = true ∧
    i = ⟨.dotted s.1, ((used.eraseDups.filter (· ∈ s.2)).mergeSort comesBefore).map (⟨·, none⟩), groupOf s.1⟩ := by
  have hempty : ((used.eraseDups.filter (· ∈ s.2)).mergeSort comesBefore).isEmpty = !s.2.any (· ∈ used) := by
    rw [Bool.eq_iff_iff, List.isEmpty_iff, ← List.length_eq_zero_iff, List.length_mergeSort, List.length_eq_zero_iff,
      List.filter_eq_nil_iff, Bool.not_eq_true', List.any_eq_false]
    simp only [List.mem_eraseDups, decide_eq_true_eq]
    exact ⟨fun h a hs hused => h a hused hs, fun h a hused hs => h a hs hused⟩
  dsimp only [statement?]
  rw [hempty]
  cases s.2.any (· ∈ used) <;> simp [eq_comm]

theorem statement?_eq_none {s : String × List String} :
    statement? used s = none ↔ s.2.any (· ∈ used) = false := by
  constructor
  · intro hnone
    by_contra hany
    rw [Bool.not_eq_false] at hany
    cases hnone.symm.trans (statement?_eq_some.mpr ⟨hany, rfl⟩)
  · intro hany
    rw [Option.eq_none_iff_forall_ne_some]
    intro i hi
    cases hany.symm.trans (statement?_eq_some.mp hi).1

theorem sources_statements (l : List (String × List String)) : (l.filterMap (statement? used)).map (·.source) =
    (l.filter fun s => s.2.any (· ∈ used)).map (.dotted ·.1) := by
  induction l with
  | nil => rfl
  | cons s l ih =>
    cases hany : s.2.any (· ∈ used) with
    | true =>
      rw [List.filterMap_cons_some (statement?_eq_some.mpr ⟨hany, rfl⟩), List.filter_cons, if_pos hany, List.map_cons,
        List.map_cons, ih]
    | false =>
      rw [List.filterMap_cons_none (statement?_eq_none.mpr hany), List.filter_cons, if_neg (by simp [hany]), ih]

theorem mem_imports : i ∈ imports used ↔ ∃ s ∈ sources, statement? used s = some i :=
  List.mem_filterMap

theorem mem_statement {s : String × List String} (h : statement? used s = some i) {n : ImportedName} :
    n ∈ i.names ↔ n.asName = none ∧ n.name ∈ used ∧ n.name ∈ s.2 := by
  obtain ⟨-, rfl⟩ := statement?_eq_some.mp h
  obtain ⟨name, asName⟩ := n
  simp only [List.mem_map, List.mem_mergeSort, List.mem_filter, List.mem_eraseDups, decide_eq_true_eq,
    ImportedName.mk.injEq]
  grind

theorem exists_import {names : List String} (hsource : (source, names) ∈ sources) (hname : symbol ∈ names)
    (hused : symbol ∈ used) : ∃ i ∈ imports used, i.source = .dotted source ∧ ⟨symbol, none⟩ ∈ i.names := by
  have hany : names.any (· ∈ used) = true := List.any_eq_true.mpr ⟨symbol, hname, decide_eq_true hused⟩
  have hstatement := statement?_eq_some (s := (source, names)).mpr ⟨hany, rfl⟩
  exact ⟨_, mem_imports.mpr ⟨_, hsource, hstatement⟩, rfl, (mem_statement hstatement).mpr ⟨rfl, hused, hname⟩⟩

theorem isGrouped_imports (h : used ⊆ symbols) : IsGrouped used (imports used) where
  sources_eq := sources_statements sources
  named i hi := by
    obtain ⟨s, -, hs⟩ := mem_imports.mp hi
    obtain ⟨symbol, hname, hused⟩ := List.any_eq_true.mp (statement?_eq_some.mp hs).1
    have hmem : ⟨symbol, none⟩ ∈ i.names := (mem_statement hs).mpr ⟨rfl, of_decide_eq_true hused, hname⟩
    exact List.ne_nil_of_mem hmem
  placed symbol hsymbol := by
    obtain ⟨source, hfrom⟩ := exists_isFrom (h hsymbol)
    have hnodup : (((imports used).filter (⟨symbol, none⟩ ∈ ·.names)).map (·.source)).Nodup := by
      refine List.Nodup.sublist (List.filter_sublist.map _) ?_
      rw [imports, sources_statements]
      exact nodup_sources_filter _
    refine ⟨source, hfrom, List.perm_singleton.mp ?_⟩
    rw [List.perm_ext_iff_of_nodup hnodup (List.nodup_singleton _)]
    intro name
    rw [List.mem_map, List.mem_singleton]
    constructor
    · rintro ⟨i, hi, rfl⟩
      obtain ⟨hi, hmem⟩ := List.mem_filter.mp hi
      obtain ⟨s, hs, hstatement⟩ := mem_imports.mp hi
      obtain ⟨-, -, hname⟩ := (mem_statement hstatement).mp (of_decide_eq_true hmem)
      obtain ⟨-, rfl⟩ := statement?_eq_some.mp hstatement
      rw [hfrom.unique ⟨s.2, hs, hname⟩]
    · rintro rfl
      obtain ⟨names, hsource, hname⟩ := hfrom
      obtain ⟨i, hi, hisource, hmem⟩ := exists_import hsource hname hsymbol
      exact ⟨i, List.mem_filter.mpr ⟨hi, decide_eq_true hmem⟩, hisource⟩
  plain i hi n hn := by
    obtain ⟨s, -, hs⟩ := mem_imports.mp hi
    obtain ⟨hplain, hused, -⟩ := (mem_statement hs).mp hn
    exact ⟨hplain, hused⟩
  sorted i hi := by
    obtain ⟨s, -, hs⟩ := mem_imports.mp hi
    obtain ⟨-, rfl⟩ := statement?_eq_some.mp hs
    rw [List.map_map]
    exact (List.map_id _).symm ▸ isSorted_mergeSort ((nodup_eraseDups used).filter _)
  group_eq i hi source hsource := by
    obtain ⟨s, -, hs⟩ := mem_imports.mp hi
    obtain ⟨-, rfl⟩ := statement?_eq_some.mp hs
    cases hsource
    rfl

theorem importsOf_eq_ok (h : used ⊆ symbols) : importsOf used = .ok (imports used) :=
  if_pos (List.all_eq_true.mpr fun _ hsymbol => decide_eq_true (h hsymbol))

/-- Known names are imported by statements that the set of the names decides on, and in whatever order the names of
one source are gone through, they are sorted to those of its statement. -/
theorem importsOf_grouped (h : used ⊆ symbols) :
    ∃ statements, importsOf used = .ok statements ∧ IsGrouped used statements ∧
      (∀ used' : List String, (∀ symbol, symbol ∈ used' ↔ symbol ∈ used) → importsOf used' = .ok statements) ∧
      ∀ i ∈ statements, ∀ source, i.source = .dotted source → ∀ names : List String, names.Nodup →
        (∀ symbol, symbol ∈ names ↔ symbol ∈ used ∧ IsFrom symbol source) →
          i.names = (names.mergeSort comesBefore).map (⟨·, none⟩) := by
  have hgrouped := isGrouped_imports h
  refine ⟨imports used, importsOf_eq_ok h, hgrouped, fun used' hused => ?_, ?_⟩
  · have h' : used' ⊆ symbols := fun symbol hsymbol => h ((hused symbol).mp hsymbol)
    rw [importsOf_eq_ok h', hgrouped.unique (isGrouped_imports h') hused]
  · intro i hi source hsource names hnodup hmem
    apply hgrouped.names_eq hi hsource (isSorted_mergeSort hnodup)
    intro symbol
    rw [List.mem_mergeSort, hmem]

theorem importsOf_grouped_repeated :
    ["Optional", "UUID", "Any", "TYPE_CHECKING", "Optional"] ⊆ symbols ∧
      ∃ statements, importsOf ["Optional", "UUID", "Any", "TYPE_CHECKING", "Optional"] = .ok statements ∧
        IsGrouped ["Optional", "UUID", "Any", "TYPE_CHECKING", "Optional"] statements ∧
        importsOf ["TYPE_CHECKING", "Any", "UUID", "Optional", "UUID"] = .ok statements ∧
        statements.map (·.source) = [.dotted "typing", .dotted "uuid"] := by
  have hknown : ["Optional", "UUID", "Any", "TYPE_CHECKING", "Optional"] ⊆ symbols := by decide
  obtain ⟨statements, hok, hgrouped, hsame, -⟩ := importsOf_grouped hknown
  have hused := hsame ["TYPE_CHECKING", "Any", "UUID", "Optional", "UUID"] (by grind)
  exact ⟨hknown, statements, hok, hgrouped, hused, hgrouped.sources_eq.trans (by decide +kernel)⟩

end ClientForge.Library
