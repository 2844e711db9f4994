import ClientForge.Code.Printing
import ClientForge.Proofs.ModuleScopes

/-!
Modules as programs: the statements of a module run in the order in which they are printed, and each of them writes
names of the module.
-/

namespace ClientForge

def ModuleName.place? (folders : List String) : ModuleName → Option (List String)
  | .dotted _ => none
  | .relative dots parts =>
    if dots ≤ folders.length + 1 then some (folders.take (folders.length + 1 - dots) ++ parts) else none
  | .inPackage _ parts => some parts

theorem ModuleNaming.place?_nameOf (naming : ModuleNaming) (folders target : List String) :
    (naming.nameOf folders target).place? folders = some target := by
  cases naming with
  | fromRoot root => rfl
  | relative =>
    have hc := commonLength_le folders target
    have hdots : folders.length + 1 - (folders.length - commonLength folders target + 1) =
        commonLength folders target := by omega
    rw [nameOf, ModuleName.place?, if_pos (by omega), hdots, take_commonLength, List.take_append_drop]

/-- What a name stands for: something from outside of the package, the list of exports, a module of the package,
whatever a name stands for in another module, something that a module defines, or an attribute. -/
inductive Meaning
  | foreign
  | names
  | module (place : List String)
  | member (place : List String) (name : String)
  | model (place : List String) (name : String)
  | adapter (place : List String) (name : String)
  | function (place : List String) (name : String)
  | value (expression : String)
  | attribute (holder : Meaning) (name : String)
deriving DecidableEq, Repr

abbrev Scope := String → Option Meaning

/-- A step of a program writes one name. No value at all means that the name is deleted. -/
structure Step where
  name : String
  value : Scope → Option Meaning

namespace Scope

def run (s : Scope) (steps : List Step) : Scope :=
  steps.foldl (fun s step => Function.update s step.name (step.value s)) s

def evaluate (s : Scope) (expression : String) : Option Meaning :=
  match expression.pieces '.' with
  | [name, part] => (s name).map (.attribute · part)
  | _ => some (.value expression)

variable (s : Scope) {x : String}

theorem evaluate_attribute {part : String} (hx : '.' ∉ x.toList) (hpart : '.' ∉ part.toList) :
    s.evaluate (x ++ "." ++ part) = (s x).map (.attribute · part) := by
  have hdot : ".".toList = ['.'] := rfl
  have hpieces : (x ++ "." ++ part).pieces '.' = [x, part] := by
    rw [String.pieces, String.toList_append, String.toList_append, hdot, List.append_assoc, List.singleton_append,
      Text.pieces_append, Text.pieces_of_notMem hx, Text.pieces_of_notMem hpart]
    simp
  rw [evaluate, hpieces]

theorem run_append (a b : List Step) : s.run (a ++ b) = (s.run a).run b := List.foldl_append

theorem run_of_notMem {steps : List Step} (h : x ∉ steps.map Step.name) : s.run steps x = s x := by
  induction steps generalizing s with
  | nil => rfl
  | cons step steps ih =>
    rw [List.map_cons, List.mem_cons, not_or] at h
    rw [run, List.foldl_cons, ← run, ih _ h.2, Function.update_of_ne h.1]

theorem run_of_last (before : List Step) (step : Step) {after : List Step} (h : step.name ∉ after.map Step.name) :
    s.run (before ++ step :: after) step.name = step.value (s.run before) := by
  rw [run_append, run, List.foldl_cons, ← run, run_of_notMem _ h, Function.update_self]

end Scope

namespace Import

def ordered (imports : List Import) (group : Int) : List Import :=
  let inGroup := imports.filter (·.group = group)
  if group = own then inGroup else inGroup.mergeSort comesBefore

def printed (imports : List Import) : List Import := (groups imports).flatMap (ordered imports)

theorem mem_ordered {imports : List Import} {group : Int} {i : Import} :
    i ∈ ordered imports group ↔ i ∈ imports ∧ i.group = group := by
  dsimp only [ordered]
  split
  · simp
  · simp

theorem eq_append_of_max {groups : List Int} {last : Int} (hsorted : groups.Pairwise (· < ·))
    (hmax : ∀ g ∈ groups, g ≤ last) : ∃ rest, last ∉ rest ∧ (groups = rest ∨ groups = rest ++ [last]) := by
  induction groups with
  | nil => exact ⟨[], List.not_mem_nil, .inl rfl⟩
  | cons g groups ih =>
    obtain ⟨hg, hsorted⟩ := List.pairwise_cons.mp hsorted
    obtain ⟨hle, hmax⟩ := List.forall_mem_cons.mp hmax
    by_cases heq : g = last
    · -- What comes behind the last one would be greater.
      have hnil : groups = [] := List.eq_nil_iff_forall_not_mem.mpr fun g' hg' => by
        have hlt := hg g' hg'
        have hle' := hmax g' hg'
        omega
      exact ⟨[], List.not_mem_nil, .inr (by rw [hnil, heq, List.nil_append])⟩
    · obtain ⟨rest, hrest, hgroups⟩ := ih hsorted hmax
      refine ⟨g :: rest, by simp [Ne.symm heq, hrest], ?_⟩
      rcases hgroups with rfl | rfl
      · exact .inl rfl
      · exact .inr rfl

theorem groups_sorted (imports : List Import) : (groups imports).Pairwise (· < ·) := by
  have hle : (groups imports).Pairwise fun a b => decide (a ≤ b) = true := by
    apply List.pairwise_mergeSort
    · intro a b c hab hbc
      rw [decide_eq_true_eq] at hab hbc ⊢
      omega
    · intro a b
      rw [Bool.or_eq_true, decide_eq_true_eq, decide_eq_true_eq]
      omega
  have hnodup : (groups imports).Nodup := (List.mergeSort_perm _ _).nodup_iff.mpr (nodup_eraseDups _)
  refine (hle.and hnodup).imp ?_
  rintro a b ⟨hab, hne⟩
  rw [decide_eq_true_eq] at hab
  omega

theorem mem_groups {imports : List Import} {group : Int} :
    group ∈ groups imports ↔ ∃ i ∈ imports, i.group = group := by
  rw [groups, List.mem_mergeSort, List.mem_eraseDups, List.mem_map]

theorem printed_append {foreign own : List Import} (hforeign : ∀ i ∈ foreign, i.group < Import.own)
    (hown : ∀ i ∈ own, i.group = Import.own) :
    ∃ first, printed (foreign ++ own) = first ++ own ∧ first ⊆ foreign := by
  have hmax : ∀ g ∈ groups (foreign ++ own), g ≤ Import.own := by
    intro g hg
    obtain ⟨i, hi, rfl⟩ := mem_groups.mp hg
    rcases List.mem_append.mp hi with hi | hi
    · exact Int.le_of_lt (hforeign i hi)
    · exact Int.le_of_eq (hown i hi)
  have hfilter : ordered (foreign ++ own) Import.own = own := by
    have hnone : foreign.filter (·.group = Import.own) = [] := by
      rw [List.filter_eq_nil_iff]
      intro i hi
      simpa using Int.ne_of_lt (hforeign i hi)
    have hall : own.filter (·.group = Import.own) = own := by
      rw [List.filter_eq_self]
      intro i hi
      simpa using hown i hi
    rw [ordered, if_pos rfl, List.filter_append, hnone, hall, List.nil_append]
  obtain ⟨rest, hrest, hgroups⟩ := eq_append_of_max (groups_sorted (foreign ++ own)) hmax
  refine ⟨rest.flatMap (ordered (foreign ++ own)), ?_, ?_⟩
  · rcases hgroups with hgroups | hgroups
    · have hnil : own = [] := by
        rw [List.eq_nil_iff_forall_not_mem]
        intro i hi
        apply hrest
        rw [← hgroups, mem_groups]
        exact ⟨i, List.mem_append_right _ hi, hown i hi⟩
      rw [printed, hgroups, hnil, List.append_nil, List.append_nil]
    · rw [printed, hgroups, List.flatMap_append, List.flatMap_singleton, hfilter]
  · intro i hi
    obtain ⟨g, hg, hi⟩ := List.mem_flatMap.mp hi
    obtain ⟨hmem, rfl⟩ := mem_ordered.mp hi
    rcases List.mem_append.mp hmem with hmem | hmem
    · exact hmem
    · exact absurd (hown i hmem ▸ hg) hrest

end Import

namespace Module

variable (m : Module)

def submodule? (place : List String) : Option String :=
  if m.path = .index m.path.package then (m.path.package.isPrefixOf? place).bind List.head? else none

def nameSteps (place : List String) (n : ImportedName) : List Step :=
  if m.path = .index place then
    [⟨n.name, fun s => some ((s n.name).getD (.module (place ++ [n.name])))⟩, ⟨n.bound, fun s => s n.name⟩]
  else [⟨n.bound, fun _ => some (.member place n.name)⟩]

def submoduleSteps (place : List String) : List Step :=
  ((m.submodule? place).map fun name => ⟨name, fun _ => some (.module (m.path.package ++ [name]))⟩).toList

def importSteps (i : Import) : List Step :=
  match i.source.place? m.path.package with
  | none => i.bound.map fun name => ⟨name, fun _ => some .foreign⟩
  | some place => m.submoduleSteps place ++ i.names.flatMap (m.nameSteps place)

def exportSteps : List Step := if m.exports.isSome then [⟨"__all__", fun _ => some .names⟩] else []

def rebuildSteps : List Step :=
  if m.rebuild.isEmpty then []
  else [⟨"_model", fun s => m.rebuild.getLast?.bind s⟩, ⟨"_model", fun _ => none⟩]

def definitionSteps : List Step :=
  m.classes.map (fun k => ⟨k.name, fun _ => some (.model m.path.dotted k.name)⟩)
    ++ m.adapters.map (fun a => ⟨a.name, fun _ => some (.adapter m.path.dotted a.name)⟩)
    ++ m.operations.map (fun o => ⟨o.name, fun _ => some (.function m.path.dotted o.name)⟩)
    ++ m.assigns.map fun a => ⟨a.target, fun s => s.evaluate a.value⟩

def steps : List Step :=
  (futureNames m.future).map (fun name => ⟨name, fun _ => some .foreign⟩)
    ++ (Import.printed m.imports).flatMap m.importSteps ++ m.exportSteps ++ m.definitionSteps ++ m.rebuildSteps

def scope : Scope := Scope.run (fun _ => none) m.steps

/-- The names that an import writes besides those that it is there for. -/
def incidental (i : Import) : List String :=
  match i.source.place? m.path.package with
  | none => []
  | some place =>
    (m.submodule? place).toList
      ++ if m.path = .index place then (i.names.filter (·.asName.isSome)).map (·.name) else []

def defined : List String :=
  m.classes.map (·.name) ++ m.adapters.map (·.name) ++ m.operations.map (·.name) ++ m.assigns.map (·.target)

variable {m} {i : Import} {x : String}

theorem names_definitionSteps : m.definitionSteps.map Step.name = m.defined := by
  simp only [definitionSteps, defined, List.map_append, List.map_map]
  rfl

theorem bound_of_mem {n : ImportedName} (hn : n ∈ i.names) : i.bound = i.names.map ImportedName.bound :=
  if_neg (List.ne_nil_of_mem hn)

theorem mem_names_nameSteps {place : List String} {n : ImportedName} :
    x ∈ (m.nameSteps place n).map Step.name ↔ x = n.bound ∨ m.path = .index place ∧ x = n.name := by
  unfold nameSteps
  split
  · rename_i hown
    simp [hown, or_comm]
  · rename_i hother
    simp [hother]

theorem notMem_rebuildSteps (h : m.rebuild ≠ [] → x ≠ "_model") : x ∉ m.rebuildSteps.map Step.name := by
  unfold rebuildSteps
  split
  · simp
  · rename_i hrebuild
    simpa using h (by simpa using hrebuild)

theorem mem_names_importSteps (h : x ∈ (m.importSteps i).map Step.name) : x ∈ i.bound ∨ x ∈ m.incidental i := by
  unfold importSteps at h
  unfold incidental
  split at h
  · rw [List.map_map] at h
    obtain ⟨name, hname, rfl⟩ := List.mem_map.mp h
    exact .inl hname
  · rename_i place hplace
    rw [List.map_append, List.mem_append] at h
    rcases h with h | h
    · refine .inr (List.mem_append_left _ ?_)
      simpa [submoduleSteps, Option.toList_map] using h
    · rw [List.map_flatMap, List.mem_flatMap] at h
      obtain ⟨n, hn, h⟩ := h
      rw [bound_of_mem hn]
      have hbound : n.bound ∈ i.names.map ImportedName.bound := List.mem_map_of_mem hn
      rcases mem_names_nameSteps.mp h with rfl | ⟨hown, rfl⟩
      · exact .inl hbound
      · cases has : n.asName with
        | none =>
          rw [ImportedName.bound, has] at hbound
          exact .inl hbound
        | some other =>
          refine .inr (List.mem_append_right _ ?_)
          rw [if_pos hown]
          exact List.mem_map_of_mem (List.mem_filter.mpr ⟨hn, by rw [has]; rfl⟩)

structure Imports (m : Module) (foreign own : List Import) : Prop where
  eq : m.imports = foreign ++ own
  foreign_group : ∀ i ∈ foreign, i.group < Import.own
  foreign_place : ∀ i ∈ foreign, i.source.place? m.path.package = none
  own_group : ∀ i ∈ own, i.group = Import.own

section Imports

variable {foreign own before after : List Import} {place : List String} {n : ImportedName}
  (himports : m.Imports foreign own) (hbound : m.bound.Nodup) (hsplit : own = before ++ i :: after) (hn : n ∈ i.names)

/-- What a module writes behind some of its own imports leaves a name alone, unless it is there to write it. -/
structure Quiet (m : Module) (after : List Import) (x : String) : Prop where
  imports : ∀ i ∈ after, x ∉ m.incidental i
  exports : m.exports.isSome → x ≠ "__all__"
  loop : m.rebuild ≠ [] → x ≠ "_model"

def earlySteps (m : Module) (imports : List Import) : List Step :=
  (futureNames m.future).map (fun name => ⟨name, fun _ => some .foreign⟩) ++ imports.flatMap m.importSteps

theorem notMem_earlySteps {imports : List Import} (hfuture : x ∉ futureNames m.future)
    (himports : ∀ j ∈ imports, x ∉ j.bound ∧ x ∉ m.incidental j) : x ∉ (m.earlySteps imports).map Step.name := by
  have hid : (futureNames m.future).map (Step.name ∘ fun name => ⟨name, fun _ => some .foreign⟩) =
      futureNames m.future := List.map_id' _
  simp only [earlySteps, List.map_append, List.map_map, hid, List.mem_append, not_or]
  refine ⟨hfuture, fun hmem => ?_⟩
  rw [List.map_flatMap, List.mem_flatMap] at hmem
  obtain ⟨j, hj, hmem⟩ := hmem
  rcases mem_names_importSteps hmem with hmem | hmem
  · exact (himports j hj).1 hmem
  · exact (himports j hj).2 hmem

def lateSteps (m : Module) (after : List Import) : List Step :=
  after.flatMap m.importSteps ++ m.exportSteps ++ m.definitionSteps ++ m.rebuildSteps

theorem notMem_lateSteps (hquiet : m.Quiet after x) (hafter : x ∉ after.flatMap Import.bound)
    (hdefined : x ∉ m.defined) : x ∉ (m.lateSteps after).map Step.name := by
  simp only [lateSteps, List.map_append, names_definitionSteps, List.mem_append, not_or]
  refine ⟨⟨⟨?_, ?_⟩, hdefined⟩, ?_⟩
  · rw [List.map_flatMap, List.mem_flatMap]
    rintro ⟨j, hj, hmem⟩
    rcases mem_names_importSteps hmem with hmem | hmem
    · exact hafter (List.mem_flatMap.mpr ⟨j, hj, hmem⟩)
    · exact hquiet.imports j hj hmem
  · unfold exportSteps
    split
    · rename_i hexports
      simpa using hquiet.exports hexports
    · simp
  · exact notMem_rebuildSteps hquiet.loop

include himports hbound hsplit hn

theorem once : n.bound ∉ futureNames m.future ∧ n.bound ∉ foreign.flatMap Import.bound ∧
    n.bound ∉ before.flatMap Import.bound ∧ (i.names.map ImportedName.bound).Nodup ∧
    n.bound ∉ after.flatMap Import.bound ∧ n.bound ∉ m.defined := by
  have hmem : n.bound ∈ i.names.map ImportedName.bound := List.mem_map_of_mem hn
  have hall : m.bound = futureNames m.future ++ (foreign.flatMap Import.bound ++ (before.flatMap Import.bound
      ++ (i.names.map ImportedName.bound ++ (after.flatMap Import.bound ++ (m.deferred.flatMap Import.bound
        ++ m.defined))))) := by
    rw [Module.bound, himports.eq, hsplit, defined]
    simp only [List.flatMap_append, List.flatMap_cons, bound_of_mem hn, List.append_assoc]
  rw [hall] at hbound
  simp only [List.nodup_append, List.mem_append] at hbound
  obtain ⟨-, ⟨-, ⟨-, ⟨hnames, -, hafter⟩, hbefore⟩, hforeign⟩, hfuture⟩ := hbound
  refine ⟨fun h => hfuture _ h _ (.inr (.inr (.inl hmem))) rfl, fun h => hforeign _ h _ (.inr (.inl hmem)) rfl,
    fun h => hbefore _ h _ (.inl hmem) rfl, hnames, fun h => hafter _ hmem _ (.inl h) rfl,
    fun h => hafter _ hmem _ (.inr (.inr h)) rfl⟩

omit hbound hn in
theorem exists_steps : ∃ first ⊆ foreign,
    m.steps = m.earlySteps (first ++ before) ++ m.importSteps i ++ m.lateSteps after := by
  obtain ⟨first, hprinted, hfirst⟩ := Import.printed_append himports.foreign_group himports.own_group
  refine ⟨first, hfirst, ?_⟩
  rw [steps, himports.eq, hprinted, hsplit, earlySteps, lateSteps]
  simp only [List.flatMap_append, List.flatMap_cons, List.append_assoc]

omit hbound hn in
theorem exists_steps_of_name (hplace : i.source.place? m.path.package = some place) {ns ns' : List ImportedName}
    (heq : i.names = ns ++ n :: ns') : ∃ first ⊆ foreign, m.steps =
      (m.earlySteps (first ++ before) ++ (m.submoduleSteps place ++ ns.flatMap (m.nameSteps place)))
        ++ (m.nameSteps place n ++ (ns'.flatMap (m.nameSteps place) ++ m.lateSteps after)) := by
  obtain ⟨first, hfirst, hsteps⟩ := exists_steps himports hsplit
  refine ⟨first, hfirst, ?_⟩
  rw [hsteps, importSteps, hplace]
  dsimp only
  rw [heq, List.flatMap_append, List.flatMap_cons]
  simp only [List.append_assoc]

theorem notMem_steps_behind (hquiet : m.Quiet after n.bound) {ns ns' : List ImportedName}
    (heq : i.names = ns ++ n :: ns') (hbehind : m.path = .index place → ∀ n' ∈ ns', n.bound ≠ n'.name) :
    n.bound ∉ (ns'.flatMap (m.nameSteps place) ++ m.lateSteps after).map Step.name := by
  obtain ⟨-, -, -, hnames, hafter, hdefined⟩ := once himports hbound hsplit hn
  rw [heq, List.map_append, List.map_cons, List.nodup_middle, List.nodup_cons] at hnames
  rw [List.map_append, List.mem_append, not_or]
  refine ⟨fun hmem => ?_, notMem_lateSteps hquiet hafter hdefined⟩
  rw [List.map_flatMap, List.mem_flatMap] at hmem
  obtain ⟨n', hn', hmem⟩ := hmem
  rcases mem_names_nameSteps.mp hmem with heq' | ⟨hown, heq'⟩
  · rw [heq'] at hnames
    exact hnames.1 (List.mem_append_right _ (List.mem_map_of_mem hn'))
  · exact hbehind hown n' hn' heq'

theorem scope_of_member (hplace : i.source.place? m.path.package = some place) (hother : m.path ≠ .index place)
    (hquiet : m.Quiet after n.bound) : m.scope n.bound = some (.member place n.name) := by
  obtain ⟨ns, ns', heq⟩ := List.append_of_mem hn
  obtain ⟨first, -, hsteps⟩ := exists_steps_of_name himports hsplit hplace heq
  have hname : m.nameSteps place n = [⟨n.bound, fun _ => some (.member place n.name)⟩] := if_neg hother
  have hlast := notMem_steps_behind himports hbound hsplit hn hquiet heq fun hown => absurd hown hother
  rw [scope, hsteps, hname, List.singleton_append]
  exact Scope.run_of_last _ _ ⟨n.bound, _⟩ hlast

omit himports hbound hsplit hn in
theorem submodule?_own (hown : m.path = .index place) : m.submodule? place = none := by
  have hpackage : m.path.package = place := by
    rw [hown]
    exact ModulePath.package_index place
  rw [submodule?, hpackage, if_pos hown, List.isPrefixOf?_eq_some_iff_append_eq.mpr (List.append_nil place)]
  rfl

omit hbound hsplit hn in
theorem incidental_foreign {j : Import} (hj : j ∈ foreign) : m.incidental j = [] := by
  rw [incidental, himports.foreign_place j hj]

theorem scope_of_package (hown : m.path = .index place) (hplace : i.source.place? m.path.package = some place)
    (hquiet : m.Quiet after n.bound) {ns ns' : List ImportedName} (heq : i.names = ns ++ n :: ns')
    (hfuture : n.name ∉ futureNames m.future) (hfree : n.name ∉ (foreign ++ before).flatMap Import.bound)
    (hincidental : ∀ j ∈ before, n.name ∉ m.incidental j)
    (hbeside : ∀ n' ∈ ns ++ ns', n'.name ≠ n.name ∧ n'.bound ≠ n.name ∧ n'.name ≠ n.bound) :
    m.scope n.bound = some (.module (place ++ [n.name])) := by
  obtain ⟨first, hfirst, hsteps⟩ := exists_steps_of_name himports hsplit hplace heq
  have hname : m.nameSteps place n =
      [⟨n.name, fun s => some ((s n.name).getD (.module (place ++ [n.name])))⟩, ⟨n.bound, fun s => s n.name⟩] :=
    if_pos hown
  have hnone : m.submoduleSteps place = [] := by
    rw [submoduleSteps, submodule?_own hown]
    rfl
  have hlast : n.bound ∉ (ns'.flatMap (m.nameSteps place) ++ m.lateSteps after).map Step.name :=
    notMem_steps_behind himports hbound hsplit hn hquiet heq fun _ n' hn' =>
      (hbeside n' (List.mem_append_right _ hn')).2.2.symm
  have hearly : n.name ∉ (m.earlySteps (first ++ before)).map Step.name := by
    refine notMem_earlySteps hfuture fun j hj => ?_
    rcases List.mem_append.mp hj with hj | hj
    · refine ⟨fun h => hfree (List.mem_flatMap.mpr ⟨j, List.mem_append_left _ (hfirst hj), h⟩), ?_⟩
      rw [incidental_foreign himports (hfirst hj)]
      exact List.not_mem_nil
    · exact ⟨fun h => hfree (List.mem_flatMap.mpr ⟨j, List.mem_append_right _ hj, h⟩), hincidental j hj⟩
  have hbefore : n.name ∉ (ns.flatMap (m.nameSteps place)).map Step.name := by
    rw [List.map_flatMap, List.mem_flatMap]
    rintro ⟨n', hn', hmem⟩
    have hother := hbeside n' (List.mem_append_left _ hn')
    rcases mem_names_nameSteps.mp hmem with heq' | ⟨-, heq'⟩
    · exact hother.2.1 heq'.symm
    · exact hother.1 heq'.symm
  -- The name stands for nothing when it is looked up in the package, so that the package finds its module.
  have hall : m.steps = (m.earlySteps (first ++ before) ++ ns.flatMap (m.nameSteps place)
      ++ [⟨n.name, fun s => some ((s n.name).getD (.module (place ++ [n.name])))⟩])
      ++ ⟨n.bound, fun s => s n.name⟩ :: (ns'.flatMap (m.nameSteps place) ++ m.lateSteps after) := by
    rw [hsteps, hname, hnone]
    simp only [List.append_assoc, List.cons_append, List.nil_append]
  rw [scope, hall, Scope.run_of_last _ _ ⟨n.bound, _⟩ hlast, Scope.run_append]
  dsimp only [Scope.run, List.foldl_cons, List.foldl_nil]
  rw [Function.update_self, ← Scope.run, Scope.run_of_notMem]
  · rfl
  · rw [List.map_append, List.mem_append]
    exact not_or.mpr ⟨hearly, hbefore⟩

omit himports hbound hsplit hn in
theorem scope_of_submodule (himports : m.Imports foreign own) (hsplit : own = before ++ i :: after)
    (hplace : i.source.place? m.path.package = some place) (hsubmodule : m.submodule? place = some x)
    (hother : m.path ≠ .index place) (hi : x ∉ i.names.map ImportedName.bound)
    (hlate : x ∉ (m.lateSteps after).map Step.name) : m.scope x = some (.module (m.path.package ++ [x])) := by
  obtain ⟨first, -, hsteps⟩ := exists_steps himports hsplit
  have hnames : (i.names.flatMap (m.nameSteps place)).map Step.name = i.names.map ImportedName.bound := by
    rw [List.map_flatMap, ← List.flatMap_pure_eq_map]
    exact List.flatMap_congr fun n _ => by rw [nameSteps, if_neg hother]; rfl
  have hlast : x ∉ (i.names.flatMap (m.nameSteps place) ++ m.lateSteps after).map Step.name := by
    rw [List.map_append, List.mem_append, hnames]
    exact not_or.mpr ⟨hi, hlate⟩
  have hall : m.steps = m.earlySteps (first ++ before) ++ ⟨x, fun _ => some (.module (m.path.package ++ [x]))⟩
        :: (i.names.flatMap (m.nameSteps place) ++ m.lateSteps after) := by
    have hsubmoduleSteps : m.submoduleSteps place = [⟨x, fun _ => some (.module (m.path.package ++ [x]))⟩] := by
      rw [submoduleSteps, hsubmodule]
      rfl
    rw [hsteps, importSteps, hplace]
    dsimp only
    rw [hsubmoduleSteps]
    simp only [List.append_assoc, List.cons_append, List.nil_append]
  rw [scope, hall]
  exact Scope.run_of_last _ _ ⟨x, _⟩ hlast

end Imports

section Definitions

theorem nodup_defined (hbound : m.bound.Nodup) : m.defined.Nodup := hbound.of_append_right

theorem notMem_defined (hbound : m.bound.Nodup) (hx : x ∈ m.imports.flatMap Import.bound) : x ∉ m.defined := by
  rw [Module.bound, List.flatMap_append, List.nodup_append] at hbound
  exact fun h => hbound.2.2 x (List.mem_append_right _ (List.mem_append_left _ hx)) x h rfl

theorem scope_of_defined (hbound : m.bound.Nodup) {step : Step} (hstep : step ∈ m.definitionSteps)
    (hloop : m.rebuild ≠ [] → step.name ≠ "_model") : ∃ s : Scope, m.scope step.name = step.value s ∧
      ∀ x, x ∉ m.defined → (m.rebuild ≠ [] → x ≠ "_model") → s x = m.scope x := by
  have hdefined := nodup_defined hbound
  obtain ⟨earlier, later, hsplit⟩ := List.append_of_mem hstep
  rw [← names_definitionSteps, hsplit, List.map_append, List.map_cons, List.nodup_middle, List.nodup_cons] at hdefined
  have hlater : step.name ∉ (later ++ m.rebuildSteps).map Step.name := by
    rw [List.map_append, List.mem_append, not_or]
    exact ⟨fun h => hdefined.1 (List.mem_append_right _ h), notMem_rebuildSteps hloop⟩
  let start : List Step := m.earlySteps (Import.printed m.imports) ++ m.exportSteps
  have hall : m.steps = (start ++ earlier) ++ step :: (later ++ m.rebuildSteps) := by
    rw [steps, hsplit]
    simp only [start, earlySteps, List.append_assoc, List.cons_append]
  refine ⟨Scope.run (fun _ => none) (start ++ earlier), ?_, fun x hx hxloop => ?_⟩
  · rw [scope, hall]
    exact Scope.run_of_last _ _ step hlater
  · rw [← names_definitionSteps, hsplit, List.map_append, List.mem_append, not_or] at hx
    have hrest : x ∉ (step :: (later ++ m.rebuildSteps)).map Step.name := by
      rw [← List.cons_append, List.map_append, List.mem_append, not_or]
      exact ⟨hx.2, notMem_rebuildSteps hxloop⟩
    rw [scope, hall, Scope.run_append _ (start ++ earlier), Scope.run_of_notMem _ hrest]

theorem scope_of_class (hbound : m.bound.Nodup) {k : ClassDef} (hk : k ∈ m.classes) (hloop : m.rebuild = []) :
    m.scope k.name = some (.model m.path.dotted k.name) := by
  have hstep : ⟨k.name, fun _ => some (.model m.path.dotted k.name)⟩ ∈ m.definitionSteps :=
    List.mem_append_left _ (List.mem_append_left _ (List.mem_append_left _ (List.mem_map.mpr ⟨k, hk, rfl⟩)))
  obtain ⟨s, hscope, -⟩ := scope_of_defined hbound hstep fun h => absurd hloop h
  exact hscope

theorem scope_of_operation (hbound : m.bound.Nodup) {o : OperationDef} (ho : o ∈ m.operations)
    (hloop : m.rebuild = []) : m.scope o.name = some (.function m.path.dotted o.name) := by
  have hstep : ⟨o.name, fun _ => some (.function m.path.dotted o.name)⟩ ∈ m.definitionSteps :=
    List.mem_append_left _ (List.mem_append_right _ (List.mem_map.mpr ⟨o, ho, rfl⟩))
  obtain ⟨s, hscope, -⟩ := scope_of_defined hbound hstep fun h => absurd hloop h
  exact hscope

theorem scope_of_assign (hbound : m.bound.Nodup) {a : Assign} (ha : a ∈ m.assigns) (hloop : m.rebuild = []) :
    ∃ s : Scope, m.scope a.target = s.evaluate a.value ∧ ∀ x, x ∉ m.defined → s x = m.scope x := by
  have hstep : ⟨a.target, fun s => s.evaluate a.value⟩ ∈ m.definitionSteps :=
    List.mem_append_right _ (List.mem_map.mpr ⟨a, ha, rfl⟩)
  obtain ⟨s, hscope, hsame⟩ := scope_of_defined hbound hstep fun h => absurd hloop h
  exact ⟨s, hscope, fun x hx => hsame x hx fun h => absurd hloop h⟩

theorem scope_of_exports (hexports : m.exports.isSome) (hdefined : "__all__" ∉ m.defined) :
    m.scope "__all__" = some .names := by
  have hlast : "__all__" ∉ (m.definitionSteps ++ m.rebuildSteps).map Step.name := by
    rw [List.map_append, List.mem_append, not_or, names_definitionSteps]
    exact ⟨hdefined, notMem_rebuildSteps fun _ => by decide⟩
  have hsteps : m.steps = m.earlySteps (Import.printed m.imports) ++ ⟨"__all__", fun _ => some .names⟩
        :: (m.definitionSteps ++ m.rebuildSteps) := by
    rw [steps, earlySteps, exportSteps, if_pos hexports]
    simp only [List.append_assoc, List.cons_append, List.nil_append]
  rw [scope, hsteps]
  exact Scope.run_of_last _ _ ⟨"__all__", _⟩ hlast

theorem scope_of_loop (hloop : m.rebuild ≠ []) : m.scope "_model" = none := by
  have hsteps : m.rebuildSteps = [⟨"_model", fun s => m.rebuild.getLast?.bind s⟩, ⟨"_model", fun _ => none⟩] :=
    if_neg (by simpa using hloop)
  rw [scope, steps, hsteps, List.append_cons]
  exact Scope.run_of_last _ _ ⟨"_model", fun _ => none⟩ List.not_mem_nil

end Definitions

theorem submodule?_eq_some {place : List String} : m.submodule? place = some x ↔
    m.path = .index m.path.package ∧ ∃ rest, place = m.path.package ++ x :: rest := by
  unfold submodule?
  split
  · rename_i hindex
    rw [Option.bind_eq_some_iff]
    constructor
    · rintro ⟨rest, hrest, hhead⟩
      obtain ⟨tail, rfl⟩ := List.head?_eq_some_iff.mp hhead
      exact ⟨hindex, tail, (List.isPrefixOf?_eq_some_iff_append_eq.mp hrest).symm⟩
    · rintro ⟨-, rest, rfl⟩
      exact ⟨_, List.isPrefixOf?_eq_some_iff_append_eq.mpr rfl, rfl⟩
  · rename_i hfile
    exact ⟨fun h => (Option.some_ne_none _ h.symm).elim, fun h => absurd h.1 hfile⟩

theorem mem_incidental : x ∈ m.incidental i ↔ ∃ place, i.source.place? m.path.package = some place ∧
    (m.submodule? place = some x ∨ m.path = .index place ∧ ∃ n ∈ i.names, n.asName.isSome ∧ n.name = x) := by
  unfold incidental
  cases i.source.place? m.path.package with
  | none => simp
  | some place =>
    have hown : x ∈ (if m.path = .index place then (i.names.filter (·.asName.isSome)).map (·.name) else []) ↔
        m.path = .index place ∧ ∃ n ∈ i.names, n.asName.isSome ∧ n.name = x := by
      split
      · rename_i h
        simp [h, and_assoc]
      · rename_i h
        simp [h]
    simp only [Option.some.injEq, exists_eq_left', List.mem_append, Option.mem_toList, hown]

end Module

end ClientForge
