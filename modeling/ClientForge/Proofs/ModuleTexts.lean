import ClientForge.Proofs.WrappedLists

/-!
The text of a module around its definitions, read back: every import once and in the order of the groups, the imports
for type checkers, the exports, and the loop over the classes behind the definitions.
-/

namespace ClientForge

open Statement

namespace Import

variable {imports : List Import}

theorem ordered_perm (imports : List Import) (group : Int) :
    (ordered imports group).Perm (imports.filter (·.group = group)) := by
  dsimp only [ordered]
  split_ifs
  · exact List.Perm.refl _
  · exact List.mergeSort_perm _ _

theorem flatMap_ordered_perm (imports : List Import) {groups : List Int} (hnodup : groups.Nodup) :
    (groups.flatMap (ordered imports)).Perm (imports.filter (·.group ∈ groups)) := by
  induction groups with
  | nil => simp
  | cons group groups ih =>
    obtain ⟨hgroup, hnodup⟩ := List.nodup_cons.mp hnodup
    have hfirst : (imports.filter (·.group ∈ group :: groups)).filter (·.group = group) =
        imports.filter (·.group = group) := by
      rw [List.filter_filter]
      apply List.filter_congr
      intro i _
      by_cases hi : i.group = group <;> simp [hi]
    have hrest : (imports.filter (·.group ∈ group :: groups)).filter (fun i => !decide (i.group = group)) =
        imports.filter (·.group ∈ groups) := by
      rw [List.filter_filter]
      apply List.filter_congr
      intro i _
      by_cases hi : i.group = group <;> simp [hi, hgroup]
    have hsplit := List.filter_append_perm (fun i => decide (i.group = group))
      (imports.filter (·.group ∈ group :: groups))
    rw [hfirst, hrest] at hsplit
    rw [List.flatMap_cons]
    exact ((ordered_perm imports group).append (ih hnodup)).trans hsplit

theorem nodup_groups (imports : List Import) : (groups imports).Nodup :=
  (groups_sorted imports).imp fun h => Int.ne_of_lt h

theorem printed_perm (imports : List Import) : (printed imports).Perm imports := by
  have hall : imports.filter (·.group ∈ groups imports) = imports := by
    rw [List.filter_eq_self]
    intro i hi
    simpa using mem_groups.mpr ⟨i, hi, rfl⟩
  have h := flatMap_ordered_perm imports (nodup_groups imports)
  rwa [hall] at h

theorem printed_sorted (imports : List Import) : (printed imports).Pairwise fun a b => a.group ≤ b.group := by
  rw [printed, List.pairwise_flatMap]
  constructor
  · intro group _
    apply List.pairwise_of_forall_mem_list
    intro a ha b hb
    rw [(mem_ordered.mp ha).2, (mem_ordered.mp hb).2]
  · refine (groups_sorted imports).imp fun hlt a ha b hb => ?_
    rw [(mem_ordered.mp ha).2, (mem_ordered.mp hb).2]
    exact Int.le_of_lt hlt

theorem filter_ordered (imports : List Import) (group : Int) :
    (ordered imports group).filter (·.group = own) = if group = own then imports.filter (·.group = own) else [] := by
  split_ifs with h
  · rw [ordered, if_pos h, h, List.filter_filter]
    simp
  · rw [List.filter_eq_nil_iff]
    intro i hi
    simpa [(mem_ordered.mp hi).2] using h

theorem printed_own (imports : List Import) :
    (printed imports).filter (·.group = own) = imports.filter (·.group = own) := by
  have hcount {groups : List Int} (hnodup : groups.Nodup) : (groups.flatMap fun group =>
      if group = own then imports.filter (·.group = own) else []) =
        if own ∈ groups then imports.filter (·.group = own) else [] := by
    induction groups with
    | nil => rfl
    | cons group groups ih =>
      obtain ⟨hgroup, hnodup⟩ := List.nodup_cons.mp hnodup
      rw [List.flatMap_cons, ih hnodup]
      by_cases h : group = own
      · subst h
        simp [hgroup]
      · simp [h, Ne.symm h]
  rw [printed, List.filter_flatMap]
  simp only [filter_ordered]
  rw [hcount (nodup_groups imports)]
  split_ifs with h
  · rfl
  · symm
    rw [List.filter_eq_nil_iff]
    intro i hi hown
    exact h (mem_groups.mpr ⟨i, hi, of_decide_eq_true hown⟩)

def said (indent : ℕ) (i : Import) : ℕ × Statement := (indent, .imports i.source.text i.names)

end Import

namespace Module

def apart (sections : List String) : String := .join (sections.map fun s => "\n" ++ s ++ "\n")

def openingSections (m : Module) : List String :=
  (if m.future then ["from __future__ import annotations"] else [])
    ++ (Import.groups m.imports).map (Import.block m.imports)
    ++ (if m.deferred.isEmpty then [] else [deferredText m.deferred])
    ++ (m.exports.map exportsText).toList

def opening (m : Module) : String := apart m.openingSections

def middle (m : Module) : String :=
  .join ({ m with rebuild := [] }.definitions.map fun d => "\n\n" ++ d ++ "\n")

def loop (m : Module) : String := if m.rebuild.isEmpty then "" else "\n\n" ++ rebuildText m.rebuild ++ "\n"

theorem intercalate_apart (first : String) (sections : List String) :
    "\n\n".intercalate (first :: sections) ++ "\n" = first ++ "\n" ++ apart sections := by
  induction sections generalizing first with
  | nil => simp [apart]
  | cons s sections ih =>
    have hfeeds : "\n\n" = "\n" ++ "\n" := rfl
    rw [String.intercalate_cons_cons, String.append_assoc, ih, hfeeds]
    simp only [apart, List.map_cons, String.join_cons, String.append_assoc]

theorem text_eq (m : Module) : m.text = m.header ++ "\n" ++ m.opening ++ m.middle ++ m.loop := by
  have hsections : m.sections = m.header :: m.openingSections := by simp [sections, openingSections]
  rw [text, hsections, intercalate_apart, opening, middle, loop]
  by_cases h : m.rebuild.isEmpty
  · have hnil : { m with rebuild := [] } = m := by rw [← List.isEmpty_iff.mp h]
    rw [if_pos h, hnil, String.append_empty]
  · have hdefinitions : m.definitions = { m with rebuild := [] }.definitions ++ [rebuildText m.rebuild] := by
      simp [definitions, h]
    rw [if_neg h, hdefinitions, List.map_append, String.join_append, List.map_singleton, String.join_cons,
      String.join_nil, String.append_empty]
    simp only [String.append_assoc]

section Reading

variable {m : Module} {a b : List String} {as bs : List (ℕ × Statement)}

structure HasNames (m : Module) : Prop where
  imports : ∀ i ∈ m.imports, IsImport i
  deferred : ∀ i ∈ m.deferred, IsImport i
  rebuild : ∀ name ∈ m.rebuild, IsName name

theorem says_apart_append (ha : Says (apart a) as) (hb : Says (apart b) bs) : Says (apart (a ++ b)) (as ++ bs) := by
  rw [apart, List.map_append, String.join_append]
  exact ha.append hb

theorem says_apart_singleton {s : String} (h : Says (s ++ "\n") as) : Says (apart [s]) as := by
  have h := says_feed.append h
  simpa [apart, String.append_assoc] using h

theorem says_apart_map {α : Type} {l : List α} {f : α → String} {g : α → List (ℕ × Statement)}
    (h : ∀ x ∈ l, Says (f x ++ "\n") (g x)) : Says (apart (l.map f)) (l.flatMap g) := by
  induction l with
  | nil => exact says_empty
  | cons x l ih =>
    obtain ⟨hx, hl⟩ := List.forall_mem_cons.mp h
    rw [List.map_cons, ← List.singleton_append, List.flatMap_cons]
    exact says_apart_append (says_apart_singleton hx) (ih hl)

theorem says_imports {imports : List Import} {indent : String} {k : ℕ} (hindent : indent.toList = List.replicate k ' ')
    (hne : imports ≠ []) (h : ∀ i ∈ imports, IsImport i) :
    Says (joinLines (imports.map (·.text indent)) ++ "\n") (imports.map (Import.said k)) := by
  rw [List.map_eq_flatMap (f := Import.said k)]
  exact says_joinLines hne fun i hi => (h i hi).says_text hindent

theorem says_block (hm : m.HasNames) {group : Int} (hgroup : group ∈ Import.groups m.imports) :
    Says (Import.block m.imports group ++ "\n") ((Import.ordered m.imports group).map (Import.said 0)) := by
  have hnone : "".toList = List.replicate 0 ' ' := rfl
  obtain ⟨i, hi, heq⟩ := Import.mem_groups.mp hgroup
  exact says_imports hnone (List.ne_nil_of_mem (Import.mem_ordered.mpr ⟨hi, heq⟩)) fun j hj =>
    hm.imports j (Import.mem_ordered.mp hj).1

theorem says_deferred (hm : m.HasNames) (hne : m.deferred ≠ []) :
    Says (deferredText m.deferred ++ "\n") ((0, .checking) :: m.deferred.map (Import.said 4)) := by
  have hif : IsName "if" := ⟨by decide, by decide⟩
  have hchecking : IsName "TYPE_CHECKING" := ⟨by decide, by decide⟩
  have hspells : LineReader.Spells false "if TYPE_CHECKING:".toList [.word "if", .word "TYPE_CHECKING", .mark ':'] := by
    simpa using (hif.spells false).spaced ((hchecking.spells false).marked LineReader.spells_nil (by simp))
  have hline : Says ("if TYPE_CHECKING:" ++ "\n") [(0, .checking)] :=
    says_line hspells ⟨'i', by simp, by decide⟩ (by decide)
  have hfour : indentation.toList = List.replicate 4 ' ' := rfl
  have himports := says_imports hfour hne hm.deferred
  obtain ⟨i, imports, heq⟩ := List.exists_cons_of_ne_nil hne
  have hlines : deferredText m.deferred ++ "\n" = "if TYPE_CHECKING:" ++ "\n" ++
      (joinLines (m.deferred.map (·.text indentation)) ++ "\n") := by
    rw [deferredText, heq, joinLines, List.map_cons, String.intercalate_cons_cons]
    simp only [joinLines, String.append_assoc]
  rw [hlines]
  exact hline.append himports

theorem says_future : Says ("from __future__ import annotations" ++ "\n")
    [(0, .imports "__future__" [⟨"annotations", none⟩])] := by
  let future : Import := ⟨.dotted "__future__", [⟨"annotations", none⟩], 0⟩
  have hfuture : IsImport future := ⟨by decide, by decide, fun n hn => by
    rw [List.mem_singleton.mp hn]
    exact ⟨⟨by decide, by decide⟩, fun other hother => nomatch hother⟩⟩
  have hnone : "".toList = List.replicate 0 ' ' := rfl
  have htext : future.text "" = "from __future__ import annotations" := by decide
  exact htext ▸ hfuture.says_text hnone

theorem says_opening (hm : m.HasNames) : Says m.opening
    ((if m.future then [(0, .imports "__future__" [⟨"annotations", none⟩])] else [])
      ++ (Import.printed m.imports).map (Import.said 0)
      ++ (if m.deferred.isEmpty then [] else (0, .checking) :: m.deferred.map (Import.said 4))
      ++ (m.exports.map fun names => (0, .exports (names.map Text.points))).toList) := by
  refine says_apart_append (says_apart_append (says_apart_append ?_ ?_) ?_) ?_
  · split_ifs
    · exact says_apart_singleton says_future
    · exact says_empty
  · rw [Import.printed, List.map_flatMap]
    exact says_apart_map fun group hgroup => says_block hm hgroup
  · split_ifs with h
    · exact says_empty
    · exact says_apart_singleton (says_deferred hm fun hnil => h (List.isEmpty_iff.mpr hnil))
  · cases m.exports with
    | none => exact says_empty
    | some names => exact says_apart_singleton (says_exports names)

theorem says_loop_end (hm : m.HasNames) : Says m.loop (if m.rebuild.isEmpty then []
    else [(0, .loop "_model" m.rebuild), (4, .call "_model.model_rebuild"), (0, .deletes "_model")]) := by
  unfold loop
  split_ifs
  · exact says_empty
  · have h := says_feed.append (says_feed.append (says_rebuild hm.rebuild))
    simpa [← String.append_assoc] using h

end Reading

/-- Wrapping changes no meaning: the text around the definitions says what the module has, each import once, the groups
in order and the package's own imports as they were given. -/
theorem text_reads (m : Module) (hm : m.HasNames) :
    m.text = m.header ++ "\n" ++ m.opening ++ m.middle ++ m.loop ∧
    ofText? m.opening = some
      ((if m.future then [(0, .imports "__future__" [⟨"annotations", none⟩])] else [])
        ++ (Import.printed m.imports).map (Import.said 0)
        ++ (if m.deferred.isEmpty then [] else (0, .checking) :: m.deferred.map (Import.said 4))
        ++ (m.exports.map fun names => (0, .exports (names.map Text.points))).toList) ∧
    ofText? m.loop = some (if m.rebuild.isEmpty then []
      else [(0, .loop "_model" m.rebuild), (4, .call "_model.model_rebuild"), (0, .deletes "_model")]) ∧
    (Import.printed m.imports).Perm m.imports ∧
    (Import.printed m.imports).Pairwise (fun a b => a.group ≤ b.group) ∧
    (Import.printed m.imports).filter (·.group = Import.own) = m.imports.filter (·.group = Import.own) :=
  ⟨m.text_eq, (says_opening hm).ofText?_eq, (says_loop_end hm).ofText?_eq, Import.printed_perm _,
    Import.printed_sorted _, Import.printed_own _⟩

theorem text_reads_wrapped :
    let long : ImportedName := ⟨"AnswerWithAVeryLongNameThatTakesMostOfTheWholeLine", some "Answer"⟩
    let answer : Import := ⟨.relative 1 ["answer"], [long, ⟨"Question", none⟩], Import.own⟩
    let m : Module := { Module.blank ["schemas", "pet.py"] with
      imports := [answer, ⟨.dotted "httpx", [], 1⟩]
      deferred := [⟨.relative 1 ["owner"], [⟨"Owner", none⟩], Import.own⟩]
      exports := some ["Pet"]
      rebuild := ["Pet"] }
    m.HasNames ∧ answer.text "" = "from .answer import (\n" ++
        "    AnswerWithAVeryLongNameThatTakesMostOfTheWholeLine as Answer,\n    Question,\n)" ∧
      ofText? m.opening = some [(0, .imports "httpx" []), (0, .imports ".answer" [long, ⟨"Question", none⟩]),
        (0, .checking), (4, .imports ".owner" [⟨"Owner", none⟩]), (0, .exports [Text.points "Pet"])] ∧
      m.loop = "\n\nfor _model in (Pet,):\n    _model.model_rebuild()\ndel _model\n" ∧
      ofText? m.loop =
        some [(0, .loop "_model" ["Pet"]), (4, .call "_model.model_rebuild"), (0, .deletes "_model")] := by
  intro long answer m
  have hplain (name : String) (h : IsName name) : IsImportedName ⟨name, none⟩ := ⟨h, fun _ hother => nomatch hother⟩
  have hlong : IsImportedName long := ⟨⟨by decide, by decide⟩, fun other hother => by
    cases hother
    exact ⟨by decide, by decide⟩⟩
  have hm : m.HasNames := by
    refine ⟨fun i hi => ?_, fun i hi => ?_, fun name hname => ?_⟩
    · rcases List.mem_cons.mp hi with rfl | hi
      · exact ⟨by decide, by decide, by simp [answer, hlong, hplain "Question" ⟨by decide, by decide⟩]⟩
      · rw [List.mem_singleton.mp hi]
        exact ⟨by decide, by decide, by simp⟩
    · rw [List.mem_singleton.mp hi]
      exact ⟨by decide, by decide, by simp [hplain "Owner" ⟨by decide, by decide⟩]⟩
    · rw [List.mem_singleton.mp hname]
      exact ⟨by decide, by decide⟩
  have hprinted : Import.printed m.imports = [⟨.dotted "httpx", [], 1⟩, answer] := by
    have hgroups : Import.groups m.imports = [1, 2] := by
      simp [Import.groups, m, answer, Import.own, List.mergeSort, List.eraseDups_cons]
    rw [Import.printed, hgroups]
    simp [Import.ordered, m, answer, Import.own]
  obtain ⟨-, hopening, hloop, -⟩ := text_reads m hm
  rw [hprinted] at hopening
  exact ⟨hm, by decide +kernel, hopening, by decide +kernel, hloop⟩

end Module

end ClientForge
