import ClientForge.Document.Reference
import ClientForge.Proofs.Outcomes

namespace ClientForge

open Outcome

namespace Document

inductive PathStep
  | key (name : String)
  | index (k : ℕ)
deriving DecidableEq, Repr

def child? : Document → PathStep → Option Document
  | .map entries, .key name => Entries.get? entries name
  | .list items, .index k => items[k]?
  | _, _ => none

def at? (d : Document) : List PathStep → Option Document
  | [] => some d
  | step :: path => (d.child? step).bind fun e => e.at? path

/-- Scalars in lists and mappings of any depth. The keys are texts, none twice, and nothing holds itself. -/
inductive IsTree : Document → Prop
  | scalar (s : Scalar) : IsTree (.scalar s)
  | list {items : List Document} (hitems : ∀ d ∈ items, IsTree d) : IsTree (.list items)
  | map {entries : Entries} (htexts : ∀ e ∈ entries, ∃ name, e.1 = .text name) (hnodup : entries.keys.Nodup)
      (hentries : ∀ e ∈ entries, IsTree e.2) : IsTree (.map entries)

variable {d e : Document} {path path' : List PathStep} {step : PathStep} {kept : List String}

@[simp] theorem isTree_scalar (s : Scalar) : (scalar s).IsTree := .scalar s

@[simp] theorem isTree_list_iff {items : List Document} : (list items).IsTree ↔ ∀ d ∈ items, d.IsTree :=
  ⟨fun | .list hitems => hitems, .list⟩

@[simp] theorem isTree_map_iff {entries : Entries} : (map entries).IsTree ↔
    (∀ e ∈ entries, ∃ name, e.1 = .text name) ∧ entries.keys.Nodup ∧ ∀ e ∈ entries, e.2.IsTree :=
  ⟨fun | .map htexts hnodup hentries => ⟨htexts, hnodup, hentries⟩,
    fun ⟨htexts, hnodup, hentries⟩ => .map htexts hnodup hentries⟩

theorem get?_of_mem {entries : Entries} (hnodup : entries.keys.Nodup) {name : String} {v : Document}
    (h : (.text name, v) ∈ entries) : Entries.get? entries name = some v := by
  induction entries with
  | nil => cases h
  | cons e rest ih =>
    rw [Entries.get?_cons]
    obtain ⟨hhead, hnodup⟩ := List.nodup_cons.mp hnodup
    rcases List.mem_cons.mp h with rfl | h
    · rw [if_pos rfl]
    · have hne : e.1 ≠ .text name := fun he => hhead (List.mem_map.mpr ⟨_, h, he.symm⟩)
      rw [if_neg hne, ih hnodup h]

theorem mem_of_get? {entries : Entries} {name : String} {v : Document} (h : Entries.get? entries name = some v) :
    (.text name, v) ∈ entries := by
  obtain ⟨e, he, rfl⟩ := Option.map_eq_some_iff.mp h
  have hkey : e.1 = .text name := by simpa using List.find?_some he
  exact hkey ▸ List.mem_of_find?_eq_some he

theorem cases_of_child (h : d.child? step = some e) :
    (∃ items k, d = .list items ∧ step = .index k ∧ items[k]? = some e) ∨
      ∃ entries name, d = .map entries ∧ step = .key name ∧ Entries.get? entries name = some e := by
  unfold child? at h
  split at h
  · exact .inr ⟨_, _, rfl, rfl, h⟩
  · exact .inl ⟨_, _, rfl, rfl, h⟩
  · cases h

theorem IsTree.opened (h : d.IsTree) : d.opened = d := by cases h <;> rfl

theorem IsTree.child (h : d.IsTree) (hchild : d.child? step = some e) : e.IsTree := by
  rcases cases_of_child hchild with ⟨items, k, rfl, -, hk⟩ | ⟨entries, name, rfl, -, hname⟩
  · cases h with
    | list hitems => exact hitems e (List.mem_of_getElem? hk)
  · cases h with
    | map _ _ hentries => exact hentries _ (mem_of_get? hname)

theorem at?_cons : d.at? (step :: path) = (d.child? step).bind fun e => e.at? path := rfl

theorem at?_cons_eq_some : d.at? (step :: path) = some e ↔ ∃ c, d.child? step = some c ∧ c.at? path = some e :=
  Option.bind_eq_some_iff

theorem at?_append : d.at? (path ++ path') = (d.at? path).bind fun e => e.at? path' := by
  induction path generalizing d with
  | nil => rfl
  | cons step path ih =>
    rw [List.cons_append, at?_cons, at?_cons, Option.bind_assoc]
    exact congrArg _ (funext fun c => ih)

theorem at?_induction {P : Document → Prop} (hparts : ∀ {d e step}, P d → d.child? step = some e → P e)
    (h : d.at? path = some e) (hd : P d) : P e := by
  induction path generalizing d with
  | nil =>
    cases h
    exact hd
  | cons step path ih =>
    obtain ⟨c, hc, h⟩ := at?_cons_eq_some.mp h
    exact ih h (hparts hd hc)

theorem IsTree.at? (h : d.IsTree) (hpath : d.at? path = some e) : e.IsTree :=
  at?_induction (fun hd hchild => hd.child hchild) hpath h

theorem mem_itemReferences {items : List Document} {ref : String} :
    ref ∈ itemReferences kept items ↔ ∃ d ∈ items, ref ∈ references kept d := by
  induction items with
  | nil => simp [itemReferences]
  | cons d items ih => simp [itemReferences, ih]

theorem mem_entryReferences {entries : Entries} {ref : String} :
    ref ∈ entryReferences kept entries ↔ ∃ e ∈ entries, ref ∈ references kept e.2 := by
  induction entries with
  | nil => simp [entryReferences]
  | cons e entries ih => simp [entryReferences, ih]

theorem references_child (h : d.child? step = some e) : references kept e ⊆ references kept d := by
  intro ref href
  rcases cases_of_child h with ⟨items, k, rfl, -, hk⟩ | ⟨entries, name, rfl, -, hname⟩
  · rw [references, mem_itemReferences]
    exact ⟨e, List.mem_of_getElem? hk, href⟩
  · rw [references, List.mem_append, mem_entryReferences]
    exact .inr ⟨_, mem_of_get? hname, href⟩

theorem references_at (h : d.at? path = some e) : references kept e ⊆ references kept d :=
  at?_induction (P := fun c => references kept c ⊆ references kept d)
    (fun hd hchild => List.Subset.trans (references_child hchild) hd) h (List.Subset.refl _)

theorem depth_le_of_mem_items {items : List Document} (h : d ∈ items) : d.depth ≤ itemsDepth items := by
  induction items with
  | nil => cases h
  | cons c items ih =>
    rw [itemsDepth]
    rcases List.mem_cons.mp h with rfl | h
    · exact Nat.le_max_left _ _
    · exact Nat.le_trans (ih h) (Nat.le_max_right _ _)

theorem depth_le_of_mem_entries {entries : Entries} {e : Scalar × Document} (h : e ∈ entries) :
    e.2.depth ≤ entriesDepth entries := by
  induction entries with
  | nil => cases h
  | cons c entries ih =>
    rw [entriesDepth]
    rcases List.mem_cons.mp h with rfl | h
    · exact Nat.le_max_left _ _
    · exact Nat.le_trans (ih h) (Nat.le_max_right _ _)

theorem itemsDepth_le {items : List Document} {n : ℕ} (h : ∀ d ∈ items, d.depth ≤ n) : itemsDepth items ≤ n := by
  induction items with
  | nil => exact Nat.zero_le n
  | cons c items ih =>
    rw [itemsDepth]
    exact Nat.max_le_of_le_of_le (h c List.mem_cons_self) (ih fun d hd => h d (List.mem_cons_of_mem _ hd))

theorem entriesDepth_le {entries : Entries} {n : ℕ} (h : ∀ e ∈ entries, e.2.depth ≤ n) : entriesDepth entries ≤ n := by
  induction entries with
  | nil => exact Nat.zero_le n
  | cons c entries ih =>
    rw [entriesDepth]
    exact Nat.max_le_of_le_of_le (h c List.mem_cons_self) (ih fun e he => h e (List.mem_cons_of_mem _ he))

theorem IsTree.depth_pos (hd : d.IsTree) : 0 < d.depth := by
  cases hd with
  | scalar s => exact Nat.one_pos
  | list => exact Nat.succ_pos _
  | map => exact Nat.succ_pos _

theorem depth_child (h : d.child? step = some e) : e.depth + 1 ≤ d.depth := by
  rcases cases_of_child h with ⟨items, k, rfl, -, hk⟩ | ⟨entries, name, rfl, -, hname⟩
  · exact Nat.succ_le_succ (depth_le_of_mem_items (List.mem_of_getElem? hk))
  · exact Nat.succ_le_succ (depth_le_of_mem_entries (mem_of_get? hname))

theorem depth_at (h : d.at? path = some e) : e.depth ≤ d.depth :=
  at?_induction (P := fun c => c.depth ≤ d.depth)
    (fun hd hchild => Nat.le_trans (Nat.le_of_succ_le (depth_child hchild)) hd) h (Nat.le_refl _)

end Document

namespace Pointer

variable {d e : Document} {ref : String}

theorem item?_eq_some_iff {items : List Document} {i : Int} :
    item? items i = some e ↔ ∃ k : ℕ, (i = k ∨ i + items.length = k) ∧ items[k]? = some e := by
  constructor
  · intro h
    unfold item? at h
    split at h
    · exact ⟨i.toNat, .inl (by omega), h⟩
    · split at h
      · cases h
      · exact ⟨(i + items.length).toNat, .inr (by omega), h⟩
  · rintro ⟨k, hk, h⟩
    obtain ⟨hlt, -⟩ := List.getElem?_eq_some_iff.mp h
    unfold item?
    rcases hk with rfl | hk
    · rw [if_pos (Int.natCast_nonneg k), Int.toNat_natCast, h]
    · rw [if_neg (by omega), if_neg (by omega), hk, Int.toNat_natCast, h]

theorem step_eq_ok (hd : d.IsTree) {segment : String} (h : step ref d segment = .ok e) :
    ∃ step, d.child? step = some e := by
  unfold step at h
  rw [hd.opened] at h
  split at h
  · exact ⟨.key segment, elim_error_eq_ok.mp h⟩
  · obtain ⟨i, -, hi⟩ := Option.bind_eq_some_iff.mp (elim_error_eq_ok.mp h)
    obtain ⟨k, -, hk⟩ := item?_eq_some_iff.mp hi
    exact ⟨.index k, hk⟩
  · cases h

theorem follow_eq_ok {segments : List String} (hd : d.IsTree) (h : follow ref segments d = .ok e) :
    ∃ path, d.at? path = some e := by
  induction segments generalizing d with
  | nil =>
    cases h
    exact ⟨[], rfl⟩
  | cons segment segments ih =>
    obtain ⟨c, hc, h⟩ := bind_eq_ok.mp h
    obtain ⟨first, hfirst⟩ := step_eq_ok hd hc
    obtain ⟨path, hpath⟩ := ih (hd.child hfirst) h
    exact ⟨first :: path, Document.at?_cons_eq_some.mpr ⟨c, hfirst, hpath⟩⟩

theorem lookup_eq_ok {root : Document} (hroot : root.IsTree) (h : lookup ref root = .ok d) :
    ∃ path, root.at? path = some d := by
  unfold lookup at h
  split at h
  · cases h
  · exact follow_eq_ok hroot h

end Pointer

end ClientForge
