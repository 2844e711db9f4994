import ClientForge.Package.Schemas
import Mathlib.Data.List.Cycle
import Mathlib.Logic.Relation

/-!
The search for the names that a name leads to comes to an end, and finds every one of them and no other. It does not
matter which of the pending names is gone through next.
-/

namespace ClientForge.Registry

open Relation

def RefersTo (r : Registry) (a b : String) : Prop := b ∈ r.referencesOf a

theorem refersTo_iff {r : Registry} {a b : String} :
    r.RefersTo a b ↔ ∃ e, r.get? a = some e ∧ b ∈ e.schema.references := by
  unfold RefersTo referencesOf
  cases r.get? a <;> simp

def openReferences (entries : List NamedSchema) (seen : List String) : ℕ :=
  (entries.filter (·.name ∉ seen)).foldr (fun e n => e.schema.references.length + n) 0

theorem openReferences_cons (e : NamedSchema) (entries : List NamedSchema) (seen : List String) :
    openReferences (e :: entries) seen =
      (if e.name ∈ seen then 0 else e.schema.references.length) + openReferences entries seen := by
  unfold openReferences
  by_cases h : e.name ∈ seen <;> simp [h]

theorem openReferences_le (entries : List NamedSchema) (seen : List String) (name : String) :
    openReferences entries (name :: seen) ≤ openReferences entries seen := by
  induction entries with
  | nil => exact Nat.le_refl _
  | cons e entries ih =>
    rw [openReferences_cons, openReferences_cons]
    by_cases h : e.name ∈ seen <;> by_cases hn : e.name = name <;> simp [h, hn] <;> omega

theorem openReferences_visit (r : Registry) {seen : List String} {name : String} (h : name ∉ seen) :
    openReferences r.entries (name :: seen) + (r.referencesOf name).length ≤ openReferences r.entries seen := by
  unfold referencesOf get?
  induction r.entries with
  | nil => simp [openReferences]
  | cons e entries ih =>
    rw [openReferences_cons, openReferences_cons, List.find?_cons]
    by_cases hn : e.name = name
    · subst hn
      have hle := openReferences_le entries seen e.name
      simp only [List.mem_cons_self, beq_self_eq_true, h, if_true, if_false, Option.map_some, Option.getD_some]
      omega
    · have hb : (e.name == name) = false := by simpa using hn
      simp only [hb, List.mem_cons, hn, false_or]
      split <;> omega

/-- The names gone through, and those still to be gone through, some of them perhaps more than once. -/
structure Search where
  seen : List String
  pending : List String

namespace Search

variable {r : Registry} {name x : String} {s s' : Search}

def start (r : Registry) (name : String) : Search := ⟨[], r.referencesOf name⟩

inductive Round (r : Registry) : Search → Search → Prop
  | skip {seen pending rest : List String} {name : String} (htaken : pending.Perm (name :: rest))
      (hseen : name ∈ seen) : Round r ⟨seen, pending⟩ ⟨seen, rest⟩
  | visit {seen pending rest next : List String} {name : String} (htaken : pending.Perm (name :: rest))
      (hnew : name ∉ seen) (hnext : next.Perm (r.referencesOf name ++ rest)) :
      Round r ⟨seen, pending⟩ ⟨name :: seen, next⟩

abbrev Run (r : Registry) : Search → Search → Prop := ReflTransGen (Round r)

def Knows (s : Search) (name : String) : Prop := name ∈ s.seen ∨ name ∈ s.pending

section Ending

def cost (r : Registry) (s : Search) : ℕ := s.pending.length + openReferences r.entries s.seen

theorem Round.cost_lt (h : Round r s s') : s'.cost r < s.cost r := by
  cases h with
  | skip htaken hseen =>
    have hlength := htaken.length_eq
    rw [List.length_cons] at hlength
    simp only [cost]
    omega
  | visit htaken hnew hnext =>
    have hlength := htaken.length_eq
    have hlength' := hnext.length_eq
    have hvisit := openReferences_visit r hnew
    rw [List.length_cons] at hlength
    rw [List.length_append] at hlength'
    simp only [cost]
    omega

theorem wellFounded_round (r : Registry) : WellFounded fun s' s => Round r s s' :=
  Subrelation.wf (fun h => h.cost_lt) (measure (cost r)).wf

theorem exists_round (hpending : s.pending ≠ []) : ∃ s', Round r s s' := by
  obtain ⟨seen, pending⟩ := s
  obtain ⟨name, rest, rfl⟩ := List.exists_cons_of_ne_nil hpending
  by_cases hseen : name ∈ seen
  · exact ⟨_, .skip (.refl _) hseen⟩
  · exact ⟨_, .visit (.refl _) hseen (.refl _)⟩

theorem run_reachFrom {fuel : ℕ} {seen pending : List String} (h : cost r ⟨seen, pending⟩ < fuel) :
    Run r ⟨seen, pending⟩ ⟨reachFrom r.referencesOf fuel seen pending, []⟩ := by
  -- Every round lowers the cost, so that the fuel lasts until no name is pending.
  induction fuel generalizing seen pending with
  | zero => omega
  | succ fuel ih =>
    cases pending with
    | nil => exact .refl
    | cons name rest =>
      unfold reachFrom
      split
      · rename_i hseen
        have hround : Round r ⟨seen, name :: rest⟩ ⟨seen, rest⟩ := .skip (.refl _) hseen
        have hcost := hround.cost_lt
        exact .head hround (ih (by omega))
      · rename_i hnew
        have hround : Round r ⟨seen, name :: rest⟩ ⟨name :: seen, r.referencesOf name ++ rest⟩ :=
          .visit (.refl _) hnew (.refl _)
        have hcost := hround.cost_lt
        exact .head hround (ih (by omega))

theorem run_reachable (r : Registry) (name : String) : Run r (start r name) ⟨r.reachable name, []⟩ := by
  apply run_reachFrom
  simp only [cost, openReferences]
  rw [List.filter_eq_self.mpr (by simp)]
  omega

end Ending

section Found

theorem Round.known (h : Round r s s') : ∃ name, s.Knows name ∧ (∀ x, x ∈ s'.seen ↔ x ∈ s.seen ∨ x = name) ∧
    ∀ x, s'.Knows x ↔ s.Knows x ∨ name ∉ s.seen ∧ r.RefersTo name x := by
  cases h with
  | @skip seen pending rest name htaken hseen =>
    refine ⟨name, .inl hseen, fun x => ?_, fun x => ?_⟩
    · simp only [iff_self_or]
      rintro rfl
      exact hseen
    · simp only [Knows, htaken.mem_iff, List.mem_cons]
      grind
  | @visit seen pending rest next name htaken hnew hnext =>
    refine ⟨name, .inr (htaken.mem_iff.mpr List.mem_cons_self), fun x => ?_, fun x => ?_⟩
    · simp [or_comm]
    · simp only [Knows, RefersTo, htaken.mem_iff, hnext.mem_iff, List.mem_cons, List.mem_append]
      grind

structure Follows (r : Registry) (name : String) (s : Search) : Prop where
  first : ∀ x, r.RefersTo name x → s.Knows x
  next : ∀ x ∈ s.seen, ∀ y, r.RefersTo x y → s.Knows y
  leads : ∀ x, s.Knows x → TransGen r.RefersTo name x

theorem follows_start (r : Registry) (name : String) : Follows r name (start r name) where
  first x hx := .inr hx
  next x hx := by cases hx
  leads x hx := by
    rcases hx with hx | hx
    · cases hx
    · exact .single hx

theorem Follows.round (h : Follows r name s) (hround : Round r s s') : Follows r name s' := by
  obtain ⟨taken, htaken, hseen, hknows⟩ := hround.known
  constructor
  · intro x hx
    exact (hknows x).mpr (.inl (h.first x hx))
  · intro x hx y hy
    rw [hknows]
    by_cases hold : x ∈ s.seen
    · exact .inl (h.next x hold y hy)
    · obtain rfl := ((hseen x).mp hx).resolve_left hold
      exact .inr ⟨hold, hy⟩
  · intro x hx
    rcases (hknows x).mp hx with hx | ⟨-, hx⟩
    · exact h.leads x hx
    · exact (h.leads taken htaken).tail hx

theorem Follows.run (h : Follows r name s) (hrun : Run r s s') : Follows r name s' := by
  induction hrun with
  | refl => exact h
  | tail _ hround ih => exact ih.round hround

theorem Follows.mem_seen_iff {seen : List String} (h : Follows r name ⟨seen, []⟩) :
    x ∈ seen ↔ TransGen r.RefersTo name x := by
  have hknows {y : String} : Knows ⟨seen, []⟩ y ↔ y ∈ seen := by simp [Knows]
  constructor
  · intro hx
    exact h.leads x (.inl hx)
  · intro hchain
    induction hchain with
    | single hx => exact hknows.mp (h.first _ hx)
    | tail _ hx ih => exact hknows.mp (h.next _ ih _ hx)

end Found

end Search

theorem mem_reachable_iff {r : Registry} {a b : String} : b ∈ r.reachable a ↔ TransGen r.RefersTo a b :=
  ((Search.follows_start r a).run (Search.run_reachable r a)).mem_seen_iff

section Circles

variable {α : Type} {R : α → α → Prop} {a b : α}

theorem exists_nodup_chain (h : ReflTransGen R a b) :
    ∃ l : List α, l.IsChain R ∧ l.Nodup ∧ l.head? = some a ∧ l.getLast? = some b := by
  induction h using ReflTransGen.head_induction_on with
  | refl => exact ⟨[b], .singleton b, List.nodup_singleton b, rfl, rfl⟩
  | @head a c hac _ ih =>
    obtain ⟨l, hchain, hnodup, hhead, hlast⟩ := ih
    by_cases ha : a ∈ l
    · -- The way comes back to `a`: what lies before that is left out.
      obtain ⟨before, after, rfl⟩ := List.append_of_mem ha
      refine ⟨a :: after, hchain.right_of_append, hnodup.of_append_right, rfl, ?_⟩
      rwa [List.getLast?_append_of_ne_nil _ (List.cons_ne_nil a after)] at hlast
    · obtain ⟨l', rfl⟩ : ∃ l', l = c :: l' := List.head?_eq_some_iff.mp hhead
      exact ⟨a :: c :: l', .cons_cons hac hchain, List.nodup_cons.mpr ⟨ha, hnodup⟩, rfl, by simpa using hlast⟩

theorem transGen_self_iff : TransGen R a a ↔ ∃ circle : Cycle α, circle.Nodup ∧ circle.Chain R ∧ a ∈ circle := by
  constructor
  · intro h
    obtain ⟨c, hway, hback⟩ := TransGen.tail'_iff.mp h
    obtain ⟨l, hchain, hnodup, hhead, hlast⟩ := exists_nodup_chain hway
    obtain ⟨rest, rfl⟩ : ∃ rest, l = a :: rest := List.head?_eq_some_iff.mp hhead
    refine ⟨(a :: rest : List α), by simpa using hnodup, Cycle.chain_coe_cons R a rest |>.mpr ?_, by simp⟩
    rw [← List.cons_append]
    refine hchain.append (.singleton a) ?_
    intro x hx y hy
    rw [hlast] at hx
    cases hx
    cases hy
    exact hback
  · rintro ⟨circle, -, hchain, ha⟩
    exact Cycle.chain_iff_pairwise.mp (hchain.imp fun _ _ => .single) a ha a ha

end Circles

/-- What is found for a name: what chains of references lead to, whatever the order of the search. -/
structure Finds (r : Registry) (name : String) (found : List String) : Prop where
  run : Search.Run r (Search.start r name) ⟨found, []⟩
  mem_iff : ∀ x, x ∈ found ↔ TransGen r.RefersTo name x
  mem_self_iff : name ∈ found ↔ ∃ circle : Cycle String, circle.Nodup ∧ circle.Chain r.RefersTo ∧ name ∈ circle
  in_any_order : ∀ seen, Search.Run r (Search.start r name) ⟨seen, []⟩ → ∀ x, x ∈ seen ↔ x ∈ found

theorem finds_reachable (r : Registry) (name : String) : Finds r name (r.reachable name) where
  run := Search.run_reachable r name
  mem_iff _ := mem_reachable_iff
  mem_self_iff := mem_reachable_iff.trans transGen_self_iff
  in_any_order _ hrun _ := ((Search.follows_start r name).run hrun).mem_seen_iff.trans mem_reachable_iff.symm

theorem lookup_reachability {r : Registry} {name : String} (h : name ∈ r.names) :
    r.reachability.lookup name = some (r.reachable name) :=
  List.lookup_graph _ h

/-- No search goes on for ever, none stops while a name is pending, and each name is mapped to the names that it leads
to. -/
theorem reachability_finds (r : Registry) :
    (WellFounded fun s' s => Search.Round r s s') ∧ (∀ s : Search, s.pending ≠ [] → ∃ s', Search.Round r s s') ∧
      r.reachability.map (·.1) = r.names ∧
      ∀ name ∈ r.names, ∃ found, r.reachability.lookup name = some found ∧ Finds r name found := by
  refine ⟨Search.wellFounded_round r, fun s hs => Search.exists_round hs, ?_, fun name hname => ?_⟩
  · rw [reachability, List.map_map]
    exact List.map_id' _
  · exact ⟨_, lookup_reachability hname, finds_reachable r name⟩

def tangled : Registry :=
  let object (others : List String) : Schema :=
    .object ⟨false, .absent⟩ (others.map fun other => (other, .ref ⟨false, .absent⟩ other)) [] none
  ⟨[⟨"Pet", "Pet", "pet", object ["Owner"]⟩, ⟨"Owner", "Owner", "owner", object ["Pet", "Address"]⟩,
    ⟨"Order", "Order", "order", object ["Pet"]⟩]⟩

theorem reachability_finds_tangled :
    "Order" ∈ tangled.names ∧ ∃ found, tangled.reachability.lookup "Order" = some found ∧ Finds tangled "Order" found ∧
      "Address" ∈ found ∧ "Order" ∉ found := by
  have hname : "Order" ∈ tangled.names := by decide
  obtain ⟨-, -, -, hfinds⟩ := reachability_finds tangled
  obtain ⟨found, hfound, hfinds⟩ := hfinds "Order" hname
  have hlist : tangled.reachability.lookup "Order" = some ["Address", "Owner", "Pet"] := by decide +kernel
  obtain rfl := Option.some.inj (hfound.symm.trans hlist)
  exact ⟨hname, _, hfound, hfinds, by decide, by decide⟩

end ClientForge.Registry
