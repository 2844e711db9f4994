import ClientForge.Proofs.Inheritance
import ClientForge.Proofs.Linearisation

/-!
When the generated classes can be made with the bases that they have: their orders of resolution exist just where no
class has bases that contradict each other.
-/

namespace ClientForge

open Outcome Relation

inductive ClassRef
  | library (name : String)
  | made (id : Registry.ClassId)
deriving DecidableEq, Repr

def ClassRef.name : ClassRef → String
  | .library name => name
  | .made id => id.name

namespace Registry

def classOf? (r : Registry) (id : ClassId) : Option ClassDef :=
  match r.get? id.schema with
  | none => none
  | some e => (e.compile r).toOption.bind fun c => c.models.reverse.find? (·.name = id.name)

def meaning (r : Registry) (schema base : String) : ClassRef :=
  if (r.classOf? ⟨schema, base⟩).isSome then .made ⟨schema, base⟩
  else match r.entries.find? (·.symbol = base) with
    | some e => .made ⟨e.name, base⟩
    | none => .library base

def basesIn (r : Registry) (schema : String) (k : ClassDef) : List ClassRef := k.bases.map (r.meaning schema)

def basesOf (r : Registry) : ClassRef → List ClassRef
  | .library _ => []
  | .made id => ((r.classOf? id).map (r.basesIn id.schema)).getD []

def Resolves (r : Registry) (schema : String) (k : ClassDef) : Prop :=
  Linearisation.Mergeable r.basesOf (r.basesIn schema k)

def InOrder (r : Registry) (schema : String) (k : ClassDef) : Prop :=
  Linearisation.Consistent r.basesOf (r.basesIn schema k)

def InheritsApart (r : Registry) (schema : String) (k : ClassDef) : Prop :=
  Linearisation.Apart r.basesOf (.library "BaseModel") (r.basesIn schema k)

/-- What the lists of bases of a class and of all that it inherits from say goes round in a circle, where a class comes
before its bases and these in the order of the list. -/
def ListsInCircle (r : Registry) (schema : String) (k : ClassDef) : Prop :=
  ∃ x, TransGen (Linearisation.ListedBefore r.basesOf (r.basesIn schema k)) x x

variable {r : Registry}

theorem name_meaning (r : Registry) (schema base : String) : (r.meaning schema base).name = base := by
  unfold meaning
  split
  · rfl
  · split <;> rfl

theorem nodup_basesIn {y : String} {k : ClassDef} (h : r.Makes y k) : (r.basesIn y k).Nodup := by
  obtain ⟨e, c, -, hc, hk⟩ := h
  have hnames : (r.basesIn y k).map ClassRef.name = k.bases := by
    rw [basesIn, List.map_map]
    exact (List.map_congr_left fun base _ => r.name_meaning y base).trans (List.map_id' k.bases)
  apply List.Nodup.of_map ClassRef.name
  exact hnames ▸ NamedSchema.compile_nodup_bases hc k hk

theorem makes_of_classOf? {id : ClassId} {k : ClassDef} (h : r.classOf? id = some k) :
    r.Makes id.schema k ∧ k.name = id.name := by
  unfold classOf? at h
  split at h
  · cases h
  · rename_i e he
    obtain ⟨c, hc, h⟩ := Option.bind_eq_some_iff.mp h
    have hc : e.compile r = .ok c := by
      cases hcompile : e.compile r with
      | error _ =>
        rw [hcompile] at hc
        cases hc
      | ok _ =>
        rw [hcompile] at hc
        cases hc
        rfl
    exact ⟨⟨e, c, he, hc, List.mem_reverse.mp (List.mem_of_find?_eq_some h)⟩, by simpa using List.find?_some h⟩

theorem classOf?_of_error {e : NamedSchema} {name : String} {fault : Failure} (hr : r.Plain) (he : e ∈ r.entries)
    (h : e.compile r = .error fault) : r.classOf? ⟨e.name, name⟩ = none := by
  rw [classOf?, hr.get?_name he]
  dsimp only
  rw [h]
  rfl

theorem isBase_of_mem_basesOf (hr : r.Plain) {a b : ClassId} (h : .made a ∈ r.basesOf (.made b)) :
    r.IsBase a b ∨ r.basesOf (.made a) = [] := by
  dsimp only [basesOf] at h
  cases hb : r.classOf? b with
  | none =>
    rw [hb] at h
    cases h
  | some k =>
    rw [hb, Option.map_some, Option.getD_some] at h
    obtain ⟨hk, hname⟩ := makes_of_classOf? hb
    obtain ⟨base, hbase, hmeaning⟩ := List.mem_map.mp h
    unfold meaning at hmeaning
    split at hmeaning
    · rename_i hsome
      cases hmeaning
      obtain ⟨k', hk'⟩ := Option.isSome_iff_exists.mp hsome
      exact .inl ⟨⟨k', makes_of_classOf? hk'⟩, ⟨k, hk, hname, hbase⟩, .inl rfl⟩
    · split at hmeaning
      · rename_i e he
        cases hmeaning
        have hmem := List.mem_of_find?_eq_some he
        have hsymbol : e.symbol = base := by simpa using List.find?_some he
        cases hc : e.compile r with
        | error fault =>
          right
          rw [basesOf, classOf?_of_error hr hmem hc]
          rfl
        | ok c =>
          obtain ⟨before, own, hmodels, hown, -⟩ := NamedSchema.compile_last hmem hc
          have hget := hr.get?_name hmem
          have hmade : r.Makes e.name own := ⟨e, c, hget, hc, by simp [hmodels]⟩
          exact .inl ⟨⟨own, hmade, hown.trans hsymbol⟩, ⟨k, hk, hname, hbase⟩, .inr ⟨e, hget, hsymbol⟩⟩
      · cases hmeaning

theorem basesOf_wellFounded (hr : r.Plain) : WellFounded fun a b => a ∈ r.basesOf b := by
  have hleaf {x : ClassRef} (h : r.basesOf x = []) : Acc (fun a b => a ∈ r.basesOf b) x := by
    refine Acc.intro x fun y hy => ?_
    rw [h] at hy
    cases hy
  constructor
  intro x
  cases x with
  | library name => exact hleaf rfl
  | made b =>
    induction b using (isBase_wellFounded hr).induction with
    | _ b ih =>
      refine Acc.intro _ fun y hy => ?_
      cases y with
      | library name => exact hleaf rfl
      | made a =>
        rcases isBase_of_mem_basesOf hr hy with hbase | hnil
        · exact ih a hbase
        · exact hleaf hnil

theorem basesOf_cases (x : ClassRef) : r.basesOf x = [] ∨ ∃ y k, r.Makes y k ∧ r.basesOf x = r.basesIn y k := by
  cases x with
  | library name => exact .inl rfl
  | made id =>
    cases hk : r.classOf? id with
    | none =>
      left
      rw [basesOf, hk]
      rfl
    | some k =>
      refine .inr ⟨id.schema, k, (makes_of_classOf? hk).1, ?_⟩
      rw [basesOf, hk]
      rfl

theorem consistent_basesOf (h : ∀ y k, r.Makes y k → r.InOrder y k) (x : ClassRef) :
    Linearisation.Consistent r.basesOf (r.basesOf x) := by
  rcases r.basesOf_cases x with hnil | ⟨y, k, hk, hbases⟩
  · exact hnil ▸ Linearisation.consistent_nil
  · exact hbases ▸ h y k hk

theorem apart_basesOf (h : ∀ y k, r.Makes y k → r.InheritsApart y k) (x : ClassRef) :
    (r.basesOf x).Nodup ∧ Linearisation.Apart r.basesOf (.library "BaseModel") (r.basesOf x) := by
  rcases r.basesOf_cases x with hnil | ⟨y, k, hk, hbases⟩
  · exact hnil ▸ ⟨List.nodup_nil, List.forall_mem_nil _⟩
  · exact hbases ▸ ⟨nodup_basesIn hk, h y k hk⟩

/-- Every class that is made for the named schemas has an order of resolution just where none has bases that contradict
each other. So it is where no two bases of a class have anything but `BaseModel` in common; and a class has none if
the lists of bases above it go round in a circle, as they do if it lists something before what inherits from it. -/
theorem resolves_iff {d : Document} (hd : ofDocument d = .ok r) :
    ((∀ y k, r.Makes y k → r.Resolves y k) ↔ ∀ y k, r.Makes y k → r.InOrder y k) ∧
      ((∀ y k, r.Makes y k → r.InheritsApart y k) → ∀ y k, r.Makes y k → r.Resolves y k) ∧
      (∀ y k, r.Makes y k → r.ListsInCircle y k → ¬r.Resolves y k) ∧
      ∀ y k a b, r.Makes y k → [a, b].Sublist (r.basesIn y k) → TransGen (fun a b => a ∈ r.basesOf b) a b →
        ¬r.Resolves y k := by
  have hwf := basesOf_wellFounded (plain_of_ofDocument hd)
  refine ⟨⟨fun h y k hk => (h y k hk).consistent, fun h y k hk => ?_⟩, fun h y k hk => ?_, fun y k _ h hresolves => ?_,
    fun y k a b _ hab => ?_⟩
  · have horders := Linearisation.exists_linear hwf (consistent_basesOf h)
    exact Linearisation.mergeable_of_consistent (fun b _ => horders b) (h y k hk)
  · have horders := Linearisation.exists_linear_of_apart hwf (apart_basesOf h)
    exact Linearisation.mergeable_of_apart hwf (nodup_basesIn hk) (h y k hk) fun b _ => horders b
  · exact hresolves.not_circular h
  · exact Linearisation.not_mergeable_of_ancestor hab

def inheritanceOf (lastBases : List String) : Document :=
  .map [(.text "A", objectOf []), (.text "B", intersectionOf [referenceTo "A", objectOf []]),
    (.text "C", intersectionOf (lastBases.map referenceTo))]

def inheritanceSchemas (lastBases : List String) : Registry := ⟨[
  ⟨"A", "A", "a", .object plainMarks [] [] none⟩,
  ⟨"B", "B", "b", .allOf plainMarks [.ref plainMarks "A", .object plainMarks [] [] none]⟩,
  ⟨"C", "C", "c", .allOf plainMarks (lastBases.map (.ref plainMarks))⟩]⟩

theorem forall_makes {p : String → ClassDef → Prop} (check : String → ClassDef → Bool)
    (hcheck : ∀ y k, check y k = true → p y k)
    (h : r.entries.all (fun e => (e.compile r).toOption.all fun c => c.models.all (check e.name)) = true) :
    ∀ y k, r.Makes y k → p y k := by
  rintro y k ⟨e, c, he, hc, hk⟩
  obtain ⟨hmem, rfl⟩ := mem_of_get? he
  have hall := List.all_eq_true.mp h e hmem
  rw [hc] at hall
  exact hcheck e.name k (List.all_eq_true.mp hall k hk)

theorem resolves_specialFirst :
    (∃ r, ofDocument (inheritanceOf ["B"]) = .ok r ∧ (∀ y k, r.Makes y k → r.InheritsApart y k) ∧
      ∀ y k, r.Makes y k → r.Resolves y k) ∧
    ∃ r, ofDocument (inheritanceOf ["B", "A"]) = .ok r ∧ (∀ y k, r.Makes y k → r.Resolves y k) ∧
      ∀ y k, r.Makes y k → r.InOrder y k := by
  constructor
  · let r := inheritanceSchemas ["B"]
    have hd : ofDocument (inheritanceOf ["B"]) = .ok r := rfl
    have hapart : ∀ y k, r.Makes y k → r.InheritsApart y k :=
      forall_makes (fun y k => Linearisation.areApart r.basesOf 4 (.library "BaseModel") (r.basesIn y k))
        (fun _ _ => Linearisation.apart_of_areApart) (by decide +kernel)
    exact ⟨r, hd, hapart, (resolves_iff hd).2.1 hapart⟩
  · let r := inheritanceSchemas ["B", "A"]
    have hd : ofDocument (inheritanceOf ["B", "A"]) = .ok r := rfl
    have hresolves : ∀ y k, r.Makes y k → r.Resolves y k :=
      forall_makes (fun y k => Linearisation.canMerge r.basesOf 4 (r.basesIn y k))
        (fun _ _ => Linearisation.mergeable_of_canMerge) (by decide +kernel)
    exact ⟨r, hd, hresolves, (resolves_iff hd).1.mp hresolves⟩

theorem generalFirst_not_resolves :
    ∃ r, ofDocument (inheritanceOf ["A", "B"]) = .ok r ∧ (∀ e ∈ r.entries, (e.compile r).isOk = true) ∧
      ∃ y k, r.Makes y k ∧ ¬r.Resolves y k := by
  let r := inheritanceSchemas ["A", "B"]
  have hd : ofDocument (inheritanceOf ["A", "B"]) = .ok r := rfl
  have hok : r.entries.all (fun e => (e.compile r).isOk) = true := by decide +kernel
  have hbases : (r.classOf? ⟨"C", "C"⟩).any (fun k =>
      r.basesIn "C" k = [.made ⟨"A", "A"⟩, .made ⟨"B", "B"⟩]) = true := by
    decide +kernel
  have hbase : .made ⟨"A", "A"⟩ ∈ r.basesOf (.made ⟨"B", "B"⟩) := by decide +kernel
  obtain ⟨k, hk, hlist⟩ := (Option.any_eq_true _ _).mp hbases
  refine ⟨r, hd, List.all_eq_true.mp hok, "C", k, (makes_of_classOf? hk).1, ?_⟩
  apply Linearisation.not_mergeable_of_ancestor (a := .made ⟨"A", "A"⟩) (b := .made ⟨"B", "B"⟩) _ (.single hbase)
  rw [of_decide_eq_true hlist]

end Registry

end ClientForge
