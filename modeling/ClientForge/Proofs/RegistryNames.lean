import ClientForge.Proofs.FieldNames

/-!
The names of the classes and modules in a registry: what they look like, that none is given twice, and that each is
made from the names of the schemas up to its own.
-/

namespace ClientForge

open Naming Outcome

namespace Naming

variable {s t name : String}

def IsLowerCase (s : String) : Prop := ∀ c ∈ s.toList, c.isUpper = false

instance (s : String) : Decidable (IsLowerCase s) := inferInstanceAs (Decidable (∀ c ∈ s.toList, _))

theorem IsLowerCase.append (hs : IsLowerCase s) (ht : IsLowerCase t) : IsLowerCase (s ++ t) := by
  intro c hc
  rw [String.toList_append, List.mem_append] at hc
  exact hc.elim (hs c) (ht c)

theorem isUpper_toLower (c : Char) : c.toLower.isUpper = false := by
  rw [← Bool.not_eq_true, isUpper_iff]
  unfold Char.toLower
  split
  · rename_i h
    have hlow : 65 ≤ c.val.toNat := h.1
    have hhigh : c.val.toNat ≤ 90 := h.2
    have hshift : (c.val + ('a'.val - 'A'.val)).toNat = (c.val.toNat + 32) % 4294967296 := UInt32.toNat_add _ _
    change ¬(65 ≤ (c.val + ('a'.val - 'A'.val)).toNat ∧ (c.val + ('a'.val - 'A'.val)).toNat ≤ 90)
    omega
  · rename_i h
    exact h

theorem toLower_of_not_isUpper {c : Char} (hc : c.isUpper = false) : c.toLower = c := by
  unfold Char.toLower
  rw [dif_neg]
  exact fun h => Bool.false_ne_true (hc.symm.trans (decide_eq_true h))

theorem IsLowerCase.toLower_eq (hs : IsLowerCase s) : s.toLower = s := by
  apply String.toList_injective
  change (s.map Char.toLower).toList = s.toList
  rw [String.toList_map]
  exact (List.map_congr_left fun c hc => toLower_of_not_isUpper (hs c hc)).trans (List.map_id _)

theorem isUpper_of_mem_lowerChar {c d : Char} (hd : d ∈ lowerChar c) : d.isUpper = false := by
  unfold lowerChar at hd
  split_ifs at hd
  · rw [List.mem_singleton.mp hd]
    decide
  · have hall : ['i', '\u0307'].all (fun d => !d.isUpper) = true := by decide
    simpa using List.all_eq_true.mp hall d hd
  · rw [List.mem_singleton.mp hd]
    exact isUpper_toLower c

theorem isUpper_of_mem_identifierChars {chars : List Char} (h : ∀ c ∈ chars, c.isUpper = false) :
    ∀ c ∈ identifierChars chars, c.isUpper = false := by
  have hmark : '_'.isUpper = false := by decide
  have hmap : ∀ c ∈ chars.map (fun c => if isWordChar c then c else '_'), c.isUpper = false := by
    rw [List.forall_mem_map]
    intro c hc
    split
    · exact h c hc
    · exact hmark
  have hdigit : ∀ c ∈ guardDigit (chars.map fun c => if isWordChar c then c else '_'), c.isUpper = false := by
    unfold guardDigit
    split
    · rename_i heq
      rw [heq] at hmap
      split
      · exact List.forall_mem_cons.mpr ⟨hmark, hmap⟩
      · exact hmap
    · exact List.forall_mem_singleton.mpr hmark
  unfold identifierChars guardKeyword
  split
  · exact List.forall_mem_append.mpr ⟨hdigit, List.forall_mem_singleton.mpr hmark⟩
  · exact hdigit

theorem moduleName_isLowerCase (symbol : String) : IsLowerCase (moduleName symbol) := by
  intro c hc
  rw [moduleName, identifier, String.toList_ofList, String.toList_ofList] at hc
  refine isUpper_of_mem_identifierChars (fun d hd => ?_) c hc
  obtain ⟨e, -, hd⟩ := List.mem_flatMap.mp hd
  exact isUpper_of_mem_lowerChar hd

theorem isUpper_of_isDigit {c : Char} (h : c.isDigit = true) : c.isUpper = false := by
  rw [isDigit_iff] at h
  rw [← Bool.not_eq_true, isUpper_iff]
  omega

theorem unique_isLowerCase (h : IsLowerCase name) (taken : List String) : IsLowerCase (unique name taken "_") := by
  rcases unique_eq name taken "_" with heq | ⟨k, heq⟩
  · rwa [heq]
  · rw [heq]
    have hmark : IsLowerCase (name ++ "_") := h.append (List.forall_mem_singleton.mpr (by decide))
    exact hmark.append fun c hc => isUpper_of_isDigit (isDigit_of_mem_toString hc)

theorem classSymbol_notMem_keywords (name : String) : classSymbol name ∉ keywords := by
  have hmodel : ∀ s ∈ keywords, ¬"Model".toList <:+ s.toList := by decide
  obtain ⟨k, hk⟩ := toList_free "Model" reservedSymbols (identifier name)
  cases k with
  | zero =>
    have heq : classSymbol name = identifier name := String.toList_injective (hk.trans (List.append_nil _))
    rw [heq]
    exact identifier_notMem_keywords name
  | succ k =>
    refine fun hmem => hmodel _ hmem ?_
    rw [classSymbol, hk, List.replicate_succ', List.flatten_append, List.flatten_singleton, ← List.append_assoc]
    exact List.suffix_append _ _

theorem numbered_notMem_keywords (name separator : String) (k : ℕ) : numbered name separator k ∉ keywords := by
  obtain ⟨c, hlast⟩ := Option.ne_none_iff_exists'.mp (mt List.getLast?_eq_none_iff.mp (toString_ne_nil k))
  have hdigit := isDigit_of_mem_toString (List.mem_of_getLast? hlast)
  have hend : (numbered name separator k).toList.getLast? = some c := by
    rw [numbered, String.toList_append, List.getLast?_append, hlast, Option.some_or]
  exact (notMem_fixed hend (isAlpha_eq_false_of_isDigit hdigit)).1

theorem unique_notMem_keywords (h : name ∉ keywords) (taken : List String) : unique name taken "_" ∉ keywords := by
  rcases unique_eq name taken "_" with heq | ⟨k, heq⟩
  · rwa [heq]
  · rw [heq]
    exact numbered_notMem_keywords name "_" k

end Naming

namespace Registry

variable {d : Document} {r : Registry} {names : List String}

/-- Modules are told apart by their names in lower case, as some file systems do. -/
structure WellNamed (r : Registry) : Prop where
  symbols : r.symbols.Nodup
  symbol : ∀ e ∈ r.entries, IsIdentifier e.symbol ∧ e.symbol ∉ keywords ∧ e.symbol ∉ reservedSymbols
  modules : (r.modules.map String.toLower).Nodup
  module : ∀ e ∈ r.entries, IsIdentifier e.module ∧ IsLowerCase e.module ∧ e.module ∉ keywords ∧
    e.module ≠ indexModule

theorem wellNamed_of_ofDocument (h : ofDocument d = .ok r) : r.WellNamed := by
  have hwell := wellFormed_of_ofDocument h
  have hlower : ∀ e ∈ r.entries, IsLowerCase e.module :=
    forall_entries h fun _ _ _ _ _ _ => unique_isLowerCase (moduleName_isLowerCase _) _
  have hsymbols : ∀ e ∈ r.entries, e.symbol ∉ keywords :=
    forall_entries h fun name _ _ _ _ _ => unique_notMem_keywords (classSymbol_notMem_keywords name) _
  have hmodules : ∀ e ∈ r.entries, e.module ∉ keywords :=
    forall_entries h fun _ _ _ _ _ _ => unique_notMem_keywords (identifier_notMem_keywords _) _
  refine ⟨hwell.symbols, fun e he => ?_, ?_, fun e he => ?_⟩
  · exact ⟨symbols_areIdentifiers h e he, hsymbols e he, symbols_notMem_reserved h e he⟩
  · have heq : r.modules.map String.toLower = r.modules := by
      rw [modules, List.map_map]
      exact List.map_congr_left fun e he => (hlower e he).toLower_eq
    rw [heq]
    exact hwell.modules
  · exact ⟨modules_areIdentifiers h e he, hlower e he, hmodules e he, hwell.module_ne_index e he⟩

section Order

def given (r : Registry) : List (String × String) := r.entries.map fun e => (e.symbol, e.module)

def giveNext (held : List (String × String)) (name : String) : List (String × String) :=
  let symbol := unique (classSymbol name) (held.map (·.1)) "_"
  held ++ [(symbol, unique (moduleName symbol) (indexModule :: held.map (·.2)) "_")]

def HasNames (d : Document) (names : List String) : Prop :=
  ∃ entries, d.opened = .map entries ∧ Entries.keys entries = names.map .text ∧ names.Nodup

theorem insertEntry_of_notMem {entries : List NamedSchema} {new : NamedSchema}
    (h : new.name ∉ entries.map (·.name)) : insertEntry entries new = entries ++ [new] := by
  induction entries with
  | nil => rfl
  | cons e entries ih =>
    rw [List.map_cons, List.mem_cons, not_or] at h
    rw [insertEntry, if_neg (Ne.symm h.1), ih h.2, List.cons_append]

theorem entries_insert {name : String} (h : name ∉ r.names) (schema : Schema) : (r.insert name schema).entries =
    r.entries ++ [⟨name, unique (classSymbol name) r.symbols "_",
      unique (moduleName (unique (classSymbol name) r.symbols "_")) (indexModule :: r.modules) "_", schema⟩] :=
  insertEntry_of_notMem h

theorem names_insert {name : String} (h : name ∉ r.names) (schema : Schema) :
    (r.insert name schema).names = r.names ++ [name] := by
  simp only [Registry.names, entries_insert h, List.map_append, List.map_cons, List.map_nil]

theorem given_insert {name : String} (h : name ∉ r.names) (schema : Schema) :
    (r.insert name schema).given = giveNext r.given name := by
  simp only [given, giveNext, entries_insert h, symbols, modules, List.map_append, List.map_cons, List.map_nil,
    List.map_map, Function.comp_def]

theorem foldlM_insert {entries : Entries} (start : Registry) (hkeys : Entries.keys entries = names.map Scalar.text)
    (hnodup : (start.names ++ names).Nodup)
    (h : entries.foldlM (fun r (k, d) => do
      return r.insert (← (Document.scalar k).displayed) (← Schema.ofDocument d)) start = Except.ok (ε := Failure) r) :
    r.names = start.names ++ names ∧ r.given = names.foldl giveNext start.given := by
  induction names generalizing entries start with
  | nil =>
    obtain rfl := List.map_eq_nil_iff.mp hkeys
    cases h
    exact ⟨(List.append_nil _).symm, rfl⟩
  | cons name names ih =>
    obtain ⟨⟨k, d⟩, entries, rfl, hk, hrest⟩ := List.map_eq_cons_iff.mp hkeys
    obtain ⟨next, hnext, h⟩ := bind_eq_ok.mp h
    obtain ⟨shown, hshown, hnext⟩ := bind_eq_ok.mp hnext
    obtain ⟨schema, -, hnext⟩ := bind_eq_ok.mp hnext
    cases hk
    cases hshown
    obtain rfl := pure_eq_ok.mp hnext
    have hname : name ∉ start.names := fun hmem =>
      (List.nodup_append.mp hnodup).2.2 name hmem name List.mem_cons_self rfl
    have hnames := names_insert hname schema
    rw [List.append_cons, ← hnames] at hnodup
    obtain ⟨hr, hgiven⟩ := ih _ hrest hnodup h
    rw [hr, hnames, List.append_assoc, List.singleton_append, hgiven, given_insert hname]
    exact ⟨rfl, rfl⟩

theorem ofDocument_names (hd : HasNames d names) (h : ofDocument d = .ok r) :
    r.names = names ∧ r.given = names.foldl giveNext [] := by
  obtain ⟨entries, hopened, hkeys, hnodup⟩ := hd
  rw [ofDocument, hopened] at h
  exact foldlM_insert empty hkeys hnodup h

theorem prefix_foldl_giveNext (held : List (String × String)) (names : List String) :
    held <+: names.foldl giveNext held := by
  induction names generalizing held with
  | nil => exact List.prefix_rfl
  | cons name names ih => exact (List.prefix_append _ _).trans (ih _)

theorem length_foldl_giveNext (held : List (String × String)) (names : List String) :
    (names.foldl giveNext held).length = held.length + names.length := by
  induction names generalizing held with
  | nil => rfl
  | cons name names ih =>
    rw [List.foldl_cons, ih, giveNext, List.length_append, List.length_cons]
    simp only [List.length_cons, List.length_nil]
    omega

theorem given_take {common rest : List String} (hd : HasNames d (common ++ rest)) (h : ofDocument d = .ok r) :
    r.given.take common.length = common.foldl giveNext [] := by
  have hlength := length_foldl_giveNext [] common
  rw [List.length_nil, Nat.zero_add] at hlength
  rw [(ofDocument_names hd h).2, List.foldl_append, ← hlength]
  exact (List.prefix_iff_eq_take.mp (prefix_foldl_giveNext _ rest)).symm

end Order

/-- Classes and modules have names of their own that the generated code can use. Two documents that begin with
schemas of the same names give these schemas the same names, whatever the schemas are and whatever comes behind. -/
theorem given_names (h : ofDocument d = .ok r) : r.WellNamed ∧ ∀ common rest, HasNames d (common ++ rest) →
    r.names = common ++ rest ∧ ∀ d' r' rest', HasNames d' (common ++ rest') → ofDocument d' = .ok r' →
      r'.given.take common.length = r.given.take common.length :=
  ⟨wellNamed_of_ofDocument h, fun _ _ hd => ⟨(ofDocument_names hd h).1, fun _ _ _ hd' h' =>
    (given_take hd' h').trans (given_take hd h).symm⟩⟩

theorem given_names_numbered :
    let schemas (names : List String) : Document := .map (names.map fun name => (.text name, .map []))
    let d := schemas ["a-b", "a_b", "Class"]
    let d' := schemas ["a-b", "a_b", "Class", "a_b_2", "class", "__init__", "Field"]
    ∃ r r', ofDocument d = .ok r ∧ ofDocument d' = .ok r' ∧ r.WellNamed ∧ r'.WellNamed ∧
      r.given = [("a_b", "a_b"), ("a_b_2", "a_b_2"), ("Class", "class_")] ∧
      r'.given = r.given ++ [("a_b_2_2", "a_b_2_2"), ("class_", "class__2"), ("__init__", "__init___2"),
        ("FieldModel", "fieldmodel")] ∧ r'.given.take 3 = r.given.take 3 := by
  intro schemas d d'
  have hd : HasNames d (["a-b", "a_b", "Class"] ++ []) := ⟨_, rfl, rfl, by decide⟩
  have hd' : HasNames d' (["a-b", "a_b", "Class"] ++ ["a_b_2", "class", "__init__", "Field"]) :=
    ⟨_, rfl, rfl, by decide⟩
  obtain ⟨r, hr⟩ : ∃ r, ofDocument d = .ok r := ⟨_, rfl⟩
  obtain ⟨r', hr'⟩ : ∃ r', ofDocument d' = .ok r' := ⟨_, rfl⟩
  have hgiven := (ofDocument_names hd hr).2
  have hgiven' := (ofDocument_names hd' hr').2
  refine ⟨r, r', hr, hr', (given_names hr).1, (given_names hr').1, hgiven.trans (by decide +kernel), ?_,
    ((given_names hr).2 _ _ hd).2 d' r' _ hd' hr'⟩
  rw [hgiven, hgiven']
  decide +kernel

end Registry

end ClientForge
