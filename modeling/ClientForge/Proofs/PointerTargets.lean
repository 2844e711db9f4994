import ClientForge.Proofs.PointerTexts
import ClientForge.Proofs.ReferenceWalks
import ClientForge.Schema.Reading

/-!
What pointers denote, and what they are taken for. The segments of a pointer name a path of keys and places, and what
stands there is found. Where a list is entered, more texts are taken for numbers than name a place of it.
-/

namespace ClientForge

open Document Outcome Text Naming

namespace Document

variable {d : Document}

def located? (d : Document) : List PathStep → Option Document
  | [] => some d
  | step :: path => (d.opened.child? step).bind fun e => e.located? path

theorem located?_cons {step : PathStep} {path : List PathStep} :
    d.located? (step :: path) = (d.opened.child? step).bind fun e => e.located? path := rfl

theorem IsTree.located?_eq (hd : d.IsTree) (path : List PathStep) : d.located? path = d.at? path := by
  induction path generalizing d with
  | nil => rfl
  | cons step path ih =>
    rw [located?_cons, hd.opened, at?_cons]
    apply Option.bind_congr
    intro e he
    exact ih (hd.child he)

end Document

namespace Pointer

section Meaning

def IsPlace (segment : List Char) : Prop :=
  segment = ['0'] ∨ segment ≠ [] ∧ segment.head? ≠ some '0' ∧ segment.all Char.isDigit = true

instance (segment : List Char) : Decidable (IsPlace segment) := inferInstanceAs (Decidable (_ ∨ _))

inductive Names (segment : List Char) : PathStep → Prop
  | key : Names segment (.key (.ofList (decoded segment)))
  | place (h : IsPlace (decoded segment)) : Names segment (.index (Nat.ofDigitChars 10 (decoded segment) 0))

structure HasSegments (ref : String) (segments : List (List Char)) : Prop where
  ne_nil : segments ≠ []
  slash_notMem : ∀ segment ∈ segments, '/' ∉ segment
  toList_eq : ref.toList = '#' :: '/' :: ['/'].intercalate segments

def Denotes (ref : String) (path : List PathStep) : Prop :=
  ∃ segments, HasSegments ref segments ∧ List.Forall₂ Names segments path

variable {ref : String} {segments segments' : List (List Char)}

theorem HasSegments.pieces_eq (h : HasSegments ref segments) : segments = pieces '/' (ref.toList.drop 2) := by
  rw [h.toList_eq, List.drop_succ_cons, List.drop_succ_cons, List.drop_zero,
    pieces_intercalate h.ne_nil h.slash_notMem]

theorem HasSegments.segments?_eq (h : HasSegments ref segments) :
    segments? ref = some (segments.map fun s => .ofList (decoded s)) := by
  rw [segments?, h.toList_eq]
  simp only [pieces_intercalate h.ne_nil h.slash_notMem, unescape_eq_decoded]

theorem exists_segments {names : List String} (h : segments? ref = some names) :
    ∃ segments, HasSegments ref segments := by
  unfold segments? at h
  split at h
  · rename_i rest href
    refine ⟨pieces '/' rest, pieces_ne_nil _ _, fun _ => notMem_of_mem_pieces, ?_⟩
    rw [href, intercalate_pieces]
  · cases h

end Meaning

section Steps

/-- The part of a value that a segment is taken for: the value of a key, or an item counted from either end, by a number
without too many digits. -/
inductive Enters (d : Document) (segment : List Char) : PathStep → Document → Prop
  | key {entries : Entries} {e : Document} (hopened : d.opened = .map entries)
      (hget : Entries.get? entries (.ofList (decoded segment)) = some e) :
      Enters d segment (.key (.ofList (decoded segment))) e
  | place {items : List Document} {e : Document} {i : ℤ} {k : ℕ} (hopened : d.opened = .list items)
      (hread : readInt? 10 (decoded segment) = some i)
      (hdigits : decimalCount (decoded segment) ≤ maxDecimals ∨ Nat.pow 10 maxDecimals ≤ i.natAbs)
      (hplace : i = k ∨ i + items.length = k) (hget : items[k]? = some e) : Enters d segment (.index k) e

def Strays (d : Document) (segment : List Char) : Prop :=
  ∃ items, d.opened = .list items ∧ ¬ IsPlace (decoded segment)

variable {d e e' : Document} {ref : String} {segment : List Char} {s s' : PathStep}

theorem number?_eq_some_iff {s : List Char} {i : ℤ} : number? s = some i ↔
    readInt? 10 s = some i ∧ (decimalCount s ≤ maxDecimals ∨ Nat.pow 10 maxDecimals ≤ i.natAbs) := by
  rw [number?, Option.filter_eq_some_iff, Bool.or_eq_true, decide_eq_true_eq, decide_eq_true_eq]

example : number? (List.replicate 4300 '0' ++ ['1']) = none := by decide +kernel

theorem step_eq_ok_iff : step ref d (.ofList (decoded segment)) = .ok e ↔ ∃ s, Enters d segment s e := by
  constructor
  · intro h
    unfold step at h
    split at h
    · rename_i entries hopened
      exact ⟨_, .key hopened (elim_error_eq_ok.mp h)⟩
    · rename_i items hopened
      rw [elim_error_eq_ok, String.toList_ofList] at h
      obtain ⟨i, hnumber, hi⟩ := Option.bind_eq_some_iff.mp h
      obtain ⟨hread, hdigits⟩ := number?_eq_some_iff.mp hnumber
      obtain ⟨k, hplace, hget⟩ := item?_eq_some_iff.mp hi
      exact ⟨_, .place hopened hread hdigits hplace hget⟩
    · cases h
  · rintro ⟨s, hs⟩
    cases hs with
    | key hopened hget => simp only [step, hopened, hget, Option.elim_some]
    | place hopened hread hdigits hplace hget =>
      simp only [step, hopened, String.toList_ofList, number?_eq_some_iff.mpr ⟨hread, hdigits⟩, Option.bind_some,
        item?_eq_some_iff.mpr ⟨_, hplace, hget⟩, Option.elim_some]

theorem Enters.child (h : Enters d segment s e) : d.opened.child? s = some e := by
  cases h with
  | key hopened hget => rwa [hopened]
  | place hopened hread hdigits hplace hget => rwa [hopened]

theorem Enters.unique (h : Enters d segment s e) (h' : Enters d segment s' e') : s = s' := by
  cases h with
  | key hopened hget =>
    cases h' with
    | key => rfl
    | place hopened' => cases hopened.symm.trans hopened'
  | place hopened hread hdigits hplace hget =>
    cases h' with
    | key hopened' => cases hopened.symm.trans hopened'
    | place hopened' hread' hdigits' hplace' hget' =>
      cases hopened.symm.trans hopened'
      cases hread.symm.trans hread'
      have hlt := (List.getElem?_eq_some_iff.mp hget).choose
      have hlt' := (List.getElem?_eq_some_iff.mp hget').choose
      rw [PathStep.index.injEq]
      omega

theorem readInt?_of_isPlace {digits : List Char} (h : IsPlace digits) :
    readInt? 10 digits = some (Nat.ofDigitChars 10 digits 0 : ℤ) := by
  rcases h with rfl | ⟨hne, -, hdigits⟩
  · exact readInt?_of_digits (List.cons_ne_nil _ _) (List.forall_mem_singleton.mpr rfl)
  · exact readInt?_of_digits hne (List.all_eq_true.mp hdigits)

theorem decimalCount_of_isPlace {digits : List Char} (h : IsPlace digits) :
    decimalCount digits ≤ maxDecimals ∨ Nat.pow 10 maxDecimals ≤ Nat.ofDigitChars 10 digits 0 := by
  rcases h with rfl | ⟨hne, hhead, hdigits⟩
  · exact .inl (by decide)
  · obtain ⟨c, rest, rfl⟩ := List.exists_cons_of_ne_nil hne
    have hzero : c ≠ '0' := fun hc => hhead (congrArg some hc)
    have hvalue : Nat.pow 10 rest.length ≤ Nat.ofDigitChars 10 (c :: rest) 0 :=
      pow_le_ofDigitChars (List.all_eq_true.mp hdigits c List.mem_cons_self) hzero
    have hpow {m n : ℕ} (hmn : m ≤ n) : Nat.pow 10 m ≤ Nat.pow 10 n := Nat.pow_le_pow_right (by decide) hmn
    rcases Nat.lt_or_ge maxDecimals (decimalCount (c :: rest)) with hlong | hshort
    · have hlength : maxDecimals ≤ rest.length :=
        Nat.le_of_lt_succ (Nat.lt_of_lt_of_le hlong (decimalCount_le_length _))
      exact .inr ((hpow hlength).trans hvalue)
    · exact .inl hshort

theorem Names.enters (h : Names segment s) (hchild : d.opened.child? s = some e) :
    Enters d segment s e ∧ ¬ Strays d segment := by
  cases h with
  | key =>
    obtain ⟨items, k, -, hstep, -⟩ | ⟨entries, name, hopened, hstep, hget⟩ := cases_of_child hchild
    · cases hstep
    · cases hstep
      refine ⟨.key hopened hget, ?_⟩
      rintro ⟨items, hopened', -⟩
      cases hopened.symm.trans hopened'
  | place hplace =>
    obtain ⟨items, k, hopened, hstep, hget⟩ | ⟨entries, name, -, hstep, -⟩ := cases_of_child hchild
    · cases hstep
      refine ⟨.place hopened (readInt?_of_isPlace hplace) (decimalCount_of_isPlace hplace) (.inl rfl) hget, ?_⟩
      exact fun ⟨_, _, hstray⟩ => hstray hplace
    · cases hstep

theorem Enters.names (h : Enters d segment s e) (hstray : ¬ Strays d segment) : Names segment s := by
  cases h with
  | key => exact .key
  | @place items e i k hopened hread _ hplace hget =>
    have hdigits : IsPlace (decoded segment) := Classical.not_not.mp fun hno => hstray ⟨items, hopened, hno⟩
    rw [readInt?_of_isPlace hdigits, Option.some.injEq] at hread
    have hlt := (List.getElem?_eq_some_iff.mp hget).choose
    obtain rfl : Nat.ofDigitChars 10 (decoded segment) 0 = k := by omega
    exact .place hdigits

end Steps

section Ways

inductive Follows : Document → List (List Char) → List PathStep → Document → Prop
  | here (d : Document) : Follows d [] [] d
  | enter {d e v : Document} {segment : List Char} {segments : List (List Char)} {s : PathStep} {path : List PathStep}
      (h : Enters d segment s e) (hmore : Follows e segments path v) : Follows d (segment :: segments) (s :: path) v

inductive Wanders : Document → List (List Char) → Prop
  | here {d : Document} {segment : List Char} {segments : List (List Char)} (h : Strays d segment) :
      Wanders d (segment :: segments)
  | enter {d e : Document} {segment : List Char} {segments : List (List Char)} {s : PathStep}
      (h : Enters d segment s e) (hmore : Wanders e segments) : Wanders d (segment :: segments)

variable {d e v root : Document} {ref : String} {segments : List (List Char)} {path : List PathStep}

theorem follow_eq_ok_iff : follow ref (segments.map fun s => .ofList (decoded s)) d = .ok v ↔
    ∃ path, Follows d segments path v := by
  induction segments generalizing d with
  | nil =>
    constructor
    · intro h
      cases h
      exact ⟨[], .here v⟩
    · rintro ⟨path, h⟩
      cases h
      rfl
  | cons segment segments ih =>
    rw [List.map_cons, follow, bind_eq_ok]
    constructor
    · rintro ⟨e, he, h⟩
      obtain ⟨s, hs⟩ := step_eq_ok_iff.mp he
      obtain ⟨path, hpath⟩ := ih.mp h
      exact ⟨s :: path, .enter hs hpath⟩
    · rintro ⟨path, h⟩
      cases h with
      | enter hs hmore => exact ⟨_, step_eq_ok_iff.mpr ⟨_, hs⟩, ih.mpr ⟨_, hmore⟩⟩

theorem Follows.located (h : Follows d segments path v) : d.located? path = some v := by
  induction h with
  | here d => rfl
  | enter h _ ih => rw [located?_cons, h.child, Option.bind_some, ih]

theorem Follows.named (h : Follows d segments path v) (hstraight : ¬ Wanders d segments) :
    List.Forall₂ Names segments path := by
  induction h with
  | here d => exact .nil
  | enter h _ ih =>
    exact .cons (h.names fun hstray => hstraight (.here hstray)) (ih fun hmore => hstraight (.enter h hmore))

theorem follows_of_named (h : List.Forall₂ Names segments path) (hv : d.located? path = some v) :
    Follows d segments path v ∧ ¬ Wanders d segments := by
  induction h generalizing d with
  | nil =>
    cases hv
    exact ⟨.here _, fun h => nomatch h⟩
  | cons hname _ ih =>
    rw [located?_cons] at hv
    obtain ⟨e, he, hv⟩ := Option.bind_eq_some_iff.mp hv
    obtain ⟨henters, hstray⟩ := hname.enters he
    obtain ⟨hfollows, hstraight⟩ := ih hv
    refine ⟨.enter henters hfollows, fun h => ?_⟩
    cases h with
    | here h => exact hstray h
    | enter h hmore =>
      obtain rfl := henters.unique h
      cases he.symm.trans h.child
      exact hstraight hmore

end Ways

section Lookups

/-- On its way through a document a pointer enters a list with a segment that names none of its places. -/
def NamesLoosely (root : Document) (ref : String) : Prop := ∃ segments, HasSegments ref segments ∧ Wanders root segments

variable {root v : Document} {ref : String} {segments : List (List Char)} {path : List PathStep}

theorem HasSegments.lookup_eq (h : HasSegments ref segments) :
    lookup ref root = follow ref (segments.map fun s => .ofList (decoded s)) root := by
  rw [lookup, h.segments?_eq]

theorem lookup_eq_ok_iff : lookup ref root = .ok v ↔
    ∃ segments path, HasSegments ref segments ∧ Follows root segments path v := by
  constructor
  · intro h
    cases hsegments : segments? ref with
    | none =>
      rw [lookup, hsegments] at h
      cases h
    | some names =>
      obtain ⟨segments, hsegments⟩ := exists_segments hsegments
      rw [hsegments.lookup_eq] at h
      obtain ⟨path, hpath⟩ := follow_eq_ok_iff.mp h
      exact ⟨segments, path, hsegments, hpath⟩
  · rintro ⟨segments, path, hsegments, hpath⟩
    rw [hsegments.lookup_eq]
    exact follow_eq_ok_iff.mpr ⟨path, hpath⟩

theorem lookup_straight_iff : lookup ref root = .ok v ∧ ¬ NamesLoosely root ref ↔
    ∃ path, Denotes ref path ∧ root.located? path = some v := by
  constructor
  · rintro ⟨h, hstraight⟩
    obtain ⟨segments, path, hsegments, hpath⟩ := lookup_eq_ok_iff.mp h
    exact ⟨path, ⟨segments, hsegments, hpath.named fun h => hstraight ⟨segments, hsegments, h⟩⟩, hpath.located⟩
  · rintro ⟨path, ⟨segments, hsegments, hnames⟩, hv⟩
    obtain ⟨hpath, hstraight⟩ := follows_of_named hnames hv
    refine ⟨lookup_eq_ok_iff.mpr ⟨segments, path, hsegments, hpath⟩, ?_⟩
    rintro ⟨segments', hsegments', h⟩
    rw [hsegments'.pieces_eq, ← hsegments.pieces_eq] at h
    exact hstraight h

def Misses (ref : String) (fault : DescriptionFault) : Prop :=
  match segments? ref with
  | none => fault = .externalReference ref
  | some names =>
    (∃ name ∈ names, fault = .missingKey ref name ∨ fault = .badIndex ref name) ∨ ∃ kind, fault = .noWayInto ref kind

theorem step_fails (d : Document) (name : String) : FailsOnly (fun fault => (fault = .missingKey ref name ∨
    fault = .badIndex ref name) ∨ ∃ kind, fault = .noWayInto ref kind) (step ref d name) := by
  intro fault h
  unfold step at h
  split at h
  · exact .inl (.inl (elim_error_eq_error h))
  · exact .inl (.inr (elim_error_eq_error h))
  · cases h
    exact .inr ⟨_, rfl⟩

theorem follow_fails (names : List String) (d : Document) : FailsOnly (fun fault => (∃ name ∈ names,
    fault = .missingKey ref name ∨ fault = .badIndex ref name) ∨ ∃ kind, fault = .noWayInto ref kind)
    (follow ref names d) := by
  induction names generalizing d with
  | nil => exact failsOnly_ok d
  | cons name names ih =>
    apply FailsOnly.bind
    · exact (step_fails d name).imp fun fault h => h.imp_left fun h => ⟨name, List.mem_cons_self, h⟩
    · intro e
      exact (ih e).imp fun fault h => h.imp_left fun ⟨name', hname', h⟩ => ⟨name', List.mem_cons_of_mem _ hname', h⟩

theorem lookup_fails (ref : String) (root : Document) : FailsOnly (Misses ref) (lookup ref root) := by
  unfold lookup Misses
  cases segments? ref with
  | none => exact failsOnly_error rfl
  | some names => exact follow_fails names root

end Lookups

section Resolving

variable {root d : Document} {kept seen : List String} {ref : String} {path : List PathStep}

theorem resolve_missed (hroot : root.IsTree) (hwalk : Walk root kept ⟨[], root⟩ path ⟨seen, d⟩)
    (href : d.referenceOf? kept = some ref) (hseen : ref ∉ seen) (hmiss : ∀ v, lookup ref root ≠ .ok v)
    (result : Document) : root.resolve kept ≠ .ok result := by
  intro h
  obtain ⟨x, less, -, -, hx⟩ := (resolves_of_resolve hroot h).walk hwalk
  cases hx with
  | scalar s => cases href
  | list => cases href
  | map hplain => cases hplain.symm.trans href
  | left href' hseen' =>
    cases href'.symm.trans href
    exact hseen hseen'
  | target href' _ hlookup =>
    cases href'.symm.trans href
    exact hmiss _ hlookup

theorem resolve_misses (hroot : root.IsTree)
    (hroom : ((references kept root).eraseDups.length + 1) * (2 * root.depth + 1) ≤ maxRoom)
    (h : ∀ result, root.resolve kept ≠ .ok result) : ∃ fault, root.resolve kept = .error (.description fault) := by
  have hdepth : 2 * root.depth ≤ maxRoom := by
    rw [Nat.succ_mul] at hroom
    omega
  have hresolve : root.resolve kept = resolveIn maxRoom root kept root := if_neg (Nat.not_lt.mpr hdepth)
  obtain ⟨result, hok⟩ | hfault := resolveIn_ends hroot hroom
  · exact absurd (hresolve.trans hok) (h result)
  · rwa [hresolve]

end Resolving

/-- What a pointer denotes is found, and nothing else is but what it names loosely: then a list is entered with a
segment that names none of its places and yet is taken for a number. -/
theorem lookup_denoted (root : Document) (ref : String) :
    (∀ v, lookup ref root = .ok v ∧ ¬ NamesLoosely root ref ↔
      ∃ path, Denotes ref path ∧ root.located? path = some v) ∧
    (∀ v, lookup ref root = .ok v ↔ ∃ segments path, HasSegments ref segments ∧ Follows root segments path v) ∧
    (∀ v, lookup ref root = .ok v → ∃ path, root.located? path = some v) ∧
    (∀ fault, lookup ref root = .error fault → Misses ref fault) ∧
    ∀ kept seen path d, root.IsTree → Walk root kept ⟨[], root⟩ path ⟨seen, d⟩ → d.referenceOf? kept = some ref →
      ref ∉ seen → ¬ NamesLoosely root ref → (∀ target, Denotes ref target → root.at? target = none) →
      (∀ result, root.resolve kept ≠ .ok result) ∧
        (((references kept root).eraseDups.length + 1) * (2 * root.depth + 1) ≤ maxRoom →
          ∃ fault, root.resolve kept = .error (.description fault)) := by
  refine ⟨fun v => lookup_straight_iff, fun v => lookup_eq_ok_iff, fun v h => ?_, lookup_fails ref root, ?_⟩
  · obtain ⟨segments, path, -, hpath⟩ := lookup_eq_ok_iff.mp h
    exact ⟨path, hpath.located⟩
  · intro kept seen path d hroot hwalk href hseen hstraight htarget
    have hmiss (v : Document) : lookup ref root ≠ .ok v := by
      intro h
      obtain ⟨target, htarget', hv⟩ := lookup_straight_iff.mp ⟨h, hstraight⟩
      rw [hroot.located?_eq, htarget target htarget'] at hv
      cases hv
    have hfails := resolve_missed hroot hwalk href hseen hmiss
    exact ⟨hfails, fun hroom => resolve_misses hroot hroom hfails⟩

theorem lookup_denoted_place :
    let found : Document := .map [(.text "/a~", .list [.int 1, .int 2])]
    let missed : Document := .map [(.text "b", .list []), (.text "x", .map [(.text "$ref", .text "#/b/0")])]
    lookup "#/~1a~0/1" found = .ok (.int 2) ∧ ¬ NamesLoosely found "#/~1a~0/1" ∧
      ∃ fault, missed.resolve [] = .error (.description fault) := by
  intro found missed
  have hfound : Denotes "#/~1a~0/1" [.key "/a~", .index 1] :=
    ⟨[['~', '1', 'a', '~', '0'], ['1']], ⟨by decide, by decide, rfl⟩,
      .cons .key (.cons (.place (.inr (by decide))) .nil)⟩
  obtain ⟨hlookup, hstraight⟩ := ((lookup_denoted found "#/~1a~0/1").1 (.int 2)).mpr ⟨_, hfound, rfl⟩
  refine ⟨hlookup, hstraight, ?_⟩
  have hsegments : HasSegments "#/b/0" [['b'], ['0']] := ⟨by decide, by decide, rfl⟩
  have htree : missed.IsTree := by simp [missed, Entries.keys]
  have hwalk : Walk missed [] ⟨[], missed⟩ [.key "x"] ⟨[], .map [(.text "$ref", .text "#/b/0")]⟩ :=
    .part rfl rfl (.here _)
  have hstraight : ¬ NamesLoosely missed "#/b/0" := by
    rintro ⟨segments, hsegments, h⟩
    rw [hsegments.pieces_eq] at h
    cases h with
    | here h => nomatch h
    | enter h hmore =>
      cases h with
      | key hopened hget =>
        cases hopened
        cases hget
        cases hmore with
        | here h =>
          obtain ⟨items, -, hplace⟩ := h
          exact hplace (.inl rfl)
        | enter h hmore => cases hmore
      | place hopened => cases hopened
  have hmiss (target : List PathStep) (htarget : Denotes "#/b/0" target) : missed.at? target = none := by
    cases hv : missed.at? target with
    | none => rfl
    | some v =>
      rw [← htree.located?_eq] at hv
      have hlookup := (((lookup_denoted missed "#/b/0").1 v).mpr ⟨target, htarget, hv⟩).1
      cases hlookup
  exact ((lookup_denoted missed "#/b/0").2.2.2.2 [] [] _ _ htree hwalk rfl List.not_mem_nil hstraight hmiss).2
    (by decide +kernel)

theorem lookup_backwards :
    let root : Document := .map [(.text "a", .list [.int 1, .int 2])]
    lookup "#/a/-1" root = .ok (.int 2) ∧ ∀ path, Denotes "#/a/-1" path → root.located? path = none := by
  intro root
  have hlookup : lookup "#/a/-1" root = .ok (.int 2) := by rfl
  refine ⟨hlookup, fun path hpath => ?_⟩
  have hloose : NamesLoosely root "#/a/-1" := by
    exact ⟨[['a'], ['-', '1']], ⟨by decide, by decide, rfl⟩, .enter (.key rfl rfl) (.here ⟨_, rfl, by decide⟩)⟩
  cases hv : root.located? path with
  | none => rfl
  | some v => exact absurd hloose (lookup_straight_iff.mpr ⟨path, hpath, hv⟩).2

section Written

def escaped (name : String) : String := .ofList (escape name.toList)

def segmentOf : PathStep → String
  | .key name => escaped name
  | .index k => toString k

def written (path : List PathStep) : String := "#/" ++ "/".intercalate (path.map segmentOf)

theorem isPlace_toString (k : ℕ) : IsPlace (toString k).toList := by
  rcases Nat.eq_zero_or_pos k with rfl | hk
  · exact .inl rfl
  · refine .inr ⟨toString_ne_nil k, ?_, List.all_eq_true.mpr fun c => isDigit_of_mem_toString⟩
    rw [Nat.toString_eq_repr, Nat.toList_repr]
    exact head?_toDigits hk

theorem notMem_toString {c : Char} (hc : c.isDigit = false) (k : ℕ) : c ∉ (toString k).toList := by
  intro h
  rw [isDigit_of_mem_toString h] at hc
  cases hc

theorem names_segmentOf (s : PathStep) : Names (segmentOf s).toList s := by
  cases s with
  | key name =>
    rw [segmentOf, escaped, String.toList_ofList]
    have h : Names (escape name.toList) (.key (.ofList (decoded (escape name.toList)))) := .key
    rwa [decoded_escape, String.ofList_toList] at h
  | index k =>
    have hdecoded : decoded (toString k).toList = (toString k).toList := decoded_of_notMem (notMem_toString rfl k)
    have hvalue : Nat.ofDigitChars 10 (decoded (toString k).toList) 0 = k := by
      rw [hdecoded, Nat.toString_eq_repr, Nat.toList_repr, Nat.ofDigitChars_ten_toDigits]
    have h := Names.place (hdecoded.symm ▸ isPlace_toString k)
    rwa [hvalue] at h

theorem slash_notMem_segmentOf (s : PathStep) : '/' ∉ (segmentOf s).toList := by
  cases s with
  | key name =>
    rw [segmentOf, escaped, String.toList_ofList]
    exact slash_notMem_escape _
  | index k => exact notMem_toString rfl k

theorem denotes_written {path : List PathStep} (hne : path ≠ []) : Denotes (written path) path := by
  refine ⟨path.map fun s => (segmentOf s).toList, ⟨by simpa using hne, ?_, ?_⟩, ?_⟩
  · rintro segment hsegment
    obtain ⟨s, -, rfl⟩ := List.mem_map.mp hsegment
    exact slash_notMem_segmentOf s
  · rw [written, String.toList_append, String.toList_intercalate, List.map_map]
    rfl
  · rw [List.forall₂_map_left_iff]
    exact List.forall₂_same.mpr fun s _ => names_segmentOf s

/-- Whatever stands in a document is found at the pointer that is written for it, and a schema is known by its written
name. -/
theorem lookup_written :
    (∀ root path v, path ≠ [] → Document.located? root path = some v → lookup (written path) root = .ok v) ∧
      ∀ name, Schema.referenceName (.text (schemaReferenceStart ++ escaped name)) = .ok name := by
  constructor
  · intro root path v hne hv
    exact (lookup_straight_iff.mpr ⟨path, denotes_written hne, hv⟩).1
  · intro name
    have hprefix : schemaReferenceStart.toList.isPrefixOf? (schemaReferenceStart ++ escaped name).toList =
        some (escape name.toList) := by
      rw [List.isPrefixOf?_eq_some_iff_append_eq, escaped, String.toList_append, String.toList_ofList]
    simp only [Schema.referenceName, hprefix, unescape_eq_decoded, decoded_escape, String.ofList_toList]

theorem lookup_written_marks :
    let root : Document := .map [(.text "~1/", .map [(.text "", .list [.null, .text "found"])])]
    let path : List PathStep := [.key "~1/", .key "", .index 1]
    written path = "#/~01~1//1" ∧ lookup (written path) root = .ok (.text "found") ∧
      Schema.referenceName (.text (schemaReferenceStart ++ escaped "~1/")) = .ok "~1/" := by
  intro root path
  exact ⟨by rfl, lookup_written.1 root path _ (List.cons_ne_nil _ _) rfl, lookup_written.2 _⟩

end Written

end Pointer

end ClientForge
