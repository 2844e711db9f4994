import ClientForge.Route.Template
import Mathlib.Data.List.Infix

namespace ClientForge

namespace Route

def inBraces (name : List Char) : List Char := '\x7b' :: (name ++ ['\x7d'])

structure IsPlaceholderName (name : List Char) : Prop where
  ne_nil : name ≠ []
  notOpening : '\x7b' ∉ name
  notClosing : '\x7d' ∉ name

def BeginsWithPlaceholder (text : List Char) : Prop := ∃ name, IsPlaceholderName name ∧ inBraces name <+: text

def HasPlaceholder (path name : String) : Prop :=
  IsPlaceholderName name.toList ∧ inBraces name.toList <:+: path.toList

/-- The pieces of a path, where a placeholder is one as soon as it begins. -/
inductive Splits : List Char → List TemplatePiece → Prop
  | nil : Splits [] []
  | placeholder {name path : List Char} {pieces : List TemplatePiece} (hname : IsPlaceholderName name)
    (hpath : Splits path pieces) : Splits (inBraces name ++ path) (.placeholder name :: pieces)
  | plain {c : Char} {path : List Char} {pieces : List TemplatePiece} (hplain : ¬BeginsWithPlaceholder (c :: path))
    (hpath : Splits path pieces) : Splits (c :: path) (prepend [c] pieces)

section Splits

variable {c : Char} {path text held name : List Char} {pieces : List TemplatePiece}

theorem prepend_append (a b : List Char) (pieces : List TemplatePiece) :
    prepend (a ++ b) pieces = prepend a (prepend b pieces) := by
  cases a with
  | nil => rfl
  | cons c a =>
    cases b with
    | nil => simp [prepend]
    | cons d b => rcases pieces with - | ⟨- | -, -⟩ <;> simp [prepend]

theorem mem_prepend : .placeholder name ∈ prepend text pieces ↔ .placeholder name ∈ pieces := by
  rcases text with - | ⟨c, text⟩
  · rfl
  · rcases pieces with - | ⟨- | -, -⟩ <;> simp [prepend]

theorem not_beginsWithPlaceholder (h : c ≠ '\x7b') : ¬BeginsWithPlaceholder (c :: path) := by
  rintro ⟨name, -, hprefix⟩
  exact h (List.cons_prefix_cons.mp hprefix).1.symm

theorem not_closed (hheld : '\x7d' ∉ held) (hpath : path.head?.all (· = '\x7b') = true) (hname : '\x7b' ∉ name) :
    ¬name ++ ['\x7d'] <+: held ++ path := by
  induction held generalizing name with
  | nil =>
    rcases path with - | ⟨d, path⟩
    · simp
    · obtain rfl : d = '\x7b' := by simpa using hpath
      rcases name with - | ⟨c, name⟩
      · simp
      · intro hprefix
        obtain rfl := (List.cons_prefix_cons.mp hprefix).1
        exact hname List.mem_cons_self
  | cons d held ih =>
    rw [List.mem_cons, not_or] at hheld
    rcases name with - | ⟨c, name⟩
    · exact fun hprefix => hheld.1 (List.cons_prefix_cons.mp hprefix).1
    · exact fun hprefix => ih hheld.2 (fun h => hname (List.mem_cons_of_mem _ h)) (List.cons_prefix_cons.mp hprefix).2

theorem Splits.opened (hheld : '\x7d' ∉ held) (hopening : '\x7b' ∉ held) (hnext : path.head?.all (· = '\x7b') = true)
    (h : Splits path pieces) : Splits ('\x7b' :: (held ++ path)) (prepend ('\x7b' :: held) pieces) := by
  have hplain : ¬BeginsWithPlaceholder ('\x7b' :: (held ++ path)) := by
    rintro ⟨name, hname, hprefix⟩
    exact not_closed hheld hnext hname.notOpening (List.cons_prefix_cons.mp hprefix).2
  have hrest : Splits (held ++ path) (prepend held pieces) := by
    clear hplain hheld hnext
    induction held with
    | nil => exact h
    | cons d held ih =>
      rw [List.mem_cons, not_or] at hopening
      rw [← List.singleton_append, prepend_append]
      exact .plain (not_beginsWithPlaceholder (Ne.symm hopening.1)) (ih hopening.2)
  change Splits ('\x7b' :: (held ++ path)) (prepend (['\x7b'] ++ held) pieces)
  rw [prepend_append]
  exact .plain hplain hrest

theorem splits_templateFrom (path : List Char) : Splits path (templateFrom none path) ∧
    ∀ held, '\x7b' ∉ held → '\x7d' ∉ held → Splits ('\x7b' :: (held ++ path)) (templateFrom (some held) path) := by
  -- What is held behind an opening brace has no brace in it, and becomes text at the next opening one.
  induction path with
  | nil => exact ⟨.nil, fun held hopening hclosing => Splits.opened hclosing hopening rfl .nil⟩
  | cons c path ih =>
    obtain ⟨hnone, hsome⟩ := ih
    have hagain : Splits ('\x7b' :: path) (templateFrom (some []) path) := hsome [] (by simp) (by simp)
    refine ⟨?_, fun held hopening hclosing => ?_⟩
    · by_cases hc : c = '\x7b'
      · subst hc
        exact hagain
      · rw [templateFrom, if_neg hc]
        exact .plain (not_beginsWithPlaceholder hc) hnone
    · by_cases hc : c = '\x7b'
      · subst hc
        exact Splits.opened hclosing hopening rfl hagain
      rw [templateFrom]
      simp only [hc, if_false]
      by_cases hd : c = '\x7d'
      · subst hd
        rw [if_pos rfl]
        cases held with
        | nil =>
          have hempty : ¬BeginsWithPlaceholder ('\x7b' :: '\x7d' :: path) := by
            rintro ⟨name, hname, hprefix⟩
            obtain ⟨c, name, rfl⟩ := List.exists_cons_of_ne_nil hname.ne_nil
            obtain rfl := (List.cons_prefix_cons.mp (List.cons_prefix_cons.mp hprefix).2).1
            exact hname.notClosing List.mem_cons_self
          change Splits ('\x7b' :: '\x7d' :: path) (prepend (['\x7b'] ++ ['\x7d']) (templateFrom none path))
          rw [prepend_append]
          exact .plain hempty (.plain (not_beginsWithPlaceholder (by decide)) hnone)
        | cons d held =>
          have hplaceholder := Splits.placeholder ⟨by simp, hopening, hclosing⟩ hnone
          rwa [inBraces, List.cons_append, List.append_assoc] at hplaceholder
      · have hmore := hsome (held ++ [c]) (by simp [hopening, Ne.symm hc]) (by simp [hclosing, Ne.symm hd])
        rw [if_neg hd]
        rwa [List.append_assoc, List.singleton_append] at hmore

theorem splits_template (path : String) : Splits path.toList (template path) := (splits_templateFrom path.toList).1

theorem infix_append_iff (hheld : '\x7b' ∉ held) : inBraces name <:+: held ++ path ↔ inBraces name <:+: path := by
  induction held with
  | nil => rfl
  | cons c held ih =>
    rw [List.mem_cons, not_or] at hheld
    rw [List.cons_append, List.infix_cons_iff, ih hheld.2, or_iff_right]
    exact fun hprefix => hheld.1 (List.cons_prefix_cons.mp hprefix).1

theorem eq_of_closed {name' : List Char} (hname : '\x7d' ∉ name) (hname' : '\x7d' ∉ name')
    (h : name ++ ['\x7d'] <+: name' ++ '\x7d' :: path) : name = name' := by
  induction name generalizing name' with
  | nil =>
    cases name' with
    | nil => rfl
    | cons c name' => exact absurd ((List.cons_prefix_cons.mp h).1 ▸ List.mem_cons_self) hname'
  | cons c name ih =>
    rw [List.mem_cons, not_or] at hname
    cases name' with
    | nil => exact absurd (List.cons_prefix_cons.mp h).1.symm hname.1
    | cons c' name' =>
      rw [List.mem_cons, not_or] at hname'
      obtain ⟨rfl, hrest⟩ := List.cons_prefix_cons.mp h
      rw [ih hname.2 hname'.2 hrest]

theorem Splits.mem_iff (h : Splits path pieces) :
    .placeholder name ∈ pieces ↔ IsPlaceholderName name ∧ inBraces name <:+: path := by
  induction h with
  | nil => simp [inBraces]
  | @placeholder name' path pieces hname' _ ih =>
    rw [List.mem_cons, ih, TemplatePiece.placeholder.injEq]
    have hbehind : inBraces name <:+: (name' ++ ['\x7d']) ++ path ↔ inBraces name <:+: path :=
      infix_append_iff (by simpa using hname'.notOpening)
    have hopened : inBraces name' ++ path = '\x7b' :: ((name' ++ ['\x7d']) ++ path) := rfl
    rw [hopened, List.infix_cons_iff, hbehind]
    constructor
    · rintro (rfl | ⟨hname, hinfix⟩)
      · exact ⟨hname', .inl (List.prefix_append ('\x7b' :: (name ++ ['\x7d'])) path)⟩
      · exact ⟨hname, .inr hinfix⟩
    · rintro ⟨hname, hprefix | hinfix⟩
      · have hrest := (List.cons_prefix_cons.mp hprefix).2
        rw [List.append_assoc, List.singleton_append] at hrest
        exact .inl (eq_of_closed hname.notClosing hname'.notClosing hrest)
      · exact .inr ⟨hname, hinfix⟩
  | plain hplain _ ih =>
    rw [mem_prepend, ih, List.infix_cons_iff]
    exact and_congr_right fun hname => (or_iff_right fun hprefix => hplain ⟨_, hname, hprefix⟩).symm

end Splits

theorem placeholder_mem_iff {path name : String} :
    name ∈ placeholders path ↔ .placeholder name.toList ∈ template path := by
  simp only [placeholders, List.mem_filterMap]
  constructor
  · rintro ⟨piece, hpiece, hname⟩
    cases piece with
    | plain => cases hname
    | placeholder text =>
      cases hname
      rwa [String.toList_ofList]
  · intro h
    exact ⟨_, h, congrArg some String.ofList_toList⟩

theorem mem_placeholders_iff {path name : String} : name ∈ placeholders path ↔ HasPlaceholder path name :=
  placeholder_mem_iff.trans (splits_template path).mem_iff

end Route

end ClientForge
