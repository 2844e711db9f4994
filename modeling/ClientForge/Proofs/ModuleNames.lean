import ClientForge.Code.ImportTable
import ClientForge.Package.Schemas
import ClientForge.Proofs.Names

/-!
What a written module name means to the interpreter of the generated code, and that the names which modules are
given mean these modules.
-/

namespace ClientForge

namespace Text

theorem pieces_eq_splitOn (sep : Char) (s : List Char) : pieces sep s = s.splitOn sep := by
  induction s with
  | nil => exact (List.splitOn_nil sep).symm
  | cons c s ih =>
    rw [List.splitOn, List.splitOnP_cons_eq_if_modifyHead, ← List.splitOn, ← ih, pieces]
    by_cases h : c = sep
    · simp [h]
    · cases hs : pieces sep s with
      | nil => exact absurd hs (pieces_ne_nil sep s)
      | cons piece more => simp [h]

theorem pieces_append (sep : Char) (s rest : List Char) :
    pieces sep (s ++ sep :: rest) = pieces sep s ++ pieces sep rest := by
  induction s with
  | nil => simp [pieces]
  | cons c s ih =>
    rw [List.cons_append, pieces, pieces, ih]
    split
    · rfl
    · cases hp : pieces sep s with
      | nil => exact absurd hp (pieces_ne_nil sep s)
      | cons piece more => rfl

theorem pieces_of_notMem {sep : Char} {s : List Char} (h : sep ∉ s) : pieces sep s = [s] := by
  induction s with
  | nil => rfl
  | cons c s ih =>
    rw [List.mem_cons, not_or] at h
    rw [pieces, if_neg (Ne.symm h.1), ih h.2]

end Text

namespace ModuleName

def parts (s : String) : List String := if s = "" then [] else s.pieces '.'

/-- The place of the module that a written name means in a module of the folders `folders`. Of the dots in front the
first stays in these folders and each further one leads up, but never out of the package. Without dots in front the
name starts at the top, where the package has the name `root?` if it has any. -/
def locate (root? : Option (List String)) (folders : List String) (name : String) : Option (List String) :=
  let dots := (name.toList.takeWhile (· = '.')).length
  let below := parts (.ofList (name.toList.dropWhile (· = '.')))
  match dots with
  | 0 => root?.bind fun root => root.isPrefixOf? below
  | up + 1 => if up ≤ folders.length then some (folders.take (folders.length - up) ++ below) else none

theorem pieces_intercalate_cons (first : String) {names : List String} (h : ∀ s ∈ names, Naming.IsWord s) :
    (".".intercalate (first :: names)).pieces '.' = first.pieces '.' ++ names := by
  induction names generalizing first with
  | nil => simp
  | cons name names ih =>
    have hname : name.pieces '.' = [name] := by
      rw [String.pieces, Text.pieces_of_notMem (h name List.mem_cons_self).dot_notMem]
      simp
    have hrest := ih name fun s hs => h s (List.mem_cons_of_mem _ hs)
    have hdot : ".".toList = ['.'] := rfl
    rw [hname] at hrest
    rw [String.intercalate_cons_cons, String.pieces, String.toList_append, String.toList_append, hdot,
      List.append_assoc, List.singleton_append, Text.pieces_append, List.map_append]
    exact congrArg _ hrest

theorem parts_intercalate {names : List String} (h : ∀ s ∈ names, Naming.IsWord s) :
    parts (".".intercalate names) = names := by
  cases names with
  | nil => rfl
  | cons name names =>
    have hname := h name List.mem_cons_self
    have hne : ".".intercalate (name :: names) ≠ "" := by
      intro he
      cases names with
      | nil => exact hname.1 (by simpa using he)
      | cons _ _ => simp [hname.1] at he
    rw [parts, if_neg hne, pieces_intercalate_cons name fun s hs => h s (List.mem_cons_of_mem _ hs), String.pieces,
      Text.pieces_of_notMem hname.dot_notMem]
    simp

theorem head?_intercalate (first : String) (names : List String) (h : first ≠ "") :
    (".".intercalate (first :: names)).toList.head? = first.toList.head? := by
  cases names with
  | nil => simp
  | cons name names =>
    rw [String.intercalate_cons_cons, String.append_assoc, String.toList_append, List.head?_append_of_ne_nil]
    simpa using h

theorem takeWhile_of_head? {s : List Char} (h : s.head? ≠ some '.') : s.takeWhile (· = '.') = [] := by
  cases s with
  | nil => rfl
  | cons c s =>
    have hc : c ≠ '.' := by simpa using h
    simp [hc]

theorem dropWhile_of_head? {s : List Char} (h : s.head? ≠ some '.') : s.dropWhile (· = '.') = s := by
  cases s with
  | nil => rfl
  | cons c s =>
    have hc : c ≠ '.' := by simpa using h
    simp [hc]

theorem locate_relative (root? : Option (List String)) (folders : List String) {up : ℕ} {names : List String}
    (hup : up ≤ folders.length) (h : ∀ s ∈ names, Naming.IsWord s) :
    locate root? folders (relative (up + 1) names).text = some (folders.take (folders.length - up) ++ names) := by
  have hhead : (".".intercalate names).toList.head? ≠ some '.' := by
    cases names with
    | nil => simp
    | cons name names =>
      have hname := h name List.mem_cons_self
      rw [head?_intercalate _ _ hname.1]
      exact fun hd => hname.dot_notMem (List.mem_of_head? hd)
  have htext : (relative (up + 1) names).text.toList =
      List.replicate (up + 1) '.' ++ (".".intercalate names).toList := by
    rw [text, String.toList_append, String.toList_ofList]
  have hdots : ((relative (up + 1) names).text.toList.takeWhile (· = '.')).length = up + 1 := by
    rw [htext, List.takeWhile_append_of_pos (by simp), takeWhile_of_head? hhead]
    simp
  have hrest : (relative (up + 1) names).text.toList.dropWhile (· = '.') = (".".intercalate names).toList := by
    rw [htext, List.dropWhile_append_of_pos (by simp), dropWhile_of_head? hhead]
  simp only [locate, hdots, hrest, String.ofList_toList, parts_intercalate h, if_pos hup]

theorem locate_inPackage (folders : List String) {root : String} {names : List String} (hroot : root ≠ "")
    (hdot : root.toList.head? ≠ some '.') (h : ∀ s ∈ names, Naming.IsWord s) :
    locate (some (root.pieces '.')) folders (inPackage root names).text = some names := by
  have hhead : (inPackage root names).text.toList.head? ≠ some '.' := by
    rw [text, head?_intercalate _ _ hroot]
    exact hdot
  have hne : (inPackage root names).text ≠ "" := by
    rw [text]
    intro he
    cases names with
    | nil => exact hroot (by simpa using he)
    | cons _ _ => simp [hroot] at he
  have hparts : parts (inPackage root names).text = root.pieces '.' ++ names := by
    rw [parts, if_neg hne, text, pieces_intercalate_cons root h]
  simp only [locate, takeWhile_of_head? hhead, dropWhile_of_head? hhead, String.ofList_toList, hparts,
    List.length_nil, Option.bind_some]
  rw [List.isPrefixOf?_eq_some_iff_append_eq]

end ModuleName

theorem commonLength_le (a b : List String) : commonLength a b ≤ a.length := by
  induction a generalizing b with
  | nil => simp [commonLength]
  | cons x a ih =>
    cases b with
    | nil => simp [commonLength]
    | cons y b =>
      unfold commonLength
      split
      · exact Nat.succ_le_succ (ih b)
      · exact Nat.zero_le _

theorem take_commonLength (a b : List String) : a.take (commonLength a b) = b.take (commonLength a b) := by
  induction a generalizing b with
  | nil => simp [commonLength]
  | cons x a ih =>
    cases b with
    | nil => simp [commonLength]
    | cons y b =>
      unfold commonLength
      split
      · rename_i h
        rw [h, List.take_succ_cons, List.take_succ_cons, ih b]
      · rfl

namespace ModuleNaming

def root? : ModuleNaming → Option (List String)
  | relative => none
  | fromRoot root => some (root.pieces '.')

def IsPlain : ModuleNaming → Prop
  | relative => True
  | fromRoot root => root ≠ "" ∧ root.toList.head? ≠ some '.'

theorem nameOf_injective (naming : ModuleNaming) (folders : List String) :
    Function.Injective (naming.nameOf folders) := by
  intro a b h
  cases naming with
  | fromRoot root =>
    simp only [nameOf, ModuleName.inPackage.injEq] at h
    exact h.2
  | relative =>
    simp only [nameOf, ModuleName.relative.injEq] at h
    have ha := commonLength_le folders a
    have hb := commonLength_le folders b
    have hc : commonLength folders a = commonLength folders b := by omega
    rw [← List.take_append_drop (commonLength folders a) a, ← List.take_append_drop (commonLength folders b) b,
      ← take_commonLength, ← take_commonLength, h.2, hc]

theorem locate_nameOf {naming : ModuleNaming} (h : naming.IsPlain) (folders : List String) {target : List String}
    (ht : ∀ s ∈ target, Naming.IsWord s) :
    ModuleName.locate naming.root? folders (naming.nameOf folders target).text = some target := by
  cases naming with
  | fromRoot root => exact ModuleName.locate_inPackage folders h.1 h.2 ht
  | relative =>
    have hc := commonLength_le folders target
    rw [nameOf, ModuleName.locate_relative _ folders (Nat.sub_le _ _) fun s hs => ht s (List.mem_of_mem_drop hs)]
    rw [Nat.sub_sub_self hc, take_commonLength, List.take_append_drop]

end ModuleNaming

namespace ModulePath

theorem stem_append (module : String) : stem (module ++ ".py") = module := by
  simp [stem]

theorem dotted_inFolders (folders : List String) {module : String} (h : module ≠ "__init__") :
    (inFolders folders module).dotted = folders ++ [module] := by
  simp [dotted, inFolders, stem_append, h]

theorem dotted_index (folders : List String) : (index folders).dotted = folders := by
  have hstem : stem "__init__.py" = "__init__" := by decide
  simp [dotted, index, inFolders, hstem]

theorem package_inFolders (folders : List String) (module : String) : (inFolders folders module).package = folders := by
  simp [package, inFolders]

theorem package_index (folders : List String) : (index folders).package = folders := package_inFolders _ _

end ModulePath

end ClientForge
