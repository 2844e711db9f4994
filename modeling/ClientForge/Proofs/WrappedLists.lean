import ClientForge.Proofs.LogicalLines
import ClientForge.Proofs.ModuleRuns

namespace ClientForge

open Text LineReader

inductive Statement
  | imports (source : String) (names : List ImportedName)
  | checking
  | exports (names : List (List CodePoint))
  | loop (name : String) (values : List String)
  | call (function : String)
  | deletes (name : String)
deriving DecidableEq, Repr

namespace Statement

def items? (bracketed : Bool) (lexemes : List Lexeme) : Option (List (List Lexeme)) :=
  let parts := lexemes.splitOn (.mark ',')
  let parts := if bracketed && parts.getLast? = some [] then parts.dropLast else parts
  if parts.contains [] then none else some parts

def tupleItems? (lexemes : List Lexeme) : Option (List (List Lexeme)) :=
  (items? true lexemes).filter fun items => items.length ≠ 1 || lexemes.getLast? = some (.mark ',')

def name? : List Lexeme → Option String
  | [.word name] => if name.toList.contains '.' then none else some name
  | _ => none

def importedName? : List Lexeme → Option ImportedName
  | [.word name, .word "as", .word other] => do return ⟨← name? [.word name], some (← name? [.word other])⟩
  | lexemes => (name? lexemes).map (⟨·, none⟩)

def literal? : List Lexeme → Option (List CodePoint)
  | [.literal value] => some value
  | _ => none

def importedNames? (lexemes : List Lexeme) : Option (List ImportedName) := do
  let items ← match lexemes with
    | .mark '(' :: rest => (List.isSuffixOf? [.mark ')'] rest).bind (items? true)
    | lexemes => items? false lexemes
  if items.isEmpty then none else items.mapM importedName?

def exportedNames? (lexemes : List Lexeme) : Option (List (List CodePoint)) :=
  ((List.isSuffixOf? [.mark ']'] lexemes).bind (items? true)).bind (·.mapM literal?)

def loopedNames? (lexemes : List Lexeme) : Option (List String) :=
  ((List.isSuffixOf? [.mark ')', .mark ':'] lexemes).bind tupleItems?).bind (·.mapM name?)

def ofLexemes? : List Lexeme → Option Statement
  | [.word "import", .word source] => some (.imports source [])
  | .word "from" :: .word source :: .word "import" :: rest => (importedNames? rest).map (.imports source)
  | [.word "if", .word "TYPE_CHECKING", .mark ':'] => some .checking
  | .word "__all__" :: .mark '=' :: .mark '[' :: rest => (exportedNames? rest).map .exports
  | .word "for" :: .word name :: .word "in" :: .mark '(' :: rest => (loopedNames? rest).map (.loop name)
  | [.word function, .mark '(', .mark ')'] => some (.call function)
  | [.word "del", .word name] => some (.deletes name)
  | _ => none

def ofLines? (lines : List LogicalLine) : Option (List (ℕ × Statement)) :=
  lines.mapM fun line => (ofLexemes? line.lexemes).map (line.indent, ·)

def ofText? (text : String) : Option (List (ℕ × Statement)) := (logicalLines? text.toList).bind ofLines?

section Items

variable {parts : List (List Lexeme)} {lexemes : List Lexeme}

def IsItem (part : List Lexeme) : Prop := part ≠ [] ∧ .mark ',' ∉ part

theorem forall_isItem {α : Type} {f : α → List Lexeme} (h : ∀ a, IsItem (f a)) (l : List α) :
    ∀ p ∈ l.map f, IsItem p := by
  intro p hp
  obtain ⟨a, -, rfl⟩ := List.mem_map.mp hp
  exact h a

def IsList (lexemes : List Lexeme) (parts : List (List Lexeme)) : Prop :=
  lexemes = [.mark ','].intercalate parts ∨ lexemes = [.mark ','].intercalate (parts ++ [[]])

theorem items?_false (hne : parts ≠ []) (h : ∀ p ∈ parts, IsItem p) :
    items? false ([.mark ','].intercalate parts) = some parts := by
  have hempty : [] ∉ parts := fun hmem => (h [] hmem).1 rfl
  simp [items?, List.splitOn_intercalate _ (fun p hp => (h p hp).2) hne, hempty]

theorem items?_true (hlist : IsList lexemes parts) (h : ∀ p ∈ parts, IsItem p) :
    items? true lexemes = some parts := by
  have hempty : [] ∉ parts := fun hmem => (h [] hmem).1 rfl
  have hsplit : lexemes.splitOn (.mark ',') = parts ∧ parts ≠ [] ∨ lexemes.splitOn (.mark ',') = parts ++ [[]] := by
    rcases hlist with rfl | rfl
    · by_cases hne : parts = []
      · subst hne
        exact .inr rfl
      · exact .inl ⟨List.splitOn_intercalate _ (fun p hp => (h p hp).2) hne, hne⟩
    · refine .inr (List.splitOn_intercalate _ (fun p hp => ?_) (by simp))
      rcases List.mem_append.mp hp with hp | hp
      · exact (h p hp).2
      · simp [List.mem_singleton.mp hp]
  rcases hsplit with ⟨hsplit, hne⟩ | hsplit
  · have hlast : parts.getLast? ≠ some [] := fun hlast => hempty (List.mem_of_getLast? hlast)
    simp [items?, hsplit, hlast, hempty]
  · simp [items?, hsplit, hempty]

theorem mapM_eq_some {α β : Type} {f : β → Option α} {g : α → β} {l : List α} (h : ∀ a ∈ l, f (g a) = some a) :
    (l.map g).mapM f = some l := by
  induction l with
  | nil => rfl
  | cons a l ih =>
    obtain ⟨ha, hl⟩ := List.forall_mem_cons.mp h
    simp [ha, ih hl]

end Items

section Texts

variable {items : List String} {parts : List (List Lexeme)} {text indent : String} {k : ℕ} {inside : Bool}
  {lexemes : List Lexeme}

theorem spells_joined (h : List.Forall₂ (fun item part => Spells inside item.toList part) items parts) :
    Spells inside (", ".intercalate items).toList ([.mark ','].intercalate parts) := by
  rw [String.toList_intercalate]
  induction h with
  | nil => exact spells_nil
  | @cons item part items parts hitem hitems ih =>
    cases hitems with
    | nil => simpa using hitem
    | cons hnext hmore =>
      rw [List.map_cons, List.map_cons, List.intercalate_cons_cons, List.intercalate_cons_cons, List.append_assoc,
        List.append_assoc]
      exact hitem.marked (spells_nil.spaced ih) List.mem_cons_self

theorem spells_indented (hindent : indent.toList = List.replicate k ' ') (h : Spells inside text.toList lexemes) :
    Spells inside (indent ++ text).toList lexemes := by
  rw [String.toList_append, hindent]
  clear hindent
  induction k with
  | zero => exact h
  | succ k ih => exact spells_nil.spaced ih

theorem spells_rows (hindent : indent.toList = List.replicate k ' ')
    (h : List.Forall₂ (fun item part => Spells true item.toList part) items parts) :
    Spells true (String.join (items.map fun item => indent ++ indentation ++ item ++ ",\n") ++ indent).toList
      ([.mark ','].intercalate (parts ++ [[]])) := by
  induction h with
  | nil =>
    have hnil : Spells true (indent ++ "").toList [] := spells_indented hindent spells_nil
    simpa using hnil
  | @cons item part items parts hitem hitems ih =>
    have hparts : [.mark ','].intercalate (part :: parts ++ [[]]) =
        part ++ .mark ',' :: ([] ++ [.mark ','].intercalate (parts ++ [[]])) := by
      cases parts <;> simp [List.intercalate_cons_cons]
    have hrow : (item ++ ",\n" ++ (String.join (items.map fun item => indent ++ indentation ++ item ++ ",\n") ++
        indent)).toList = item.toList ++ ',' :: ([] ++ '\n' :: (String.join (items.map fun item =>
          indent ++ indentation ++ item ++ ",\n") ++ indent).toList) := by
      simp
    have hrest := hitem.marked (spells_nil.feed ih) List.mem_cons_self
    rw [← hparts, ← hrow] at hrest
    have hindents : (indent ++ indentation).toList = List.replicate (k + 4) ' ' := by
      rw [String.toList_append, hindent, List.replicate_add]
      rfl
    have h := spells_indented hindents hrest
    rw [List.map_cons, String.join_cons]
    simpa only [String.append_assoc] using h

theorem exists_inner (indent : String) (hindent : indent.toList = List.replicate k ' ') (start opening closing : String)
    (h : List.Forall₂ (fun item part => Spells true item.toList part) items parts) :
    ∃ inner lexemes, bracketed start items opening closing indent = indent ++ (start ++ opening ++ inner ++ closing) ∧
      Spells true inner.toList lexemes ∧ IsList lexemes parts := by
  dsimp only [bracketed]
  split_ifs
  · exact ⟨_, _, by simp only [String.append_assoc], spells_joined h, .inl rfl⟩
  · refine ⟨"\n" ++ (String.join (items.map fun item => indent ++ indentation ++ item ++ ",\n") ++ indent), _,
      by simp only [String.append_assoc], ?_, .inr rfl⟩
    rw [String.toList_append]
    exact spells_nil.feed (spells_rows hindent h)

end Texts

section Says

variable {a b text indent : String} {as bs : List (ℕ × Statement)} {lexemes : List Lexeme} {st : Statement} {k : ℕ}

/-- A text is read as whole lines with these statements. -/
def Says (text : String) (statements : List (ℕ × Statement)) : Prop :=
  ∃ lines, ReadsLines text.toList lines ∧ ofLines? lines = some statements

theorem says_empty : Says "" [] := ⟨[], readsLines_nil, rfl⟩

theorem says_feed : Says "\n" [] := ⟨[], readsLines_feed, rfl⟩

theorem Says.append (ha : Says a as) (hb : Says b bs) : Says (a ++ b) (as ++ bs) := by
  obtain ⟨la, hla, has⟩ := ha
  obtain ⟨lb, hlb, hbs⟩ := hb
  refine ⟨la ++ lb, ?_, ?_⟩
  · rw [String.toList_append]
    exact hla.append hlb
  · rw [ofLines?, List.mapM_append, ← ofLines?, ← ofLines?, has, hbs]
    rfl

theorem says_indented (h : Spells false text.toList lexemes) (hhead : ∃ c ∈ text.toList.head?, c ≠ ' ' ∧ c ≠ '\n')
    (hst : ofLexemes? lexemes = some st) (hindent : indent.toList = List.replicate k ' ') :
    Says (indent ++ text ++ "\n") [(k, st)] := by
  refine ⟨[⟨k, lexemes⟩], ?_, by simp [ofLines?, hst]⟩
  rw [String.toList_append, String.toList_append, hindent]
  exact h.line hhead k

theorem says_line (h : Spells false text.toList lexemes) (hhead : ∃ c ∈ text.toList.head?, c ≠ ' ' ∧ c ≠ '\n')
    (hst : ofLexemes? lexemes = some st) : Says (text ++ "\n") [(0, st)] := by
  have hnone : "".toList = List.replicate 0 ' ' := rfl
  have h := says_indented h hhead hst hnone
  rwa [String.empty_append] at h

theorem Says.ofText?_eq (h : Says text as) : ofText? text = some as := by
  obtain ⟨lines, hlines, has⟩ := h
  rw [ofText?, logicalLines?_eq hlines, Option.bind_some, has]

theorem says_joinLines {α : Type} {l : List α} {f : α → String} {g : α → List (ℕ × Statement)} (hne : l ≠ [])
    (h : ∀ x ∈ l, Says (f x ++ "\n") (g x)) : Says (joinLines (l.map f) ++ "\n") (l.flatMap g) := by
  induction l with
  | nil => exact absurd rfl hne
  | cons x l ih =>
    obtain ⟨hx, hl⟩ := List.forall_mem_cons.mp h
    cases l with
    | nil => simpa [joinLines] using hx
    | cons y l =>
      have hrest := ih (List.cons_ne_nil _ _) hl
      rw [joinLines, List.map_cons, List.map_cons, String.intercalate_cons_cons, String.append_assoc,
        List.flatMap_cons]
      exact hx.append hrest

end Says

section Names

def IsName (name : String) : Prop := name ≠ "" ∧ name.toList.all CodeReader.isNameChar = true

variable {name : String}

theorem IsName.dotted (h : IsName name) : ∀ c ∈ name.toList, isDottedChar c = true :=
  fun c hc => by rw [isDottedChar, List.all_eq_true.mp h.2 c hc, Bool.true_or]

theorem IsName.spells (h : IsName name) (inside : Bool) : Spells inside name.toList [.word name] :=
  spells_word h.1 h.dotted

theorem IsName.name? (h : IsName name) : name? [.word name] = some name := by
  have hdot : '.' ∉ name.toList := fun hmem => nomatch List.all_eq_true.mp h.2 '.' hmem
  simp [Statement.name?, hdot]

def importedLexemes (n : ImportedName) : List Lexeme :=
  match n.asName with
  | none => [.word n.name]
  | some other => [.word n.name, .word "as", .word other]

def IsImportedName (n : ImportedName) : Prop := IsName n.name ∧ ∀ other ∈ n.asName, IsName other

variable {n : ImportedName}

theorem spells_importedName (h : IsImportedName n) (inside : Bool) :
    Spells inside n.text.toList (importedLexemes n) := by
  obtain ⟨name, asName⟩ := n
  cases asName with
  | none => exact h.1.spells inside
  | some other =>
    have hother : IsName other := h.2 other rfl
    have has : IsName "as" := ⟨by decide, by decide⟩
    have htext : ImportedName.text ⟨name, some other⟩ = name ++ " as " ++ other := rfl
    rw [htext, String.toList_append, String.toList_append, List.append_assoc]
    exact (h.1.spells inside).spaced ((has.spells inside).spaced (hother.spells inside))

theorem importedName?_eq (h : IsImportedName n) : importedName? (importedLexemes n) = some n := by
  obtain ⟨name, asName⟩ := n
  have hname : Statement.name? [.word name] = some name := h.1.name?
  cases asName with
  | none => simp [importedName?, importedLexemes, hname]
  | some other =>
    have hother : Statement.name? [.word other] = some other := (h.2 other rfl).name?
    simp [importedName?, importedLexemes, hname, hother]

theorem isItem_importedLexemes (n : ImportedName) : IsItem (importedLexemes n) := by
  unfold importedLexemes
  split <;> simp [IsItem]

end Names

section Imports

variable {i : Import} {indent : String} {k : ℕ}

structure IsImport (i : Import) : Prop where
  source_ne : i.source.text ≠ ""
  source_chars : i.source.text.toList.all isDottedChar = true
  names : ∀ n ∈ i.names, IsImportedName n

theorem IsImport.spells_source (h : IsImport i) : Spells false i.source.text.toList [.word i.source.text] :=
  spells_word h.source_ne (List.all_eq_true.mp h.source_chars)

theorem IsImport.spells_start (h : IsImport i) : Spells false ("from " ++ i.source.text ++ " import").toList
    [.word "from", .word i.source.text, .word "import"] := by
  have hfrom : IsName "from" := ⟨by decide, by decide⟩
  have himport : IsName "import" := ⟨by decide, by decide⟩
  rw [String.toList_append, String.toList_append, List.append_assoc]
  exact (hfrom.spells false).spaced (h.spells_source.spaced (himport.spells false))

theorem IsImport.forall₂ (h : IsImport i) (inside : Bool) :
    List.Forall₂ (fun item part => Spells inside item.toList part) (i.names.map ImportedName.text)
      (i.names.map importedLexemes) := by
  rw [List.forall₂_map_left_iff, List.forall₂_map_right_iff]
  exact List.forall₂_same.mpr fun n hn => spells_importedName (h.names n hn) inside

theorem IsImport.mapM (h : IsImport i) : (i.names.map importedLexemes).mapM importedName? = some i.names :=
  mapM_eq_some fun n hn => importedName?_eq (h.names n hn)

theorem importedNames?_plain (h : IsImport i) (hne : i.names ≠ []) :
    importedNames? ([.mark ','].intercalate (i.names.map importedLexemes)) = some i.names := by
  have hitems := items?_false (by simpa using hne) (forall_isItem isItem_importedLexemes i.names)
  have hempty : (i.names.map importedLexemes).isEmpty = false := by simpa using hne
  have hfirst (rest : List Lexeme) : [.mark ','].intercalate (i.names.map importedLexemes) ≠ .mark '(' :: rest := by
    obtain ⟨n, names, hnames⟩ := List.exists_cons_of_ne_nil hne
    rw [hnames]
    cases names <;> cases hother : n.asName <;> simp [List.intercalate_cons_cons, importedLexemes, hother]
  unfold importedNames?
  split
  · rename_i rest heq
    exact absurd heq (hfirst rest)
  · simp [hitems, h.mapM, hne]

theorem importedNames?_bracketed (h : IsImport i) (hne : i.names ≠ []) {lexemes : List Lexeme}
    (hlist : IsList lexemes (i.names.map importedLexemes)) :
    importedNames? (.mark '(' :: (lexemes ++ [.mark ')'])) = some i.names := by
  have hitems := items?_true hlist (forall_isItem isItem_importedLexemes i.names)
  have hinner : List.isSuffixOf? [.mark ')'] (lexemes ++ [.mark ')']) = some lexemes :=
    List.isSuffixOf?_eq_some_iff_append_eq.mpr rfl
  simp [importedNames?, hinner, hitems, h.mapM, hne]

theorem IsImport.says_text (h : IsImport i) (hindent : indent.toList = List.replicate k ' ') :
    Says (i.text indent ++ "\n") [(k, .imports i.source.text i.names)] := by
  unfold Import.text
  split
  · rename_i hempty
    have himport : IsName "import" := ⟨by decide, by decide⟩
    have hspells : Spells false ("import " ++ i.source.text).toList [.word "import", .word i.source.text] := by
      rw [String.toList_append]
      exact (himport.spells false).spaced h.spells_source
    rw [List.isEmpty_iff.mp hempty]
    simpa only [String.append_assoc] using says_indented hspells ⟨'i', by simp, by decide⟩ rfl hindent
  · rename_i hempty
    have hne : i.names ≠ [] := fun hnil => hempty (List.isEmpty_iff.mpr hnil)
    have hstart : s!"from {i.source.text} import " = "from " ++ i.source.text ++ " import " := rfl
    dsimp only
    rw [hstart]
    split_ifs
    · have hspells : Spells false ("from " ++ i.source.text ++ " import " ++
          ", ".intercalate (i.names.map ImportedName.text)).toList (.word "from" :: .word i.source.text ::
            .word "import" :: [.mark ','].intercalate (i.names.map importedLexemes)) := by
        simpa using h.spells_start.spaced (spells_joined (h.forall₂ false))
      have hst := congrArg (Option.map (Statement.imports i.source.text)) (importedNames?_plain h hne)
      simpa only [String.append_assoc] using says_indented hspells ⟨'f', by simp, by decide⟩ hst hindent
    · obtain ⟨inner, lexemes, htext, hinner, hlist⟩ :=
        exists_inner indent hindent ("from " ++ i.source.text ++ " import ") "(" ")" (h.forall₂ true)
      have hspells : Spells false ("from " ++ i.source.text ++ " import " ++ "(" ++ inner ++ ")").toList
          (.word "from" :: .word i.source.text :: .word "import" :: .mark '(' :: (lexemes ++ [.mark ')'])) := by
        simpa using h.spells_start.spaced (spells_nil.bracketed hinner spells_nil List.mem_cons_self)
      have hst := congrArg (Option.map (Statement.imports i.source.text)) (importedNames?_bracketed h hne hlist)
      have hsays := says_indented hspells ⟨'f', by simp, by decide⟩ hst hindent
      rw [← htext] at hsays
      exact hsays

end Imports

section Exports

theorem forall₂_quoted (names : List String) : List.Forall₂ (fun item part => Spells true item.toList part)
    (names.map String.quoted) (names.map fun name => [.literal (points name)]) := by
  rw [List.forall₂_map_left_iff, List.forall₂_map_right_iff]
  exact List.forall₂_same.mpr fun name _ => spells_literal name

theorem mapM_literal? (names : List String) :
    (names.map fun name => [.literal (points name)]).mapM literal? = some (names.map points) := by
  have h := mapM_eq_some (f := literal?) (g := fun value => [.literal value]) (l := names.map points) fun _ _ => rfl
  rwa [List.map_map] at h

theorem exportedNames?_eq (names : List String) {lexemes : List Lexeme}
    (hlist : IsList lexemes (names.map fun name => [.literal (points name)])) :
    exportedNames? (lexemes ++ [.mark ']']) = some (names.map points) := by
  have hsuffix : List.isSuffixOf? [.mark ']'] (lexemes ++ [.mark ']']) = some lexemes :=
    List.isSuffixOf?_eq_some_iff_append_eq.mpr rfl
  have hitems := items?_true hlist (forall_isItem (fun name => by simp [IsItem]) names)
  rw [exportedNames?, hsuffix, Option.bind_some, hitems, Option.bind_some, mapM_literal?]

theorem says_exports (names : List String) :
    Says (Module.exportsText names ++ "\n") [(0, .exports (names.map points))] := by
  have hnone : "".toList = List.replicate 0 ' ' := rfl
  obtain ⟨inner, lexemes, htext, hinner, hlist⟩ := exists_inner "" hnone "__all__ = " "[" "]" (forall₂_quoted names)
  have hall : IsName "__all__" := ⟨by decide, by decide⟩
  have hspells : Spells false ("__all__ = " ++ "[" ++ inner ++ "]").toList
      (.word "__all__" :: .mark '=' :: .mark '[' :: (lexemes ++ [.mark ']'])) := by
    simpa using (hall.spells false).spaced (spells_nil.marked (spells_nil.spaced
      (spells_nil.bracketed hinner spells_nil (by simp))) (by simp))
  have hst := congrArg (Option.map Statement.exports) (exportedNames?_eq names hlist)
  rw [Module.exportsText, htext, String.empty_append]
  exact says_line hspells ⟨'_', by simp, by decide⟩ hst

end Exports

section Loops

variable {names : List String}

theorem forall₂_names (h : ∀ name ∈ names, IsName name) : List.Forall₂ (fun item part => Spells true item.toList part)
    names (names.map fun name => [.word name]) := by
  rw [List.forall₂_map_right_iff]
  exact List.forall₂_same.mpr fun name hname => (h name hname).spells true

theorem tupleItems?_eq {parts : List (List Lexeme)} {lexemes : List Lexeme} (hlist : IsList lexemes parts)
    (h : ∀ p ∈ parts, IsItem p) (hone : parts.length ≠ 1 ∨ lexemes.getLast? = some (.mark ',')) :
    tupleItems? lexemes = some parts := by
  rw [tupleItems?, items?_true hlist h, Option.filter_some, if_pos (by simpa using hone)]

theorem loopedNames?_eq (h : ∀ name ∈ names, IsName name) {lexemes : List Lexeme}
    (hlist : IsList lexemes (names.map fun name => [.word name]))
    (hone : names.length ≠ 1 ∨ lexemes.getLast? = some (.mark ',')) :
    loopedNames? (lexemes ++ [.mark ')', .mark ':']) = some names := by
  have hsuffix : List.isSuffixOf? [.mark ')', .mark ':'] (lexemes ++ [.mark ')', .mark ':']) = some lexemes :=
    List.isSuffixOf?_eq_some_iff_append_eq.mpr rfl
  have hitems : tupleItems? lexemes = some (names.map fun name => [.word name]) :=
    tupleItems?_eq hlist (forall_isItem (fun name => by simp [IsItem]) names) (by simpa using hone)
  have hnames : (names.map fun name => [.word name]).mapM name? = some names :=
    mapM_eq_some fun name hname => (h name hname).name?
  rw [loopedNames?, hsuffix, Option.bind_some, hitems, Option.bind_some, hnames]

theorem says_header (h : ∀ name ∈ names, IsName name) {inner : String} {lexemes : List Lexeme}
    (hinner : Spells true inner.toList lexemes) (hlist : IsList lexemes (names.map fun name => [.word name]))
    (hone : names.length ≠ 1 ∨ lexemes.getLast? = some (.mark ',')) :
    Says ("for _model in " ++ "(" ++ inner ++ "):" ++ "\n") [(0, .loop "_model" names)] := by
  have hfor : IsName "for" := ⟨by decide, by decide⟩
  have hmodel : IsName "_model" := ⟨by decide, by decide⟩
  have hin : IsName "in" := ⟨by decide, by decide⟩
  have hspells : Spells false ("for _model in " ++ "(" ++ inner ++ "):").toList
      (.word "for" :: .word "_model" :: .word "in" :: .mark '(' :: (lexemes ++ [.mark ')', .mark ':'])) := by
    simpa using (hfor.spells false).spaced ((hmodel.spells false).spaced ((hin.spells false).spaced
      (spells_nil.bracketed hinner (spells_nil.marked spells_nil (by simp)) List.mem_cons_self)))
  have hst := congrArg (Option.map (Statement.loop "_model")) (loopedNames?_eq h hlist hone)
  exact says_line hspells ⟨'f', by simp, by decide⟩ hst

theorem says_loop (h : ∀ name ∈ names, IsName name) : ∃ header, Says (header ++ "\n") [(0, .loop "_model" names)] ∧
    Module.rebuildText names = header ++ "\n    _model.model_rebuild()\ndel _model" := by
  unfold Module.rebuildText
  split
  · rename_i name
    have hspells : Spells true (name ++ ",").toList ([.word name] ++ .mark ',' :: []) := by
      rw [String.toList_append]
      exact ((h name List.mem_cons_self).spells true).marked spells_nil List.mem_cons_self
    have hheader : "for _model in (" ++ name ++ ",):" = "for _model in " ++ "(" ++ (name ++ ",") ++ "):" := by
      simp [← String.toList_inj]
    exact ⟨_, hheader ▸ says_header h hspells (.inr rfl) (.inr rfl), rfl⟩
  · rename_i hone
    have hnone : "".toList = List.replicate 0 ' ' := rfl
    obtain ⟨inner, lexemes, htext, hinner, hlist⟩ := exists_inner "" hnone "for _model in " "(" "):" (forall₂_names h)
    have hlength : names.length ≠ 1 := fun hlength => by
      obtain ⟨name, rfl⟩ := List.length_eq_one_iff.mp hlength
      exact hone name rfl
    rw [htext, String.empty_append]
    exact ⟨_, says_header h hinner hlist (.inl hlength), rfl⟩

theorem says_rebuild (h : ∀ name ∈ names, IsName name) : Says (Module.rebuildText names ++ "\n")
    [(0, .loop "_model" names), (4, .call "_model.model_rebuild"), (0, .deletes "_model")] := by
  obtain ⟨header, hheader, htext⟩ := says_loop h
  have hfunction : Spells false "_model.model_rebuild".toList [.word "_model.model_rebuild"] :=
    spells_word (by decide) (List.all_eq_true.mp (by decide))
  have hcall : Spells false "_model.model_rebuild()".toList [.word "_model.model_rebuild", .mark '(', .mark ')'] := by
    simpa using hfunction.bracketed spells_nil spells_nil List.mem_cons_self
  have hmodel : IsName "_model" := ⟨by decide, by decide⟩
  have hdeletes : IsName "del" := ⟨by decide, by decide⟩
  have hdel : Spells false "del _model".toList [.word "del", .word "_model"] := by
    simpa using (hdeletes.spells false).spaced (hmodel.spells false)
  have hfour : indentation.toList = List.replicate 4 ' ' := rfl
  have hcalls : Says (indentation ++ "_model.model_rebuild()" ++ "\n") [(4, .call "_model.model_rebuild")] :=
    says_indented hcall ⟨'_', by simp, by decide⟩ (by decide) hfour
  have hdeletes : Says ("del _model" ++ "\n") [(0, .deletes "_model")] :=
    says_line hdel ⟨'d', by simp, by decide⟩ (by decide)
  have hrest := hcalls.append hdeletes
  have hlines : Module.rebuildText names ++ "\n" =
      header ++ "\n" ++ (indentation ++ "_model.model_rebuild()" ++ "\n" ++ ("del _model" ++ "\n")) := by
    rw [htext]
    simp [← String.toList_inj, indentation]
  rw [hlines]
  exact hheader.append hrest

example : ofText? "for _model in (Pet):\n" = none ∧ ofText? "from pet import Pet,\n" = none := by decide +kernel

end Loops

end Statement

end ClientForge
