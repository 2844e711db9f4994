import ClientForge.Proofs.LiteralValues
import ClientForge.Proofs.ModulePaths
import ClientForge.Proofs.Placeholders
import ClientForge.Proofs.RequestNames

/-!
What the expression for a path stands for: the path, with the values of the arguments in its placeholders.
-/

namespace ClientForge

open Naming Text

namespace Text

def fieldValue? (values : String → Option (List CodePoint)) (code : List Char) : Option (List CodePoint) :=
  if IsIdentifier (.ofList code) ∧ String.ofList code ∉ keywords then values (.ofList code) else none

def expressionValue? (values : String → Option (List CodePoint)) (source : List Char) : Option (List CodePoint) :=
  match source with
  | 'f' :: literal => (content? literal).bind (contentValue? (some (fieldValue? values)))
  | literal => literalValue? literal

theorem content?_quoteWith (quote : Quote) (s : List Char) :
    content? (quoteWith quote.char s) = some (s.flatMap (escape quote.char)) := by
  rw [quoteWith, ← flatMap_escapePoint, content?_points]

theorem expressionValue?_quoted (values : String → Option (List CodePoint)) (s : String) :
    expressionValue? values s.quoted.toList = some (s.toList.map codePoint) := by
  have hvalue : literalValue? s.quoted.toList = some (s.toList.map codePoint) := by
    rw [String.quoted, String.toList_ofList]
    exact literalValue?_quotedPoints _
  obtain ⟨quote, hquote⟩ := quoted_eq s.toList
  rw [← hvalue, String.quoted, String.toList_ofList, hquote, quoteWith]
  cases quote <;> rfl

theorem expressionValue?_formatted (values : String → Option (List CodePoint)) (s : List Char) :
    ∃ quote : Quote, expressionValue? values ("f" ++ (String.ofList s).quoted).toList =
      contentValue? (some (fieldValue? values)) (s.flatMap (escape quote.char)) := by
  obtain ⟨quote, hquote⟩ := quoted_eq s
  refine ⟨quote, ?_⟩
  have hlist : ("f" ++ (String.ofList s).quoted).toList = 'f' :: quoteWith quote.char s := by
    simp only [String.toList_append, String.quoted, String.toList_ofList, hquote]
    rfl
  rw [hlist]
  change (content? (quoteWith quote.char s)).bind _ = _
  rw [content?_quoteWith, Option.bind_some]

end Text

namespace Route

/-- What a path can become when values are put for its placeholders and all else is left. -/
inductive Filled (HasValue : String → List CodePoint → Prop) : List Char → List CodePoint → Prop
  | nil : Filled HasValue [] []
  | placeholder {name path : List Char} {value text : List CodePoint} (hname : IsPlaceholderName name)
    (hvalue : HasValue (.ofList name) value) (hpath : Filled HasValue path text) :
    Filled HasValue (inBraces name ++ path) (value ++ text)
  | plain {c : Char} {path : List Char} {text : List CodePoint} (hplain : ¬BeginsWithPlaceholder (c :: path))
    (hpath : Filled HasValue path text) : Filled HasValue (c :: path) (codePoint c :: text)

section Splits

variable {path : List Char} {pieces : List TemplatePiece}

def pieceValue (value : String → List CodePoint) : TemplatePiece → List CodePoint
  | .plain text => text.map codePoint
  | .placeholder name => value (.ofList name)

theorem flatMap_prepend (value : String → List CodePoint) (text : List Char) (pieces : List TemplatePiece) :
    (prepend text pieces).flatMap (pieceValue value) = text.map codePoint ++ pieces.flatMap (pieceValue value) := by
  rcases text with - | ⟨c, text⟩
  · rfl
  · rcases pieces with - | ⟨- | -, -⟩ <;> simp [prepend, pieceValue]

variable {HasValue : String → List CodePoint → Prop} {value : String → List CodePoint}

theorem Splits.filled (h : Splits path pieces)
    (hvalue : ∀ name, .placeholder name ∈ pieces → HasValue (.ofList name) (value (.ofList name))) :
    Filled HasValue path (pieces.flatMap (pieceValue value)) := by
  induction h with
  | nil => exact .nil
  | placeholder hname _ ih =>
    refine .placeholder hname (hvalue _ List.mem_cons_self) (ih fun name hmem => ?_)
    exact hvalue name (List.mem_cons_of_mem _ hmem)
  | plain hplain _ ih =>
    rw [flatMap_prepend]
    exact .plain hplain (ih fun name hmem => hvalue name (mem_prepend.mpr hmem))

theorem Splits.flatMap_eq (h : Splits path pieces) (hplain : ∀ name, .placeholder name ∉ pieces) :
    pieces.flatMap (pieceValue value) = path.map codePoint := by
  induction h with
  | nil => rfl
  | placeholder _ _ _ => exact absurd List.mem_cons_self (hplain _)
  | plain _ _ ih =>
    rw [flatMap_prepend, ih fun name hmem => hplain name (mem_prepend.mpr hmem)]
    rfl

end Splits

end Route

namespace LiteralReader

open Route

variable {values : String → Option (List CodePoint)} {before value : List CodePoint} {quote : Quote}
  {argument : String → String} {path : String}

theorem read_plainText {fields : Fields} (hfields : fields.isSome = true) (text : List Char) :
    read fields ⟨before, .text⟩ ((doubleBraces text).flatMap (escape quote.char)) =
      some ⟨before ++ text.map codePoint, .text⟩ := by
  have hopening : escape quote.char '\x7b' = ['\x7b'] := escape_brace quote (.inl rfl)
  have hclosing : escape quote.char '\x7d' = ['\x7d'] := escape_brace quote (.inr rfl)
  induction text generalizing before with
  | nil => simp [doubleBraces, read]
  | cons c text ih =>
    have hc : read fields ⟨before, .text⟩ ((if c = '\x7b' || c = '\x7d' then [c, c] else [c]).flatMap
        (escape quote.char)) = some ⟨before ++ [codePoint c], .text⟩ := by
      by_cases ho : c = '\x7b'
      · subst ho
        simp [hopening, read, step, hfields, add]
      · by_cases hd : c = '\x7d'
        · subst hd
          simp [hclosing, read, step, hfields, add]
        · have hne {d : Char} (hcd : c ≠ d) : codePoint c ≠ codePoint d := by
            simpa [codePoint, Char.toNat_inj] using hcd
          simp only [ho, hd, decide_false, Bool.or_self, Bool.false_eq_true, if_false, List.flatMap_singleton]
          exact read_written (escape_written quote c) fun _ => ⟨hne ho, hne hd⟩
    rw [doubleBraces, List.flatMap_cons, ← doubleBraces, List.flatMap_append, read_append, hc, Option.bind_some, ih,
      List.append_assoc, List.map_cons, List.singleton_append]

theorem read_code {fields : Fields} {code text : List Char} (h : '\x7d' ∉ text) :
    read fields ⟨before, .field code⟩ text = some ⟨before, .field (code ++ text)⟩ := by
  induction text generalizing code with
  | nil => simp [read]
  | cons c text ih =>
    rw [List.mem_cons, not_or] at h
    have hc : step fields ⟨before, .field code⟩ c = some ⟨before, .field (code ++ [c])⟩ := by
      simp [step, stepField, Ne.symm h.1]
    rw [read_cons, hc, Option.bind_some, ih h.2, List.append_assoc, List.singleton_append]

theorem read_name {name : String} (hname : IsIdentifier name) (hkeyword : name ∉ keywords)
    (hvalue : values name = some value) : read (some (fieldValue? values)) ⟨before, .text⟩
      ('\x7b' :: (name.toList ++ ['\x7d'])) = some ⟨before ++ value, .text⟩ := by
  have hclosing : '\x7d' ∉ name.toList := hname.notMem rfl
  have hopening : '\x7b' ∉ name.toList := hname.notMem rfl
  obtain ⟨c, code, hcode⟩ := List.exists_cons_of_ne_nil (mt String.toList_eq_nil_iff.mp hname.isWord.1)
  have hfield : fieldValue? values name.toList = some value := by
    rw [fieldValue?, String.ofList_toList, if_pos ⟨hname, hkeyword⟩, hvalue]
  rw [hcode] at hclosing hopening hfield ⊢
  rw [List.mem_cons, not_or] at hclosing hopening
  have hfirst : step (some (fieldValue? values)) ⟨before, .opening⟩ c = some ⟨before, .field [c]⟩ := by
    simp [step, stepField, Ne.symm hclosing.1, Ne.symm hopening.1]
  have hopened : step (some (fieldValue? values)) ⟨before, .text⟩ '\x7b' = some ⟨before, .opening⟩ := rfl
  rw [read_cons, hopened, Option.bind_some, List.cons_append, read_cons, hfirst, Option.bind_some, read_append,
    read_code hclosing.2, Option.bind_some]
  simp [read, step, stepField, hfield, add]

theorem read_template {pieces : List TemplatePiece}
    (h : ∀ name, .placeholder name ∈ pieces → IsIdentifier (argument (.ofList name)) ∧
      argument (.ofList name) ∉ keywords ∧ (values (argument (.ofList name))).isSome = true) :
    read (some (fieldValue? values)) ⟨before, .text⟩
        ((pieces.flatMap (formatPiece argument)).flatMap (escape quote.char)) =
      some ⟨before ++ pieces.flatMap (pieceValue fun name => (values (argument name)).getD []), .text⟩ := by
  induction pieces generalizing before with
  | nil => simp [read]
  | cons piece pieces ih =>
    have hpieces := fun name hname => h name (List.mem_cons_of_mem _ hname)
    have hpiece : read (some (fieldValue? values)) ⟨before, .text⟩ ((formatPiece argument piece).flatMap
        (escape quote.char)) =
          some ⟨before ++ pieceValue (fun name => (values (argument name)).getD []) piece, .text⟩ := by
      cases piece with
      | plain text => exact read_plainText rfl text
      | placeholder name =>
        obtain ⟨hname, hkeyword, hvalue⟩ := h name List.mem_cons_self
        obtain ⟨value, hvalue⟩ := Option.isSome_iff_exists.mp hvalue
        rw [flatMap_escape_field quote hname.isWord.2, read_name hname hkeyword hvalue, pieceValue, hvalue,
          Option.getD_some]
    rw [List.flatMap_cons, List.flatMap_append, read_append, hpiece, Option.bind_some, ih hpieces, List.flatMap_cons,
      List.append_assoc]

end LiteralReader

namespace Route

end Route

end ClientForge
