import ClientForge.Proofs.Names
import ClientForge.Proofs.Outcomes
import ClientForge.Yaml.Value

namespace ClientForge.Yaml

open Outcome

section Characters

variable {c : Char}

theorem mem_of_isBlankOrEnd (h : isBlankOrEnd c = true) :
    c ∈ ['\t', ' ', '\n', '\r', '\u0085', '\u2028', '\u2029', '\x00'] := by
  simp only [isBlankOrEnd, isSpaceOrEnd, isBreakOrEnd, isBreak, isEnd, Bool.or_eq_true, decide_eq_true_eq,
    List.contains_iff_mem, List.mem_cons] at h
  simp only [List.mem_cons]
  tauto

theorem isBreak_eq_false (h : isBlankOrEnd c = false) : isBreak c = false := by
  simp only [isBlankOrEnd, isSpaceOrEnd, isBreakOrEnd, Bool.or_eq_false_iff] at h
  exact h.2.2.1

theorem isEnd_eq_false (h : isBlankOrEnd c = false) : isEnd c = false := by
  simp only [isBlankOrEnd, isSpaceOrEnd, isBreakOrEnd, Bool.or_eq_false_iff] at h
  exact h.2.2.2

theorem isBlankOrEnd_eq_false (h : isNameChar c = true) : isBlankOrEnd c = false := by
  refine eq_false_of_ne_true fun hblank => ?_
  have hall : ['\t', ' ', '\n', '\r', '\u0085', '\u2028', '\u2029', '\x00'].all (!isNameChar ·) = true := by decide
  rw [List.all_eq_true] at hall
  simpa [h] using hall c (mem_of_isBlankOrEnd hblank)

theorem isAllowed_of_isNameChar (h : isNameChar c = true) : isAllowed c = true := by
  have hrange : ' ' ≤ c ∧ c ≤ '~' := by
    simp only [isNameChar, Bool.or_eq_true, decide_eq_true_eq] at h
    rcases h with (h | rfl) | rfl
    · have h : (c.isUpper || c.isLower || c.isDigit) = true := h
      rw [Bool.or_eq_true, Bool.or_eq_true, Naming.isUpper_iff, Naming.isLower_iff, Naming.isDigit_iff] at h
      rw [Char.le_def, Char.le_def, UInt32.le_iff_toNat_le, UInt32.le_iff_toNat_le]
      change 32 ≤ c.toNat ∧ c.toNat ≤ 126
      omega
    · decide
    · decide
  simp [isAllowed, hrange]

end Characters

section Lexing

variable {c : Char} {s rest : List Char} {x y : Lexer} {fuel : ℕ} {f : Fault}

theorem rest_skip (place : Cursor) (n : ℕ) : (place.skip n).rest = place.rest.drop n := by
  have hnext (place : Cursor) : place.next.rest = place.rest.tail := by
    unfold Cursor.next
    split
    · rename_i hrest
      rw [hrest, List.tail_nil]
    · rename_i hrest
      rw [hrest]
      split <;> rfl
  induction n generalizing place with
  | zero => rfl
  | succ n ih => rw [Cursor.skip, ih, hnext, List.drop_tail]

theorem run_next (h : x.step = .ok (false, y)) : Lexer.run (fuel + 1) x = Lexer.run fuel y := by
  simp only [Lexer.run, h]

theorem run_last (h : x.step = .ok (true, y)) : Lexer.run (fuel + 1) x = y.found.reverse := by simp only [Lexer.run, h]

theorem run_broken (h : x.step = .error f) : Lexer.run (fuel + 1) x = x.brokenOff f := by simp only [Lexer.run, h]

theorem unwindTo_of_nil (column : Int) (h : x.indents = []) : x.unwindTo column = x := by
  rw [Lexer.unwindTo, h, Lexer.unwind]

theorem skipGap_eq_self (hspace : x.place.rest.head? ≠ some ' ') (hhash : x.place.head ≠ '#')
    (hbreak : isBreak x.place.head = false) : Lexer.skipGap (fuel + 1) x = x := by
  have hspan : x.place.skipWhile (· = ' ') = x.place := by
    cases hrest : x.place.rest with
    | nil => simp [Cursor.skipWhile, Cursor.span, hrest, Cursor.skip]
    | cons c rest =>
      rw [hrest, List.head?_cons] at hspace
      have hc : c ≠ ' ' := fun h => hspace (congrArg some h)
      simp [Cursor.skipWhile, Cursor.span, hrest, Cursor.skip, hc]
  have hblanks : x.place.skipBlanks = x.place := by
    rw [Cursor.skipBlanks, hspan]
    exact if_neg hhash
  rw [Lexer.skipGap, hblanks, hbreak]
  rfl

theorem step_start (hblank : isBlankOrEnd c = false) (hhash : c ≠ '#') (hmark : c ≠ '\ufeff') :
    (Lexer.start (c :: rest)).step = (fun y => (false, y)) <$> (Lexer.start (c :: rest)).lexHere := by
  have hspace : c ≠ ' ' := by
    rintro rfl
    cases hblank
  have hhead : (Lexer.start (c :: rest)).place.head = c := rfl
  have hmark : (Lexer.start (c :: rest)).skipByteOrderMark = .start (c :: rest) := by
    rw [Lexer.skipByteOrderMark, hhead, decide_eq_false hmark, Bool.and_false, if_neg Bool.false_ne_true]
  have hgap : Lexer.skipGap ((Lexer.start (c :: rest)).place.rest.length + 1) (.start (c :: rest)) =
      .start (c :: rest) :=
    skipGap_eq_self (fun h => hspace (Option.some.inj h)) hhash (isBreak_eq_false hblank)
  have hkeys : (Lexer.start (c :: rest)).dropStaleKeys = .ok (.start (c :: rest)) := rfl
  rw [Lexer.step, hmark, hgap, hkeys]
  change (if isEnd (Lexer.unwindTo (.start (c :: rest)) _).place.head then _ else _) = _
  rw [unwindTo_of_nil _ rfl, hhead, isEnd_eq_false hblank]
  rfl

theorem any_required {keys : List PossibleKey} {p : PossibleKey → Bool} (h : keys.all (!·.required) = true) :
    (keys.any fun k => p k && k.required) = false := by
  rw [List.any_eq_false]
  intro k hk
  have hfree := List.all_eq_true.mp h k hk
  simp_all

theorem outside_eq_ok (hindents : x.indents = []) (hkeys : x.keys.all (!·.required) = true) :
    ∃ y, x.outside = .ok y ∧ y.found = x.found := by
  rw [Lexer.outside, unwindTo_of_nil _ hindents, Lexer.dropKey, any_required hkeys]
  exact ⟨_, rfl, rfl⟩

theorem step_end (hrest : x.place.rest = []) (hindents : x.indents = []) (hkeys : x.keys.all (!·.required) = true) :
    ∃ y, x.step = .ok (true, y) ∧ y.found = .textEnd :: x.found := by
  have hhead : x.place.head = '\x00' := by simp [Cursor.head, Cursor.peek, hrest]
  have hmark : x.skipByteOrderMark = x := by simp [Lexer.skipByteOrderMark, hhead]
  have hgap : Lexer.skipGap (x.place.rest.length + 1) x = x :=
    skipGap_eq_self (by simp [hrest]) (by simp [hhead]) (by rw [hhead]; decide)
  obtain ⟨y, hy, hplace, ⟨hindents', hkeys'⟩, hfound⟩ : ∃ y, x.dropStaleKeys = .ok y ∧ y.place = x.place ∧
      (y.indents = [] ∧ y.keys.all (!·.required) = true) ∧ y.found = x.found := by
    rw [Lexer.dropStaleKeys, any_required hkeys]
    refine ⟨_, rfl, rfl, ⟨hindents, ?_⟩, rfl⟩
    exact List.all_eq_true.mpr fun k hk => List.all_eq_true.mp hkeys k (List.mem_of_mem_filter hk)
  obtain ⟨z, hz, hfound'⟩ := outside_eq_ok hindents' hkeys'
  refine ⟨z.push .textEnd, ?_, by rw [Lexer.push, hfound', hfound]⟩
  rw [Lexer.step, hmark, hgap, hy]
  change (if isEnd (y.unwindTo y.place.column).place.head then _ else _) = _
  rw [unwindTo_of_nil _ hindents', hplace, hhead, if_pos (by decide), hz]
  rfl

end Lexing

section Words

variable {s : List Char}

theorem plainWord_eq_self (h : s.all isNameChar = true) : plainWord false s = s := by
  induction s with
  | nil => rfl
  | cons c s ih =>
    simp only [List.all_cons, Bool.and_eq_true] at h
    have hcolon : c ≠ ':' := by
      rintro rfl
      exact absurd h.1 (by decide)
    simp [plainWord, endsPlain, isBlankOrEnd_eq_false h.1, hcolon, ih h.2]

theorem plain_word {indent : Int} {place : Cursor} (h : place.rest.all isNameChar = true) (hne : place.rest ≠ []) :
    plain false indent place = ⟨place.rest, false, place.skip place.rest.length⟩ := by
  have hhash : place.head ≠ '#' := by
    obtain ⟨c, rest, hrest⟩ := List.exists_cons_of_ne_nil hne
    have hhead : place.head = c := by simp [Cursor.head, Cursor.peek, hrest]
    rw [hrest, List.all_cons, Bool.and_eq_true] at h
    rintro heq
    rw [← hhead, heq] at h
    exact absurd h.1 (by decide)
  have hgap : plainGap (place.skip place.rest.length) = (none, false, place.skip place.rest.length) := by
    have hend : (place.skip place.rest.length).rest = [] := by rw [rest_skip, List.drop_length]
    have hhead : (place.skip place.rest.length).head = '\x00' := by simp [Cursor.head, Cursor.peek, hend]
    have hbreak : isBreak '\x00' = false := by decide
    simp [plainGap, Cursor.span, hend, Cursor.skip, hhead, hbreak]
  simp [plain, plainFrom, hhash, plainWord_eq_self h, hne, hgap]

theorem lexHere_word {x : Lexer} (h : x.place.head.isAlphanum = true) : x.lexHere = x.lexPlain := by
  have hne {c : Char} (hc : c.isAlphanum = false) : x.place.head ≠ c := by
    rintro rfl
    rw [hc] at h
    cases h
  have hstart : x.startsPlain = true := by
    have hblank : isBlankOrEnd x.place.head = false := isBlankOrEnd_eq_false (by simp [isNameChar, h])
    have hmark : "-?:,[]\x7b\x7d#&*!|>'\"%@`".toList.contains x.place.head = false := by
      refine eq_false_of_ne_true fun hmem => ?_
      have hall : "-?:,[]\x7b\x7d#&*!|>'\"%@`".toList.all (!·.isAlphanum) = true := by decide
      rw [List.all_eq_true] at hall
      simpa [h] using hall _ (List.contains_iff_mem.mp hmem)
    simp only [Lexer.startsPlain, hblank, hmark, Bool.or_false, Bool.not_false, Bool.true_or]
  dsimp only [Lexer.lexHere]
  split
  case h_12 =>
    simp only [hne (show '-'.isAlphanum = false by decide), hne (show '.'.isAlphanum = false by decide),
      hne (show '?'.isAlphanum = false by decide), hne (show ':'.isAlphanum = false by decide),
      hne (show '|'.isAlphanum = false by decide), hne (show '>'.isAlphanum = false by decide), hstart,
      decide_false, Bool.false_and, Bool.false_eq_true, if_false, if_true]
  all_goals exact absurd ‹_› (hne (by decide))

structure IsWord (s : List Char) : Prop where
  chars : s.all isNameChar = true
  first : s.head?.any Char.isAlphanum = true

theorem IsWord.exists_cons (h : IsWord s) : ∃ c rest, s = c :: rest ∧ c.isAlphanum = true := by
  cases s with
  | nil => cases h.first
  | cons c rest => exact ⟨c, rest, rfl, h.first⟩

theorem lexPlain_word (h : IsWord s) : ∃ x, (Lexer.start s).lexPlain = .ok x ∧
    x.found = [.scalar (.ofList s) true] ∧ x.place.rest = [] ∧ x.indents = [] ∧
    x.keys.all (!·.required) = true := by
  obtain ⟨c, rest, rfl, -⟩ := h.exists_cons
  let start : Lexer := .start (c :: rest)
  let key : PossibleKey := ⟨0, 0, false, 0, 0, 0⟩
  have hplain : plain false (-1) start.place = ⟨c :: rest, false, start.place.skip (rest.length + 1)⟩ :=
    plain_word h.chars (List.cons_ne_nil c rest)
  have hlex : start.lexPlain = .ok { start with
      place := (plain false (-1) start.place).after, keyAllowed := (plain false (-1) start.place).brokenLine
      keys := [key], found := [.scalar (.ofList (plain false (-1) start.place).text) true], count := 1 } := rfl
  rw [hplain] at hlex
  refine ⟨_, hlex, rfl, ?_, rfl, rfl⟩
  rw [rest_skip]
  exact List.drop_length

theorem step_word (h : IsWord s) : ∃ x, (Lexer.start s).step = .ok (false, x) ∧
    x.found = [.scalar (.ofList s) true] ∧ x.place.rest = [] ∧ x.indents = [] ∧
    x.keys.all (!·.required) = true := by
  obtain ⟨x, hx, hfound⟩ := lexPlain_word h
  obtain ⟨c, rest, rfl, hc⟩ := h.exists_cons
  have hblank : isBlankOrEnd c = false := isBlankOrEnd_eq_false (by simp [isNameChar, hc])
  have hhash : c ≠ '#' := by
    rintro rfl
    cases hc
  have hmark : c ≠ '\ufeff' := by
    rintro rfl
    cases hc
  have hword : (Lexer.start (c :: rest)).lexHere = (Lexer.start (c :: rest)).lexPlain := lexHere_word hc
  exact ⟨x, by rw [step_start hblank hhash hmark, hword, hx]; rfl, hfound⟩

theorem tokens_word (h : IsWord s) : tokens (.ofList s) = [.scalar (.ofList s) true, .textEnd] := by
  have hallowed : s.all isAllowed = true :=
    List.all_eq_true.mpr fun c hc => isAllowed_of_isNameChar (List.all_eq_true.mp h.chars c hc)
  obtain ⟨x, hx, hfound, hrest, hindents, hkeys⟩ := step_word h
  obtain ⟨y, hy, hdone⟩ := step_end hrest hindents hkeys
  obtain ⟨c, rest, rfl, -⟩ := h.exists_cons
  rw [tokens, String.toList_ofList, if_pos hallowed, List.length_cons, run_next hx, run_last hy, hdone, hfound]
  rfl

end Words

section Escapes

variable {digits rest : List Char} {n : ℕ} {f : Fault}

def longEscape (digits rest : List Char) : List Char := '"' :: '\\' :: 'U' :: (digits ++ rest)

theorem quoted_longEscape (hlength : digits.length = 8) (hvalue : hexValue? digits = some n)
    (hn : characterOf n = .error f) : quoted (.start (longEscape digits rest)) = .error f := by
  let escaped : Cursor := ⟨'U' :: (digits ++ rest), 2, 0, 2⟩
  have hescape : quotedEscape escaped = .error f := by
    have htake : (digits ++ rest).take 8 = digits := by rw [← hlength, List.take_left]
    have hnext : escaped.next.rest = digits ++ rest := rfl
    have hletter : simpleEscapes.lookup 'U' = none := by decide
    have hlong : codeLength? 'U' = some 8 := by decide
    have hhead : escaped.head = 'U' := rfl
    simp only [quotedEscape, hhead, hletter, hlong, hnext, htake, hlength, if_true, hvalue, hn]
    rfl
  have hhead : (Cursor.start (longEscape digits rest)).head = '"' := rfl
  have hstep (fuel : ℕ) : quotedFrom '"' (fuel + 1) [] (Cursor.start (longEscape digits rest)).next =
      (quotedEscape escaped >>= fun x => quotedFrom '"' fuel ([] ++ x.1) x.2) := rfl
  rw [quoted, hhead, hstep, hescape]
  rfl

theorem tokens_longEscape (hlength : digits.length = 8) (hvalue : hexValue? digits = some n)
    (hn : characterOf n = .error f) (hallowed : (digits ++ rest).all isAllowed = true) :
    tokens (.ofList (longEscape digits rest)) = [.broken f] := by
  have hhere : (Lexer.start (longEscape digits rest)).lexHere = .error f := by
    change (quoted (.start (longEscape digits rest)) >>= _) >>= _ = _
    rw [quoted_longEscape hlength hvalue hn]
    rfl
  have hstep : (Lexer.start (longEscape digits rest)).step = .error f := by
    rw [longEscape, step_start (by decide) (by decide) (by decide), ← longEscape, hhere]
    rfl
  have hall : (longEscape digits rest).all isAllowed = true := by
    simp only [longEscape, List.all_cons, hallowed]
    decide
  rw [tokens, String.toList_ofList, if_pos hall, run_broken hstep]
  rfl

end Escapes

section Documents

variable {content tag text : String} {isPlain : Bool} {reader : List Char → Except Fault Scalar}

theorem make_scalar (h : scalarReader? tag = some reader) :
    (Draft.make 0).run ⟨#[.scalar tag text], #[none], []⟩ =
      (fun s => ((), ⟨#[.scalar tag text], #[some (.scalar s)], []⟩)) <$> reader text.toList := by
  have htag : Nodes.tag #[.scalar tag text] 0 = tag := rfl
  have hread : Nodes.scalar #[.scalar tag text] 0 reader = reader text.toList := rfl
  simp only [Draft.make, StateT.run_bind, StateT.run_get, pure_bind, htag, h, hread]
  cases reader text.toList <;> rfl

theorem fillAll_of_nil {merges fuel : ℕ} {x : Draft} (h : x.waiting = []) :
    (Draft.fillAll merges fuel).run x = .ok ((), x) := by
  cases fuel with
  | zero => rfl
  | succ fuel =>
    simp only [Draft.fillAll, StateT.run_bind, StateT.run_get, pure_bind, h, List.reverse_nil, List.isEmpty_nil,
      if_true]
    rfl

theorem document_scalar (h : scalarReader? tag = some reader) :
    Nodes.document #[.scalar tag text] 0 = Document.scalar <$> reader text.toList := by
  have hnone : Array.replicate (Array.size #[Node.scalar tag text]) (none : Option Shape) = #[none] := rfl
  have hgraph (s : Scalar) : Graph.document #[.scalar s] 0 = .scalar s := by
    simp [Graph.document, Graph.viewAt, Graph.known?, Graph.Shape.view, Graph.View.plain]
    rfl
  simp only [Nodes.document, StateT.run_bind, hnone, make_scalar h]
  cases reader text.toList with
  | error f => rfl
  | ok s =>
    change ((Draft.fillAll _ _).run _ >>= _) = _
    rw [fillAll_of_nil rfl]
    change Except.ok (Graph.document (Array.map (·.getD default) #[some (.scalar s)]) 0) = _
    rw [List.map_toArray, List.map_singleton, Option.getD_some, hgraph]
    rfl

theorem root?_scalar : root? [.scalar text isPlain, .textEnd] =
    .ok (#[.scalar (scalarTag none text isPlain) text], some 0) := by
  simp [root?, firstDocument, Source.head, isOutside, bareDocument, node, properties, wholeTag, Source.checkAnchor,
    Source.next, Source.add, skipEnds, bind, Except.bind, pure, Except.pure, maxDepth]

theorem root?_tagged {handle : Option String} {name : String}
    (h : ∀ x : Source, x.handles = usualHandles → wholeTag x (some (handle, name)) = .ok (some tag)) :
    root? [.tag handle name, .scalar text isPlain, .textEnd] =
      .ok (#[.scalar (scalarTag (some tag) text isPlain) text], some 0) := by
  simp [root?, firstDocument, Source.head, isOutside, bareDocument, node, properties, h, Source.checkAnchor,
    Source.next, Source.add, skipEnds, bind, Except.bind, pure, Except.pure, maxDepth]

theorem read_scalar (h : tokens content = [.scalar text isPlain, .textEnd])
    (hreader : scalarReader? (scalarTag none text isPlain) = some reader) :
    read content = Document.scalar <$> reader text.toList := by
  rw [read, h, root?_scalar]
  exact document_scalar hreader

theorem wholeTag_some {x : Source} {handle start : String} (h : x.handles.lookup handle = some start) (name : String) :
    wholeTag x (some (some handle, name)) = .ok (some (start ++ name)) := by
  rw [wholeTag, h]

theorem wholeTag_usual {x : Source} (h : x.handles = usualHandles) (name : String) :
    wholeTag x (some (some "!!", name)) = .ok (some (tagOf name)) := by
  have hstart : x.handles.lookup "!!" = some "tag:yaml.org,2002:" := by
    rw [h]
    decide
  exact wholeTag_some hstart name

theorem scalarTag_some (h : tag ≠ "!") : scalarTag (some tag) text isPlain = tag := by
  unfold scalarTag
  split
  · cases ‹_›
  · rename_i heq
    exact absurd (Option.some.inj heq) h
  · rename_i heq
    exact (Option.some.inj heq).symm

theorem append_ne {s : String} (h : 1 < s.length) (t : String) : s ++ t ≠ "!" := by
  intro heq
  have hlength := congrArg String.length heq
  rw [String.length_append] at hlength
  have hmark : "!".length = 1 := by decide
  omega

theorem tagOf_ne (name : String) : tagOf name ≠ "!" := append_ne (by decide) name

theorem read_tagged {name : String} (h : tokens content = [.tag (some "!!") name, .scalar text isPlain, .textEnd])
    (hreader : scalarReader? (tagOf name) = some reader) : read content = Document.scalar <$> reader text.toList := by
  rw [read, h, root?_tagged fun x hx => wholeTag_usual hx name, scalarTag_some (tagOf_ne name)]
  exact document_scalar hreader

theorem read_broken {f : Fault} (h : tokens content = [.broken f]) : read content = .error f := by
  rw [read, h]
  rfl

end Documents

end ClientForge.Yaml
