import ClientForge.Proofs.Tokens

namespace ClientForge

/-- Where a token stands: at the start of a line or of an item between brackets, behind a dot, or elsewhere. -/
inductive Position
  | start
  | dotted
  | within
deriving DecidableEq

namespace Token

def isName (word : String) : Bool := !Naming.keywords.contains word && !word.toList.head?.any Char.isDigit

def isMark (c : Char) : Token → Bool
  | .mark d => d = c
  | _ => false

def isTarget (rest : List Token) : Bool :=
  rest.head?.any (fun t => t.isMark '=' || t.isMark ':') && !rest.tail.head?.any (isMark '=')

def next : Token → Position
  | .mark c => if c = '.' then .dotted else if c = ',' || c = '\n' then .start else .within
  | _ => .within

def binders (listed : Bool) : List Token → List String
  | [] => []
  | .word name :: rest =>
    if name = "for" || name = "lambda" then binders true rest
    else if name = "in" then binders false rest
    else (if listed then [name] else []) ++ binders listed rest
  | t :: rest => binders (listed && !t.isMark ':') rest

mutual

def reads (gives : Bool) (place : Position) (rest : List Token) : Token → List String
  | .word name =>
    if isName name && place ≠ .dotted && !(gives && place = .start && isTarget rest) then [name] else []
  | .group opening inner => (readsAll (opening = '(') .start inner).filter (!(binders false inner).contains ·)
  | _ => []

def readsAll (gives : Bool) (place : Position) : List Token → List String
  | [] => []
  | t :: rest => reads gives place rest t ++ readsAll gives t.next rest

end

/-- The names that code reads from around itself. -/
def names (code : List Token) : List String := readsAll true .start code

def targets (place : Position) : List Token → List String
  | [] => []
  | .word name :: rest => (if place = .start && isTarget rest then [name] else []) ++ targets .within rest
  | t :: rest => targets t.next rest

def functionNames (code : List Token) : List String :=
  let signature := code.takeWhile (!·.isMark ':')
  let body := code.dropWhile (!·.isMark ':')
  let parameters := signature.flatMap fun
    | .group opening inner => if opening = '(' then targets .start inner else []
    | _ => []
  names signature ++ (names body).filter (!(parameters ++ targets .start body).contains ·)

section Parts

variable {gives : Bool} {place : Position} {a b inner : List Token} {c opening : Char} {x : String}

theorem isTarget_append_mark (hvalue : c ≠ '=') (htype : c ≠ ':') : isTarget (a ++ .mark c :: b) = isTarget a := by
  match a with
  | [] => simp [isTarget, isMark, hvalue, htype]
  | [t] => simp [isTarget, isMark, hvalue]
  | _ :: _ :: _ => rfl

theorem reads_append_mark (hvalue : c ≠ '=') (htype : c ≠ ':') (t : Token) :
    reads gives place (a ++ .mark c :: b) t = reads gives place a t := by
  cases t with
  | word name => rw [reads, reads, isTarget_append_mark hvalue htype]
  | _ => rfl

theorem readsAll_append_mark (hvalue : c ≠ '=') (htype : c ≠ ':') : readsAll gives place (a ++ .mark c :: b) =
    readsAll gives place a ++ readsAll gives (next (.mark c)) b := by
  induction a generalizing place with
  | nil => rfl
  | cons t a ih =>
    rw [List.cons_append, readsAll, readsAll, ih, reads_append_mark hvalue htype, List.append_assoc]

theorem mem_reads_group (h : x ∈ reads gives place b (.group opening inner)) :
    x ∈ readsAll (opening = '(') .start inner := by
  rw [reads] at h
  exact List.mem_of_mem_filter h

theorem mem_reads_word {name : String} (h : x ∈ reads gives place b (.word name)) : x = name ∧ isName name = true := by
  rw [reads] at h
  split at h
  · rename_i hname
    simp only [Bool.and_eq_true] at hname
    exact ⟨List.mem_singleton.mp h, hname.1.1⟩
  · cases h

mutual

theorem isName_of_mem_reads : ∀ (t : Token) {gives : Bool} {place : Position} {rest : List Token} {x : String},
    x ∈ reads gives place rest t → isName x = true
  | .word _, _, _, _, _, h => (mem_reads_word h).1 ▸ (mem_reads_word h).2
  | .group _ inner, _, _, _, _, h => isName_of_mem_readsAll inner (mem_reads_group h)

theorem isName_of_mem_readsAll : ∀ (code : List Token) {gives : Bool} {place : Position} {x : String},
    x ∈ readsAll gives place code → isName x = true
  | t :: rest, _, _, _, h => by
    rw [readsAll, List.mem_append] at h
    rcases h with h | h
    · exact isName_of_mem_reads t h
    · exact isName_of_mem_readsAll rest h

end

theorem isName_of_mem_functionNames {code : List Token} (h : x ∈ functionNames code) : isName x = true := by
  rcases List.mem_append.mp h with h | h
  · exact isName_of_mem_readsAll _ h
  · exact isName_of_mem_readsAll _ (List.mem_of_mem_filter h)

example :
    (CodeReader.tokens? "def get(id: int) -> Pet:\n    pets = load(id)\n    return [x.make(id=1) for x in pets]").map
      functionNames = some ["get", "int", "Pet", "load"] := by decide +kernel

def joined (items : List (List Token)) : List Token := [.mark ','].intercalate items

theorem exists_mem_of_joined {has : List Token → List String} (hnil : has [] = [])
    (hcomma : ∀ a b, has (a ++ .mark ',' :: b) = has a ++ has b) {items : List (List Token)}
    (h : x ∈ has (joined items)) : ∃ item ∈ items, x ∈ has item := by
  induction items with
  | nil =>
    rw [joined, List.intercalate_nil, hnil] at h
    cases h
  | cons item items ih =>
    cases items with
    | nil =>
      rw [joined, List.intercalate_singleton] at h
      exact ⟨item, List.mem_cons_self, h⟩
    | cons item' items =>
      rw [joined, List.intercalate_cons_cons, List.append_assoc, List.singleton_append, ← joined, hcomma,
        List.mem_append] at h
      rcases h with h | h
      · exact ⟨item, List.mem_cons_self, h⟩
      · obtain ⟨item, hitem, h⟩ := ih h
        exact ⟨item, List.mem_cons_of_mem _ hitem, h⟩

theorem mem_readsAll_joined {items : List (List Token)} (h : x ∈ readsAll gives .start (joined items)) :
    ∃ item ∈ items, x ∈ readsAll gives .start item :=
  exists_mem_of_joined rfl (fun _ _ => readsAll_append_mark (by decide) (by decide)) h

end Parts

end Token

end ClientForge
