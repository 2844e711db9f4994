namespace ClientForge.Naming

def keywords : List String := [
  "False", "None", "True", "and", "as", "assert", "async", "await", "break", "class", "continue", "def", "del",
  "elif", "else", "except", "finally", "for", "from", "global", "if", "import", "in", "is", "lambda", "nonlocal",
  "not", "or", "pass", "raise", "return", "try", "while", "with", "yield"]

def isWordChar (c : Char) : Bool := c.isAlphanum || c = '_'

def guardDigit : List Char → List Char
  | c :: rest => if c.isDigit then '_' :: c :: rest else c :: rest
  | [] => ['_']

def guardKeyword (s : List Char) : List Char := if String.ofList s ∈ keywords then s ++ ['_'] else s

def identifierChars (s : List Char) : List Char :=
  guardKeyword (guardDigit (s.map fun c => if isWordChar c then c else '_'))

theorem guardDigit_ne_nil (s : List Char) : guardDigit s ≠ [] := by
  cases s with
  | nil => simp [guardDigit]
  | cons c rest => simp only [guardDigit]; split <;> simp

theorem isWordChar_of_mem_guardDigit {s : List Char} (h : ∀ c ∈ s, isWordChar c = true) :
    ∀ c ∈ guardDigit s, isWordChar c = true := by
  cases s with
  | nil => simp [guardDigit, isWordChar]
  | cons d rest =>
    intro c hc
    simp only [guardDigit] at hc
    split at hc
    · rcases List.mem_cons.1 hc with rfl | hc
      · rfl
      · exact h c hc
    · exact h c hc

theorem identifierChars_ne_nil (s : List Char) : identifierChars s ≠ [] := by
  unfold identifierChars guardKeyword
  split
  · simp
  · exact guardDigit_ne_nil _

theorem isWordChar_of_mem_identifierChars (s : List Char) : ∀ c ∈ identifierChars s, isWordChar c = true := by
  have mapped : ∀ c ∈ s.map (fun c => if isWordChar c then c else '_'), isWordChar c = true := by
    intro c hc
    obtain ⟨d, -, rfl⟩ := List.mem_map.1 hc
    split
    · assumption
    · rfl
  intro c hc
  unfold identifierChars guardKeyword at hc
  split at hc
  · rcases List.mem_append.1 hc with hc | hc
    · exact isWordChar_of_mem_guardDigit mapped c hc
    · rw [List.mem_singleton.1 hc]
      rfl
  · exact isWordChar_of_mem_guardDigit mapped c hc

def identifier (name : String) : String := .ofList (identifierChars name.toList)

def numbered (name separator : String) (k : Nat) : String := name ++ separator ++ toString k

/-- The name itself or, if it is taken, the name with the least free number from 2 on. Among one number more than
there are taken names, one is free. -/
def unique (name : String) (taken : List String) (separator : String) : String :=
  if name ∈ taken then
    (((List.range (taken.length + 1)).map fun k => numbered name separator (k + 2)).find? (· ∉ taken)).getD name
  else name

/-- Appends `word` until the name is not taken. Every step makes the name longer, so as many steps as there are
taken names are enough. -/
def extendUntilFree (word : String) (taken : List String) : Nat → String → String
  | 0, name => name
  | steps + 1, name => if name ∈ taken then extendUntilFree word taken steps (name ++ word) else name

def free (word : String) (taken : List String) (name : String) : String :=
  extendUntilFree word taken taken.length name

structure Claim where
  name : String
  owner : String
deriving DecidableEq, Repr

def clashAfter (held : List Claim) : List Claim → Option (Claim × Claim)
  | [] => none
  | c :: rest =>
    match held.find? (·.name == c.name) with
    | some first => some (first, c)
    | none => clashAfter (held ++ [c]) rest

def clash (claims : List Claim) : Option (Claim × Claim) := clashAfter [] claims

end ClientForge.Naming
