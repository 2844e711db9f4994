namespace ClientForge.Text

def pieces (sep : Char) : List Char → List (List Char)
  | [] => [[]]
  | c :: rest =>
    if c = sep then [] :: pieces sep rest
    else match pieces sep rest with
      | [] => [[c]]
      | piece :: more => (c :: piece) :: more

theorem pieces_ne_nil (sep : Char) (s : List Char) : pieces sep s ≠ [] := by
  cases s with
  | nil => simp [pieces]
  | cons c rest => simp only [pieces]; split <;> (try split) <;> simp

theorem intercalate_pieces (sep : Char) (s : List Char) : [sep].intercalate (pieces sep s) = s := by
  induction s with
  | nil => rfl
  | cons c rest ih =>
    simp only [pieces]
    have hn := pieces_ne_nil sep rest
    cases hp : pieces sep rest with
    | nil => exact absurd hp hn
    | cons piece more =>
      rw [hp] at ih
      split <;> rename_i h
      · subst h
        simpa [List.intercalate, List.intersperse] using ih
      · rw [← ih]
        cases more <;> simp [List.intercalate, List.intersperse]

end ClientForge.Text

namespace String

def pieces (s : String) (sep : Char) : List String := (ClientForge.Text.pieces sep s.toList).map .ofList

def replaceEach (s : String) (f : Char → List Char) : String := .ofList (s.toList.flatMap f)

end String

namespace ClientForge.Text

def isLineBreak (c : Char) : Bool :=
  ['\n', '\r', '\x0b', '\x0c', '\x1c', '\x1d', '\x1e', '\u0085', '\u2028', '\u2029'].contains c

def isBlank (c : Char) : Bool :=
  isLineBreak c || ['\x1f', '\t', ' ', '\u00a0', '\u1680', '\u202f', '\u205f', '\u3000'].contains c
    || ('\u2000' ≤ c && c ≤ '\u200a')

def stripStart (s : List Char) : List Char := s.dropWhile isBlank

def stripEnd (s : List Char) : List Char := (s.reverse.dropWhile isBlank).reverse

def strip (s : List Char) : List Char := stripEnd (stripStart s)

def lines : List Char → List (List Char)
  | [] => []
  | '\r' :: '\n' :: rest => [] :: lines rest
  | c :: rest =>
    if isLineBreak c then [] :: lines rest
    else match lines rest with
      | [] => [[c]]
      | line :: more => (c :: line) :: more

def unifyBreaks : List Char → List Char
  | [] => []
  | '\r' :: '\n' :: rest => '\n' :: unifyBreaks rest
  | c :: rest => (if c = '\r' then '\n' else c) :: unifyBreaks rest

def dropFinalFeeds (s : List Char) : List Char := (s.reverse.dropWhile (· = '\n')).reverse

def occursIn (part : List Char) : List Char → Bool
  | [] => part.isEmpty
  | c :: rest => part.isPrefixOf (c :: rest) || occursIn part rest

end ClientForge.Text

namespace String

def stripped (s : String) : String := .ofList (ClientForge.Text.strip s.toList)

def isVacant (s : String) : Bool := s.toList.all ClientForge.Text.isBlank

def mentions (s part : String) : Bool := ClientForge.Text.occursIn part.toList s.toList

end String
