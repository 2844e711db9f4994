import ClientForge.Text.Numeral

namespace ClientForge.Literal

def isGap (c : Char) : Bool := c = ' ' || c = '\t' || c = '\n' || c = '\x0c'

def skipGaps (s : List Char) : List Char := s.dropWhile isGap

def names : List String := ["True", "False", "None"]

def textMarks : List String := ["", "r", "u", "b", "br", "rb"]

def isNumber (s : List Char) : Bool :=
  let isRun (s : List Char) : Bool := !s.isEmpty && s.all Char.isDigit
  let mantissa := s.takeWhile fun c => c ≠ 'e' && c ≠ 'E'
  let exponent := (s.drop mantissa.length).drop 1
  let exponent := if exponent.head? = some '-' || exponent.head? = some '+' then exponent.drop 1 else exponent
  let whole := mantissa.takeWhile (· ≠ '.')
  let fraction := (mantissa.drop whole.length).drop 1
  if mantissa.length = s.length && whole.length = s.length then
    (Text.digits? 10 s).isSome && s.all (·.toNat < 0x80) && (s.head? ≠ some '0' || s.all fun c => c = '0' || c = '_')
  else
    (isRun whole || (whole.isEmpty && !fraction.isEmpty)) && (fraction.isEmpty || isRun fraction)
      && (mantissa.length = s.length || isRun exponent)

def afterText (quote : Char) : List Char → Option (List Char)
  | '\\' :: _ :: rest => afterText quote rest
  | c :: rest => if c = quote then some rest else if c = '\n' then none else afterText quote rest
  | [] => none

def afterTexts : Nat → List Char → Option (List Char)
  | 0, _ => none
  | fuel + 1, s =>
    let mark := (s.takeWhile Char.isAlpha).map Char.toLower
    match s.drop mark.length with
    | quote :: rest =>
      if textMarks.contains (String.ofList mark) && (quote = '"' || quote = '\'') then
        (afterText quote rest).map fun rest => (afterTexts fuel (skipGaps rest)).getD rest
      else none
    | [] => none

def afterWord (s : List Char) : Option (List Char) :=
  let inWord (previous c : Char) : Bool :=
    c.isAlphanum || c = '_' || c = '.' || ((c = '-' || c = '+') && (previous = 'e' || previous = 'E'))
  let word := ((' ' :: s).zip s).takeWhile (fun (previous, c) => inWord previous c) |>.map (·.2)
  if names.contains (String.ofList word) || isNumber word then some (s.drop word.length) else none

mutual

def afterValue : Nat → List Char → Option (List Char)
  | 0, _ => none
  | fuel + 1, s =>
    match skipGaps s with
    | '(' :: rest => afterGroup fuel ')' rest
    | '\x7b' :: rest => afterGroup fuel '\x7d' rest
    | '-' :: rest => afterWord (skipGaps rest)
    | '+' :: rest => afterWord (skipGaps rest)
    | s => (afterTexts (s.length + 1) s).or (afterWord s)

def afterGroup : Nat → Char → List Char → Option (List Char)
  | 0, _, _ => none
  | fuel + 1, closing, s =>
    match skipGaps s with
    | c :: rest =>
      if c = closing then some rest
      else match (afterValue fuel (c :: rest)).map skipGaps with
        | some (d :: rest) =>
          if d = closing then some rest
          else if d = ',' || (d = ':' && closing = '\x7d') then afterGroup fuel closing rest
          else none
        | _ => none
    | [] => none

end

def isLiteral (s : List Char) : Bool :=
  (afterGroup (2 * s.length + 3) ')' (s ++ [')'])).any fun rest => rest.isEmpty && !(skipGaps s).isEmpty

end ClientForge.Literal
