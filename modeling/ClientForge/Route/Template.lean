import ClientForge.Text.Quoted

namespace ClientForge.Route

inductive TemplatePiece
  | plain (text : List Char)
  | placeholder (name : List Char)
deriving DecidableEq, Repr

def prepend (text : List Char) (pieces : List TemplatePiece) : List TemplatePiece :=
  match text, pieces with
  | [], pieces => pieces
  | text, .plain more :: rest => .plain (text ++ more) :: rest
  | text, pieces => .plain text :: pieces

/-- Reads on from where `held?` says what stands since the last brace that may open a placeholder. A placeholder
has a name, and no brace in it. -/
def templateFrom (held? : Option (List Char)) : List Char → List TemplatePiece
  | [] => match held? with
    | none => []
    | some held => prepend ('\x7b' :: held) []
  | c :: rest =>
    match held? with
    | none => if c = '\x7b' then templateFrom (some []) rest else prepend [c] (templateFrom none rest)
    | some held =>
      if c = '\x7b' then prepend ('\x7b' :: held) (templateFrom (some []) rest)
      else if c = '\x7d' then
        if held.isEmpty then prepend ['\x7b', '\x7d'] (templateFrom none rest)
        else .placeholder held :: templateFrom none rest
      else templateFrom (some (held ++ [c])) rest

def template (path : String) : List TemplatePiece := templateFrom none path.toList

def placeholders (path : String) : List String :=
  (template path).filterMap fun
    | .placeholder name => some (.ofList name)
    | .plain _ => none

def doubleBraces (s : List Char) : List Char := s.flatMap fun c => if c = '\x7b' || c = '\x7d' then [c, c] else [c]

def formatPiece (argument : String → String) : TemplatePiece → List Char
  | .plain text => doubleBraces text
  | .placeholder name => '\x7b' :: ((argument (.ofList name)).toList ++ ['\x7d'])

def urlExpression (path : String) (argument : String → String) : String :=
  if (placeholders path).isEmpty then path.quoted
  else "f" ++ (String.ofList ((template path).flatMap (formatPiece argument))).quoted

end ClientForge.Route
