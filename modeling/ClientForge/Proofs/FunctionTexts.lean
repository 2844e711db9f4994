import ClientForge.Proofs.ClassTexts
import ClientForge.Proofs.Docstrings

namespace ClientForge

open CodeReader Token

def block (lines : List String) : String := String.join (lines.map (· ++ "\n"))

theorem block_append (a b : List String) : block (a ++ b) = block a ++ block b := by
  rw [block, List.map_append, String.join_append, block, block]

theorem block_singleton (line : String) : block [line] = line ++ "\n" := by
  rw [block, List.map_singleton, String.join_cons, String.join_nil, String.append_empty]

theorem joinLines_concat (lines : List String) (last : String) : joinLines (lines ++ [last]) = block lines ++ last := by
  induction lines with
  | nil => simp [joinLines, block]
  | cons line lines ih =>
    rw [joinLines] at ih
    rw [joinLines, List.cons_append, String.intercalate_cons_of_ne_nil (by simp), ih, block, block, List.map_cons,
      String.join_cons, String.append_assoc, String.append_assoc, String.append_assoc]

theorem joinLines_append (lines : List String) {rest : List String} (h : rest ≠ []) :
    joinLines (lines ++ rest) = block lines ++ joinLines rest := by
  obtain ⟨rest, last, rfl⟩ := (List.eq_nil_or_concat' rest).resolve_left h
  rw [← List.append_assoc, joinLines_concat, joinLines_concat, block_append, String.append_assoc]

theorem closed_block {α : Type} {l : List α} {line : α → String} {tokens : α → List Token}
    (h : ∀ x ∈ l, Closed (line x ++ "\n") (tokens x)) : Closed (block (l.map line)) (l.flatMap tokens) := by
  rw [block, List.map_map]
  exact closed_join h

theorem closed_blocks {α : Type} {l : List α} {lines : α → List String} {tokens : α → List Token}
    (h : ∀ x ∈ l, Closed (block (lines x)) (tokens x)) : Closed (block (l.flatMap lines)) (l.flatMap tokens) := by
  induction l with
  | nil => exact closed_empty
  | cons x l ih =>
    obtain ⟨hx, hl⟩ := List.forall_mem_cons.mp h
    rw [List.flatMap_cons, List.flatMap_cons, block_append]
    exact hx.append (ih hl)

theorem closed_feed : Closed "\n" [.mark '\n'] := fun _ _ => rfl

def endLine (code : List Token) : List Token := code ++ [.mark '\n']

theorem closed_line {line : String} {tokens : List Token} (h : Reads line tokens) :
    Closed (block [line]) (endLine tokens) := by
  rw [block_singleton]
  exact h.append_closed closed_feed rfl

theorem read_block (s : CodeReader) (line : String) (lines : List String) :
    s.read (block (line :: lines)).toList = ((s.read line.toList).step '\n').read (block lines).toList := by
  rw [← List.singleton_append, block_append, block_singleton, String.toList_append, String.toList_append, read_append,
    read_append]
  rfl

theorem read_block_nil (s : CodeReader) : s.read (block []).toList = s := rfl

structure Slot where
  name : String
  type : TypeExpr
  required : Bool

namespace Slot

def line (s : Slot) : String := "    " ++ s.name ++ ": " ++ s.type.text ++ OperationDef.orMissing s.required ++ ","

def missingTokens (required : Bool) : List Token := if required then [] else [.mark '=', .word "None"]

def endTokens : List Token := [.mark ',', .mark '\n']

def tokens (s : Slot) : List Token :=
  .word s.name :: .mark ':' :: (s.type.tokens ++ (missingTokens s.required ++ endTokens))

theorem closed_line {s : Slot} (hname : Naming.IsWord s.name) (htype : s.type.IsReadable) :
    Closed (s.line ++ "\n") s.tokens := by
  have hspaces : Closed "    " [] := fun _ _ => by rfl
  have htyped := hspaces.append_reads (reads_typed hname htype)
  have hend : Closed (OperationDef.orMissing s.required ++ (",\n"))
      (missingTokens s.required ++ endTokens) := by
    cases s.required
    · exact fun _ _ => by rfl
    · exact fun _ _ => by rfl
  have hapart : Apart (OperationDef.orMissing s.required ++ ",\n") := by cases s.required <;> rfl
  have hcomma : ",\n" = "," ++ "\n" := rfl
  simpa only [line, tokens, hcomma, String.append_assoc, List.nil_append, List.cons_append] using
    htyped.append_closed hend hapart

end Slot

namespace OperationDef

variable (o : OperationDef)

def positional : List Slot := o.pathParams.map fun p => ⟨p.name, p.type, true⟩

def keywords : List Slot :=
  o.keywordParams.map (fun p => ⟨p.name, p.type, p.required⟩)
    ++ (o.body.map fun b => ⟨"body", b.type, b.required⟩).toList
    ++ [⟨"headers", .optional (.dict (.named "str")), false⟩]

theorem signature_eq : o.signature = ["def " ++ o.name ++ "("] ++ (o.positional.map Slot.line ++ ["    *,"]
    ++ o.keywords.map Slot.line) ++ [") -> " ++ o.response.type.text ++ ":"] := by
  have hpositional : o.positional.map Slot.line = o.pathParams.map fun p => s!"    {p.name}: {p.type.text}," := by
    rw [positional, List.map_map]
    exact List.map_congr_left fun p _ => congrArg (· ++ ",") String.append_empty
  have hbody : ((o.body.map fun b => (⟨"body", b.type, b.required⟩ : Slot)).toList).map Slot.line =
      (o.body.map fun b => s!"    body: {b.type.text}{orMissing b.required},").toList := by
    cases o.body <;> rfl
  have hheaders : [(⟨"headers", .optional (.dict (.named "str")), false⟩ : Slot)].map Slot.line =
      ["    headers: Optional[dict[str, str]] = None,"] := by decide +kernel
  rw [keywords, List.map_append, List.map_append, hpositional, hbody, hheaders, List.map_map]
  simp only [signature, List.append_assoc, List.cons_append, List.nil_append]
  rfl

def starTokens : List Token := [.mark '*', .mark ',', .mark '\n']

def colonTokens : List Token := [.mark ':', .mark '\n']

def slotTokens : List Token :=
  .mark '\n' :: (o.positional.flatMap Slot.tokens ++ starTokens ++ o.keywords.flatMap Slot.tokens)

def signatureTokens : List Token :=
  .word "def" :: .word o.name :: .group '(' o.slotTokens :: .mark '-' :: .mark '>'
    :: (o.response.type.tokens ++ colonTokens)

structure IsDeclared : Prop where
  name : Naming.IsWord o.name
  slots : ∀ s ∈ o.positional ++ o.keywords, Naming.IsWord s.name ∧ s.type.IsReadable
  result : o.response.type.IsReadable

variable {o}

theorem closed_slots {slots : List Slot} (h : ∀ s ∈ slots, Naming.IsWord s.name ∧ s.type.IsReadable) :
    Closed (block (slots.map Slot.line)) (slots.flatMap Slot.tokens) :=
  closed_block fun s hs => Slot.closed_line (h s hs).1 (h s hs).2

theorem closed_signature (h : o.IsDeclared) : Closed (block o.signature) o.signatureTokens := by
  have hbreak : Closed "    *,\n" starTokens := fun _ _ => by rfl
  have hslots := ((closed_slots fun s hs => h.slots s (List.mem_append_left _ hs)).append hbreak).append
    (closed_slots fun s hs => h.slots s (List.mem_append_right _ hs))
  have hdef : Closed "def " [.word "def"] := fun _ _ => by rfl
  have hopen (b : List OpenBracket) (d : List Token) : (between b d).read ("def " ++ o.name ++ "(\n").toList =
      between (⟨'(', .word o.name :: .word "def" :: d, none⟩ :: b) [.mark '\n'] := by
    have hparen : Apart "(\n" := rfl
    rw [(hdef.append_reads (reads_word h.name)).read_append hparen]
    rfl
  have hbrackets := hslots.reads.enclosed ("def " ++ o.name ++ "(\n") ") -> " [.mark '\n'] _
    (fun i => [.word "def", .word o.name, .group '(' i, .mark '-', .mark '>']) hopen (fun _ _ _ => by rfl) rfl
  have hcolon : Closed ":\n" colonTokens := fun _ _ => by rfl
  have hall := (hbrackets.append_reads (o.response.type.reads_text h.result)).append_closed hcolon rfl
  have hparen : "(\n" = "(" ++ "\n" := rfl
  have hcomma : "    *,\n" = "    *," ++ "\n" := rfl
  have hend : ":\n" = ":" ++ "\n" := rfl
  rw [hparen, hcomma, hend] at hall
  rw [signature_eq]
  simp only [block_append, block_singleton]
  simpa only [signatureTokens, slotTokens, String.append_assoc, List.cons_append, List.nil_append, List.append_assoc]
    using hall

def docTokens (o : OperationDef) : List Token := if o.paragraphs.isEmpty then [] else [.literal, .mark '\n']

theorem closed_docLines : Closed (block o.docLines) o.docTokens := by
  unfold docLines docTokens
  split
  · exact closed_empty
  · have hspaces : Closed "    " [] := fun _ _ => by rfl
    have hfeed : Closed "\n" [.mark '\n'] := fun _ _ => by rfl
    rw [block_singleton]
    exact (hspaces.append (closed_docstring _)).append hfeed

section Body

variable {url : List Token}

def urlStart : List Token :=
  [.word "url", .mark '=', .word "sdk_config", .mark '.', .word "base_url", .mark '+']

def urlLine (o : OperationDef) : String := s!"    url = sdk_config.base_url + {o.url}"

theorem closed_urlLine (h : Reads o.url url) : Closed (block [o.urlLine]) (endLine (urlStart ++ url)) := by
  have hstart : Closed "    url = sdk_config.base_url + " urlStart := fun _ _ => by rfl
  exact closed_line (hstart.append_reads h)

def queryEntry (p : ParamDef) : List Token := endLine [.literal, .mark ':', .word p.name, .mark ',']

def queryTokens (o : OperationDef) : List Token :=
  if o.queryParams.isEmpty then []
  else endLine [.word "params", .mark '=', .word "to_jsonable_python",
    .group '(' [.mark '\n', .group '\x7b' (.mark '\n' :: o.queryParams.flatMap queryEntry), .mark '\n']]

theorem closed_queryLine (p : ParamDef) (h : Naming.IsWord p.name) :
    Closed (s!"            {p.wireName.quoted}: {p.name}," ++ "\n") (queryEntry p) := by
  have hspaces : Closed "            " [] := fun _ _ => by rfl
  have hcolon : Closed ": " [.mark ':'] := fun _ _ => by rfl
  have hcomma : Closed "," [.mark ','] := fun _ _ => by rfl
  have hquoted := (hspaces.append_reads (reads_quoted p.wireName)).append_closed hcolon rfl
  exact ((hquoted.append_reads (reads_word h)).append_closed hcomma rfl).append closed_feed

theorem closed_queryLines (h : ∀ p ∈ o.queryParams, Naming.IsWord p.name) :
    Closed (block o.queryLines) o.queryTokens := by
  unfold queryLines queryTokens
  split
  · exact closed_empty
  · have hentries := closed_block fun p hp => closed_queryLine p (h p hp)
    have hall := hentries.reads.enclosed (block ["    params = to_jsonable_python(", "        \x7b"])
      (block ["        \x7d", "    )"]) [.mark '\n'] (fun b d => ⟨'\x7b', [.mark '\n'], none⟩ ::
        ⟨'(', .word "to_jsonable_python" :: .mark '=' :: .word "params" :: d, none⟩ :: b)
      (fun i => [.word "params", .mark '=', .word "to_jsonable_python",
        .group '(' [.mark '\n', .group '\x7b' i, .mark '\n'], .mark '\n'])
      (fun _ _ => by rw [read_block, read_block, read_block_nil]; rfl)
      (fun _ _ _ => by rw [read_block, read_block, read_block_nil]; rfl) rfl
    rwa [block_append, block_append]

def ifTokens (name : String) : List Token :=
  [.word "if", .word name, .word "is", .word "not", .word "None", .mark ':']

def setTokens (table : String) (p : ParamDef) : List Token :=
  endLine (ifTokens p.name)
    ++ endLine [.word table, .group '[' [.literal], .mark '=', .word "str", .group '(' [.word p.name]]

theorem closed_setLines {table : String} (htable : Naming.IsWord table) (p : ParamDef) (h : Naming.IsWord p.name) :
    Closed (block (setLines table p)) (setTokens table p) := by
  have hif : Closed "    if " [.word "if"] := fun _ _ => by rfl
  have hthen : Closed " is not None:" [.word "is", .word "not", .word "None", .mark ':'] := fun _ _ => by rfl
  have hspaces : Closed "        " [] := fun _ _ => by rfl
  have hopen (b : List OpenBracket) (d : List Token) : (between b d).read ("        " ++ table ++ "[").toList =
      between (⟨'[', .word table :: d, none⟩ :: b) [] := by
    have hbracket : Apart "[" := rfl
    rw [(hspaces.append_reads (reads_word htable)).read_append hbracket]
    rfl
  have hkey := (reads_quoted p.wireName).enclosed _ "]" [] _ (fun i => [.word table, .group '[' i]) hopen
    (fun _ _ _ => by rfl) rfl
  have hvalue := (reads_word h).call " = str(" [.mark '=', .word "str"] [] fun _ _ => by rfl
  have hbefore := closed_line ((hif.append_reads (reads_word h)).append_closed hthen rfl).reads
  have hall := hbefore.append (closed_line (hkey.append hvalue).reads)
  have hclose : "] = str(" = "]" ++ " = str(" := rfl
  have htext : block (setLines table p) = block ["    if " ++ p.name ++ " is not None:"] ++
      block ["        " ++ table ++ "[" ++ p.wireName.quoted ++ "] = str(" ++ p.name ++ ")"] := by
    rw [← block_append]
    rfl
  rw [htext, hclose]
  simpa only [setTokens, ifTokens, String.append_assoc, List.cons_append, List.nil_append] using hall

def headersStart : List Token :=
  [.word "request_headers", .mark '=', .group '\x7b' [.mark '*', .mark '*', .word "sdk_config", .mark '.',
    .word "headers", .mark ',', .mark '*', .mark '*', .group '(' [.word "headers", .word "or", .group '\x7b' []]]]

def headerTokens (o : OperationDef) : List Token :=
  endLine headersStart ++ o.headerParams.flatMap (setTokens "request_headers")

theorem closed_headerLines (h : ∀ p ∈ o.headerParams, Naming.IsWord p.name) :
    Closed (block o.headerLines) o.headerTokens := by
  have hstart : Closed "    request_headers = \x7b**sdk_config.headers, **(headers or \x7b\x7d)\x7d" headersStart :=
    fun _ _ => by rfl
  have hword : Naming.IsWord "request_headers" := by decide
  rw [headerLines, ← List.singleton_append, block_append]
  exact (closed_line hstart.reads).append (closed_blocks fun p hp => closed_setLines hword p (h p hp))

def cookiesStart : List Token :=
  [.word "request_cookies", .mark ':', .word "dict", .group '[' [.word "str", .mark ',', .word "str"], .mark '=',
    .group '\x7b' []]

def cookieTokens (o : OperationDef) : List Token :=
  if o.cookieParams.isEmpty then []
  else endLine cookiesStart ++ o.cookieParams.flatMap (setTokens "request_cookies")

theorem closed_cookieLines (h : ∀ p ∈ o.cookieParams, Naming.IsWord p.name) :
    Closed (block o.cookieLines) o.cookieTokens := by
  unfold cookieLines cookieTokens
  split
  · exact closed_empty
  · have hstart : Closed "    request_cookies: dict[str, str] = \x7b\x7d" cookiesStart := fun _ _ => by rfl
    have hword : Naming.IsWord "request_cookies" := by decide
    rw [← List.singleton_append, block_append]
    exact (closed_line hstart.reads).append (closed_blocks fun p hp => closed_setLines hword p (h p hp))

def contentTypeTokens (o : OperationDef) : List Token :=
  match o.body with
  | some ⟨_, _, .content, contentType⟩ =>
    endLine (ifTokens "body") ++ endLine [.word "request_headers", .mark '.', .word "setdefault",
      .group '(' [.literal, .mark ',', if contentType.isSome then .literal else .word "None"]]
  | _ => []

theorem closed_contentTypeLines (o : OperationDef) : Closed (block o.contentTypeLines) o.contentTypeTokens := by
  unfold contentTypeLines contentTypeTokens
  match o.body with
  | none => exact closed_empty
  | some ⟨_, _, .json, _⟩ => exact closed_empty
  | some ⟨_, _, .form, _⟩ => exact closed_empty
  | some ⟨type, required, .content, contentType⟩ =>
    have hvalue : Reads (quotedOrNone contentType) [if contentType.isSome then .literal else .word "None"] := by
      cases contentType with
      | none => exact reads_word (by decide)
      | some contentType => exact reads_quoted contentType
    have hif : Closed "    if body is not None:" (ifTokens "body") := fun _ _ => by rfl
    have hcall := hvalue.call "        request_headers.setdefault(\"Content-Type\", "
      [.word "request_headers", .mark '.', .word "setdefault"] [.literal, .mark ','] fun _ _ => by rfl
    change Closed (block (["    if body is not None:"]
      ++ ["        request_headers.setdefault(\"Content-Type\", " ++ quotedOrNone contentType ++ ")"])) _
    rw [block_append]
    exact (closed_line hif.reads).append (closed_line hcall.reads)

def bodyArgumentTokens : Encoding → List Token
  | .json => [.word "json", .mark '=', .word "to_jsonable_python", .group '(' [.word "body", .mark ',',
      .word "by_alias", .mark '=', .word "True", .mark ',', .word "exclude_none", .mark '=', .word "True"], .mark ',']
  | .form => [.word "data", .mark '=', .word "to_jsonable_python", .group '(' [.word "body", .mark ',',
      .word "by_alias", .mark '=', .word "True", .mark ',', .word "exclude_none", .mark '=', .word "True"], .mark ',']
  | .content => [.word "content", .mark '=', .word "body", .mark ',']

theorem closed_bodyArgument (encoding : Encoding) : Closed (bodyArgument encoding) (bodyArgumentTokens encoding) := by
  cases encoding with
  | json => exact fun _ _ => by rfl
  | form => exact fun _ _ => by rfl
  | content => exact fun _ _ => by rfl

def methodArgument : List Token := [.literal, .mark ',', .mark '\n', .word "url", .mark ',', .mark '\n']

def queryArgument : List Token :=
  [.word "params", .mark '=', .group '\x7b' [.word "key", .mark ':', .word "value", .word "for", .word "key", .mark ',',
    .word "value", .word "in", .word "params", .mark '.', .word "items", .group '(' [], .word "if", .word "value",
    .word "is", .word "not", .word "None"], .mark ',']

def headersArgument : List Token := [.word "headers", .mark '=', .word "request_headers", .mark ',']

def cookiesArgument : List Token := [.word "cookies", .mark '=', .word "request_cookies", .mark ',']

def timeoutArgument : List Token :=
  [.word "timeout", .mark '=', .word "sdk_config", .mark '.', .word "timeout", .mark ',']

def argumentTokens (o : OperationDef) : List Token :=
  methodArgument ++ (if o.queryParams.isEmpty then [] else endLine queryArgument)
    ++ endLine headersArgument ++ (if o.cookieParams.isEmpty then [] else endLine cookiesArgument)
    ++ o.body.toList.flatMap (fun b => endLine (bodyArgumentTokens b.encoding))
    ++ endLine timeoutArgument

def callTokens (o : OperationDef) : List Token :=
  [.word "response", .mark '=', .word "httpx", .mark '.', .word "request",
    .group '(' (.mark '\n' :: o.argumentTokens), .mark '\n']

def argumentLines (o : OperationDef) : List String :=
  [s!"        {o.httpMethod.quoted},", "        url,"]
    ++ (if o.queryParams.isEmpty then []
      else ["        params=\x7bkey: value for key, value in params.items() if value is not None\x7d,"])
    ++ ["        headers=request_headers,"]
    ++ (if o.cookieParams.isEmpty then [] else ["        cookies=request_cookies,"])
    ++ (o.body.map fun b => bodyArgument b.encoding).toList
    ++ ["        timeout=sdk_config.timeout,"]

def callLines (o : OperationDef) : List String :=
  ["    response = httpx.request("] ++ o.argumentLines ++ ["    )"]

theorem requestLines_eq (o : OperationDef) : o.requestLines = o.callLines ++ ["    response.raise_for_status()"] := by
  simp [requestLines, callLines, argumentLines]

theorem closed_queryArgument :
    Closed "        params=\x7bkey: value for key, value in params.items() if value is not None\x7d,"
      queryArgument := by
  have hinner : Reads "params.items() if value is not None" [.word "params", .mark '.', .word "items", .group '(' [],
    .word "if", .word "value", .word "is", .word "not", .word "None"] := fun _ _ => ⟨_, rfl, by rfl, by rfl⟩
  exact hinner.enclosed "        params=\x7bkey: value for key, value in " "\x7d," [.word "key", .mark ':',
      .word "value", .word "for", .word "key", .mark ',', .word "value", .word "in"]
    (fun b d => ⟨'\x7b', .mark '=' :: .word "params" :: d, none⟩ :: b)
    (fun i => [.word "params", .mark '=', .group '\x7b' i, .mark ','])
    (fun _ _ => by rfl) (fun _ _ _ => by rfl) rfl

theorem closed_argumentLines (o : OperationDef) : Closed (block o.argumentLines) o.argumentTokens := by
  have hspaces : Closed "        " [] := fun _ _ => by rfl
  have hcomma : Closed "," [.mark ','] := fun _ _ => by rfl
  have hmethod := (hspaces.append_reads (reads_quoted o.httpMethod)).append_closed hcomma rfl
  have hurl : Closed "        url," [.word "url", .mark ','] := fun _ _ => by rfl
  have hfirst : Closed (block ([s!"        {o.httpMethod.quoted},"] ++ ["        url,"]))
      [.literal, .mark ',', .mark '\n', .word "url", .mark ',', .mark '\n'] := by
    rw [block_append]
    exact (closed_line hmethod.reads).append (closed_line hurl.reads)
  have hheaders : Closed "        headers=request_headers," headersArgument := fun _ _ => by rfl
  have htimeout : Closed "        timeout=sdk_config.timeout," timeoutArgument := fun _ _ => by rfl
  have hbody : Closed (block (o.body.map fun b => bodyArgument b.encoding).toList)
      (o.body.toList.flatMap fun b => endLine (bodyArgumentTokens b.encoding)) := by
    rw [Option.toList_map]
    exact closed_block fun b _ => (closed_bodyArgument b.encoding).append closed_feed
  unfold argumentLines argumentTokens
  simp only [block_append]
  refine .append (.append (.append (.append (.append ?_ ?_) (closed_line hheaders.reads)) ?_) hbody)
    (closed_line htimeout.reads)
  · exact hfirst
  · split
    · exact closed_empty
    · exact closed_line closed_queryArgument.reads
  · split
    · exact closed_empty
    · have hcookies : Closed "        cookies=request_cookies," cookiesArgument := fun _ _ => by rfl
      exact closed_line hcookies.reads

theorem closed_call (o : OperationDef) : Closed (block o.callLines) o.callTokens := by
  have hall := o.closed_argumentLines.reads.enclosed (block ["    response = httpx.request("]) (block ["    )"])
    [.mark '\n'] (fun b d => ⟨'(', .word "request" :: .mark '.' :: .word "httpx" :: .mark '=' :: .word "response" :: d,
      none⟩ :: b) (fun i => [.word "response", .mark '=', .word "httpx", .mark '.', .word "request", .group '(' i,
      .mark '\n']) (fun _ _ => by rw [read_block, read_block_nil]; rfl)
    (fun _ _ _ => by rw [read_block, read_block_nil]; rfl) rfl
  rwa [callLines, block_append, block_append]

def raiseTokens : List Token := [.word "response", .mark '.', .word "raise_for_status", .group '(' []]

theorem closed_raise : Closed "    response.raise_for_status()" raiseTokens := fun _ _ => by rfl

def resultTokens (r : ResponseDef) : List Token :=
  let read : Token := .group '(' [.word "response", .mark '.', .word "json", .group '(' []]
  match r.kind with
  | .model => [.word "return", .word (r.model.getD "None"), .mark '.', .word "model_validate", read]
  | .list => [.word "return", .group '[' [.word (r.model.getD "None"), .mark '.', .word "model_validate",
      .group '(' [.word "item"], .word "for", .word "item", .word "in", .word "response", .mark '.', .word "json",
      .group '(' []]]
  | .adapter => [.word "return", .word (r.adapter.getD "None"), .mark '.', .word "validate_python", read]
  | .none => []

theorem closed_resultLines {r : ResponseDef} (hmodel : Naming.IsWord (r.model.getD "None"))
    (hadapter : Naming.IsWord (r.adapter.getD "None")) {line : String} (h : resultLines r = [line]) :
    Closed line (resultTokens r) := by
  have hreturn : Closed "    return " [.word "return"] := fun _ _ => by rfl
  have hread : Closed ".model_validate(response.json())" [.mark '.', .word "model_validate",
      .group '(' [.word "response", .mark '.', .word "json", .group '(' []]] := fun _ _ => by rfl
  have hcheck : Closed ".validate_python(response.json())" [.mark '.', .word "validate_python",
      .group '(' [.word "response", .mark '.', .word "json", .group '(' []]] := fun _ _ => by rfl
  cases hkind : r.kind with
  | model =>
    simp only [resultLines, resultTokens, hkind] at h ⊢
    obtain rfl := List.singleton_inj.mp h
    exact (hreturn.append_reads (reads_word hmodel)).append_closed hread rfl
  | list =>
    simp only [resultLines, resultTokens, hkind] at h ⊢
    obtain rfl := List.singleton_inj.mp h
    have hitems : Closed ".model_validate(item) for item in response.json()" [.mark '.', .word "model_validate",
      .group '(' [.word "item"], .word "for", .word "item", .word "in", .word "response", .mark '.', .word "json",
      .group '(' []] := fun _ _ => by rfl
    have hline := ((reads_word hmodel).append_closed hitems rfl).reads.enclosed "    return [" "]" []
      (fun b d => ⟨'[', .word "return" :: d, none⟩ :: b) (fun i => [.word "return", .group '[' i]) (fun _ _ => by rfl)
      (fun _ _ _ => by rfl) rfl
    have hclose : ".model_validate(item) for item in response.json()]" =
      ".model_validate(item) for item in response.json()" ++ "]" := rfl
    change Closed ("    return [" ++ r.model.getD "None" ++ ".model_validate(item) for item in response.json()]") _
    rw [hclose]
    simpa only [String.append_assoc, List.nil_append, List.cons_append] using hline
  | adapter =>
    simp only [resultLines, resultTokens, hkind] at h ⊢
    obtain rfl := List.singleton_inj.mp h
    exact (hreturn.append_reads (reads_word hadapter)).append_closed hcheck rfl
  | none => simp [resultLines, hkind] at h

theorem resultLines_cases (r : ResponseDef) :
    r.kind = .none ∧ resultLines r = [] ∨ r.kind ≠ .none ∧ ∃ line, resultLines r = [line] := by
  unfold resultLines
  cases r.kind <;> simp

def stepLines (o : OperationDef) : List String :=
  o.docLines ++ [o.urlLine] ++ o.queryLines ++ o.headerLines ++ o.cookieLines ++ o.contentTypeLines ++ o.callLines

def stepTokens (o : OperationDef) (url : List Token) : List Token :=
  o.docTokens ++ endLine (urlStart ++ url) ++ o.queryTokens ++ o.headerTokens ++ o.cookieTokens ++ o.contentTypeTokens
    ++ o.callTokens

theorem closed_steps (hurl : Reads o.url url) (h : ∀ p ∈ o.keywordParams, Naming.IsWord p.name) :
    Closed (block o.stepLines) (o.stepTokens url) := by
  have hquery := closed_queryLines fun p hp => h p (List.mem_append_left _ (List.mem_append_left _ hp))
  have hheader := closed_headerLines fun p hp => h p (List.mem_append_left _ (List.mem_append_right _ hp))
  have hcookie := closed_cookieLines fun p hp => h p (List.mem_append_right _ hp)
  unfold stepLines
  simp only [block_append]
  exact ((((((closed_docLines (o := o)).append (closed_urlLine hurl)).append hquery).append hheader).append
    hcookie).append o.closed_contentTypeLines).append o.closed_call

def lastTokens (o : OperationDef) : List Token :=
  if o.response.kind = .none then raiseTokens else endLine raiseTokens ++ resultTokens o.response

def bodyLines (o : OperationDef) : List String :=
  o.stepLines ++ ["    response.raise_for_status()"] ++ resultLines o.response

def bodyTokens (o : OperationDef) (url : List Token) : List Token := o.stepTokens url ++ o.lastTokens

def tokens (o : OperationDef) (url : List Token) : List Token := o.signatureTokens ++ o.bodyTokens url

structure IsReadable (o : OperationDef) : Prop extends o.IsDeclared where
  model : Naming.IsWord (o.response.model.getD "None")
  adapter : Naming.IsWord (o.response.adapter.getD "None")

theorem IsDeclared.isWord_of_mem (h : o.IsDeclared) : ∀ p ∈ o.keywordParams, Naming.IsWord p.name := fun p hp =>
  (h.slots ⟨p.name, p.type, p.required⟩ (List.mem_append_right _ (List.mem_append_left _ (List.mem_append_left _
    (List.mem_map_of_mem hp))))).1

theorem reads_body (hparams : ∀ p ∈ o.keywordParams, Naming.IsWord p.name)
    (hmodel : Naming.IsWord (o.response.model.getD "None")) (hadapter : Naming.IsWord (o.response.adapter.getD "None"))
    (hurl : Reads o.url url) : Reads (joinLines o.bodyLines) (o.bodyTokens url) := by
  have hlines := closed_steps hurl hparams
  rw [bodyLines, bodyTokens, lastTokens]
  rcases resultLines_cases o.response with ⟨hkind, hlast⟩ | ⟨hkind, line, hlast⟩
  · rw [hlast, List.append_nil, joinLines_concat, if_pos hkind]
    exact hlines.append_reads closed_raise.reads
  · have hraise := hlines.append (closed_line closed_raise.reads)
    rw [hlast, joinLines_concat, if_neg hkind, ← List.append_assoc, block_append]
    exact hraise.append_reads (closed_resultLines hmodel hadapter hlast).reads

theorem text_eq (o : OperationDef) : o.text = block o.signature ++ joinLines o.bodyLines := by
  have hbody : o.bodyLines ≠ [] := by simp [bodyLines]
  rw [← joinLines_append _ hbody]
  unfold text bodyLines stepLines urlLine
  rw [requestLines_eq]
  simp only [List.append_assoc]

theorem reads_text (h : o.IsReadable) (hurl : Reads o.url url) : Reads o.text (o.tokens url) := by
  rw [text_eq, tokens]
  exact (closed_signature h.toIsDeclared).append_reads (reads_body h.isWord_of_mem h.model h.adapter hurl)

end Body

end OperationDef

end ClientForge
