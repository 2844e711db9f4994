import ClientForge.Proofs.CodeLines

namespace ClientForge

open Token

namespace OperationDef

variable {o : OperationDef} {url : List Token} {x : String} {P : String → Prop}

section Signature

def slotPieces (o : OperationDef) : List (List Token) :=
  o.positional.map Slot.tokens ++ [starTokens] ++ o.keywords.map Slot.tokens

theorem slotTokens_eq (o : OperationDef) : o.slotTokens = .mark '\n' :: o.slotPieces.flatten := by
  simp [slotTokens, slotPieces, List.flatMap_def]

theorem isWhole_of_mem_slotPieces : ∀ piece ∈ o.slotPieces, IsWhole piece := by
  intro piece hpiece
  simp only [slotPieces, List.mem_append, List.mem_map, List.mem_singleton] at hpiece
  rcases hpiece with (⟨s, -, rfl⟩ | rfl) | ⟨s, -, rfl⟩
  · exact s.isWhole_tokens
  · exact isWhole_endLine [.mark '*', .mark ',']
  · exact s.isWhole_tokens

theorem names_slotTokens (h : x ∈ names o.slotTokens) : ∃ s ∈ o.positional ++ o.keywords, x ∈ s.type.names := by
  have hnone : names starTokens = [] := by decide
  rw [slotTokens_eq] at h
  obtain ⟨piece, hpiece, h⟩ := (mem_names_flatten isWhole_of_mem_slotPieces).mp h
  simp only [slotPieces, List.mem_append, List.mem_map, List.mem_singleton] at hpiece
  rcases hpiece with (⟨s, hs, rfl⟩ | rfl) | ⟨s, hs, rfl⟩
  · exact ⟨s, List.mem_append_left _ hs, s.names_tokens h⟩
  · rw [hnone] at h
    cases h
  · exact ⟨s, List.mem_append_right _ hs, s.names_tokens h⟩

theorem mem_targets_slotTokens {s : Slot} (hs : s ∈ o.positional ++ o.keywords) :
    s.name ∈ targets .start o.slotTokens := by
  rw [slotTokens_eq]
  refine (mem_targets_flatten isWhole_of_mem_slotPieces).mpr ⟨s.tokens, ?_, s.mem_targets⟩
  rcases List.mem_append.mp hs with hs | hs <;> simp [slotPieces, List.mem_map_of_mem hs]

def headTokens (o : OperationDef) : List Token :=
  [.word "def", .word o.name, .group '(' o.slotTokens, .mark '-', .mark '>'] ++ o.response.type.tokens

theorem names_headTokens (h : x ∈ names o.headTokens) :
    x = o.name ∨ (∃ s ∈ o.positional ++ o.keywords, x ∈ s.type.names) ∨ x ∈ o.response.type.names := by
  have hhead : names o.headTokens = reads true .within (.group '(' o.slotTokens :: .mark '-' :: .mark '>'
      :: o.response.type.tokens) (.word o.name) ++ (reads true .within (.mark '-' :: .mark '>'
      :: o.response.type.tokens) (.group '(' o.slotTokens) ++ readsAll true .within o.response.type.tokens) := rfl
  rw [hhead, List.mem_append, List.mem_append] at h
  rcases h with h | h | h
  · exact .inl (mem_reads_word h).1
  · exact .inr (.inl (names_slotTokens (mem_reads_group h)))
  · exact .inr (.inr (o.response.type.mem_names_of_tokens h))

end Signature

inductive IsLocal (o : OperationDef) : String → Prop
  | slot {s : Slot} : s ∈ o.positional ++ o.keywords → IsLocal o s.name
  | url : IsLocal o "url"
  | params : o.queryParams ≠ [] → IsLocal o "params"
  | headers : IsLocal o "request_headers"
  | cookies : o.cookieParams ≠ [] → IsLocal o "request_cookies"
  | response : IsLocal o "response"

theorem isLocal_of_pathParam {p : ParamDef} (hp : p ∈ o.pathParams) : o.IsLocal p.name :=
  .slot (s := ⟨p.name, p.type, true⟩) (List.mem_append_left _ (List.mem_map_of_mem hp))

theorem isLocal_of_keywordParam {p : ParamDef} (hp : p ∈ o.keywordParams) : o.IsLocal p.name :=
  .slot (s := ⟨p.name, p.type, p.required⟩) (List.mem_append_right _ (List.mem_append_left _ (List.mem_append_left _
    (List.mem_map_of_mem hp))))

theorem isLocal_body {b : BodyDef} (hb : o.body = some b) : o.IsLocal "body" :=
  .slot (s := ⟨"body", b.type, b.required⟩) (List.mem_append_right _ (by simp [keywords, hb]))

theorem isLocal_headers (o : OperationDef) : o.IsLocal "headers" :=
  .slot (s := ⟨"headers", .optional (.dict (.named "str")), false⟩) (List.mem_append_right _ (by simp [keywords]))

def Converts (o : OperationDef) : Prop := o.queryParams ≠ [] ∨ ∃ b ∈ o.body, b.encoding ≠ .content

def Uses (o : OperationDef) (x : String) : Prop :=
  o.IsLocal x ∨ x ∈ ["dict", "str", "httpx", "sdk_config"] ∨ x = "to_jsonable_python" ∧ o.Converts

section Steps

theorem uses_settings (o : OperationDef) : o.Uses "sdk_config" := .inr (.inl (by decide))

theorem isWhole_if {p : Prop} [Decidable p] {code : List Token} (h : IsWhole code) :
    IsWhole (if p then [] else code) := by
  split
  · exact .inl rfl
  · exact h

theorem names_if {p : Prop} [Decidable p] {code : List Token} (h : x ∈ names (if p then [] else code)) :
    ¬p ∧ x ∈ names code := by
  split at h
  · cases h
  · exact ⟨‹¬p›, h⟩

theorem names_docTokens (o : OperationDef) : names o.docTokens = [] := by
  unfold docTokens
  split <;> rfl

theorem isWhole_docTokens (o : OperationDef) : IsWhole o.docTokens := isWhole_if (isWhole_endLine [.literal])

theorem names_urlTokens (hurl : ∀ x ∈ readsAll true .within url, ∃ p ∈ o.pathParams, x = p.name)
    (h : x ∈ names (endLine (urlStart ++ url))) : o.Uses x := by
  have hstart : names (urlStart ++ url) = "sdk_config" :: readsAll true .within url := rfl
  rw [names_endLine, hstart] at h
  rcases List.mem_cons.mp h with rfl | h
  · exact o.uses_settings
  · obtain ⟨p, hp, rfl⟩ := hurl x h
    exact .inl (isLocal_of_pathParam hp)

theorem names_queryTable (h : x ∈ readsAll false .start (.mark '\n' :: o.queryParams.flatMap queryEntry)) :
    ∃ p ∈ o.queryParams, x = p.name := by
  have hentry (p : ParamDef) : readsAll false .start (queryEntry p) =
      reads false .within [.mark ',', .mark '\n'] (.word p.name) ++ [] := rfl
  have hwhole : ∀ piece ∈ o.queryParams.map queryEntry, IsWhole piece :=
    List.forall_mem_map.mpr fun p _ => isWhole_endLine _
  rw [List.flatMap_def] at h
  obtain ⟨piece, hpiece, h⟩ := (mem_readsAll_flatten hwhole).mp h
  obtain ⟨p, hp, rfl⟩ := List.mem_map.mp hpiece
  rw [hentry, List.append_nil] at h
  exact ⟨p, hp, (mem_reads_word h).1⟩

theorem names_queryTokens (h : x ∈ names o.queryTokens) : o.Uses x := by
  obtain ⟨hsome, h⟩ := names_if h
  have hcall (inner : List Token) : names [.word "params", .mark '=', .word "to_jsonable_python",
      .group '(' [.mark '\n', .group '\x7b' inner, .mark '\n']] =
        "to_jsonable_python" :: reads true .within [] (.group '(' [.mark '\n', .group '\x7b' inner, .mark '\n'])
          ++ [] := rfl
  have htable (inner : List Token) : readsAll true .start [.mark '\n', .group '\x7b' inner, .mark '\n'] =
      reads true .start [.mark '\n'] (.group '\x7b' inner) ++ [] := rfl
  rw [names_endLine, hcall, List.append_nil] at h
  rcases List.mem_cons.mp h with rfl | h
  · exact .inr (.inr ⟨rfl, .inl (by simpa using hsome)⟩)
  · have h : x ∈ readsAll true .start _ := mem_reads_group h
    rw [htable, List.append_nil] at h
    obtain ⟨p, hp, rfl⟩ := names_queryTable (mem_reads_group h)
    exact .inl (isLocal_of_keywordParam (List.mem_append_left _ (List.mem_append_left _ hp)))

theorem names_ifTokens {name : String} (h : x ∈ names (ifTokens name)) : x = name := by
  have hif : names (ifTokens name) =
      reads true .within [.word "is", .word "not", .word "None", .mark ':'] (.word name) ++ [] := rfl
  rw [hif, List.append_nil] at h
  exact (mem_reads_word h).1

theorem names_setTokens {table : String} {p : ParamDef} (h : x ∈ names (setTokens table p)) :
    x = table ∨ x = "str" ∨ x = p.name := by
  have hset : names [.word table, .group '[' [.literal], .mark '=', .word "str", .group '(' [.word p.name]] =
      reads true .start [.group '[' [.literal], .mark '=', .word "str", .group '(' [.word p.name]] (.word table)
        ++ "str" :: (reads true .within [] (.group '(' [.word p.name]) ++ []) := rfl
  rw [setTokens, names_append (isWhole_endLine _), names_endLine, names_endLine, hset, List.append_nil] at h
  rcases List.mem_append.mp h with h | h
  · exact .inr (.inr (names_ifTokens h))
  · rcases List.mem_append.mp h with h | h
    · exact .inl (mem_reads_word h).1
    · rcases List.mem_cons.mp h with rfl | h
      · exact .inr (.inl rfl)
      · have h := mem_reads_group h
        rw [readsAll, readsAll, List.append_nil] at h
        exact .inr (.inr (mem_reads_word h).1)

theorem isWhole_setAll (table : String) (params : List ParamDef) :
    ∀ piece ∈ params.map (setTokens table), IsWhole piece :=
  List.forall_mem_map.mpr fun _ _ => (isWhole_endLine _).append (isWhole_endLine _)

theorem names_setAll {table : String} (htable : o.IsLocal table) {params : List ParamDef}
    (hparams : ∀ p ∈ params, p ∈ o.keywordParams) (h : x ∈ names (params.flatMap (setTokens table))) : o.Uses x := by
  rw [List.flatMap_def] at h
  obtain ⟨piece, hpiece, h⟩ := (mem_names_flatten (isWhole_setAll table params)).mp h
  obtain ⟨p, hp, rfl⟩ := List.mem_map.mp hpiece
  rcases names_setTokens h with rfl | rfl | rfl
  · exact .inl htable
  · exact .inr (.inl (by decide))
  · exact .inl (isLocal_of_keywordParam (hparams p hp))

theorem isWhole_headerTokens (o : OperationDef) : IsWhole o.headerTokens := by
  rw [headerTokens, List.flatMap_def]
  exact (isWhole_endLine _).append (isWhole_flatten (isWhole_setAll _ _))

theorem names_headerTokens (h : x ∈ names o.headerTokens) : o.Uses x := by
  have hstart : names headersStart = ["sdk_config", "headers"] := by decide
  rw [headerTokens, names_append (isWhole_endLine _), names_endLine, hstart] at h
  rcases List.mem_append.mp h with h | h
  · rcases List.mem_pair.mp h with rfl | rfl
    · exact o.uses_settings
    · exact .inl o.isLocal_headers
  · exact names_setAll .headers (fun p hp => List.mem_append_left _ (List.mem_append_right _ hp)) h

theorem isWhole_cookieTokens (o : OperationDef) : IsWhole o.cookieTokens := by
  rw [cookieTokens, List.flatMap_def]
  exact isWhole_if ((isWhole_endLine _).append (isWhole_flatten (isWhole_setAll _ _)))

theorem names_cookieTokens (h : x ∈ names o.cookieTokens) : o.Uses x := by
  obtain ⟨hsome, h⟩ := names_if h
  have hstart : names cookiesStart = ["dict", "str", "str"] := by decide
  rw [names_append (isWhole_endLine _), names_endLine, hstart] at h
  rcases List.mem_append.mp h with h | h
  · exact .inr (.inl (List.mem_of_mem_take (i := 2) (by simpa using h)))
  · exact names_setAll (.cookies (by simpa using hsome)) (fun p hp => List.mem_append_right _ hp) h

theorem isWhole_contentTypeTokens (o : OperationDef) : IsWhole o.contentTypeTokens := by
  unfold contentTypeTokens
  split
  · exact (isWhole_endLine _).append (isWhole_endLine _)
  · exact .inl rfl

theorem names_contentTypeTokens (h : x ∈ names o.contentTypeTokens) : o.Uses x := by
  unfold contentTypeTokens at h
  split at h
  · rename_i type required contentType hbody
    have hcall (value : Token) : names [.word "request_headers", .mark '.', .word "setdefault",
        .group '(' [.literal, .mark ',', value]] =
          "request_headers" :: (reads true .within [] (.group '(' [.literal, .mark ',', value]) ++ []) := rfl
    rw [names_append (isWhole_endLine _), names_endLine, names_endLine, hcall, List.append_nil] at h
    rcases List.mem_append.mp h with h | h
    · exact .inl (names_ifTokens h ▸ isLocal_body hbody)
    · rcases List.mem_cons.mp h with rfl | h
      · exact .inl .headers
      · split at h <;> cases h
  · cases h

theorem names_bodyArgumentTokens {encoding : Encoding} (h : x ∈ names (bodyArgumentTokens encoding)) :
    x = "body" ∨ x = "to_jsonable_python" ∧ encoding ≠ .content := by
  have hconverted : names (bodyArgumentTokens .json) = ["to_jsonable_python", "body"] ∧
      names (bodyArgumentTokens .form) = ["to_jsonable_python", "body"] := by decide
  have hcontent : names (bodyArgumentTokens .content) = ["body"] := by decide
  cases encoding with
  | json => exact (List.mem_pair.mp (hconverted.1 ▸ h)).symm.imp_right (⟨·, by decide⟩)
  | form => exact (List.mem_pair.mp (hconverted.2 ▸ h)).symm.imp_right (⟨·, by decide⟩)
  | content => exact .inl (List.mem_singleton.mp (hcontent ▸ h))

def argumentPieces (o : OperationDef) : List (List Token) :=
  [methodArgument, if o.queryParams.isEmpty then [] else endLine queryArgument, endLine headersArgument,
    if o.cookieParams.isEmpty then [] else endLine cookiesArgument]
    ++ o.body.toList.map (fun b => endLine (bodyArgumentTokens b.encoding)) ++ [endLine timeoutArgument]

theorem argumentTokens_eq (o : OperationDef) : o.argumentTokens = o.argumentPieces.flatten := by
  simp [argumentTokens, argumentPieces, List.flatMap_def]

theorem isWhole_of_mem_argumentPieces : ∀ piece ∈ o.argumentPieces, IsWhole piece := by
  simp only [argumentPieces, List.forall_mem_append, List.forall_mem_cons, List.forall_mem_map]
  refine ⟨⟨⟨?_, isWhole_if (isWhole_endLine _), isWhole_endLine _, isWhole_if (isWhole_endLine _), by simp⟩,
    fun b _ => isWhole_endLine _⟩, isWhole_endLine _, by simp⟩
  exact isWhole_endLine [.literal, .mark ',', .mark '\n', .word "url", .mark ',']

theorem names_argumentTokens (h : x ∈ names o.argumentTokens) : o.Uses x := by
  have hmethod : names methodArgument = ["url"] := by decide
  have hquery : names queryArgument = ["params"] := by decide
  have hheaders : names headersArgument = ["request_headers"] := by decide
  have hcookies : names cookiesArgument = ["request_cookies"] := by decide
  have htimeout : names timeoutArgument = ["sdk_config"] := by decide
  rw [argumentTokens_eq] at h
  obtain ⟨piece, hpiece, h⟩ := (mem_names_flatten isWhole_of_mem_argumentPieces).mp h
  simp only [argumentPieces, List.mem_append, List.mem_cons, List.not_mem_nil, or_false, List.mem_map] at hpiece
  rcases hpiece with ((rfl | rfl | rfl | rfl) | ⟨b, hb, rfl⟩) | rfl
  · rw [hmethod, List.mem_singleton] at h
    exact .inl (h ▸ .url)
  · obtain ⟨hsome, h⟩ := names_if h
    rw [names_endLine, hquery, List.mem_singleton] at h
    exact .inl (h ▸ .params (by simpa using hsome))
  · rw [names_endLine, hheaders, List.mem_singleton] at h
    exact .inl (h ▸ .headers)
  · obtain ⟨hsome, h⟩ := names_if h
    rw [names_endLine, hcookies, List.mem_singleton] at h
    exact .inl (h ▸ .cookies (by simpa using hsome))
  · rw [names_endLine] at h
    rw [Option.mem_toList] at hb
    rcases names_bodyArgumentTokens h with rfl | ⟨rfl, hencoding⟩
    · exact .inl (isLocal_body hb)
    · exact .inr (.inr ⟨rfl, .inr ⟨b, hb, hencoding⟩⟩)
  · rw [names_endLine, htimeout, List.mem_singleton] at h
    exact h ▸ o.uses_settings

theorem isWhole_callTokens (o : OperationDef) : IsWhole o.callTokens :=
  isWhole_endLine [.word "response", .mark '=', .word "httpx", .mark '.', .word "request",
    .group '(' (.mark '\n' :: o.argumentTokens)]

theorem names_callTokens (h : x ∈ names o.callTokens) : o.Uses x := by
  have hcall : names o.callTokens =
      "httpx" :: (reads true .within [.mark '\n'] (.group '(' (.mark '\n' :: o.argumentTokens)) ++ []) := rfl
  rw [hcall, List.append_nil] at h
  rcases List.mem_cons.mp h with rfl | h
  · exact .inr (.inl (by decide))
  · exact names_argumentTokens (mem_reads_group h)

def stepPieces (o : OperationDef) (url : List Token) : List (List Token) :=
  [o.docTokens, endLine (urlStart ++ url), o.queryTokens, o.headerTokens, o.cookieTokens, o.contentTypeTokens,
    o.callTokens]

theorem stepTokens_eq (o : OperationDef) (url : List Token) : o.stepTokens url = (o.stepPieces url).flatten := by
  simp [stepTokens, stepPieces]

theorem isWhole_of_mem_stepPieces : ∀ piece ∈ o.stepPieces url, IsWhole piece := by
  simp only [stepPieces, List.forall_mem_cons]
  exact ⟨o.isWhole_docTokens, isWhole_endLine _, isWhole_if (isWhole_endLine _), o.isWhole_headerTokens,
    o.isWhole_cookieTokens, o.isWhole_contentTypeTokens, o.isWhole_callTokens, by simp⟩

theorem isWhole_stepTokens (o : OperationDef) (url : List Token) : IsWhole (o.stepTokens url) :=
  o.stepTokens_eq url ▸ isWhole_flatten isWhole_of_mem_stepPieces

theorem names_stepTokens (hurl : ∀ x ∈ readsAll true .within url, ∃ p ∈ o.pathParams, x = p.name)
    (h : x ∈ names (o.stepTokens url)) : o.Uses x := by
  rw [stepTokens_eq] at h
  obtain ⟨piece, hpiece, h⟩ := (mem_names_flatten isWhole_of_mem_stepPieces).mp h
  simp only [stepPieces, List.mem_cons, List.not_mem_nil, or_false] at hpiece
  rcases hpiece with rfl | rfl | rfl | rfl | rfl | rfl | rfl
  · rw [names_docTokens] at h
    cases h
  · exact names_urlTokens hurl h
  · exact names_queryTokens h
  · exact names_headerTokens h
  · exact names_cookieTokens h
  · exact names_contentTypeTokens h
  · exact names_callTokens h

theorem mem_targets_of_isLocal (url : List Token) (h : o.IsLocal x) :
    x ∈ targets .start o.slotTokens ∨ x ∈ targets .start (o.stepTokens url) := by
  have hstep (piece : List Token) (hpiece : piece ∈ o.stepPieces url) (hx : x ∈ targets .start piece) :
      x ∈ targets .start (o.stepTokens url) := by
    rw [stepTokens_eq]
    exact (mem_targets_flatten isWhole_of_mem_stepPieces).mpr ⟨piece, hpiece, hx⟩
  cases h with
  | slot hs => exact .inl (mem_targets_slotTokens hs)
  | url => exact .inr (hstep (endLine (urlStart ++ url)) (by simp [stepPieces]) List.mem_cons_self)
  | params h =>
    refine .inr (hstep o.queryTokens (by simp [stepPieces]) ?_)
    rw [queryTokens, if_neg (by simpa using h)]
    exact List.mem_cons_self
  | headers => exact .inr (hstep o.headerTokens (by simp [stepPieces]) List.mem_cons_self)
  | cookies h =>
    refine .inr (hstep o.cookieTokens (by simp [stepPieces]) ?_)
    rw [cookieTokens, if_neg (by simpa using h)]
    exact List.mem_cons_self
  | response => exact .inr (hstep o.callTokens (by simp [stepPieces]) List.mem_cons_self)

end Steps

end OperationDef

end ClientForge
