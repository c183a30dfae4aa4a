import ExchangeClient.Proofs.Rest.Signed

/-!
# What is signed can be read in one way only

The time, the method, the target and the body that are signed stand one behind the other, with
nothing between them.  Of arbitrary texts the parts could not be told again, and a signature for
one request might do for another.  Of the requests of a client they can (`HasParts`): the time is
made of digits, and no method begins with one; neither of the methods is the beginning of the
other; a target contains no brace, whatever the texts in its query, and a body begins with one if
there is a body at all.
-/

namespace ExchangeClient

/-! ## Characters and bytes -/

namespace Text

/-- No two texts are written as the same bytes. -/
theorem Utf8.encode_injective : Function.Injective encode := by
  intro cs ds h
  have hbytes : cs.utf8Encode = ds.utf8Encode := congrArg List.toByteArray h
  have hread := congrArg ByteArray.utf8Decode? hbytes
  rw [List.utf8Decode?_utf8Encode, List.utf8Decode?_utf8Encode] at hread
  simpa using hread

variable {p : Char → Bool} {cs ds cs' ds' : List Char}

/-- Characters of a kind end where characters of another kind begin. -/
theorem takeWhile_append_of_head? (hcs : ∀ c ∈ cs, p c = true) (hds : ∀ d ∈ ds.head?, p d = false) :
    (cs ++ ds).takeWhile p = cs := by
  rw [List.takeWhile_append_of_pos hcs]
  cases ds with
  | nil => exact List.append_nil cs
  | cons d ds => rw [List.takeWhile_cons_of_neg (by simp [hds d rfl]), List.append_nil]

/-- So they can be cut off again. -/
theorem append_inj_of_head? (hcs : ∀ c ∈ cs, p c = true) (hds : ∀ d ∈ ds.head?, p d = false)
    (hcs' : ∀ c ∈ cs', p c = true) (hds' : ∀ d ∈ ds'.head?, p d = false)
    (h : cs ++ ds = cs' ++ ds') : cs = cs' ∧ ds = ds' := by
  have hcut : cs = cs' := by
    rw [← takeWhile_append_of_head? hcs hds, h, takeWhile_append_of_head? hcs' hds']
  subst hcut
  exact ⟨rfl, List.append_cancel_left h⟩

end Text

/-! ## The parts of a request -/

namespace HttpMethod

/-- No method begins with a digit. -/
theorem head?_name_append (m : HttpMethod) (cs : List Char) :
    ∀ c ∈ (m.name.toList ++ cs).head?, c.isDigit = false := by
  intro c hc
  cases m with
  | get =>
    obtain rfl : 'G' = c := Option.some.inj hc
    rfl
  | post =>
    obtain rfl : 'P' = c := Option.some.inj hc
    rfl

/-- A method can be told by its first letter. -/
theorem name_append_inj {m m' : HttpMethod} {cs cs' : List Char}
    (h : m.name.toList ++ cs = m'.name.toList ++ cs') : m = m' ∧ cs = cs' := by
  have hletters : 'G' ≠ 'P' := by decide
  cases m with
  | get =>
    cases m' with
    | get => exact ⟨rfl, List.append_cancel_left h⟩
    | post => exact absurd (List.cons.inj h).1 hletters
  | post =>
    cases m' with
    | get => exact absurd (List.cons.inj h).1 hletters.symm
    | post => exact ⟨rfl, List.append_cancel_left h⟩

end HttpMethod

/-- A body begins with a brace if there is one: it is the text of an object. -/
theorem Call.body_eq_object (call : Call) :
    call.body = none ∨ ∃ members, call.body = some (Json.object members).toText := by
  cases call with
  | sendChildOrder | cancelChildOrder | cancelAllChildOrders | sendParentOrder
  | cancelParentOrder => exact .inr ⟨_, rfl⟩
  | _ => exact .inl rfl

namespace HttpRequest

/-- The characters of the body. -/
def bodyChars (r : HttpRequest) : List Char := r.body.elim [] String.toList

/-- What is signed of a request that is made at a time. -/
def signedBytes (r : HttpRequest) (timestamp : String) : List UInt8 :=
  ApiKey.signedBytes timestamp.toList r.method.name.toList r.target r.bodyBytes

theorem signedBytes_eq (r : HttpRequest) (timestamp : String) :
    r.signedBytes timestamp =
      Text.Utf8.encode
        (timestamp.toList ++ (r.method.name.toList ++ (r.target ++ r.bodyChars))) := by
  have hbody : r.bodyBytes = Text.Utf8.encode r.bodyChars := by
    unfold bodyBytes bodyChars
    cases r.body <;> rfl
  rw [signedBytes, ApiKey.signedBytes, hbody]
  simp only [Text.Utf8.encode_append, List.append_assoc]

/-- A request whose target and body can be told apart when one stands behind the other. -/
structure HasParts (r : HttpRequest) : Prop where
  target : ∀ c ∈ r.target, isTargetChar c = true
  body : ∀ text, r.body = some text → text.toList.head? = some '{'

variable {r r' : HttpRequest}

theorem HasParts.head?_bodyChars (h : r.HasParts) :
    ∀ c ∈ r.bodyChars.head?, isTargetChar c = false := by
  intro c hc
  unfold bodyChars at hc
  cases hbody : r.body with
  | none =>
    rw [hbody] at hc
    cases hc
  | some text =>
    rw [hbody] at hc
    obtain rfl : '{' = c := Option.some.inj ((h.body text hbody).symm.trans hc)
    decide

/-- A request with a body is not one without: a body is not empty. -/
theorem HasParts.body_eq (h : r.HasParts) (h' : r'.HasParts) (hchars : r.bodyChars = r'.bodyChars) :
    r.body = r'.body := by
  have hbrace {text : String} (hhead : text.toList.head? = some '{') : text.toList ≠ [] := by
    intro hnil
    rw [hnil] at hhead
    cases hhead
  unfold bodyChars at hchars
  match hbody : r.body, hbody' : r'.body with
  | none, none => rfl
  | none, some text =>
    rw [hbody, hbody'] at hchars
    exact absurd hchars.symm (hbrace (h'.body text hbody'))
  | some text, none =>
    rw [hbody, hbody'] at hchars
    exact absurd hchars (hbrace (h.body text hbody))
  | some text, some text' =>
    rw [hbody, hbody'] at hchars
    exact congrArg some (String.toList_injective hchars)

/-- The parts of what is signed can be cut off one after the other. -/
theorem HasParts.eq_of_signedBytes {timestamp timestamp' : String} (h : r.HasParts)
    (h' : r'.HasParts) (htime : ∀ c ∈ timestamp.toList, c.isDigit = true)
    (htime' : ∀ c ∈ timestamp'.toList, c.isDigit = true)
    (hbytes : r.signedBytes timestamp = r'.signedBytes timestamp') :
    timestamp = timestamp' ∧ r.method = r'.method ∧ r.target = r'.target ∧ r.body = r'.body := by
  rw [signedBytes_eq, signedBytes_eq] at hbytes
  obtain ⟨htimes, hbehind⟩ := Text.append_inj_of_head? htime (r.method.head?_name_append _) htime'
    (r'.method.head?_name_append _) (Text.Utf8.encode_injective hbytes)
  obtain ⟨hmethod, hbehind⟩ := HttpMethod.name_append_inj hbehind
  obtain ⟨htarget, hbody⟩ :=
    Text.append_inj_of_head? h.target h.head?_bodyChars h'.target h'.head?_bodyChars hbehind
  exact ⟨String.toList_injective htimes, hmethod, htarget, h.body_eq h' hbody⟩

end HttpRequest

namespace Client

variable {c c' : Client} {timestamp timestamp' : String} {call call' : Call} {r r' : HttpRequest}

/-- A request says what its call says, signed or not. -/
theorem prepare_eq_ok (h : c.prepare timestamp call = .ok r) :
    r.method = call.method ∧ r.target = call.target c.baseUrl ∧ r.body = call.body := by
  by_cases hprivate : call.isPrivate = true
  · obtain ⟨k, u, -, hu, hsign⟩ := prepare_private hprivate h
    obtain ⟨hmethod, htarget, hbody, -⟩ := unsigned_eq_ok hu
    obtain rfl := eq_of_sign hsign
    exact ⟨hmethod, htarget, hbody⟩
  · obtain ⟨u, hu, hdone⟩ := Json.ok_of_bind h
    obtain ⟨hmethod, htarget, hbody, -⟩ := unsigned_eq_ok hu
    rw [if_neg hprivate] at hdone
    obtain rfl := Except.ok.inj hdone
    exact ⟨hmethod, htarget, hbody⟩

/-- The requests of a client have their parts. -/
theorem hasParts_of_prepare (h : c.prepare timestamp call = .ok r) : r.HasParts := by
  obtain ⟨-, htarget, hbody⟩ := prepare_eq_ok h
  refine ⟨fun c hc => Call.isTargetChar_of_mem_target (htarget ▸ hc), fun text htext => ?_⟩
  rw [hbody] at htext
  rcases call.body_eq_object with hnone | ⟨members, hsome⟩
  · rw [hnone] at htext
    cases htext
  · obtain rfl := Option.some.inj (hsome.symm.trans htext)
    rw [Json.toText, String.toList_ofList, Json.chars]
    rfl

/-- **No request is signed with the text of another.**  If what is signed of two requests is the
same, at times written in digits, then the requests are made at the same time and have the same
method, target and body, whatever the two calls and their parameters are, and wherever the two
clients send them. -/
theorem eq_of_signedBytes_eq (h : c.prepare timestamp call = .ok r)
    (h' : c'.prepare timestamp' call' = .ok r')
    (htime : ∀ c ∈ timestamp.toList, c.isDigit = true)
    (htime' : ∀ c ∈ timestamp'.toList, c.isDigit = true)
    (hbytes : r.signedBytes timestamp = r'.signedBytes timestamp') :
    timestamp = timestamp' ∧ r.method = r'.method ∧ r.target = r'.target ∧ r.body = r'.body :=
  (hasParts_of_prepare h).eq_of_signedBytes (hasParts_of_prepare h') htime htime' hbytes

/-- The client with a key, for an exchange on the same machine. -/
def signingNearby : Client :=
  { signing with
    baseUrl :=
      { signing.baseUrl with authority := some ⟨[], [], .name "localhost".toList, none⟩ } }

/-- The same cancellation at two exchanges: the requests differ, for they go to different places,
but not in what is signed. -/
theorem signedBytes_nearby :
    ∃ r r', signing.prepare "17" (.cancelAllChildOrders "BTC_JPY") = .ok r ∧
      signingNearby.prepare "17" (.cancelAllChildOrders "BTC_JPY") = .ok r' ∧
      r.signedBytes "17" = r'.signedBytes "17" ∧
      r.method = r'.method ∧ r.target = r'.target ∧ r.body = r'.body := by
  have hvalues : Header.isValue "key" = true ∧ Header.isValue "17" = true := by decide +kernel
  obtain ⟨r, hr⟩ : ∃ r, signing.prepare "17" (.cancelAllChildOrders "BTC_JPY") = .ok r :=
    (exists_prepare_iff rfl).mpr ⟨rfl, ⟨"key", "secret"⟩, rfl, hvalues⟩
  obtain ⟨r', hr'⟩ : ∃ r, signingNearby.prepare "17" (.cancelAllChildOrders "BTC_JPY") = .ok r :=
    (exists_prepare_iff rfl).mpr ⟨rfl, ⟨"key", "secret"⟩, rfl, hvalues⟩
  obtain ⟨hmethod, htarget, hbody⟩ := prepare_eq_ok hr
  obtain ⟨hmethod', htarget', hbody'⟩ := prepare_eq_ok hr'
  have hbytes : r.signedBytes "17" = r'.signedBytes "17" := by
    rw [HttpRequest.signedBytes_eq, HttpRequest.signedBytes_eq, HttpRequest.bodyChars,
      HttpRequest.bodyChars, hmethod, htarget, hbody, hmethod', htarget', hbody']
    rfl
  have hdigits : ∀ c ∈ "17".toList, c.isDigit = true :=
    List.all_eq_true.mp (by decide +kernel)
  exact ⟨r, r', hr, hr', hbytes, (eq_of_signedBytes_eq hr hr' hdigits hdigits hbytes).2⟩

end Client
end ExchangeClient
