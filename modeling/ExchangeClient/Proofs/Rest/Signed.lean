import ExchangeClient.Proofs.Json.Words
import ExchangeClient.Proofs.Url.Form
import ExchangeClient.Proofs.Url.Plain
import ExchangeClient.Simulation.Exchange
import Mathlib.Data.List.Basic

/-!
# What is signed is what is sent

A server that holds the key of an account reads the method and the target off the first line
of a request, the time off a header and the body off the end, hashes the four under the
secret and compares.  `HttpRequest.IsSignedBy` is this check, made on the request as it
arrives.  The request that a private call becomes passes it (`Client.signed_as_prepared`).

It need not be the only request that goes out.  A reply may send it on to another place, and
the request that is made there has the key, the time and the signature of the first
(`HttpRequest.valuesOf_of_sentOn?`) with a target that was never signed.  So what is received
on account of a call starts with a request that passes, and goes on, if it goes on, with at
most ten that repeat its three headers (`Exchange.signed_as_received`).

The target stands in the first line between two spaces.  It can be cut out again because it
contains none: the path of a call is plain, and a query is made of letters, digits and a few
signs (`isTargetChar_of_mem_encode`), whatever the texts in it.
-/

namespace ExchangeClient

/-! ## The characters of a target -/

/-- A character of ASCII that is neither a blank nor a control. -/
def isVisible (c : Char) : Bool := 0x21 ≤ c.toNat && c.toNat ≤ 0x7E

theorem isVisible_of_isAlphanum {c : Char} (h : c.isAlphanum = true) : isVisible c = true :=
  Url.of_isAlphanum (P := fun c => isVisible c = true) (by decide +kernel) h

/-- The signs of paths, queries and escapes. -/
def targetSigns : List Char := ['%', '&', '*', '+', '-', '.', '/', ':', '=', '?', '_']

/-- A character that may stand in a target. -/
def isTargetChar (c : Char) : Bool := c.isAlphanum || targetSigns.contains c

theorem isTargetChar_of_isAlphanum {c : Char} (h : c.isAlphanum = true) :
    isTargetChar c = true := by
  rw [isTargetChar, h, Bool.true_or]

theorem isVisible_of_isTargetChar {c : Char} (h : isTargetChar c = true) :
    isVisible c = true := by
  have hsigns : targetSigns.all isVisible = true := by decide +kernel
  rw [isTargetChar, Bool.or_eq_true] at h
  rcases h with h | h
  · exact isVisible_of_isAlphanum h
  · exact List.all_eq_true.mp hsigns c (List.contains_iff_mem.mp h)

namespace Form

theorem isTargetChar_of_isTextChar {c : Char} (h : isTextChar c = true) :
    isTargetChar c = true := by
  have hsigns : textSigns.all isTargetChar = true := by decide +kernel
  rw [isTextChar, Bool.or_eq_true] at h
  rcases h with h | h
  · exact isTargetChar_of_isAlphanum h
  · exact List.all_eq_true.mp hsigns c (List.contains_iff_mem.mp h)

theorem isTargetChar_of_mem_encodePair {pair : String × String} {c : Char}
    (h : c ∈ encodePair pair) : isTargetChar c = true := by
  rw [encodePair, List.mem_append, List.mem_cons] at h
  rcases h with h | rfl | h
  · exact isTargetChar_of_isTextChar (isTextChar_of_mem_encodeText h)
  · rfl
  · exact isTargetChar_of_isTextChar (isTextChar_of_mem_encodeText h)

/-- Every character of a query may stand in a target, whatever its pairs are. -/
theorem isTargetChar_of_mem_encode {pairs : List (String × String)} {c : Char}
    (h : c ∈ encode pairs) : isTargetChar c = true := by
  fun_induction encode pairs with
  | case1 => cases h
  | case2 pair => exact isTargetChar_of_mem_encodePair h
  | case3 pair pairs hne ih =>
    rcases List.mem_append.mp h with h | h
    · exact isTargetChar_of_mem_encodePair h
    · rcases List.mem_cons.mp h with rfl | h
      · rfl
      · exact ih h

/-- Only no pairs make an empty query. -/
theorem encode_eq_nil_iff (pairs : List (String × String)) : encode pairs = [] ↔ pairs = [] := by
  fun_induction encode pairs <;> simp [encodePair]

end Form

/-! ## What may stand in a header -/

namespace Text

theorem isVisible_hexDigit {n : Nat} (h : n < 16) : isVisible (hexDigit n) = true := by
  have hall : ∀ m : Fin 16, isVisible (hexDigit m.val) = true := by decide
  exact hall ⟨n, h⟩

theorem isVisible_of_mem_hexOfBytes {bytes : List UInt8} {c : Char} (h : c ∈ hexOfBytes bytes) :
    isVisible c = true := by
  induction bytes with
  | nil => cases h
  | cons b rest ih =>
    have hlt : b.toNat < 256 := b.toNat_lt
    simp only [hexOfBytes, List.mem_cons] at h
    rcases h with rfl | rfl | h
    · exact isVisible_hexDigit (by omega)
    · exact isVisible_hexDigit (by omega)
    · exact ih h

end Text

/-- A signature can stand in a header. -/
theorem ApiKey.isValue_sign (k : ApiKey) (timestamp method target : List Char)
    (body : List UInt8) : Header.isValue (k.sign timestamp method target body) = true := by
  simp only [Header.isValue, ApiKey.sign, String.toList_ofList, List.all_eq_true]
  intro c hc
  have hvisible := Text.isVisible_of_mem_hexOfBytes hc
  simp only [isVisible, Bool.and_eq_true, decide_eq_true_eq] at hvisible
  have hblank : 0x20 ≤ c.toNat ∧ c.toNat ≠ 0x7F := by omega
  simp [Header.isValueChar, hblank]

/-- The credentials of an address can stand in a header. -/
theorem HttpRequest.isValue_of_mem_ofUrl {method : HttpMethod} {url : Url}
    {header : String × String} (h : header ∈ (ofUrl method url).headers) :
    header.1 = "authorization" ∧ Header.isValue header.2 = true := by
  unfold ofUrl at h
  split at h
  case h_2 => cases h
  obtain rfl := List.mem_singleton.mp h
  refine ⟨rfl, ?_⟩
  rw [Header.isValue, String.toList_append, List.all_append, Bool.and_eq_true]
  refine ⟨by decide +kernel, ?_⟩
  rw [String.toList_ofList, List.all_eq_true]
  intro c hc
  rcases Text.isBase64_of_mem_base64 hc with hc | hc
  · exact Url.of_isAlphanum (P := fun c => Header.isValueChar c = true) (by decide +kernel) hc
  · exact List.all_eq_true.mp (by decide +kernel : ['+', '/', '='].all Header.isValueChar = true)
      c hc

/-! ## The path of a call -/

namespace Call

/-- The path of a call is plain. -/
theorem exists_plain_path (call : Call) :
    ∃ pieces, pieces ≠ [] ∧ (∀ piece ∈ pieces, Url.IsPlain piece) ∧
      call.path.toList = '/' :: Text.joinPieces '/' pieces := by
  have hpath : (∀ piece ∈ Text.pieces '/' call.path.toList.tail, Url.IsPlain piece)
      ∧ call.path.toList = '/' :: call.path.toList.tail := by
    cases call <;> simp only [path] <;> decide +kernel
  refine ⟨Text.pieces '/' call.path.toList.tail, Text.pieces_ne_nil _ _, hpath.1, ?_⟩
  rw [Text.joinPieces_pieces]
  exact hpath.2

/-- The target of a call on a server: the path, and the query if it has pairs. -/
def target (base : Url) (call : Call) : List Char :=
  base.driveOf ++ call.path.toList ++
    if call.query = [] then [] else '?' :: Form.encode call.query

theorem isTargetChar_of_mem_target {base : Url} {call : Call} {c : Char}
    (h : c ∈ call.target base) : isTargetChar c = true := by
  obtain ⟨pieces, -, hpieces, hpath⟩ := call.exists_plain_path
  have hdrive : ∀ d ∈ base.driveOf, isTargetChar d = true := by
    rcases base.driveOf_cases with hdrive | ⟨letter, hletter, -, hdrive⟩
    · simp [hdrive]
    · have htarget : isTargetChar letter = true :=
        isTargetChar_of_isAlphanum (by simp [Char.isAlphanum, hletter])
      simpa [hdrive, htarget] using ⟨rfl, rfl⟩
  simp only [target, hpath, List.mem_append, List.mem_cons] at h
  rcases h with (h | rfl | h) | h
  · exact hdrive c h
  · rfl
  · rcases Text.mem_of_mem_joinPieces h with rfl | ⟨piece, hpiece, hc⟩
    · rfl
    · exact isTargetChar_of_isAlphanum ((hpieces piece hpiece).isAlphanum c hc)
  · split at h
    · cases h
    · rcases List.mem_cons.mp h with rfl | h
      · rfl
      · exact Form.isTargetChar_of_mem_encode h

theorem isVisible_of_mem_target {base : Url} {call : Call} {c : Char} (h : c ∈ call.target base) :
    isVisible c = true :=
  isVisible_of_isTargetChar (isTargetChar_of_mem_target h)

end Call

/-! ## Signing -/

namespace HttpRequest

/-- The line that a request starts with. -/
def line (r : HttpRequest) : List Char :=
  r.method.name.toList ++ ' ' :: (r.target ++ ' ' :: "HTTP/1.1".toList)

/-- The values that a request gives a header, whose name is compared in lower case. -/
def valuesOf (r : HttpRequest) (name : String) : List String :=
  (r.headers.filter fun header => Header.canonical header.1 == Header.canonical name).map (·.2)

/-- The check of a server that holds the same key: the time, the method, the target and the
body that it receives, hashed under the secret, make the signature that it receives. -/
def IsSignedBy (k : ApiKey) (r : HttpRequest) : Prop :=
  ∃ timestamp method target version,
    r.valuesOf "ACCESS-KEY" = [k.key]
      ∧ r.valuesOf "ACCESS-TIMESTAMP" = [timestamp]
      ∧ Text.pieces ' ' r.line = [method, target, version]
      ∧ r.valuesOf "ACCESS-SIGN" = [String.ofList (Text.hexOfBytes
          (Sha256.keyed (Text.Utf8.encode k.secret.toList)
            (Text.Utf8.encode timestamp.toList ++ Text.Utf8.encode method
              ++ Text.Utf8.encode target ++ r.bodyBytes)))]

/-- A request that passes the check has the signature of the time and the target that it
gives. -/
theorem IsSignedBy.valuesOf_sign {k : ApiKey} {r : HttpRequest} {timestamp : String}
    {method target version : List Char} (h : r.IsSignedBy k)
    (htime : r.valuesOf "ACCESS-TIMESTAMP" = [timestamp])
    (hline : Text.pieces ' ' r.line = [method, target, version]) :
    r.valuesOf "ACCESS-SIGN" = [k.sign timestamp.toList method target r.bodyBytes] := by
  obtain ⟨timestamp', method', target', version', -, htime', hline', hsign⟩ := h
  obtain rfl : timestamp' = timestamp := by simpa using htime'.symm.trans htime
  obtain ⟨rfl, rfl, -⟩ : method' = method ∧ target' = target ∧ version' = version := by
    simpa using hline'.symm.trans hline
  exact hsign

theorem valuesOf_append (r : HttpRequest) (headers : List (String × String)) (name : String) :
    { r with headers := r.headers ++ headers }.valuesOf name =
      r.valuesOf name ++ { r with headers }.valuesOf name := by
  simp [valuesOf]

/-- The signing headers, each under its name. -/
theorem valuesOf_signing (r : HttpRequest) (k : ApiKey) (timestamp method target : List Char)
    (body : List UInt8) :
    let signed := { r with headers := k.headers timestamp method target body }
    signed.valuesOf "ACCESS-KEY" = [k.key]
      ∧ signed.valuesOf "ACCESS-TIMESTAMP" = [String.ofList timestamp]
      ∧ signed.valuesOf "ACCESS-SIGN" = [k.sign timestamp method target body] := by
  have hkt : Header.canonical "ACCESS-KEY" ≠ Header.canonical "ACCESS-TIMESTAMP" := by
    decide +kernel
  have hks : Header.canonical "ACCESS-KEY" ≠ Header.canonical "ACCESS-SIGN" := by
    decide +kernel
  have hts : Header.canonical "ACCESS-TIMESTAMP" ≠ Header.canonical "ACCESS-SIGN" := by
    decide +kernel
  simp [valuesOf, ApiKey.headers, hkt, hks, hts, hkt.symm, hks.symm, hts.symm]

/-- The first line of a request is cut where it was put together, if the target contains no
space. -/
theorem pieces_line {r : HttpRequest} (h : ' ' ∉ r.target) :
    Text.pieces ' ' r.line = [r.method.name.toList, r.target, "HTTP/1.1".toList] := by
  have hmethod : ' ' ∉ r.method.name.toList := by cases r.method <;> decide +kernel
  rw [line, Text.pieces_append hmethod, Text.pieces_append h,
    Text.pieces_of_notMem (by decide +kernel)]

end HttpRequest

namespace HttpRequest

variable {r r' : HttpRequest} {name : String}

@[simp] theorem method_ofUrl (method : HttpMethod) (url : Url) :
    (ofUrl method url).method = method := by
  unfold ofUrl
  split <;> rfl

@[simp] theorem target_ofUrl (method : HttpMethod) (url : Url) :
    (ofUrl method url).target = url.target := by
  unfold ofUrl
  split <;> rfl

@[simp] theorem body_ofUrl (method : HttpMethod) (url : Url) : (ofUrl method url).body = none := by
  unfold ofUrl
  split <;> rfl

@[simp] theorem method_withJson (body : Option String) (r : HttpRequest) :
    (r.withJson body).method = r.method := by
  cases body <;> rfl

@[simp] theorem target_withJson (body : Option String) (r : HttpRequest) :
    (r.withJson body).target = r.target := by
  cases body <;> rfl

theorem body_withJson (body : Option String) (r : HttpRequest) (h : r.body = none) :
    (r.withJson body).body = body := by
  cases body with
  | none => exact h
  | some text => rfl

theorem mem_headers_withJson {body : Option String} {header : String × String}
    (h : header ∈ (r.withJson body).headers) :
    header ∈ r.headers ∨ header = ("content-type", "application/json") := by
  cases body with
  | none => exact .inl h
  | some text => simpa [withJson] using h

end HttpRequest

namespace Client

variable {c : Client} {timestamp : String} {call : Call} {r : HttpRequest}

/-- The request before it is signed says what the call says. -/
theorem unsigned_eq_ok (h : c.unsigned call = .ok r) :
    r.method = call.method ∧ r.target = call.target c.baseUrl ∧ r.body = call.body
      ∧ ∀ header ∈ r.headers, (header.1 = "authorization" ∨ header.1 = "content-type")
          ∧ Header.isValue header.2 = true := by
  obtain ⟨pieces, hne, hpieces, hpath⟩ := call.exists_plain_path
  unfold unsigned at h
  rw [hpath] at h
  cases hjoin : c.baseUrl.join ('/' :: Text.joinPieces '/' pieces) with
  | error fault => rw [hjoin] at h; cases h
  | ok url =>
    rw [hjoin] at h
    dsimp only at h
    split at h
    case isFalse => cases h
    obtain rfl := Except.ok.inj h
    obtain ⟨htext, -, -⟩ := Url.path_text_of_join hne hpieces hjoin
    refine ⟨by simp, ?_, HttpRequest.body_withJson _ _ (by simp), ?_⟩
    · by_cases hquery : call.query = []
      · simp [Url.target, Url.withQuery, Call.target, htext, hpath, hquery, Form.encode]
      · simp [Url.target, Url.withQuery, Call.target, htext, hpath, hquery,
          Form.encode_eq_nil_iff]
    · intro header hheader
      rcases HttpRequest.mem_headers_withJson hheader with hheader | rfl
      · obtain ⟨hname, hvalue⟩ := HttpRequest.isValue_of_mem_ofUrl hheader
        exact ⟨.inl hname, hvalue⟩
      · exact ⟨.inr rfl, by decide +kernel⟩

/-- A call makes a request exactly if there is a server to ask. -/
theorem exists_unsigned_iff (c : Client) (call : Call) :
    (∃ u, c.unsigned call = .ok u) ↔ c.baseUrl.isServer = true := by
  cases hpath : c.baseUrl.path with
  | whole text => simp [unsigned, Url.join, Url.isServer, hpath]
  | segments items =>
    have hhost : (Url.withPath c.baseUrl.scheme (SchemeClass.ofScheme c.baseUrl.scheme)
        c.baseUrl.authority (c.baseUrl.driveOf ++ call.path.toList)).hasHost =
          c.baseUrl.hasHost := rfl
    cases hserver : c.baseUrl.hasHost with
    | true => simp [unsigned, Url.join, Url.isServer, hpath, hhost, hserver]
    | false => simp [unsigned, Url.join, Url.isServer, hpath, hhost, hserver]

/-- A request that is signed is the request that it was, with the headers of the key behind
its own. -/
theorem eq_of_sign {u : HttpRequest} {k : ApiKey} (h : sign k timestamp u = .ok r) :
    r = { u with headers := u.headers ++
            k.headers timestamp.toList u.method.name.toList u.target u.bodyBytes } := by
  simp only [sign] at h
  split at h
  · cases h
  · exact (Except.ok.inj h).symm

/-- A private call is prepared by signing it. -/
theorem prepare_private (hprivate : call.isPrivate = true) (h : c.prepare timestamp call = .ok r) :
    ∃ k u, c.key = some k ∧ c.unsigned call = .ok u ∧ sign k timestamp u = .ok r := by
  obtain ⟨u, hu, h⟩ := Json.ok_of_bind h
  rw [if_pos hprivate] at h
  split at h
  · cases h
  · rename_i k hk
    exact ⟨k, u, hk, hu, h⟩

/-- A request can be signed if the key and the time can stand in headers. -/
theorem exists_sign_iff (k : ApiKey) (timestamp : String) (u : HttpRequest) :
    (∃ r, sign k timestamp u = .ok r) ↔
      Header.isValue k.key = true ∧ Header.isValue timestamp = true := by
  have hnone : firstBadHeader? (k.headers timestamp.toList u.method.name.toList u.target
      u.bodyBytes) = none ↔ Header.isValue k.key = true ∧ Header.isValue timestamp = true := by
    simp [firstBadHeader?, ApiKey.headers, ApiKey.isValue_sign]
  rw [← hnone]
  simp only [sign]
  split
  · rename_i hbad
    simp [hbad]
  · rename_i hgood
    simp [hgood]

/-- A private call makes a request exactly if there is a server to ask and the client has a key
that can stand in a header beside the time. -/
theorem exists_prepare_iff (hprivate : call.isPrivate = true) :
    (∃ r, c.prepare timestamp call = .ok r) ↔
      c.baseUrl.isServer = true ∧
        ∃ k, c.key = some k ∧ Header.isValue k.key = true ∧ Header.isValue timestamp = true := by
  constructor
  · rintro ⟨r, h⟩
    obtain ⟨k, u, hkey, hu, hsign⟩ := prepare_private hprivate h
    exact ⟨(exists_unsigned_iff c call).mp ⟨u, hu⟩, k, hkey,
      (exists_sign_iff k timestamp u).mp ⟨r, hsign⟩⟩
  · rintro ⟨hserver, k, hkey, hvalues⟩
    obtain ⟨u, hu⟩ := (exists_unsigned_iff c call).mpr hserver
    obtain ⟨r, hsign⟩ := (exists_sign_iff k timestamp u).mpr hvalues
    refine ⟨r, ?_⟩
    rw [prepare, Json.bind_of_ok hu, if_pos hprivate, hkey]
    exact hsign

/-- The request of a private call says what the call says, and it passes the check of a server
that holds the same key. -/
theorem signed_as_prepared (hprivate : call.isPrivate = true)
    (h : c.prepare timestamp call = .ok r) :
    ∃ k, c.key = some k ∧ r.IsSignedBy k
      ∧ r.valuesOf "ACCESS-TIMESTAMP" = [timestamp]
      ∧ r.method = call.method ∧ r.target = call.target c.baseUrl ∧ r.body = call.body := by
  obtain ⟨k, u, hkey, hu, hsign⟩ := prepare_private hprivate h
  obtain ⟨hmethod, htarget, hbody, hheaders⟩ := unsigned_eq_ok hu
  obtain rfl := eq_of_sign hsign
  have hspace : ' ' ∉ u.target := by
    rw [htarget]
    intro hmem
    exact absurd (Call.isVisible_of_mem_target hmem) (by decide)
  have hown (name : String)
      (hname : ∀ own ∈ ["authorization", "content-type"],
        Header.canonical own ≠ Header.canonical name) : u.valuesOf name = [] := by
    simp only [HttpRequest.valuesOf, List.map_eq_nil_iff, List.filter_eq_nil_iff, beq_iff_eq]
    intro header hheader
    exact hname header.1 (by simpa using (hheaders header hheader).1)
  obtain ⟨hkeys, htimes, hsigns⟩ := u.valuesOf_signing k timestamp.toList u.method.name.toList
    u.target u.bodyBytes
  simp only [String.ofList_toList] at htimes
  refine ⟨k, hkey, ⟨timestamp, _, _, _, ?_, ?_, u.pieces_line hspace, ?_⟩, ?_, hmethod, htarget,
    hbody⟩
  · rw [HttpRequest.valuesOf_append, hown _ (by decide +kernel), hkeys, List.nil_append]
  · rw [HttpRequest.valuesOf_append, hown _ (by decide +kernel), htimes, List.nil_append]
  · rw [HttpRequest.valuesOf_append, hown _ (by decide +kernel), hsigns, List.nil_append]
    rfl
  · rw [HttpRequest.valuesOf_append, hown _ (by decide +kernel), htimes, List.nil_append]

/-- A client with a key. -/
def signing : Client :=
  { baseUrl :=
      { scheme := "https".toList
        authority := some ⟨[], [], .name "api.bitflyer.jp".toList, none⟩
        path := .segments [[]]
        query := none
        fragment := none }
    key := some ⟨"key", "secret"⟩ }

end Client

/-! ## Requests that are sent on -/

namespace HttpRequest

variable {r r' : HttpRequest} {reply : HttpReply} {name : String}

/-- Whether a request that was sent on repeats another: it has the headers of the signature,
and it has the method and the body, or it is a look without a body. -/
structure Repeats (r' r : HttpRequest) : Prop where
  keys : r'.valuesOf "ACCESS-KEY" = r.valuesOf "ACCESS-KEY"
  times : r'.valuesOf "ACCESS-TIMESTAMP" = r.valuesOf "ACCESS-TIMESTAMP"
  signs : r'.valuesOf "ACCESS-SIGN" = r.valuesOf "ACCESS-SIGN"
  content : (r'.method = r.method ∧ r'.body = r.body) ∨ (r'.method = .get ∧ r'.body = none)

theorem Repeats.trans {r'' : HttpRequest} (h' : r''.Repeats r') (h : r'.Repeats r) :
    r''.Repeats r := by
  refine ⟨h'.keys.trans h.keys, h'.times.trans h.times, h'.signs.trans h.signs, ?_⟩
  rcases h'.content with ⟨hmethod, hbody⟩ | hlook
  · rw [hmethod, hbody]
    exact h.content
  · exact .inr hlook

theorem valuesOf_without {names : List String} (h : Header.canonical name ∉ names) :
    (r.without names).valuesOf name = r.valuesOf name := by
  simp only [valuesOf, without, List.filter_filter]
  refine congrArg (List.map Prod.snd) (List.filter_congr fun header _ => ?_)
  by_cases hname : Header.canonical header.1 = Header.canonical name
  · simp [hname, h]
  · simp [hname]

/-- The headers that a request may lose, or gain, when it is sent on. -/
def changedHeaders : List String := "referer" :: bodyHeaders ++ serverHeaders

theorem valuesOf_again? {status : Nat} (hname : Header.canonical name ∉ changedHeaders)
    (h : r.again? status = some r') : r'.valuesOf name = r.valuesOf name := by
  have hbody : Header.canonical name ∉ bodyHeaders := fun hmem =>
    hname (by simp [changedHeaders, hmem])
  unfold again? at h
  split at h
  · obtain rfl := Option.some.inj h
    exact valuesOf_without hbody
  · split at h
    · obtain rfl := Option.some.inj h
      rfl
    · cases h

theorem valuesOf_withHeader {own : String} (value : String) (hown : own ≠ Header.canonical name)
    (hlower : Header.canonical own = own) :
    (r.withHeader own value).valuesOf name = r.valuesOf name := by
  have hbare : (r.without [own]).valuesOf name = r.valuesOf name :=
    valuesOf_without (by simpa using hown.symm)
  have hnew : ({ r with headers := [(own, value)] } : HttpRequest).valuesOf name = [] := by
    simp [valuesOf, hlower, hown]
  calc (r.withHeader own value).valuesOf name
      = (r.without [own]).valuesOf name
          ++ ({ r with headers := [(own, value)] } : HttpRequest).valuesOf name :=
        valuesOf_append (r.without [own]) [(own, value)] name
    _ = r.valuesOf name := by rw [hbare, hnew, List.append_nil]

theorem valuesOf_sentTo (url : Url) (hname : Header.canonical name ∉ changedHeaders) :
    (r.sentTo url).valuesOf name = r.valuesOf name := by
  simp only [changedHeaders, List.cons_append, List.mem_cons, List.mem_append, not_or] at hname
  obtain ⟨hreferer, -, hserver⟩ := hname
  have hkept : (if r.url.isSameServer url then r else r.without serverHeaders).valuesOf name =
      r.valuesOf name := by
    split
    · rfl
    · exact valuesOf_without hserver
  unfold sentTo
  dsimp only
  split
  · exact (valuesOf_withHeader _ (Ne.symm hreferer) (by decide +kernel)).trans hkept
  · exact hkept

/-- A request that is sent on keeps all other headers. -/
theorem valuesOf_of_sentOn? (hname : Header.canonical name ∉ changedHeaders)
    (h : r.sentOn? reply = some r') : r'.valuesOf name = r.valuesOf name := by
  unfold sentOn? at h
  split at h
  · rename_i again url hagain hurl
    obtain rfl := Option.some.inj h
    rw [valuesOf_sentTo url hname, valuesOf_again? hname hagain]
  · cases h

/-- One step: a request repeats the request that is sent on as it. -/
theorem repeats_of_sentOn? (h : r.sentOn? reply = some r') : r'.Repeats r := by
  refine ⟨valuesOf_of_sentOn? (by decide +kernel) h, valuesOf_of_sentOn? (by decide +kernel) h,
    valuesOf_of_sentOn? (by decide +kernel) h, ?_⟩
  unfold sentOn? again? at h
  split at h
  case h_2 => cases h
  rename_i again url hagain hurl
  obtain rfl := Option.some.inj h
  have hsame : (again.sentTo url).method = again.method ∧ (again.sentTo url).body = again.body := by
    unfold sentTo
    dsimp only
    split <;> split <;> exact ⟨rfl, rfl⟩
  rw [hsame.1, hsame.2]
  split at hagain
  · obtain rfl := Option.some.inj hagain
    exact .inr ⟨rfl, rfl⟩
  · split at hagain
    · obtain rfl := Option.some.inj hagain
      exact .inl ⟨rfl, rfl⟩
    · cases hagain

/-- What may be received of a request that may be sent on so many times: nothing, or the
request and repeats of it. -/
def IsTrail (hops : Nat) (r : HttpRequest) (received : List HttpRequest) : Prop :=
  received = [] ∨
    ∃ onward, received = r :: onward ∧ onward.length ≤ hops ∧ ∀ r' ∈ onward, r'.Repeats r

theorem isTrail_alone (hops : Nat) (r : HttpRequest) : IsTrail hops r [r] :=
  .inr ⟨[], rfl, Nat.zero_le hops, by simp⟩

theorem IsTrail.cons {hops : Nat} {next : HttpRequest} {received : List HttpRequest}
    (hnext : next.Repeats r) (h : IsTrail hops next received) :
    IsTrail (hops + 1) r (r :: received) := by
  rcases h with rfl | ⟨onward, rfl, hlength, honward⟩
  · exact isTrail_alone (hops + 1) r
  · refine .inr ⟨next :: onward, rfl, Nat.succ_le_succ hlength, fun r' hr' => ?_⟩
    rcases List.mem_cons.mp hr' with rfl | hr'
    · exact hnext
    · exact (honward r' hr').trans hnext

end HttpRequest

namespace Exchange

variable {ex : Exchange} {c : Client} {timestamp : String} {call : Call} {r : HttpRequest}
  {onward : List HttpRequest}

theorem requests_afterRequest (ex : Exchange) (r : HttpRequest) :
    (ex.afterRequest r).requests = ex.requests ++ if ex.isReachedBy r then [r] else [] := by
  unfold afterRequest
  split
  · rfl
  · rw [List.append_nil]

/-- Only a request that was received is replied to. -/
theorem isReachedBy_of_reply {answer : HttpReply} (h : ex.reply r = some answer) :
    ex.isReachedBy r = true := by
  unfold reply at h
  split at h
  · assumption
  · cases h

/-- One request leaves a trail. -/
theorem isTrail_afterRequest (hops : Nat) (ex : Exchange) (r : HttpRequest) :
    ∃ received, (ex.afterRequest r).requests = ex.requests ++ received
      ∧ HttpRequest.IsTrail hops r received := by
  refine ⟨_, requests_afterRequest ex r, ?_⟩
  split
  · exact HttpRequest.isTrail_alone hops r
  · exact .inl rfl

/-- A whole run: what is received of a request is the request and, for every time that it is
sent on, a request that repeats it. -/
theorem isTrail_follow (hops : Nat) (ex : Exchange) (r : HttpRequest) :
    ∃ received, (ex.follow hops r).2.requests = ex.requests ++ received
      ∧ HttpRequest.IsTrail hops r received := by
  fun_induction follow hops ex r with
  | case1 hops ex r hlast => exact isTrail_afterRequest hops ex r
  | case2 ex r next hnext => exact isTrail_afterRequest 0 ex r
  | case3 ex r next hops hnext ih =>
    obtain ⟨answer, hanswer, hnext⟩ := Option.bind_eq_some_iff.mp hnext
    obtain ⟨received, hreceived, htrail⟩ := ih
    refine ⟨r :: received, ?_, htrail.cons (HttpRequest.repeats_of_sentOn? hnext)⟩
    rw [hreceived, requests_afterRequest, if_pos (isReachedBy_of_reply hanswer), List.append_assoc,
      List.singleton_append]

/-- **What is signed is what is sent**: if anything is received on account of a private call,
the first that is received is the request of the call.  It says what the call says, and it
passes the check of a server that holds the same key.  Whatever is received after it was sent
on by a reply, at most ten times in a row, and repeats the headers of its signature. -/
theorem signed_as_received (hprivate : call.isPrivate = true)
    (h : (ex.ask c timestamp call).2.requests = ex.requests ++ r :: onward) :
    ∃ k, c.key = some k ∧ r.IsSignedBy k
      ∧ r.valuesOf "ACCESS-TIMESTAMP" = [timestamp]
      ∧ r.method = call.method ∧ r.target = call.target c.baseUrl ∧ r.body = call.body
      ∧ onward.length ≤ 10 ∧ ∀ r' ∈ onward, r'.Repeats r := by
  unfold ask at h
  split at h
  case h_1 => simp at h
  rename_i own hown
  obtain ⟨received, hreceived, htrail⟩ := isTrail_follow maxHops ex own
  obtain rfl : received = r :: onward := List.append_cancel_left (hreceived.symm.trans h)
  rcases htrail with hnone | ⟨onward', heq, hlength, honward⟩
  · cases hnone
  obtain ⟨rfl, rfl⟩ := List.cons.inj heq
  obtain ⟨k, hkey, hsigned, htime, hmethod, htarget, hbody⟩ :=
    Client.signed_as_prepared hprivate hown
  exact ⟨k, hkey, hsigned, htime, hmethod, htarget, hbody, hlength, honward⟩

/-- An exchange that sends the first request on, and wants to be told of the collateral. -/
def redirecting : Exchange :=
  let collateral : Url :=
    { Client.signing.baseUrl with
      path := .segments ["v1".toList, "me".toList, "getcollateral".toList] }
  { unreachable with isReachable := true, httpReplies := [some ⟨307, [], some collateral⟩] }

/-- The history of a currency with a name of two letters, the second not of ASCII: its query
is escaped, and it is the escaped query that is signed. -/
theorem signed_balanceHistory :
    ∃ r r', (redirecting.ask Client.signing "1"
        (.balanceHistory "B円" ⟨some 10, none, none⟩)).2.requests = [r, r']
      ∧ r.IsSignedBy ⟨"key", "secret"⟩
      ∧ r.target = "/v1/me/getbalancehistory?currency_code=B%E5%86%86&count=10".toList
      ∧ r'.valuesOf "ACCESS-SIGN" = r.valuesOf "ACCESS-SIGN" := by
  obtain ⟨r, r', h⟩ := List.length_eq_two.mp
    (by decide +kernel : (redirecting.ask Client.signing "1"
      (.balanceHistory "B円" ⟨some 10, none, none⟩)).2.requests.length = 2)
  obtain ⟨k, hkey, hsigned, -, -, htarget, -, -, honward⟩ := signed_as_received rfl h
  obtain rfl := Option.some.inj hkey
  refine ⟨r, r', h, hsigned, ?_, (honward r' (by simp)).signs⟩
  rw [htarget]
  decide +kernel

/-- The signature of a request for the balance. -/
def balanceSign : String := "166d6d628a902cd952168253c6b2116771312c760491e6912641d839c868ff5f"

/-- The balance is asked for, and the request is sent on to the collateral: it comes there
with the signature of the balance, which the server refuses. -/
theorem redirected_balance :
    Call.balance.isPrivate = true
      ∧ ∃ r ∈ (redirecting.ask Client.signing "1" .balance).2.requests,
          r.valuesOf "ACCESS-SIGN" ≠ [] ∧ ¬ r.IsSignedBy ⟨"key", "secret"⟩ := by
  have hsecond : ((redirecting.ask Client.signing "1" .balance).2.requests[1]?).map
      (fun r => (r.valuesOf "ACCESS-TIMESTAMP", Text.pieces ' ' r.line, r.bodyBytes,
        r.valuesOf "ACCESS-SIGN")) =
      some (["1"], ["GET".toList, "/v1/me/getcollateral".toList, "HTTP/1.1".toList], [],
        [balanceSign]) := by decide +kernel
  obtain ⟨r, hr, hparts⟩ := Option.map_eq_some_iff.mp hsecond
  obtain ⟨htime, hline, hbody, hsign⟩ : r.valuesOf "ACCESS-TIMESTAMP" = ["1"] ∧
      Text.pieces ' ' r.line =
        ["GET".toList, "/v1/me/getcollateral".toList, "HTTP/1.1".toList] ∧
      r.bodyBytes = [] ∧ r.valuesOf "ACCESS-SIGN" = [balanceSign] := by
    simpa only [Prod.mk.injEq] using hparts
  refine ⟨rfl, r, List.mem_of_getElem? hr, by simp [hsign], fun hsigned => ?_⟩
  have hcollateral : (⟨"key", "secret"⟩ : ApiKey).sign "1".toList "GET".toList
      "/v1/me/getcollateral".toList [] ≠ balanceSign := by decide +kernel
  have heq := hsigned.valuesOf_sign htime hline
  rw [hsign, hbody] at heq
  exact hcollateral (List.singleton_inj.mp heq).symm

end Exchange
end ExchangeClient
