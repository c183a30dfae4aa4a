import ExchangeClient.Proofs.Rest.Signed

/-!
# Where a key goes

Two clients of one server that hold different keys, or none, are compared call by call.  A
public call is the same to both, answer and all (`Exchange.ask_public`).  A private call without
a key that can stand in a header is refused before the exchange sees anything of it
(`Exchange.ask_refused`).  Of two keys that differ only in the secret, the exchange receives
requests that differ only in the signature (`Exchange.ask_secret`).

A call is made into a request before it is signed.  Where no request can be made, the fault of
the URL is therefore met before the missing key.  A request that a reply sends on takes the
signature with it and is not signed again, so another signature is another there, too, and makes
no other difference (`Exchange.follow_withSignatures`).
-/

namespace ExchangeClient

/-- The request with another value of its signature. -/
def HttpRequest.withSignature (signature : String) (r : HttpRequest) : HttpRequest :=
  { r with
    headers := r.headers.map fun header =>
      if header.1 = "ACCESS-SIGN" then (header.1, signature) else header }

/-- The exchange, had it received another signature with every request. -/
def Exchange.withSignatures (signature : String) (ex : Exchange) : Exchange :=
  { ex with requests := ex.requests.map (·.withSignature signature) }

namespace HttpRequest

theorem without_withSignature (names : List String) (signature : String) (r : HttpRequest) :
    (r.withSignature signature).without names = (r.without names).withSignature signature := by
  have hname (header : String × String) :
      (if header.1 = "ACCESS-SIGN" then (header.1, signature) else header).1 = header.1 := by
    split <;> rfl
  simp [without, withSignature, List.filter_map, Function.comp_def, hname]

theorem withHeader_withSignature {name : String} (hname : name ≠ "ACCESS-SIGN")
    (value signature : String) (r : HttpRequest) :
    (r.withSignature signature).withHeader name value =
      (r.withHeader name value).withSignature signature := by
  simp only [withHeader, without_withSignature]
  simp [withSignature, hname]

theorem sentTo_withSignature (url : Url) (signature : String) (r : HttpRequest) :
    (r.withSignature signature).sentTo url = (r.sentTo url).withSignature signature := by
  have hkept : (if r.url.isSameServer url then r.withSignature signature
      else (r.withSignature signature).without serverHeaders) =
        (if r.url.isSameServer url then r
          else r.without serverHeaders).withSignature signature := by
    split
    · rfl
    · exact without_withSignature serverHeaders signature r
  unfold sentTo
  rw [show (r.withSignature signature).url = r.url from rfl, hkept]
  cases r.url.referer? url with
  | none => rfl
  | some value =>
    dsimp only
    rw [withHeader_withSignature (by decide)]
    rfl

/-- Another signature makes no difference to where a request is sent on. -/
theorem sentOn?_withSignature (reply : HttpReply) (signature : String) (r : HttpRequest) :
    (r.withSignature signature).sentOn? reply =
      (r.sentOn? reply).map (·.withSignature signature) := by
  have hagain : (r.withSignature signature).again? reply.status =
      (r.again? reply.status).map (·.withSignature signature) := by
    unfold again?
    split
    · rw [without_withSignature]
      rfl
    · split <;> rfl
  unfold sentOn?
  rw [hagain]
  cases r.again? reply.status <;> cases reply.location <;> try rfl
  exact congrArg some (sentTo_withSignature _ signature _)

end HttpRequest

namespace Client

variable {timestamp : String} {call : Call}

/-- Why a private call is refused to a client that has no key, or one that cannot stand in a
header. -/
def keyFault (key : Option ApiKey) : ConfigFault :=
  match key with
  | none => .noKey
  | some _ => .signingHeader "ACCESS-KEY"

/-- Before it is signed, a request has nothing of the key. -/
theorem unsigned_key (base : Url) (key key' : Option ApiKey) (call : Call) :
    unsigned ⟨base, key⟩ call = unsigned ⟨base, key'⟩ call := rfl

theorem prepare_public (hpublic : call.isPrivate = false) (c : Client) :
    c.prepare timestamp call = c.unsigned call := by
  unfold prepare
  cases c.unsigned call with
  | error cause => rfl
  | ok r => exact if_neg (by simp [hpublic])

/-- Without a key that can stand in a header, a request that is to be signed is refused. -/
theorem prepare_refused {base : Url} {key : Option ApiKey} {u : HttpRequest}
    (hprivate : call.isPrivate = true) (hkey : ∀ k ∈ key, Header.isValue k.key = false)
    (hu : unsigned ⟨base, key⟩ call = .ok u) :
    prepare ⟨base, key⟩ timestamp call = .error (.config (keyFault key)) := by
  rw [prepare, Json.bind_of_ok hu, if_pos hprivate]
  cases key with
  | none => rfl
  | some k => simp [sign, firstBadHeader?, ApiKey.headers, hkey k rfl, keyFault]

/-- Where there is no server to ask, no call makes a request. -/
theorem unsigned_eq_error {c : Client} (hserver : c.baseUrl.isServer = false) (call : Call) :
    c.unsigned call = .error (.url .relativeToPathless) ∨ c.unsigned call = .error .http := by
  cases hu : c.unsigned call with
  | ok u =>
    have := (exists_unsigned_iff c call).mp ⟨u, hu⟩
    rw [hserver] at this
    cases this
  | error cause =>
    unfold unsigned Url.join at hu
    split at hu
    · rename_i fault hjoin
      split at hjoin
      · obtain rfl := Except.error.inj hjoin
        exact .inl hu.symm
      · cases hjoin
    · split at hu
      · cases hu
      · exact .inr hu.symm

/-- Whether the headers of a signature can be sent does not depend on the secret. -/
theorem firstBadHeader?_secret (key secret secret' : String) (timestamp method target : List Char)
    (body : List UInt8) :
    firstBadHeader? ((⟨key, secret⟩ : ApiKey).headers timestamp method target body) =
      firstBadHeader? ((⟨key, secret'⟩ : ApiKey).headers timestamp method target body) := by
  simp [firstBadHeader?, ApiKey.headers, ApiKey.isValue_sign, List.find?_cons]

/-- The secret of a key goes into nothing but the signature. -/
theorem sign_secret (key secret secret' timestamp signature : String) (r : HttpRequest) :
    (sign ⟨key, secret⟩ timestamp r).map (·.withSignature signature) =
      (sign ⟨key, secret'⟩ timestamp r).map (·.withSignature signature) := by
  simp only [sign]
  rw [firstBadHeader?_secret key secret secret']
  split
  · rfl
  · simp [Except.map, HttpRequest.withSignature, ApiKey.headers]

/-- The request of a call depends on the secret of the client only in its signature. -/
theorem prepare_secret (base : Url) (key secret secret' signature : String) :
    (prepare ⟨base, some ⟨key, secret⟩⟩ timestamp call).map (·.withSignature signature) =
      (prepare ⟨base, some ⟨key, secret'⟩⟩ timestamp call).map (·.withSignature signature) := by
  have hsame := unsigned_key base (some ⟨key, secret⟩) (some ⟨key, secret'⟩) call
  cases hu : unsigned ⟨base, some ⟨key, secret'⟩⟩ call with
  | error cause =>
    rw [prepare, prepare, hsame, Json.bind_of_error hu, Json.bind_of_error hu]
  | ok u =>
    rw [prepare, prepare, hsame, Json.bind_of_ok hu, Json.bind_of_ok hu]
    by_cases hprivate : call.isPrivate = true
    · rw [if_pos hprivate, if_pos hprivate]
      exact sign_secret key secret secret' timestamp signature u
    · rw [if_neg hprivate, if_neg hprivate]

end Client

namespace Exchange

variable {call : Call}

/-- A public call is the same to every client of a server. -/
theorem ask_public (hpublic : call.isPrivate = false) (ex : Exchange) (base : Url)
    (key key' : Option ApiKey) (timestamp timestamp' : String) :
    ex.ask ⟨base, key⟩ timestamp call = ex.ask ⟨base, key'⟩ timestamp' call := by
  rw [ask, ask, Client.prepare_public hpublic, Client.prepare_public hpublic,
    Client.unsigned_key base key key']

/-- The exchange sees nothing of a private call without a key that can stand in a header. -/
theorem ask_refused (hprivate : call.isPrivate = true) (ex : Exchange) (base : Url)
    {key : Option ApiKey} (hkey : ∀ k ∈ key, Header.isValue k.key = false) (timestamp : String) :
    ∃ cause, ex.ask ⟨base, key⟩ timestamp call = (.error cause, ex)
      ∧ if base.isServer = true then cause = .config (Client.keyFault key)
        else cause = .url .relativeToPathless ∨ cause = .http := by
  have hask {cause : ClientError}
      (h : Client.prepare ⟨base, key⟩ timestamp call = .error cause) :
      ex.ask ⟨base, key⟩ timestamp call = (.error cause, ex) := by
    rw [ask, h]
  cases hserver : base.isServer with
  | true =>
    obtain ⟨u, hu⟩ := (Client.exists_unsigned_iff ⟨base, key⟩ call).mpr hserver
    exact ⟨_, hask (Client.prepare_refused hprivate hkey hu), rfl⟩
  | false =>
    have herror {cause : ClientError} (h : Client.unsigned ⟨base, key⟩ call = .error cause) :
        Client.prepare ⟨base, key⟩ timestamp call = .error cause := by
      rw [Client.prepare, Json.bind_of_error h]
    rcases Client.unsigned_eq_error (c := ⟨base, key⟩) hserver call with h | h
    · exact ⟨_, hask (herror h), .inl rfl⟩
    · exact ⟨_, hask (herror h), .inr rfl⟩

theorem afterRequest_withSignatures (ex : Exchange) (r : HttpRequest) (signature : String) :
    (ex.withSignatures signature).afterRequest (r.withSignature signature) =
      (ex.afterRequest r).withSignatures signature := by
  unfold afterRequest
  rw [show (ex.withSignatures signature).isReachedBy (r.withSignature signature) =
    ex.isReachedBy r from rfl]
  split
  · simp [withSignatures]
  · rfl

/-- One step: another signature makes no difference to whether and where the reply to a request
sends it on. -/
theorem next_withSignatures (ex : Exchange) (r : HttpRequest) (signature : String) :
    ((ex.withSignatures signature).reply (r.withSignature signature)).bind
        (r.withSignature signature).sentOn? =
      ((ex.reply r).bind r.sentOn?).map (·.withSignature signature) := by
  rw [show (ex.withSignatures signature).reply (r.withSignature signature) = ex.reply r from rfl]
  cases ex.reply r with
  | none => rfl
  | some reply => exact HttpRequest.sentOn?_withSignature reply signature r

/-- A whole run: another signature makes no difference but itself. -/
theorem follow_withSignatures (hops : Nat) (ex : Exchange) (r : HttpRequest)
    (signature : String) :
    follow hops (ex.withSignatures signature) (r.withSignature signature) =
      ((ex.follow hops r).1, (ex.follow hops r).2.withSignatures signature) := by
  fun_induction follow hops ex r with
  | case1 hops ex r hlast =>
    rw [follow.eq_1 _ _ _ (by rw [next_withSignatures, hlast]; rfl),
      afterRequest_withSignatures]
    rfl
  | case2 ex r next hsome =>
    rw [follow.eq_2 _ _ _ (by rw [next_withSignatures, hsome]; rfl),
      afterRequest_withSignatures]
  | case3 ex r next hops hsome ih =>
    rw [follow.eq_3 _ _ _ _ (by rw [next_withSignatures, hsome]; rfl),
      afterRequest_withSignatures, ih]

/-- Two keys that differ only in the secret get the same answer, and what the exchange has
received then differs only in signatures. -/
theorem ask_secret (ex : Exchange) (base : Url) (key secret secret' timestamp signature : String) :
    let one := ex.ask ⟨base, some ⟨key, secret⟩⟩ timestamp call
    let other := ex.ask ⟨base, some ⟨key, secret'⟩⟩ timestamp call
    one.1 = other.1 ∧ one.2.withSignatures signature = other.2.withSignatures signature := by
  have hprepare :
      (Client.prepare ⟨base, some ⟨key, secret⟩⟩ timestamp call).map (·.withSignature signature) =
        (Client.prepare ⟨base, some ⟨key, secret'⟩⟩ timestamp call).map
          (·.withSignature signature) :=
    Client.prepare_secret base key secret secret' signature
  simp only [ask]
  cases hone : Client.prepare ⟨base, some ⟨key, secret⟩⟩ timestamp call <;>
    cases hother : Client.prepare ⟨base, some ⟨key, secret'⟩⟩ timestamp call <;>
    rw [hone, hother] at hprepare
  case error.error cause cause' =>
    obtain rfl : cause = cause' := by simpa [Except.map] using hprepare
    exact ⟨rfl, rfl⟩
  case ok.ok r r' =>
    have hr : r.withSignature signature = r'.withSignature signature := Except.ok.inj hprepare
    have hends : ((ex.follow maxHops r).1, (ex.follow maxHops r).2.withSignatures signature) =
        ((ex.follow maxHops r').1, (ex.follow maxHops r').2.withSignatures signature) := by
      rw [← follow_withSignatures, hr, follow_withSignatures]
    obtain ⟨hreply, hrequests⟩ := Prod.mk.inj hends
    exact ⟨congrArg call.accept hreply, hrequests⟩
  all_goals cases hprepare

/-- **Where a key goes.**  To a public call the key of the client makes no difference.  Without a
key that can stand in a header, a private call puts nothing on the wire, and it is a fault of the
configuration wherever a request could have been made.  The secret of a key is on the wire only
in signatures. -/
theorem ask_credentials (ex : Exchange) (base : Url) (timestamp : String) (call : Call) :
    (call.isPrivate = false → ∀ key key' timestamp',
      ex.ask ⟨base, key⟩ timestamp call = ex.ask ⟨base, key'⟩ timestamp' call)
    ∧ (call.isPrivate = true → ∀ key : Option ApiKey,
        (∀ k ∈ key, Header.isValue k.key = false) →
          ∃ cause, ex.ask ⟨base, key⟩ timestamp call = (.error cause, ex)
            ∧ if base.isServer = true then cause = .config (Client.keyFault key)
              else cause = .url .relativeToPathless ∨ cause = .http)
    ∧ ∀ key secret secret' signature,
        let one := ex.ask ⟨base, some ⟨key, secret⟩⟩ timestamp call
        let other := ex.ask ⟨base, some ⟨key, secret'⟩⟩ timestamp call
        one.1 = other.1 ∧ one.2.withSignatures signature = other.2.withSignatures signature :=
  ⟨fun hpublic key key' => ask_public hpublic ex base key key' timestamp,
    fun hprivate _ hkey => ask_refused hprivate ex base hkey timestamp,
    fun key secret secret' signature => ask_secret ex base key secret secret' timestamp signature⟩

/-- The markets are asked for alike with a key and without one, the balance is not asked for
without one. -/
theorem ask_credentials_signing (ex : Exchange) :
    ex.ask Client.signing "1" .markets = ex.ask { Client.signing with key := none } "2" .markets
      ∧ ex.ask { Client.signing with key := none } "1" .balance =
          (.error (.config .noKey), ex) := by
  obtain ⟨hpublic, -, -⟩ := ask_credentials ex Client.signing.baseUrl "1" .markets
  obtain ⟨-, hprivate, -⟩ := ask_credentials ex Client.signing.baseUrl "1" .balance
  obtain ⟨cause, hask, hcause⟩ := hprivate rfl none (by simp)
  rw [if_pos (show Client.signing.baseUrl.isServer = true from rfl)] at hcause
  exact ⟨hpublic rfl _ _ _, hcause ▸ hask⟩

/-- No path can be joined to the address of a mailbox, which is a URL.  A client of it is told so
by a private call, and not that it has no key. -/
theorem ask_mailbox :
    ∃ c, Client.ofBase "mailto:x@y" = .ok c ∧ c.key = none
      ∧ Call.balance.isPrivate = true
      ∧ ¬ ∃ fault, (unreachable.ask c "1" .balance).1 = .error (.config fault) := by
  have hurl : Url.ofText "mailto:x@y" =
      .ok ⟨"mailto".toList, none, .whole "x@y".toList, none, none⟩ := by decide +kernel
  refine ⟨⟨_, none⟩, by rw [Client.ofBase, hurl], rfl, rfl, ?_⟩
  rintro ⟨fault, h⟩
  cases h

end Exchange

end ExchangeClient
