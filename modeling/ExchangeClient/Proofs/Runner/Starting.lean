import ExchangeClient.Proofs.Feed.HeaderFaults
import ExchangeClient.Proofs.Runner.Numbering

/-!
# What becomes of a start

A start on a feed client is judged by what is running, by the client for seeds, by the
seed if it asks for one, and by the address.  `Verdict` says in which order: a key that is
taken is refused before anything else, whatever the stream is started for; a merged board
needs a client and a seed; the address is read last.  There is one verdict for each case,
so a start that is let through is one that no case refuses.

On its way to the verdict a call goes through the stages of `StartStage`.  A start that does
what it does next keeps to them (`StartStage.advance`), and so does one that is answered
(`StartStage.answer`).  Registry and feeds are touched in one of these deeds only, the last of
a start that is let through (`Entry`).
-/

namespace ExchangeClient

/-- What is asked and what is answered for a seed. -/
inductive SeedEvent where
  | asked (spec : StreamSpec)
  | answered (spec : StreamSpec) (reply : Except ClientError Board)

/-- The keys of the streams that are running on a client after some more were started. -/
def FeedClient.keysAfter {α : Type} (c : FeedClient α) (begun : List StreamSpec) :
    List ChannelKey :=
  c.keys ++ begun.map StreamSpec.key

/-- What a start asks and is answered before its stream can be entered. -/
inductive Seeded (c : FeedClient Nat) (spec : StreamSpec) : List SeedEvent → Prop
  | plain (hplain : spec.isMerged = false) : Seeded c spec []
  | merged (seed : Board) (hmerged : spec.isMerged = true) (hcalls : c.calls.isSome = true) :
    Seeded c spec [.asked spec, .answered spec (.ok seed)]

/-- What a start comes to on a client after some streams were started, and what it asks and is
answered till then. -/
inductive Verdict (c : FeedClient Nat) (begun : List StreamSpec) (spec : StreamSpec) :
    List SeedEvent → Except ClientError Unit → Prop
  | running (htaken : spec.key ∈ c.keysAfter begun) :
    Verdict c begun spec [] (.error (.alreadyExists spec.key))
  | noClient (hfree : spec.key ∉ c.keysAfter begun) (hmerged : spec.isMerged = true)
    (hcalls : c.calls = none) :
    Verdict c begun spec [] (.error (.config .noSeedClient))
  | unseeded (cause : ClientError) (hfree : spec.key ∉ c.keysAfter begun)
    (hmerged : spec.isMerged = true) (hcalls : c.calls.isSome = true) :
    Verdict c begun spec [.asked spec, .answered spec (.error cause)] (.error cause)
  | unreachable (seeds : List SeedEvent) (cause : ClientError)
    (hfree : spec.key ∉ c.keysAfter begun) (hseeded : Seeded c spec seeds)
    (haddress : Endpoint.ofAddress c.config.endpoint = .error cause) :
    Verdict c begun spec seeds (.error cause)
  | started (seeds : List SeedEvent) (hfree : spec.key ∉ c.keysAfter begun)
    (hseeded : Seeded c spec seeds)
    (haddress : (Endpoint.ofAddress c.config.endpoint).isOk = true) :
    Verdict c begun spec seeds (.ok ())

/-- How far a start has come, what it has asked and been answered, and whether its stream is
entered. -/
inductive StartStage (c : FeedClient Nat) (begun : List StreamSpec) (spec : StreamSpec) :
    ClientCall → List SeedEvent → Bool → Prop
  | starting : StartStage c begun spec (.starting spec) [] false
  | fetching (hfree : spec.key ∉ c.keysAfter begun) (hmerged : spec.isMerged = true)
    (hcalls : c.calls.isSome = true) :
    StartStage c begun spec (.fetching spec) [.asked spec] false
  | seeded (seed : Board) (hfree : spec.key ∉ c.keysAfter begun) (hmerged : spec.isMerged = true)
    (hcalls : c.calls.isSome = true) :
    StartStage c begun spec (.seeded spec seed)
      [.asked spec, .answered spec (.ok seed)] false
  | returned {seeds : List SeedEvent} {result : Except ClientError Unit}
    (h : Verdict c begun spec seeds result) :
    StartStage c begun spec (.returned result) seeds result.isOk

namespace FeedClient

variable {α : Type} {c : FeedClient α} {key : ChannelKey}

theorem isRunning_iff_mem_keys : c.isRunning key = true ↔ key ∈ c.keys := by
  rw [isRunning, find?, keys, Option.isSome_iff_ne_none, ne_eq, List.lookup_eq_none_iff]
  constructor
  · intro h
    by_contra hkey
    refine h fun entry hentry => ?_
    rw [bne_iff_ne]
    rintro rfl
    exact hkey (List.mem_map_of_mem hentry)
  · rintro hkey hnone
    obtain ⟨entry, hentry, rfl⟩ := List.mem_map.mp hkey
    simpa using hnone entry hentry

theorem isRunning_eq_false_iff : c.isRunning key = false ↔ key ∉ c.keys := by
  rw [← isRunning_iff_mem_keys, Bool.not_eq_true]

end FeedClient

namespace Traffic

variable {σ : Type} {tr : Traffic σ} {i : Nat} {spec : StreamSpec}

/-- What a move of the traffic asks and is answered for seeds. -/
def seedEvents (tr : Traffic σ) : TrafficMove σ → List SeedEvent
  | .advanced i =>
    match tr.calls[i]?, (tr.advance i).calls[i]? with
    | some (.starting spec), some (.fetching _) => [.asked spec]
    | _, _ => []
  | .answered i reply =>
    match tr.calls[i]? with
    | some (.fetching spec) => [.answered spec reply]
    | _ => []
  | .startCalled _ | .stopCalled _ | .worked _ _ => []

/-- What a deed of a start does to registry and feeds, when its stream was entered or was not,
and is now or is not. -/
inductive Entry (tr after : Traffic σ) (spec : StreamSpec) : Bool → Bool → Prop
  | kept (entered : Bool) (hclient : after.client = tr.client) (hfeeds : after.feeds = tr.feeds) :
    Entry tr after spec entered entered
  | entered (f : StoppableFeed σ) (hkey : f.feed.key = spec.key)
    (hclient : after.client = { tr.client with
      streams := tr.client.streams ++ [(spec.key, tr.feeds.length)] })
    (hfeeds : after.feeds = tr.feeds ++ [f]) :
    Entry tr after spec false true

/-- A stream whose key is free is entered, unless the address cannot be read. -/
theorem launchCall_of_free {product : ProductCode} {handler : Handler}
    (hkey : (⟨product, handler.kind⟩ : ChannelKey) = spec.key)
    (hfree : spec.key ∉ tr.client.keys) :
    (∃ cause, Endpoint.ofAddress tr.client.config.endpoint = .error cause ∧
      tr.launchCall i product handler = tr.settle i (.returned (.error cause))) ∨
    (Endpoint.ofAddress tr.client.config.endpoint).isOk = true ∧
      (tr.launchCall i product handler).calls = tr.calls.set i (.returned (.ok ())) ∧
      Entry tr (tr.launchCall i product handler) spec false true := by
  have hnot : tr.client.isRunning ⟨product, handler.kind⟩ = false :=
    FeedClient.isRunning_eq_false_iff.mpr (hkey ▸ hfree)
  have hlaunch := launch_of_free hnot
  unfold launchCall
  rw [hlaunch]
  cases hread : Endpoint.ofAddress tr.client.config.endpoint with
  | error cause => exact .inl ⟨cause, rfl, rfl⟩
  | ok url =>
    refine .inr ⟨rfl, rfl, .entered _ ?_ ?_ rfl⟩
    · exact hkey
    · rw [← hkey]
      rfl

end Traffic

namespace StartStage

open Traffic

variable {σ : Type} {tr : Traffic σ} {c : FeedClient Nat} {begun : List StreamSpec}
  {spec : StreamSpec} {call : ClientCall} {seeds : List SeedEvent} {entered : Bool} {i : Nat}

/-- What a start comes to by a deed of its own: the next stage, and at most an entry. -/
def Comes (c : FeedClient Nat) (begun : List StreamSpec) (spec : StreamSpec)
    (tr after : Traffic σ) (i : Nat) (seeds : List SeedEvent) (entered : Bool) : Prop :=
  ∃ call entered', after.calls = tr.calls.set i call ∧
    StartStage c begun spec call seeds entered' ∧ Entry tr after spec entered entered'

theorem comes_settle (tr : Traffic σ) (i : Nat)
    (h : StartStage c begun spec call seeds entered) :
    Comes c begun spec tr (tr.settle i call) i seeds entered :=
  ⟨call, entered, rfl, h, .kept entered rfl rfl⟩

/-- A start that rests stays where it is. -/
theorem comes_self (hcall : tr.calls[i]? = some call)
    (h : StartStage c begun spec call seeds entered) :
    Comes c begun spec tr tr i seeds entered := by
  refine ⟨call, entered, ?_, h, .kept entered rfl rfl⟩
  obtain ⟨hi, rfl⟩ := List.getElem?_eq_some_iff.mp hcall
  exact (List.set_getElem_self hi).symm

/-- A start that has its handler comes to its verdict at once. -/
theorem returned_launchCall (i : Nat) {product : ProductCode} {handler : Handler}
    (hkey : (⟨product, handler.kind⟩ : ChannelKey) = spec.key)
    (hfree : spec.key ∉ c.keysAfter begun)
    (hseeded : Seeded c spec seeds) (hconfig : tr.client.config = c.config)
    (htaken : tr.client.keys = c.keysAfter begun) :
    ∃ result, (tr.launchCall i product handler).calls = tr.calls.set i (.returned result) ∧
      Verdict c begun spec seeds result ∧
      Entry tr (tr.launchCall i product handler) spec false result.isOk := by
  rcases launchCall_of_free (i := i) hkey (htaken ▸ hfree) with
    ⟨cause, haddress, hcall⟩ | ⟨haddress, hcall, hentry⟩
  · rw [hcall]
    exact ⟨.error cause, rfl, .unreachable seeds cause hfree hseeded (hconfig ▸ haddress),
      .kept false rfl rfl⟩
  · exact ⟨.ok (), hcall, .started seeds hfree hseeded (hconfig ▸ haddress), hentry⟩

/-- A start that comes to its verdict at once has asked for nothing. -/
theorem seedEvents_of_returned {result : Except ClientError Unit}
    (hcall : tr.calls[i]? = some (.starting spec))
    (hafter : (tr.advance i).calls = tr.calls.set i (.returned result)) :
    tr.seedEvents (.advanced i) = [] := by
  have hi : i < tr.calls.length := (List.getElem?_eq_some_iff.mp hcall).1
  rw [seedEvents, hcall, hafter, List.getElem?_set_self hi]

theorem comes_startCall (hcall : tr.calls[i]? = some (.starting spec))
    (hconfig : tr.client.config = c.config) (hcalls : tr.client.calls = c.calls)
    (htaken : tr.client.keys = c.keysAfter begun) :
    Comes c begun spec tr (tr.advance i) i (tr.seedEvents (.advanced i)) false := by
  have hi : i < tr.calls.length := (List.getElem?_eq_some_iff.mp hcall).1
  by_cases hrunning : tr.client.isRunning spec.key = true
  · have hadvance := advance_of_isRunning hcall rfl hrunning
    rw [seedEvents_of_returned hcall (by rw [hadvance]; rfl), hadvance]
    exact comes_settle tr i
      (.returned (.running (htaken ▸ FeedClient.isRunning_iff_mem_keys.mp hrunning)))
  have hadvance : tr.advance i = tr.startCall i spec := by rw [Traffic.advance, hcall]
  have hrunning : tr.client.isRunning spec.key = false := Bool.not_eq_true _ ▸ hrunning
  have hfree : spec.key ∉ c.keysAfter begun :=
    htaken ▸ FeedClient.isRunning_eq_false_iff.mp hrunning
  by_cases hmerged : spec.isMerged = true
  · cases hclient : tr.client.calls with
    | none =>
      have hstart : tr.startCall i spec =
          tr.settle i (.returned (.error (.config .noSeedClient))) := by
        rw [startCall, if_pos hmerged, FeedClient.seedCalls, hrunning, hclient]
        rfl
      rw [seedEvents_of_returned hcall (by rw [hadvance, hstart]; rfl), hadvance, hstart]
      exact comes_settle tr i (.returned (.noClient hfree hmerged (hcalls ▸ hclient)))
    | some client =>
      have hstart : tr.startCall i spec = tr.settle i (.fetching spec) := by
        rw [startCall, if_pos hmerged, FeedClient.seedCalls, hrunning, hclient]
        rfl
      have hasked : tr.seedEvents (.advanced i) = [.asked spec] := by
        rw [seedEvents, hcall, hadvance, hstart, getElem?_settle hi]
      rw [hasked, hadvance, hstart]
      exact comes_settle tr i (.fetching hfree hmerged (by rw [← hcalls, hclient]; rfl))
  · have hplain : spec.isMerged = false := Bool.not_eq_true _ ▸ hmerged
    have hstart : tr.startCall i spec =
        tr.launchCall i spec.productCode (FeedClient.plainHandler spec.kind) := by
      rw [startCall, if_neg hmerged]
    have hkey : (⟨spec.productCode, (FeedClient.plainHandler spec.kind).kind⟩ : ChannelKey) =
        spec.key := by
      rw [FeedClient.plainHandler_kind]
      rfl
    obtain ⟨result, hcall', hverdict, hentry⟩ :=
      returned_launchCall i hkey hfree (.plain hplain) hconfig htaken
    rw [seedEvents_of_returned hcall (by rw [hadvance, hstart, hcall']), hadvance, hstart]
    exact ⟨_, _, hcall', .returned hverdict, hentry⟩

/-- **A start keeps to its stages.** -/
theorem advance (h : StartStage c begun spec call seeds entered)
    (hcall : tr.calls[i]? = some call) (hconfig : tr.client.config = c.config)
    (hcalls : tr.client.calls = c.calls)
    (htaken : entered = false → tr.client.keys = c.keysAfter begun) :
    Comes c begun spec tr (tr.advance i) i (seeds ++ tr.seedEvents (.advanced i))
      entered := by
  cases h with
  | starting => exact comes_startCall hcall hconfig hcalls (htaken rfl)
  | fetching hfree hmerged hsome =>
    rw [seedEvents, hcall, List.append_nil, Traffic.advance, hcall]
    exact comes_self hcall (.fetching hfree hmerged hsome)
  | seeded seed hfree hmerged hsome =>
    rw [seedEvents, hcall, List.append_nil, Traffic.advance, hcall]
    obtain ⟨result, hcall', hverdict, hentry⟩ := returned_launchCall i
      (StreamSpec.key_of_isMerged hmerged seed) hfree (.merged seed hmerged hsome) hconfig
      (htaken rfl)
    exact ⟨_, _, hcall', .returned hverdict, hentry⟩
  | returned hverdict =>
    rw [seedEvents, hcall, List.append_nil, Traffic.advance, hcall]
    exact comes_self hcall (.returned hverdict)

/-- **A start that is answered keeps to its stages.** -/
theorem answer (h : StartStage c begun spec call seeds entered)
    (hcall : tr.calls[i]? = some call) (reply : Except ClientError Board) :
    Comes c begun spec tr (tr.answer i reply) i
      (seeds ++ tr.seedEvents (.answered i reply)) entered := by
  rw [seedEvents, hcall, Traffic.answer, hcall]
  cases h with
  | starting =>
    rw [List.append_nil]
    exact comes_self hcall .starting
  | fetching hfree hmerged hsome =>
    cases reply with
    | ok seed => exact comes_settle tr i (.seeded seed hfree hmerged hsome)
    | error cause => exact comes_settle tr i (.returned (.unseeded cause hfree hmerged hsome))
  | seeded seed hfree hmerged hsome =>
    rw [List.append_nil]
    exact comes_self hcall (.seeded seed hfree hmerged hsome)
  | returned hverdict =>
    rw [List.append_nil]
    exact comes_self hcall (.returned hverdict)

end StartStage
end ExchangeClient
