import ExchangeClient.Feed.Effect
import ExchangeClient.Proofs.Feed.OneWorker

/-!
# What a call does next

`CallCase` lists what a call of a feed client can do when it does what it does next, with what
must hold for each case and the whole traffic that it makes; `callCase` says that the list is
complete.  Only two cases touch the registry.  A start that has its handler enters its stream
under a key that is free, together with a feed of its own, and has thereby returned; a stop takes
out the stream that is found under its key, and goes on to close its feed.

So a move has an effect on the registry and brings one call through, or it leaves the registry
and the standing of all calls as they are (`takesEffect_or_keeps`).
-/

namespace ExchangeClient

namespace FeedClient

variable {α : Type} {c c' : FeedClient α} {key : ChannelKey} {a : α}

/-- Nothing is found under the key of a stream that was taken out. -/
theorem find?_take_self (h : c.take key = .ok (a, c')) : c'.find? key = none := by
  unfold take at h
  split at h
  · obtain ⟨-, rfl⟩ := Prod.mk.inj (Except.ok.inj h)
    refine List.lookup_eq_none_iff.mpr fun entry hentry => ?_
    have hne := (List.mem_filter.mp hentry).2
    rw [decide_eq_true_eq] at hne
    exact bne_iff_ne.mpr hne.symm
  · cases h

end FeedClient

namespace ClientCall

variable {call : ClientCall} {key : ChannelKey}

theorem startKey?_of_launchKey? (h : call.launchKey? = some key) : call.startKey? = some key := by
  cases call with
  | starting spec =>
    rw [launchKey?] at h
    split at h
    · cases h
    · exact h
  | seeded spec seed => exact h
  | fetching | stopping | closing | returned => cases h

/-- A start that looks at the registry has its handler, or it is to ask for a seed. -/
theorem launchKey?_or_isMerged (h : call.startKey? = some key) :
    call.launchKey? = some key ∨
      ∃ spec, call = .starting spec ∧ spec.isMerged = true ∧ spec.key = key := by
  cases call with
  | starting spec =>
    by_cases hmerged : spec.isMerged = true
    · exact .inr ⟨spec, rfl, hmerged, Option.some.inj h⟩
    · rw [launchKey?, if_neg hmerged]
      exact .inl h
  | seeded spec seed => exact .inl h
  | fetching | stopping | closing | returned => cases h

theorem effect?_of_launchKey? (h : call.launchKey? = some key) :
    call.effect? (.returned (.ok ())) = some (key, true) := by
  cases call with
  | starting spec =>
    obtain rfl := Option.some.inj (startKey?_of_launchKey? h)
    rfl
  | seeded spec seed =>
    obtain rfl := Option.some.inj h
    rfl
  | fetching | stopping | closing | returned => cases h

theorem hasTakenEffect_of_launchKey? (h : call.launchKey? = some key) :
    call.hasTakenEffect = false := by
  cases call with
  | starting | seeded => rfl
  | fetching | stopping | closing | returned => cases h

/-- A refusal is no effect. -/
theorem effect?_refused (call : ClientCall) (cause : ClientError) :
    call.effect? (.returned (.error cause)) = none := by
  cases call <;> rfl

end ClientCall

namespace Traffic

variable {σ : Type} {tr after : Traffic σ} {i j n : Nat}

/-! ## The cases -/

/-- What the `i`-th call can do next. -/
inductive CallCase (tr : Traffic σ) (i : Nat) : Traffic σ → Prop
  /-- There is no such call, it waits for an answer, or it has returned. -/
  | rests (hi : ∀ call, tr.calls[i]? = some call → ∀ after, call.effect? after = none) :
    CallCase tr i tr
  /-- The start of a merged board finds its key free and asks for a seed. -/
  | asks (spec : StreamSpec) (hi : tr.calls[i]? = some (.starting spec)) :
    CallCase tr i (tr.settle i (.fetching spec))
  | refused (call : ClientCall) (cause : ClientError) (hi : tr.calls[i]? = some call)
    (hcall : call.hasTakenEffect = false) :
    CallCase tr i (tr.settle i (.returned (.error cause)))
  /-- A start enters its stream. -/
  | entered (call : ClientCall) (key : ChannelKey) (feed : Feed σ) (client : FeedClient Nat)
    (hi : tr.calls[i]? = some call) (hkey : call.launchKey? = some key) (hfeed : feed.key = key)
    (henter : tr.client.enter key (.ok tr.feeds.length) = .ok client) :
    CallCase tr i
      ({ tr with client, feeds := tr.feeds ++ [StoppableFeed.ofFeed feed] }.settle i
        (.returned (.ok ())))
  /-- A stop takes its stream out. -/
  | taken (key : ChannelKey) (n : Nat) (client : FeedClient Nat)
    (hi : tr.calls[i]? = some (.stopping key)) (htake : tr.client.take key = .ok (n, client)) :
    CallCase tr i ({ tr with client }.settle i (.closing n))
  /-- A stop declines a topic or asks the worker to stop. -/
  | closes (n : Nat) (hi : tr.calls[i]? = some (.closing n)) :
    CallCase tr i (tr.changeFeed n .stopNext)
  /-- The worker has exited, and the stop returns. -/
  | closed (n : Nat) (hi : tr.calls[i]? = some (.closing n)) :
    CallCase tr i ((tr.changeFeed n .finish).settle i (.returned (.ok ())))

theorem callCase_launchCall {call : ClientCall} {product : ProductCode} {handler : Handler}
    (hi : tr.calls[i]? = some call) (hkey : call.launchKey? = some ⟨product, handler.kind⟩) :
    CallCase tr i (tr.launchCall i product handler) := by
  unfold launchCall
  cases hlaunch : tr.launch product handler with
  | error cause => exact .refused call cause hi (ClientCall.hasTakenEffect_of_launchKey? hkey)
  | ok after =>
    obtain ⟨feed, client, hfeed, henter, rfl⟩ := launch_eq_ok hlaunch
    exact .entered call _ feed client hi hkey hfeed henter

theorem callCase (tr : Traffic σ) (i : Nat) : CallCase tr i (tr.advance i) := by
  unfold advance
  split
  · next spec hi =>
    unfold startCall
    split
    · split
      · exact .asks spec hi
      · next cause _ => exact .refused _ cause hi rfl
    · next hplain =>
      refine callCase_launchCall hi ?_
      rw [ClientCall.launchKey?, if_neg hplain, FeedClient.plainHandler_kind]
      rfl
  · next spec seed hi => exact callCase_launchCall hi rfl
  · next key hi =>
    unfold stopCall
    cases htake : tr.client.take key with
    | error cause => exact .refused _ cause hi rfl
    | ok taken => exact .taken key taken.1 taken.2 hi htake
  · next n hi =>
    unfold closeCall
    split
    · exact .closed n hi
    · exact .closes n hi
  · next spec hi => exact .rests fun call hcall after => by rw [hi] at hcall; cases hcall; rfl
  · next result hi => exact .rests fun call hcall after => by rw [hi] at hcall; cases hcall; rfl
  · next hi => exact .rests fun call hcall => by rw [hi] at hcall; cases hcall

/-! ## Launches and refusals -/

/-- A start that has its handler comes to its end. -/
theorem exists_launchCall {call : ClientCall} {key : ChannelKey} (hi : tr.calls[i]? = some call)
    (hkey : call.launchKey? = some key) :
    ∃ product handler, (⟨product, Handler.kind handler⟩ : ChannelKey) = key ∧
      tr.advance i = tr.launchCall i product handler := by
  cases call with
  | starting spec =>
    have hplain : ¬ spec.isMerged = true := by
      intro hmerged
      rw [ClientCall.launchKey?, if_pos hmerged] at hkey
      cases hkey
    rw [ClientCall.launchKey?, if_neg hplain] at hkey
    refine ⟨spec.productCode, FeedClient.plainHandler spec.kind, ?_, ?_⟩
    · rw [FeedClient.plainHandler_kind]
      exact Option.some.inj hkey
    · rw [advance, hi]
      exact if_neg hplain
  | seeded spec seed =>
    refine ⟨spec.productCode, .merged (.ofSnapshot seed), Option.some.inj hkey, ?_⟩
    rw [advance, hi]
  | fetching | stopping | closing | returned => cases hkey

theorem launch_of_isRunning {product : ProductCode} {handler : Handler}
    (hrunning : tr.client.isRunning ⟨product, handler.kind⟩ = true) :
    tr.launch product handler = .error (.alreadyExists ⟨product, handler.kind⟩) := by
  have hkey : (Subscriber.ofHandler product handler tr.client.config.connection).key =
      ⟨product, handler.kind⟩ := rfl
  rw [launch, hkey, FeedClient.enter, if_pos hrunning]
  rfl

/-- A start that looks at the registry when its key is taken returns at once: it neither asks
for a seed nor starts a feed. -/
theorem advance_of_isRunning {call : ClientCall} {key : ChannelKey}
    (hi : tr.calls[i]? = some call) (hkey : call.startKey? = some key)
    (hrunning : tr.client.isRunning key = true) :
    tr.advance i = tr.settle i (.returned (.error (.alreadyExists key))) := by
  rcases ClientCall.launchKey?_or_isMerged hkey with hlaunch | ⟨spec, rfl, hmerged, rfl⟩
  · obtain ⟨product, handler, rfl, hadvance⟩ := exists_launchCall hi hlaunch
    rw [hadvance, launchCall, launch_of_isRunning hrunning]
  · rw [advance, hi]
    show startCall tr i spec = _
    rw [startCall, if_pos hmerged, FeedClient.seedCalls, if_pos hrunning]

/-- A stop that finds nothing under its key returns at once. -/
theorem advance_of_not_isRunning {key : ChannelKey} (hi : tr.calls[i]? = some (.stopping key))
    (hfree : tr.client.isRunning key = false) :
    tr.advance i = tr.settle i (.returned (.error (.notFound key))) := by
  have hnone : tr.client.find? key = none :=
    Option.not_isSome_iff_eq_none.mp (Bool.eq_false_iff.mp hfree)
  rw [advance, hi]
  dsimp only
  rw [stopCall, FeedClient.take, hnone]

/-! ## Calls that have taken effect -/

theorem getElem?_settle (hi : i < tr.calls.length) (call : ClientCall) :
    (tr.settle i call).calls[i]? = some call :=
  List.getElem?_set_self hi

theorem hasTakenEffect_of_getElem? {call : ClientCall} (hi : tr.calls[i]? = some call) :
    tr.hasTakenEffect i = call.hasTakenEffect := by
  rw [hasTakenEffect, hi]
  rfl

/-- Bringing one call further leaves the standing of the others as it is. -/
theorem hasTakenEffect_settle {was : ClientCall} (hi : tr.calls[i]? = some was)
    (call : ClientCall) (j : Nat) :
    (tr.settle i call).hasTakenEffect j =
      if i = j then call.hasTakenEffect else tr.hasTakenEffect j := by
  have hlt : i < tr.calls.length := (List.getElem?_eq_some_iff.mp hi).1
  split
  · next heq =>
    subst heq
    exact hasTakenEffect_of_getElem? (getElem?_settle hlt call)
  · next hne =>
    show (tr.calls.set i call)[j]?.any _ = _
    rw [List.getElem?_set_ne hne]
    rfl

/-- A move that leaves the registry and the standing of all calls as they are. -/
structure Keeps (tr after : Traffic σ) : Prop where
  client : after.client = tr.client
  standing : ∀ j, after.hasTakenEffect j = tr.hasTakenEffect j

/-- A call takes effect: it changes one key of the registry, from free to taken for a start and
from taken to free for a stop. -/
structure TakesEffect (tr after : Traffic σ) (e : CallEffect) : Prop where
  before : tr.client.isRunning e.key = !e.isStart
  changed : after.client.isRunning e.key = e.isStart
  others : ∀ key, key ≠ e.key → after.client.isRunning key = tr.client.isRunning key
  config : after.client.config = tr.client.config
  fresh : tr.hasTakenEffect e.call = false
  standing : ∀ j, after.hasTakenEffect j = (tr.hasTakenEffect j || e.call == j)

/-- A call that is brought further without taking effect. -/
theorem Keeps.settle {was call : ClientCall} (hi : tr.calls[i]? = some was)
    (hstanding : call.hasTakenEffect = was.hasTakenEffect) : tr.Keeps (tr.settle i call) where
  client := rfl
  standing j := by
    rw [hasTakenEffect_settle hi]
    split
    · next heq =>
      subst heq
      rw [hstanding, hasTakenEffect_of_getElem? hi]
    · rfl

/-- A new call has not taken effect. -/
theorem Keeps.called {call : ClientCall} (hcall : call.hasTakenEffect = false) :
    tr.Keeps { tr with calls := tr.calls ++ [call] } where
  client := rfl
  standing j := by
    show ((tr.calls ++ [call])[j]?).any _ = tr.calls[j]?.any _
    rcases Nat.lt_trichotomy j tr.calls.length with hlt | rfl | hgt
    · rw [List.getElem?_append_left hlt]
    · rw [List.getElem?_append_right Nat.le.refl, Nat.sub_self, List.getElem?_eq_none Nat.le.refl]
      exact hcall
    · rw [List.getElem?_eq_none (by simp; omega), List.getElem?_eq_none (by omega)]

theorem Keeps.answer (i : Nat) (reply : Except ClientError Board) :
    tr.Keeps (tr.answer i reply) := by
  unfold Traffic.answer
  split
  · next spec hi =>
    split
    · exact .settle hi rfl
    · exact .settle hi rfl
  · exact ⟨rfl, fun _ => rfl⟩

/-- A call that takes effect has it on the registry alone. -/
theorem TakesEffect.settle {was call : ClientCall} {client : FeedClient Nat}
    {feeds : List (StoppableFeed σ)} {key : ChannelKey} {isStart : Bool}
    (hi : tr.calls[i]? = some was) (hwas : was.hasTakenEffect = false)
    (hcall : call.hasTakenEffect = true)
    (hbefore : tr.client.isRunning key = !isStart) (hchanged : client.isRunning key = isStart)
    (hothers : ∀ other, other ≠ key → client.find? other = tr.client.find? other)
    (hconfig : client.config = tr.client.config) :
    TakesEffect tr ({ tr with client, feeds }.settle i call) ⟨i, key, isStart⟩ where
  before := hbefore
  changed := hchanged
  others other hne := congrArg Option.isSome (hothers other hne)
  config := hconfig
  fresh := (hasTakenEffect_of_getElem? hi).trans hwas
  standing j := by
    have hsettle : ({ tr with client, feeds }.settle i call).hasTakenEffect j =
        if i = j then call.hasTakenEffect else tr.hasTakenEffect j :=
      hasTakenEffect_settle hi call j
    rw [hsettle, hcall]
    split
    · next heq =>
      subst heq
      simp
    · next hne => rw [beq_false_of_ne hne, Bool.or_false]

theorem effectOf_settle {was call : ClientCall} {client : FeedClient Nat}
    {feeds : List (StoppableFeed σ)} (hi : tr.calls[i]? = some was) :
    tr.effectOf ({ tr with client, feeds }.settle i call) i =
      (was.effect? call).map fun (key, isStart) => ⟨i, key, isStart⟩ := by
  have hlt : i < tr.calls.length := (List.getElem?_eq_some_iff.mp hi).1
  have hafter : ({ tr with client, feeds }.settle i call).calls[i]? = some call :=
    List.getElem?_set_self hlt
  rw [effectOf, hi, hafter]

/-! ## What a move does -/

/-- What a call does next takes effect, as it tells, or leaves registry and standing alone. -/
theorem CallCase.takesEffect_or_keeps (h : CallCase tr i after) :
    (tr.effectOf after i = none ∧ tr.Keeps after) ∨
      ∃ e, tr.effectOf after i = some e ∧ tr.TakesEffect after e := by
  cases h with
  | rests hi =>
    refine .inl ⟨?_, rfl, fun _ => rfl⟩
    unfold effectOf
    split
    · next was is hwas _ => rw [hi was hwas is]; rfl
    · rfl
  | asks spec hi => exact .inl ⟨effectOf_settle hi, .settle hi rfl⟩
  | refused call cause hi hcall =>
    refine .inl ⟨?_, .settle hi hcall.symm⟩
    exact (effectOf_settle hi).trans (by rw [ClientCall.effect?_refused]; rfl)
  | entered call key feed client hi hkey hfeed henter =>
    obtain ⟨m, hm, hfree, hentered, hconfig, hothers⟩ := FeedClient.find?_enter henter
    refine .inr ⟨⟨i, key, true⟩, ?_, ?_⟩
    · rw [effectOf_settle hi, ClientCall.effect?_of_launchKey? hkey]
      rfl
    · refine .settle hi (ClientCall.hasTakenEffect_of_launchKey? hkey) rfl ?_ ?_ hothers hconfig
      · rw [FeedClient.isRunning, hfree]
        rfl
      · rw [FeedClient.isRunning, hentered]
        rfl
  | taken key n client hi htake =>
    obtain ⟨hfound, hconfig, hothers⟩ := FeedClient.find?_take htake
    refine .inr ⟨⟨i, key, false⟩, effectOf_settle hi, .settle hi rfl rfl ?_ ?_ hothers hconfig⟩
    · rw [FeedClient.isRunning, hfound]
      rfl
    · rw [FeedClient.isRunning, FeedClient.find?_take_self htake]
      rfl
  | closes n hi =>
    refine .inl ⟨?_, rfl, fun _ => rfl⟩
    rw [effectOf, show (tr.changeFeed n .stopNext).calls[i]? = _ from hi, hi]
    rfl
  | closed n hi =>
    have hkeeps : (tr.changeFeed n .finish).Keeps
        ((tr.changeFeed n .finish).settle i (.returned (.ok ()))) := .settle hi rfl
    exact .inl ⟨effectOf_settle hi, hkeeps.client, hkeeps.standing⟩

/-- **A move takes effect, as it tells, or leaves registry and standing alone.** -/
theorem takesEffect_or_keeps (t : Transport σ) (tr : Traffic σ) (m : TrafficMove σ) :
    (tr.effect m = none ∧ tr.Keeps (tr.move t m)) ∨
      ∃ e, tr.effect m = some e ∧ tr.TakesEffect (tr.move t m) e := by
  cases m with
  | startCalled spec => exact .inl ⟨rfl, Keeps.called rfl⟩
  | stopCalled key => exact .inl ⟨rfl, Keeps.called rfl⟩
  | advanced i => exact (callCase tr i).takesEffect_or_keeps
  | answered i reply => exact .inl ⟨rfl, .answer i reply⟩
  | worked n m => exact .inl ⟨rfl, rfl, fun _ => rfl⟩

end Traffic
end ExchangeClient
