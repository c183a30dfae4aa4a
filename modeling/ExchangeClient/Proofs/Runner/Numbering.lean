import ExchangeClient.Proofs.Feed.Cases
import ExchangeClient.Proofs.Runner.Cases
import Mathlib.Data.List.Nodup

/-!
# Feeds and monitors are numbered alike

As long as nothing is stopped, the registry holds each feed under its key.  So the feed that
the runner finds after a start is the one that was just started, and the `n`-th monitor is that
of the `n`-th feed.  A feed without a monitor there is only between the launch of a stream and
the posting of its monitor (`Numbered.fits`), and no two feeds of a runner have the same key.

What a start has come to is `StartCall`.  Of the traffic it says one thing: the feed is there
exactly if the call has returned without an error.
-/

namespace ExchangeClient

/-- How far the start of a stream has come when the feeds have some keys, and had others before
it was called. -/
inductive StartCall (spec : StreamSpec) (before keys : List ChannelKey) : ClientCall → Prop
  | starting (hkeys : keys = before) : StartCall spec before keys (.starting spec)
  | fetching (hkeys : keys = before) (hmerged : spec.isMerged = true) :
    StartCall spec before keys (.fetching spec)
  | seeded (hkeys : keys = before) (hmerged : spec.isMerged = true) (seed : Board) :
    StartCall spec before keys (.seeded spec seed)
  | started (hkeys : keys = before ++ [spec.key]) :
    StartCall spec before keys (.returned (.ok ()))
  | refused (hkeys : keys = before) (cause : ClientError) :
    StartCall spec before keys (.returned (.error cause))

/-- Whether a call stops a stream. -/
inductive StopCall : ClientCall → Prop
  | stopping (key : ChannelKey) : StopCall (.stopping key)
  | closing (n : Nat) : StopCall (.closing n)
  | returned (result : Except ClientError Unit) : StopCall (.returned result)

namespace StreamSpec

/-- The seed makes a handler for the kind of a merged stream. -/
theorem key_of_isMerged {spec : StreamSpec} (h : spec.isMerged = true) (seed : Board) :
    (⟨spec.productCode, (Handler.merged (.ofSnapshot seed)).kind⟩ : ChannelKey) = spec.key := by
  have hkind : spec.kind = .board := by
    rw [isMerged, Bool.and_eq_true, beq_iff_eq] at h
    exact h.1
  rw [key, hkind]
  rfl

end StreamSpec

namespace Traffic

variable {σ : Type} {tr tr' : Traffic σ} {spec : StreamSpec} {before : List ChannelKey}
  {i n : Nat}

/-- The keys of the feeds, in their order. -/
def feedKeys (tr : Traffic σ) : List ChannelKey := tr.feeds.map fun f => f.feed.key

/-- Whether each feed is found under its key. -/
def IsRegistered (tr : Traffic σ) : Prop :=
  ∀ n key, tr.feedKeys[n]? = some key → tr.client.find? key = some n

theorem feedKeys_changeFeed {change : StoppableFeed σ → StoppableFeed σ}
    (hchange : ∀ f, StoppableFeed.Outlives f (change f)) :
    (tr.changeFeed n change).feedKeys = tr.feedKeys := by
  refine List.ext_getElem? fun m => ?_
  rw [feedKeys, feedKeys, changeFeed, List.getElem?_map, List.getElem?_map,
    List.getElem?_modify]
  cases tr.feeds[m]? with
  | none => rfl
  | some f =>
    show some (if n = m then change f else f).feed.key = some f.feed.key
    split
    · rw [show (change f).feed.key = f.feed.key from (hchange f).key]
    · rfl

/-- Of feeds that are found under their keys, no two have the same key. -/
theorem IsRegistered.nodup (h : tr.IsRegistered) : tr.feedKeys.Nodup := by
  rw [List.nodup_iff_getElem?_ne_getElem?]
  intro m n hlt hn heq
  have hfound := h n _ (List.getElem?_eq_getElem hn)
  rw [h m _ (heq.trans (List.getElem?_eq_getElem hn))] at hfound
  exact absurd (Option.some.inj hfound) (Nat.ne_of_lt hlt)

theorem feedKeys_launch {product : ProductCode} {handler : Handler}
    (h : tr.launch product handler = .ok tr') :
    tr'.feedKeys = tr.feedKeys ++ [⟨product, handler.kind⟩] ∧ tr'.calls = tr.calls := by
  obtain ⟨feed, client, hkey, -, rfl⟩ := launch_eq_ok h
  rw [← hkey]
  exact ⟨List.map_append, rfl⟩

/-- A new feed is found under its key, and the others are found where they were. -/
theorem IsRegistered.launch {product : ProductCode} {handler : Handler}
    (hregistered : tr.IsRegistered) (h : tr.launch product handler = .ok tr') :
    tr'.IsRegistered := by
  intro n key hn
  rw [(feedKeys_launch h).1] at hn
  obtain ⟨feed, client, -, henter, rfl⟩ := launch_eq_ok h
  obtain ⟨m, hm, hfree, hentered, -, hothers⟩ := FeedClient.find?_enter henter
  obtain rfl := Except.ok.inj hm
  show client.find? key = some n
  rcases Nat.lt_or_ge n tr.feedKeys.length with hlt | hge
  · rw [List.getElem?_append_left hlt] at hn
    have hne : key ≠ ⟨product, handler.kind⟩ := by
      rintro rfl
      rw [hregistered n _ hn] at hfree
      cases hfree
    rw [hothers key hne, hregistered n key hn]
  · rw [List.getElem?_append_right hge, List.getElem?_singleton] at hn
    split at hn
    · next hzero =>
      obtain rfl : n = tr.feeds.length := by
        rw [feedKeys, List.length_map] at hge hzero
        omega
      rw [← Option.some.inj hn]
      exact hentered
    · cases hn

/-- How far the start that is the `i`-th call has come. -/
def Starts (tr : Traffic σ) (i : Nat) (spec : StreamSpec) (before : List ChannelKey) : Prop :=
  ∃ call, tr.calls[i]? = some call ∧ StartCall spec before tr.feedKeys call

/-- Whether the `i`-th call is a stop. -/
def Stops (tr : Traffic σ) (i : Nat) : Prop := ∃ call, tr.calls[i]? = some call ∧ StopCall call

/-! ## Starts -/

/-- A start that has its handler is through, with a feed of its own, or is refused. -/
theorem starts_launchCall {product : ProductCode} {handler : Handler}
    (hi : i < tr.calls.length) (hkey : (⟨product, handler.kind⟩ : ChannelKey) = spec.key) :
    (tr.launchCall i product handler).Starts i spec tr.feedKeys := by
  unfold launchCall
  cases hlaunch : tr.launch product handler with
  | error cause => exact ⟨_, getElem?_settle hi _, .refused rfl cause⟩
  | ok after =>
    obtain ⟨hafter, hcalls⟩ := feedKeys_launch hlaunch
    rw [hkey] at hafter
    exact ⟨_, getElem?_settle (hcalls ▸ hi) _, .started hafter⟩

theorem IsRegistered.launchCall (h : tr.IsRegistered) (product : ProductCode)
    (handler : Handler) : (tr.launchCall i product handler).IsRegistered := by
  unfold Traffic.launchCall
  cases hlaunch : tr.launch product handler with
  | error cause => exact h
  | ok after =>
    have hafter : after.IsRegistered := h.launch hlaunch
    exact hafter

theorem starts_startCall (hi : i < tr.calls.length) :
    (tr.startCall i spec).Starts i spec tr.feedKeys := by
  unfold startCall
  split
  · next hmerged =>
    split
    · exact ⟨_, getElem?_settle hi _, .fetching rfl hmerged⟩
    · next cause hseed => exact ⟨_, getElem?_settle hi _, .refused rfl cause⟩
  · refine starts_launchCall hi ?_
    rw [FeedClient.plainHandler_kind]
    rfl

theorem IsRegistered.startCall (h : tr.IsRegistered) (spec : StreamSpec) :
    (tr.startCall i spec).IsRegistered := by
  unfold Traffic.startCall
  split
  · split
    · exact h
    · exact h
  · exact h.launchCall spec.productCode _

theorem Starts.advance (h : tr.Starts i spec before) : (tr.advance i).Starts i spec before := by
  obtain ⟨call, hcall, hstart⟩ := h
  have hi : i < tr.calls.length := (List.getElem?_eq_some_iff.mp hcall).1
  unfold Traffic.advance
  rw [hcall]
  cases hstart with
  | starting hkeys =>
    rw [← hkeys]
    exact starts_startCall hi
  | fetching hkeys hmerged => exact ⟨_, hcall, .fetching hkeys hmerged⟩
  | seeded hkeys hmerged seed =>
    rw [← hkeys]
    exact starts_launchCall hi (StreamSpec.key_of_isMerged hmerged seed)
  | started hkeys => exact ⟨_, hcall, .started hkeys⟩
  | refused hkeys cause => exact ⟨_, hcall, .refused hkeys cause⟩

theorem IsRegistered.advance (hregistered : tr.IsRegistered) (h : tr.Starts i spec before) :
    (tr.advance i).IsRegistered := by
  obtain ⟨call, hcall, hstart⟩ := h
  unfold Traffic.advance
  rw [hcall]
  cases hstart with
  | starting => exact hregistered.startCall spec
  | fetching => exact hregistered
  | seeded => exact hregistered.launchCall spec.productCode _
  | started => exact hregistered
  | refused => exact hregistered

theorem Starts.answer (h : tr.Starts i spec before) (reply : Except ClientError Board) :
    (tr.answer i reply).Starts i spec before := by
  obtain ⟨call, hcall, hstart⟩ := h
  have hi : i < tr.calls.length := (List.getElem?_eq_some_iff.mp hcall).1
  unfold Traffic.answer
  rw [hcall]
  cases hstart with
  | starting hkeys => exact ⟨_, hcall, .starting hkeys⟩
  | fetching hkeys hmerged =>
    cases reply with
    | ok seed => exact ⟨_, getElem?_settle hi _, .seeded hkeys hmerged seed⟩
    | error cause => exact ⟨_, getElem?_settle hi _, .refused hkeys cause⟩
  | seeded hkeys hmerged seed => exact ⟨_, hcall, .seeded hkeys hmerged seed⟩
  | started hkeys => exact ⟨_, hcall, .started hkeys⟩
  | refused hkeys cause => exact ⟨_, hcall, .refused hkeys cause⟩

/-- An answer concerns a call only. -/
theorem answer_eq (tr : Traffic σ) (i : Nat) (reply : Except ClientError Board) :
    (tr.answer i reply).client = tr.client ∧ (tr.answer i reply).feedKeys = tr.feedKeys := by
  unfold Traffic.answer
  split
  · cases reply with
    | ok seed => exact ⟨rfl, rfl⟩
    | error cause => exact ⟨rfl, rfl⟩
  · exact ⟨rfl, rfl⟩

/-- What is registered stays so while neither the registry nor the keys change. -/
theorem IsRegistered.of_eq (h : tr.IsRegistered) (hclient : tr'.client = tr.client)
    (hkeys : tr'.feedKeys = tr.feedKeys) : tr'.IsRegistered := by
  intro n key hn
  rw [hclient]
  rw [hkeys] at hn
  exact h n key hn

/-! ## Stops -/

theorem feedKeys_closeCall (n : Nat) : (tr.closeCall i n).feedKeys = tr.feedKeys := by
  unfold closeCall
  split
  · exact feedKeys_changeFeed StoppableFeed.outlives_finish
  · exact feedKeys_changeFeed StoppableFeed.outlives_stopNext

theorem feedKeys_stopCall (key : ChannelKey) : (tr.stopCall i key).feedKeys = tr.feedKeys := by
  unfold stopCall
  split
  · rfl
  · rfl

/-- A stop stays one, and all feeds keep their keys. -/
theorem Stops.advance (h : tr.Stops i) :
    (tr.advance i).Stops i ∧ (tr.advance i).feedKeys = tr.feedKeys := by
  obtain ⟨call, hcall, hstop⟩ := h
  have hi : i < tr.calls.length := (List.getElem?_eq_some_iff.mp hcall).1
  unfold Traffic.advance
  rw [hcall]
  cases hstop with
  | stopping key =>
    refine ⟨?_, feedKeys_stopCall key⟩
    dsimp only
    unfold stopCall
    split
    · exact ⟨_, getElem?_settle hi _, .closing _⟩
    · exact ⟨_, getElem?_settle hi _, .returned _⟩
  | closing n =>
    refine ⟨?_, feedKeys_closeCall n⟩
    dsimp only
    unfold closeCall
    split
    · exact ⟨_, getElem?_settle hi _, .returned _⟩
    · exact ⟨_, hcall, .closing n⟩
  | returned result => exact ⟨⟨_, hcall, .returned result⟩, rfl⟩

theorem Stops.answer (h : tr.Stops i) (reply : Except ClientError Board) :
    (tr.answer i reply).Stops i := by
  obtain ⟨call, hcall, hstop⟩ := h
  unfold Traffic.answer
  rw [hcall]
  cases hstop with
  | stopping key => exact ⟨_, hcall, .stopping key⟩
  | closing n => exact ⟨_, hcall, .closing n⟩
  | returned result => exact ⟨_, hcall, .returned result⟩

end Traffic

namespace RunnerPhase

variable {σ : Type} {phase : RunnerPhase} {tr tr' : Traffic σ} {keys : List ChannelKey}

/-- Whether the streams are being stopped, or were. -/
def isEnding : RunnerPhase → Bool
  | .listing | .stopping _ | .closing _ _ | .joining | .ended _ => true
  | _ => false

/-- What the traffic is beside monitors of some keys: how far the call has come that the runner
waits for, and which feed has no monitor yet. -/
def Fits (tr : Traffic σ) (keys : List ChannelKey) : RunnerPhase → Prop
  | .awaiting i _ spec _ => tr.Starts i spec keys
  | .counting _ spec _ => tr.feedKeys = keys ++ [spec.key]
  | .posting n _ spec _ => tr.feedKeys = keys ++ [spec.key] ∧ n = keys.length
  | .closing i _ => tr.Stops i ∧ tr.feedKeys = keys
  | .ready | .starting .. | .listing | .stopping _ | .joining | .ended _ => tr.feedKeys = keys

/-- A phase fits as long as neither the calls nor the keys of the feeds change. -/
theorem Fits.of_eq (h : phase.Fits tr keys) (hcalls : tr'.calls = tr.calls)
    (hkeys : tr'.feedKeys = tr.feedKeys) : phase.Fits tr' keys := by
  cases phase with
  | awaiting i begun spec rest =>
    show tr'.Starts i spec keys
    rw [Traffic.Starts, hcalls, hkeys]
    exact h
  | closing i keys' =>
    show tr'.Stops i ∧ tr'.feedKeys = keys
    rw [Traffic.Stops, hcalls, hkeys]
    exact h
  | counting begun spec rest => exact hkeys.trans h
  | posting n begun spec rest => exact ⟨hkeys.trans h.1, h.2⟩
  | ready => exact hkeys.trans h
  | starting begun rest => exact hkeys.trans h
  | listing => exact hkeys.trans h
  | stopping keys' => exact hkeys.trans h
  | joining => exact hkeys.trans h
  | ended summary => exact hkeys.trans h

/-- The runner waits for the start or for the stop of a stream. -/
theorem eq_of_call? {i : Nat} (h : phase.call? = some i) :
    (∃ begun spec rest, phase = .awaiting i begun spec rest) ∨ ∃ keys, phase = .closing i keys := by
  cases phase with
  | awaiting i' begun spec rest =>
    obtain rfl : i' = i := Option.some.inj h
    exact .inl ⟨begun, spec, rest, rfl⟩
  | closing i' keys =>
    obtain rfl : i' = i := Option.some.inj h
    exact .inr ⟨keys, rfl⟩
  | _ => cases h

end RunnerPhase

namespace Runner

variable {σ : Type} {t : Transport σ} {r after : Runner σ} {events : List RunnerEvent}

/-- The keys of the monitors, in their order. -/
def monitorKeys (r : Runner σ) : List ChannelKey := r.monitors.map Monitor.key

/-- Whether the `n`-th monitor is that of the `n`-th feed, and no key has two feeds. -/
structure Numbered (r : Runner σ) : Prop where
  monitors : r.monitors.map Monitor.feed = List.range r.monitors.length
  fits : r.phase.Fits r.traffic r.monitorKeys
  registered : r.phase.isEnding = false → r.traffic.IsRegistered
  nodup : r.traffic.feedKeys.Nodup

theorem numbered_idle (config : RealtimeConfig) (calls : Option Client) :
    (idle config calls : Runner σ).Numbered where
  monitors := rfl
  fits := rfl
  registered _ n key hn := by cases hn
  nodup := List.nodup_nil

/-! ## Moves of the traffic -/

/-- A worker changes its own feed only. -/
theorem Numbered.worked (h : r.Numbered) (n : Nat) (m : FeedMove σ) :
    (r.carry t (.worked n m)).1.Numbered := by
  have hkeys : (r.carry t (.worked n m)).1.traffic.feedKeys = r.traffic.feedKeys :=
    Traffic.feedKeys_changeFeed fun f => StoppableFeed.outlives_work t f m
  refine ⟨h.monitors, h.fits.of_eq rfl hkeys, fun hending => ?_, ?_⟩
  · exact (h.registered hending).of_eq rfl hkeys
  · rw [hkeys]
    exact h.nodup

/-- The call that the runner waits for is a start or a stop, and goes on as such. -/
theorem Numbered.called (h : r.Numbered) {i : Nat} {tr : Traffic σ}
    (hcall : r.phase.call? = some i)
    (hstart : ∀ spec keys, r.traffic.Starts i spec keys →
      tr.Starts i spec keys ∧ (r.traffic.IsRegistered → tr.IsRegistered))
    (hstop : r.traffic.Stops i → tr.Stops i ∧ tr.feedKeys = r.traffic.feedKeys)
    (accounts : Accounts) : Numbered { r with traffic := tr, accounts } := by
  have hfits := h.fits
  rcases RunnerPhase.eq_of_call? hcall with ⟨begun, spec, rest, hphase⟩ | ⟨keys, hphase⟩
  · rw [hphase] at hfits
    obtain ⟨hafter, hregister⟩ := hstart spec r.monitorKeys hfits
    have hregistered := hregister (h.registered (by rw [hphase]; rfl))
    refine ⟨h.monitors, ?_, fun _ => hregistered, hregistered.nodup⟩
    show r.phase.Fits tr r.monitorKeys
    rw [hphase]
    exact hafter
  · rw [hphase] at hfits
    obtain ⟨hafter, hkeys⟩ := hstop hfits.1
    refine ⟨h.monitors, ?_, fun hending => ?_, hkeys.symm ▸ h.nodup⟩
    · show r.phase.Fits tr r.monitorKeys
      rw [hphase]
      exact ⟨hafter, hkeys.trans hfits.2⟩
    · rw [show r.phase.isEnding = true by rw [hphase]; rfl] at hending
      cases hending

theorem Numbered.carried (h : r.Numbered) {m : TrafficMove σ} (hm : r.Carries m) :
    (r.carry t m).1.Numbered := by
  cases hm with
  | worked n m => exact h.worked n m
  | advanced i hcall =>
    exact h.called hcall
      (fun spec keys hstart => ⟨hstart.advance, fun hregistered => hregistered.advance hstart⟩)
      (fun hstop => hstop.advance) _
  | answered i reply hcall =>
    obtain ⟨hclient, hkeys⟩ := Traffic.answer_eq r.traffic i reply
    exact h.called hcall
      (fun spec keys hstart =>
        ⟨hstart.answer reply, fun hregistered => hregistered.of_eq hclient hkeys⟩)
      (fun hstop => ⟨hstop.answer reply, hkeys⟩) _

/-! ## Moves of the runner and of the monitors -/

/-- After a start nothing was stopped yet, so the feed is found, and it is the last one. -/
theorem Numbered.find?_of_counting (h : r.Numbered) {begun : List StreamSpec}
    {spec : StreamSpec} {rest : List StreamSpec} (hphase : r.phase = .counting begun spec rest) :
    r.traffic.client.find? spec.key = some r.monitorKeys.length := by
  have hfits := h.fits
  rw [hphase] at hfits
  refine h.registered (by rw [hphase]; rfl) _ _ ?_
  rw [show r.traffic.feedKeys = r.monitorKeys ++ [spec.key] from hfits]
  exact List.getElem?_concat_length

/-- A phase that asks nothing of the calls, after another that has as many feeds. -/
theorem Numbered.rephased (h : r.Numbered) {tr : Traffic σ} {phase : RunnerPhase}
    (accounts : Accounts) (hclient : tr.client = r.traffic.client)
    (hfeeds : tr.feedKeys = r.traffic.feedKeys) (hfits : phase.Fits tr r.monitorKeys)
    (hending : phase.isEnding = false → r.phase.isEnding = false) :
    Numbered { r with traffic := tr, accounts, phase } where
  monitors := h.monitors
  fits := hfits
  registered hafter := (h.registered (hending hafter)).of_eq hclient hfeeds
  nodup := hfeeds.symm ▸ h.nodup

theorem Numbered.phased (h : r.Numbered) (hcase : PhaseCase r after events) :
    after.Numbered := by
  have hfits := h.fits
  cases hcase with
  | startsCalled specs hphase =>
    rw [hphase] at hfits
    exact h.rephased _ rfl rfl hfits fun _ => by rw [hphase]; rfl
  | startsReturned begun hphase =>
    rw [hphase] at hfits
    exact h.rephased _ rfl rfl hfits fun _ => by rw [hphase]; rfl
  | startCalled begun spec rest hphase =>
    rw [hphase] at hfits
    refine h.rephased _ rfl rfl ⟨.starting spec, ?_, .starting hfits⟩ fun _ => by rw [hphase]; rfl
    exact List.getElem?_concat_length
  | started i begun spec rest hphase hcall =>
    rw [hphase] at hfits
    obtain ⟨call, hcall', hstart⟩ := hfits
    obtain rfl := Option.some.inj (hcall.symm.trans hcall')
    cases hstart with
    | started hkeys => exact h.rephased _ rfl rfl hkeys fun _ => by rw [hphase]; rfl
  | refused i begun spec rest cause hphase hcall =>
    rw [hphase] at hfits
    obtain ⟨call, hcall', hstart⟩ := hfits
    obtain rfl := Option.some.inj (hcall.symm.trans hcall')
    cases hstart with
    | refused hkeys => exact h.rephased _ rfl rfl hkeys fun _ => by rw [hphase]; rfl
  | missed begun spec rest hphase hfind =>
    rw [h.find?_of_counting hphase] at hfind
    cases hfind
  | shutdownCalled hphase =>
    rw [hphase] at hfits
    exact h.rephased _ rfl rfl hfits nofun
  | listed keys hphase =>
    rw [hphase] at hfits
    exact h.rephased _ rfl rfl hfits nofun
  | stopCalled key keys hphase =>
    rw [hphase] at hfits
    refine h.rephased _ rfl rfl ⟨⟨.stopping key, ?_, .stopping key⟩, hfits⟩ nofun
    exact List.getElem?_concat_length
  | stopReturned i keys hphase =>
    rw [hphase] at hfits
    exact h.rephased _ rfl rfl hfits.2 nofun
  | stopsReturned hphase =>
    rw [hphase] at hfits
    exact h.rephased _ rfl rfl hfits nofun
  | joined hphase hreturned =>
    rw [hphase] at hfits
    exact h.rephased _ rfl rfl hfits nofun

theorem Numbered.counted (h : r.Numbered) {n : Nat} {begun : List StreamSpec}
    {spec : StreamSpec} {rest : List StreamSpec} (hphase : r.phase = .counting begun spec rest)
    (hfind : r.traffic.client.find? spec.key = some n) :
    Numbered { r with accounts := r.accounts.countIn, phase := .posting n begun spec rest } := by
  have hfits := h.fits
  rw [hphase] at hfits
  have hn : n = r.monitorKeys.length :=
    Option.some.inj (hfind.symm.trans (h.find?_of_counting hphase))
  exact h.rephased _ rfl rfl ⟨hfits, hn⟩ fun _ => by rw [hphase]; rfl

theorem Numbered.posted (h : r.Numbered) {n : Nat} {begun : List StreamSpec}
    {spec : StreamSpec} {rest : List StreamSpec}
    (hphase : r.phase = .posting n begun spec rest) :
    Numbered { r with
      monitors := r.monitors ++ [⟨spec.key, n, .fresh⟩]
      accounts := r.accounts.watch spec.key
      phase := .starting (begun ++ [spec]) rest } := by
  have hfits := h.fits
  rw [hphase] at hfits
  obtain ⟨hkeys, hn⟩ := hfits
  refine ⟨?_, ?_, fun _ => h.registered (by rw [hphase]; rfl), h.nodup⟩
  · rw [monitorKeys, List.length_map] at hn
    show (r.monitors ++ [Monitor.mk spec.key n .fresh]).map Monitor.feed = _
    rw [List.map_append, h.monitors, List.length_append, List.length_singleton, List.range_succ, hn]
    rfl
  · show r.traffic.feedKeys = (r.monitors ++ [Monitor.mk spec.key n .fresh]).map Monitor.key
    rw [List.map_append, hkeys]
    rfl

theorem map_set_of_eq {α β : Type} {l : List α} {j : Nat} {a b : α} {f : α → β}
    (ha : l[j]? = some a) (hf : f b = f a) : (l.set j b).map f = l.map f := by
  rw [List.map_set, hf]
  refine List.ext_getElem? fun n => ?_
  by_cases hn : j = n
  · subst hn
    rw [List.getElem?_set_self', List.getElem?_map, ha]
    rfl
  · rw [List.getElem?_set_ne hn]

/-- A monitor keeps its key and its feed. -/
theorem Numbered.bring (h : r.Numbered) {j : Nat} {mon : Monitor}
    (hmon : r.monitors[j]? = some mon) (stage : MonitorStage) (accounts : Accounts) :
    (r.bring j mon stage accounts).Numbered := by
  have hkeys : (r.bring j mon stage accounts).monitorKeys = r.monitorKeys :=
    map_set_of_eq hmon rfl
  refine ⟨?_, ?_, h.registered, h.nodup⟩
  · show (r.monitors.set j { mon with stage }).map Monitor.feed = _
    rw [map_set_of_eq hmon (show ({ mon with stage } : Monitor).feed = mon.feed from rfl),
      h.monitors]
    exact congrArg List.range List.length_set.symm
  · rw [hkeys]
    exact h.fits

/-- **Every move keeps the numbers.** -/
theorem Numbered.move (h : r.Numbered) (hcase : MoveCase t r after events) : after.Numbered := by
  cases hcase with
  | rested => exact h
  | carried m hm => exact h.carried hm
  | phased hcase => exact h.phased hcase
  | counted n begun spec rest hphase hfind => exact h.counted hphase hfind
  | posted n begun spec rest hphase => exact h.posted hphase
  | attended j mon hmon hcase => exact h.bring hmon _ _
  | signalled => exact ⟨h.monitors, h.fits, h.registered, h.nodup⟩

/-! ## What the numbers say -/

theorem Numbered.feed_eq (h : r.Numbered) {j : Nat} {mon : Monitor}
    (hmon : r.monitors[j]? = some mon) : mon.feed = j := by
  have hj : j < r.monitors.length := (List.getElem?_eq_some_iff.mp hmon).1
  have hfeed := congrArg (fun l => l[j]?) h.monitors
  rw [List.getElem?_map, hmon, List.getElem?_range hj] at hfeed
  exact Option.some.inj hfeed

/-- At most the last feed has no monitor. -/
theorem Numbered.monitorKeys_prefix (h : r.Numbered) : r.monitorKeys <+: r.traffic.feedKeys := by
  have hsame (hkeys : r.traffic.feedKeys = r.monitorKeys) : r.monitorKeys <+: r.traffic.feedKeys :=
    hkeys ▸ List.prefix_rfl
  have hfits := h.fits
  cases hphase : r.phase with
  | awaiting i begun spec rest =>
    rw [hphase] at hfits
    obtain ⟨call, -, hstart⟩ := hfits
    cases hstart with
    | started hkeys => exact ⟨_, hkeys.symm⟩
    | starting hkeys => exact hsame hkeys
    | fetching hkeys hmerged => exact hsame hkeys
    | seeded hkeys hmerged seed => exact hsame hkeys
    | refused hkeys cause => exact hsame hkeys
  | counting begun spec rest =>
    rw [hphase] at hfits
    exact ⟨_, Eq.symm hfits⟩
  | posting n begun spec rest =>
    rw [hphase] at hfits
    exact ⟨_, hfits.1.symm⟩
  | closing i keys =>
    rw [hphase] at hfits
    exact hsame hfits.2
  | _ =>
    rw [hphase] at hfits
    exact hsame hfits

/-- The `j`-th monitor has the key of the `j`-th feed. -/
theorem Numbered.getElem?_feedKeys (h : r.Numbered) {j : Nat} {mon : Monitor}
    (hmon : r.monitors[j]? = some mon) : r.traffic.feedKeys[j]? = some mon.key := by
  obtain ⟨rest, hrest⟩ := h.monitorKeys_prefix
  have hj : j < r.monitorKeys.length := by
    rw [monitorKeys, List.length_map]
    exact (List.getElem?_eq_some_iff.mp hmon).1
  rw [← hrest, List.getElem?_append_left hj, monitorKeys, List.getElem?_map, hmon]
  rfl

end Runner
end ExchangeClient
