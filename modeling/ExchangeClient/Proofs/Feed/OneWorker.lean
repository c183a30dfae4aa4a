import ExchangeClient.Feed.Traffic
import ExchangeClient.Proofs.Feed.Registry
import ExchangeClient.Proofs.Feed.Running

/-!
# One worker for each key

The registry holds one stream for each key, but a worker may outlive its entry: a stop takes
the stream out first and waits for the worker afterwards, so that a slow peer holds up nobody
else.  Meanwhile the key is free, and a start of the same key puts a second worker beside the
first.

So what holds of any traffic is this: a worker that has not exited is the one registered under
its key, or a stop that has not returned yet is bringing it to its end (`IsAccounted`).  Of the
workers that no stop is after, there is at most one for each key.

Entering a stream, taking one out and every move of a worker keep to it; a stop gives its feed
up only when the worker has exited, and a worker that has exited stays so.
-/

namespace ExchangeClient
namespace Traffic

variable {σ : Type} {tr : Traffic σ} {key : ChannelKey} {i n : Nat}

/-- Whether the `n`-th worker was started for a key and has not exited. -/
def IsLive (tr : Traffic σ) (key : ChannelKey) (n : Nat) : Prop :=
  ∃ f, tr.feeds[n]? = some f ∧ f.feed.key = key ∧ f.feed.manager.isRunning = true

/-- Whether a stop that has not returned yet is bringing the `n`-th feed to its end. -/
def IsClosing (tr : Traffic σ) (n : Nat) : Prop := .closing n ∈ tr.calls

/-- Whether every worker that has not exited is registered or being stopped. -/
def IsAccounted (tr : Traffic σ) : Prop :=
  ∀ key n, tr.IsLive key n → tr.client.find? key = some n ∨ tr.IsClosing n

/-! ## One thing at a time -/

/-- A call that is brought further leaves the other stops as they are. -/
theorem IsClosing.settle (h : tr.IsClosing n) (call : ClientCall)
    (hother : tr.calls[i]? ≠ some (.closing n)) : (tr.settle i call).IsClosing n := by
  obtain ⟨j, hj⟩ := List.mem_iff_getElem?.mp h
  have hne : i ≠ j := by
    rintro rfl
    exact hother hj
  refine List.mem_iff_getElem?.mpr ⟨j, ?_⟩
  show (tr.calls.set i call)[j]? = some (.closing n)
  rw [List.getElem?_set_ne hne, hj]

/-- A call may be brought further unless it is a stop whose worker has not exited. -/
theorem IsAccounted.settle (h : tr.IsAccounted) (call : ClientCall)
    (hidle : ∀ key n, tr.calls[i]? = some (.closing n) → ¬ tr.IsLive key n) :
    (tr.settle i call).IsAccounted := by
  intro key n hlive
  rcases h key n hlive with hfind | hclosing
  · exact Or.inl hfind
  · exact Or.inr (hclosing.settle call fun hn => hidle key n hn hlive)

/-- A call that is no stop may be brought further at any time. -/
theorem IsAccounted.settle_of_ne (h : tr.IsAccounted) (call : ClientCall)
    (hother : ∀ n, tr.calls[i]? ≠ some (.closing n)) : (tr.settle i call).IsAccounted :=
  h.settle call fun _ n hn _ => hother n hn

/-- A changed feed is live only if it was. -/
theorem isLive_of_changeFeed {change : StoppableFeed σ → StoppableFeed σ} {m : Nat}
    (hchange : ∀ f, StoppableFeed.Outlives f (change f))
    (h : (tr.changeFeed m change).IsLive key n) : tr.IsLive key n := by
  obtain ⟨after, hafter, hkey, hrunning⟩ := h
  rw [changeFeed, List.getElem?_modify] at hafter
  obtain ⟨f, hf, rfl⟩ := Option.map_eq_some_iff.mp hafter
  refine ⟨f, hf, ?_⟩
  split at hkey
  · next heq =>
    rw [if_pos heq] at hrunning
    exact ⟨(hchange f).key.symm.trans hkey, (hchange f).running hrunning⟩
  · next hne =>
    rw [if_neg hne] at hrunning
    exact ⟨hkey, hrunning⟩

theorem IsAccounted.changeFeed {change : StoppableFeed σ → StoppableFeed σ}
    (h : tr.IsAccounted) (m : Nat) (hchange : ∀ f, StoppableFeed.Outlives f (change f)) :
    (tr.changeFeed m change).IsAccounted :=
  fun key n hlive => h key n (isLive_of_changeFeed hchange hlive)

/-! ## Starts -/

/-- A stream that is entered has a feed of its own behind all others. -/
theorem launch_eq_ok {tr' : Traffic σ} {product : ProductCode} {handler : Handler}
    (h : tr.launch product handler = .ok tr') :
    ∃ feed client, feed.key = ⟨product, handler.kind⟩ ∧
      tr.client.enter ⟨product, handler.kind⟩ (.ok tr.feeds.length) = .ok client ∧
      tr' = { tr with client, feeds := tr.feeds ++ [.ofFeed feed] } := by
  unfold launch at h
  dsimp only at h
  generalize hstart : Feed.start tr.client.config
    (.ofHandler product handler tr.client.config.connection) = started at h
  cases started with
  | error cause =>
    generalize henter : tr.client.enter _ _ = entered at h
    cases entered with
    | error cause' => cases h
    | ok client =>
      obtain ⟨_, hmake, -⟩ := FeedClient.find?_enter henter
      cases hmake
  | ok feed =>
    generalize henter : tr.client.enter _ _ = entered at h
    cases entered with
    | error cause => cases h
    | ok client =>
      refine ⟨feed, client, ?_, henter, (Except.ok.inj h).symm⟩
      rw [Feed.key, Feed.subscriber_of_start hstart]
      rfl

theorem IsAccounted.launch {tr' : Traffic σ} {product : ProductCode} {handler : Handler}
    (h : tr.IsAccounted) (hlaunch : tr.launch product handler = .ok tr') : tr'.IsAccounted := by
  obtain ⟨feed, client, hkey, henter, rfl⟩ := launch_eq_ok hlaunch
  obtain ⟨m, hm, hfree, hentered, -, hothers⟩ := FeedClient.find?_enter henter
  obtain rfl := Except.ok.inj hm
  rintro key n ⟨f, hf, hfkey, hrunning⟩
  rcases Nat.lt_or_ge n tr.feeds.length with hlt | hge
  · rw [List.getElem?_append_left hlt] at hf
    rcases h key n ⟨f, hf, hfkey, hrunning⟩ with hfind | hclosing
    · have hne : key ≠ ⟨product, handler.kind⟩ := by
        rintro rfl
        rw [hfree] at hfind
        cases hfind
      exact Or.inl ((hothers key hne).trans hfind)
    · exact Or.inr hclosing
  · -- The feed is the new one, and its number is the one that was registered.
    obtain ⟨rfl, rfl⟩ : n = tr.feeds.length ∧ StoppableFeed.ofFeed feed = f := by
      rw [List.getElem?_append_right hge] at hf
      have hlt := (List.getElem?_eq_some_iff.mp hf).1
      rw [List.length_singleton] at hlt
      obtain rfl : n = tr.feeds.length := by omega
      rw [Nat.sub_self] at hf
      exact ⟨rfl, Option.some.inj hf⟩
    rw [← hfkey]
    exact Or.inl ((congrArg client.find? hkey).trans hentered)

theorem IsAccounted.launchCall (h : tr.IsAccounted) (product : ProductCode) (handler : Handler)
    (hother : ∀ n, tr.calls[i]? ≠ some (.closing n)) :
    (tr.launchCall i product handler).IsAccounted := by
  unfold Traffic.launchCall
  cases hlaunch : tr.launch product handler with
  | error cause => exact h.settle_of_ne _ hother
  | ok tr' =>
    obtain ⟨feed, client, -, -, rfl⟩ := launch_eq_ok hlaunch
    exact (h.launch hlaunch).settle_of_ne _ hother

theorem IsAccounted.startCall (h : tr.IsAccounted) (spec : StreamSpec)
    (hother : ∀ n, tr.calls[i]? ≠ some (.closing n)) : (tr.startCall i spec).IsAccounted := by
  unfold Traffic.startCall
  split
  · split
    · exact h.settle_of_ne _ hother
    · exact h.settle_of_ne _ hother
  · exact h.launchCall spec.productCode _ hother

/-! ## Stops -/

/-- The worker that was registered is being stopped from the moment its stream is taken out. -/
theorem IsAccounted.stopCall (h : tr.IsAccounted)
    (hi : tr.calls[i]? = some (.stopping key)) : (tr.stopCall i key).IsAccounted := by
  have hother (n : Nat) : tr.calls[i]? ≠ some (.closing n) := by
    rw [hi]
    simp
  unfold Traffic.stopCall
  cases htake : tr.client.take key with
  | error cause => exact h.settle_of_ne _ hother
  | ok taken =>
    obtain ⟨m, client⟩ := taken
    obtain ⟨hfound, -, hothers⟩ := FeedClient.find?_take htake
    intro key' n hlive
    rcases h key' n hlive with hfind | hclosing
    · by_cases hkey : key' = key
      · subst hkey
        obtain rfl := Option.some.inj (hfound.symm.trans hfind)
        refine Or.inr ?_
        show ClientCall.closing m ∈ tr.calls.set i (.closing m)
        exact List.mem_set (List.getElem?_eq_some_iff.mp hi).1 _
      · exact Or.inl ((hothers key' hkey).trans hfind)
    · exact Or.inr (hclosing.settle (.closing m) (hother n))

/-- A stop returns only when the worker of its feed has exited. -/
theorem IsAccounted.closeCall (h : tr.IsAccounted) (hi : tr.calls[i]? = some (.closing n)) :
    (tr.closeCall i n).IsAccounted := by
  unfold Traffic.closeCall
  split
  · refine (h.changeFeed n StoppableFeed.outlives_finish).settle _ fun key m hm hlive => ?_
    obtain rfl : n = m := by
      injection hi.symm.trans hm with hsame
      exact ClientCall.closing.inj hsame
    obtain ⟨after, hafter, -, hrunning⟩ := hlive
    rw [Traffic.changeFeed, List.getElem?_modify_eq] at hafter
    obtain ⟨f, -, rfl⟩ := Option.map_eq_some_iff.mp hafter
    rw [StoppableFeed.finish, Manager.isRunning_finish] at hrunning
    cases hrunning
  · exact h.changeFeed n StoppableFeed.outlives_stopNext

/-! ## Moves and runs -/

theorem IsAccounted.advance (h : tr.IsAccounted) (i : Nat) : (tr.advance i).IsAccounted := by
  unfold Traffic.advance
  split
  · next spec hi => exact h.startCall spec fun n => by rw [hi]; simp
  · next spec seed hi => exact h.launchCall spec.productCode _ fun n => by rw [hi]; simp
  · next key hi => exact h.stopCall hi
  · next n hi => exact h.closeCall hi
  · exact h
  · exact h
  · exact h

theorem IsAccounted.answer (h : tr.IsAccounted) (i : Nat) (reply : Except ClientError Board) :
    (tr.answer i reply).IsAccounted := by
  unfold Traffic.answer
  split
  · next spec hi =>
    have hother (n : Nat) : tr.calls[i]? ≠ some (.closing n) := by
      rw [hi]
      simp
    split
    · exact h.settle_of_ne _ hother
    · exact h.settle_of_ne _ hother
  · exact h

/-- A new call changes neither the registry nor the feeds. -/
theorem IsAccounted.call (h : tr.IsAccounted) (call : ClientCall) :
    IsAccounted { tr with calls := tr.calls ++ [call] } :=
  fun key n hlive => (h key n hlive).imp id fun hclosing => List.mem_append_left _ hclosing

/-- **Every move keeps to it.** -/
theorem IsAccounted.move (t : Transport σ) (h : tr.IsAccounted) (m : TrafficMove σ) :
    (tr.move t m).IsAccounted := by
  cases m with
  | startCalled spec => exact h.call (.starting spec)
  | stopCalled key => exact h.call (.stopping key)
  | advanced i => exact h.advance i
  | answered i reply => exact h.answer i reply
  | worked n m => exact h.changeFeed n fun f => StoppableFeed.outlives_work t f m

theorem IsAccounted.run (t : Transport σ) (h : tr.IsAccounted) (ms : List (TrafficMove σ)) :
    (tr.run t ms).IsAccounted := by
  induction ms generalizing tr with
  | nil => exact h
  | cons m ms ih => exact ih (h.move t m)

theorem isAccounted_idle (config : RealtimeConfig) (calls : Option Client) :
    (idle config calls : Traffic σ).IsAccounted := by
  rintro key n ⟨f, hf, -⟩
  cases hf

/-- **Of the workers that no stop is after there is at most one for each key.**  In any traffic
on a new client, two workers of one key that have not exited are the same, or a stop that has
not returned yet has taken one of them out and is bringing it to its end. -/
theorem live_eq_or_closing (t : Transport σ) (config : RealtimeConfig) (calls : Option Client)
    (ms : List (TrafficMove σ)) (key : ChannelKey) (m n : Nat)
    (hm : ((idle config calls).run t ms).IsLive key m)
    (hn : ((idle config calls).run t ms).IsLive key n) :
    m = n ∨ ((idle config calls).run t ms).IsClosing m ∨
      ((idle config calls).run t ms).IsClosing n := by
  have haccounted := (isAccounted_idle config calls).run t ms
  rcases haccounted key m hm with hfindm | hclosing
  · rcases haccounted key n hn with hfindn | hclosing
    · exact Or.inl (Option.some.inj (hfindm.symm.trans hfindn))
    · exact Or.inr (Or.inr hclosing)
  · exact Or.inr (Or.inl hclosing)

/-! ## A start during a stop -/

/-- Settings for an exchange on the same machine. -/
def nearbyConfig : RealtimeConfig := ⟨"ws://[::]", [], .usual⟩

/-- The ticker of a product. -/
def tickerSpec : StreamSpec := ⟨"BTC_JPY", .ticker, false⟩

/-- A ticker is started and connected; a stop takes it out; and before its worker has seen the
request, another start of the same ticker is through and connected. -/
def restartDuringStop : Traffic Unit :=
  (idle nearbyConfig none).run .muted
    [.startCalled tickerSpec, .advanced 0, .worked 0 (.dialAnswered (.ok ())),
      .stopCalled tickerSpec.key, .advanced 1,
      .startCalled tickerSpec, .advanced 2, .worked 1 (.dialAnswered (.ok ()))]

/-- The first of the two workers is the one that is being stopped. -/
theorem restartDuringStop_closing :
    restartDuringStop.IsLive tickerSpec.key 0 ∧ restartDuringStop.IsLive tickerSpec.key 1 ∧
      (0 = 1 ∨ restartDuringStop.IsClosing 0 ∨ restartDuringStop.IsClosing 1) := by
  have hfirst : restartDuringStop.IsLive tickerSpec.key 0 := ⟨_, rfl, rfl, rfl⟩
  have hsecond : restartDuringStop.IsLive tickerSpec.key 1 := ⟨_, rfl, rfl, rfl⟩
  exact ⟨hfirst, hsecond,
    live_eq_or_closing .muted nearbyConfig none _ tickerSpec.key 0 1 hfirst hsecond⟩

/-- Two workers of one key can run at the same time, each with a connection of its own. -/
theorem restartDuringStop_two_live :
    restartDuringStop.IsLive tickerSpec.key 0 ∧ restartDuringStop.IsLive tickerSpec.key 1 ∧
      restartDuringStop.feeds.map (fun f => f.feed.link.isSome) = [true, true] ∧
      ¬ ∀ m n, restartDuringStop.IsLive tickerSpec.key m →
        restartDuringStop.IsLive tickerSpec.key n → m = n := by
  have hfirst : restartDuringStop.IsLive tickerSpec.key 0 := ⟨_, rfl, rfl, rfl⟩
  have hsecond : restartDuringStop.IsLive tickerSpec.key 1 := ⟨_, rfl, rfl, rfl⟩
  refine ⟨hfirst, hsecond, rfl, fun honly => ?_⟩
  exact absurd (honly 0 1 hfirst hsecond) (by decide)

end Traffic
end ExchangeClient
