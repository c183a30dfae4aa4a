import ExchangeClient.Proofs.Feed.Delivery
import ExchangeClient.Proofs.Runner.Hearing
import ExchangeClient.Proofs.Runner.Stopped

/-!
# What the counters count

A counter is found under the key of a stream, and what it counts is done by a feed.  Since no two
feeds of a runner have the same key, the counter under the key of the `n`-th feed is that of the
`n`-th feed alone (`Accounts.Balanced`).  It stands at the number of updates that the feed has
delivered so far, on whatever connections (`Counts.run`).

A start that is refused enters no feed, and leaves no counter behind.
-/

namespace ExchangeClient

namespace Accounts

variable {a : Accounts} {keys : List ChannelKey} {key other : ChannelKey} {count : Nat → Nat}
  {i n k : Nat}

/-- Whether there is one counter for each of some keys, and none besides, and the counter under the
`i`-th key stands at `count i`. -/
structure Balanced (a : Accounts) (keys : List ChannelKey) (count : Nat → Nat) : Prop where
  nodup : (a.counters.map Prod.fst).Nodup
  mem_iff : ∀ key n, (key, n) ∈ a.counters ↔ ∃ i, keys[i]? = some key ∧ n = count i

theorem mem_setCounter :
    (other, k) ∈ (a.setCounter key n).counters ↔
      (other ≠ key ∧ (other, k) ∈ a.counters) ∨ (other = key ∧ k = n) := by
  simp [setCounter, and_comm]

theorem nodup_setCounter (h : (a.counters.map Prod.fst).Nodup) :
    ((a.setCounter key n).counters.map Prod.fst).Nodup := by
  rw [setCounter, List.map_append, List.nodup_append]
  refine ⟨h.sublist (List.filter_sublist.map Prod.fst), List.nodup_singleton key, ?_⟩
  intro k hk k' hk'
  obtain ⟨entry, hentry, rfl⟩ := List.mem_map.mp hk
  rw [List.mem_singleton.mp hk']
  simpa using (List.mem_filter.mp hentry).2

/-- A stream that is entered has delivered nothing. -/
theorem Balanced.setCounter (h : a.Balanced keys count) (hnew : key ∉ keys)
    (hzero : count keys.length = 0) : (a.setCounter key 0).Balanced (keys ++ [key]) count where
  nodup := nodup_setCounter h.nodup
  mem_iff other k := by
    rw [mem_setCounter, h.mem_iff]
    constructor
    · rintro (⟨-, i, hi, rfl⟩ | ⟨rfl, rfl⟩)
      · exact ⟨i, getElem?_concat_iff.mpr (.inl hi), rfl⟩
      · exact ⟨keys.length, getElem?_concat_iff.mpr (.inr ⟨rfl, rfl⟩), hzero.symm⟩
    · rintro ⟨i, hi, rfl⟩
      rcases getElem?_concat_iff.mp hi with hold | ⟨rfl, rfl⟩
      · left
        refine ⟨?_, i, hold, rfl⟩
        rintro rfl
        exact hnew (List.mem_of_getElem? hold)
      · exact .inr ⟨rfl, hzero⟩

theorem Balanced.setCounters {σ : Type} (feeds : List (StoppableFeed σ))
    (h : a.Balanced keys count) (hnodup : (keys ++ feeds.map fun f => f.feed.key).Nodup)
    (hzero : ∀ n, keys.length ≤ n → count n = 0) :
    (feeds.foldl (fun a f => a.setCounter f.feed.key 0) a).Balanced
      (keys ++ feeds.map fun f => f.feed.key) count := by
  induction feeds generalizing a keys with
  | nil =>
    rw [List.map_nil, List.append_nil]
    exact h
  | cons f feeds ih =>
    rw [List.map_cons, List.append_cons] at hnodup ⊢
    have hnew : f.feed.key ∉ keys := fun hmem =>
      (List.nodup_append.mp (List.nodup_append.mp hnodup).1).2.2 _ hmem _ (by simp) rfl
    refine ih (h.setCounter hnew (hzero _ (Nat.le_refl _))) hnodup fun n hn => hzero n ?_
    rw [List.length_append] at hn
    omega

theorem Balanced.lookup (h : a.Balanced keys count) (hkeys : keys.Nodup)
    (hi : keys[i]? = some key) : a.counters.lookup key = some (count i) := by
  have hmem : (key, count i) ∈ a.counters := (h.mem_iff key _).mpr ⟨i, hi, rfl⟩
  cases hfind : a.counters.lookup key with
  | none => simpa using List.lookup_eq_none_iff.mp hfind _ hmem
  | some n =>
    obtain ⟨before, after, hcounters, -⟩ := List.lookup_eq_some_iff.mp hfind
    obtain ⟨j, hj, rfl⟩ := (h.mem_iff key n).mp (by simp [hcounters])
    have hlt : i < keys.length := (List.getElem?_eq_some_iff.mp hi).1
    rw [(List.getElem?_inj hlt hkeys).mp (hi.trans hj.symm)]

/-- What a stream delivers is counted under its own key. -/
theorem Balanced.deliver {count' : Nat → Nat} (h : a.Balanced keys count) (hkeys : keys.Nodup)
    (hi : keys[i]? = some key) (hself : count' i = count i + k)
    (hothers : ∀ j, j ≠ i → count' j = count j) : (a.deliver key k).Balanced keys count' := by
  have hlt : i < keys.length := (List.getElem?_eq_some_iff.mp hi).1
  have hplace {j : Nat} (hj : keys[j]? = some key) : j = i :=
    ((List.getElem?_inj hlt hkeys).mp (hi.trans hj.symm)).symm
  have hlookup := h.lookup hkeys hi
  unfold Accounts.deliver
  split
  · refine ⟨nodup_setCounter h.nodup, fun other n => ?_⟩
    rw [mem_setCounter, h.mem_iff, Accounts.count, hlookup, Option.getD_some, ← hself]
    constructor
    · rintro (⟨hne, j, hj, rfl⟩ | ⟨rfl, rfl⟩)
      · refine ⟨j, hj, (hothers j ?_).symm⟩
        rintro rfl
        exact hne (Option.some.inj (hj.symm.trans hi))
      · exact ⟨i, hi, rfl⟩
    · rintro ⟨j, hj, rfl⟩
      by_cases hji : j = i
      · subst hji
        exact .inr ⟨Option.some.inj (hj.symm.trans hi), rfl⟩
      · refine .inl ⟨?_, j, hj, hothers j hji⟩
        rintro rfl
        exact hji (hplace hj)
  · next hnothing =>
    -- There is such a counter, so it is left alone only when nothing was delivered.
    have hk : k = 0 := by simpa [hlookup] using hnothing
    have hsame : count' = count := by
      funext j
      by_cases hji : j = i
      · rw [hji, hself, hk, Nat.add_zero]
      · exact hothers j hji
    rw [hsame]
    exact h

/-- The counters are those of the keys, in whatever order. -/
theorem Balanced.perm (h : a.Balanced keys count) (hkeys : keys.Nodup) :
    a.counters.Perm (keys.mapIdx fun i key => (key, count i)) := by
  have hmapped : (keys.mapIdx fun i key => (key, count i)).map Prod.fst = keys := by
    refine List.ext_getElem? fun i => ?_
    rw [List.getElem?_map, List.getElem?_mapIdx, Option.map_map]
    exact Option.map_id'
  have hnodup : (keys.mapIdx fun i key => (key, count i)).Nodup :=
    List.Nodup.of_map Prod.fst (hmapped.symm ▸ hkeys)
  refine (List.perm_ext_iff_of_nodup (List.Nodup.of_map Prod.fst h.nodup) hnodup).mpr ?_
  rintro ⟨key, n⟩
  rw [h.mem_iff, List.mem_iff_getElem?]
  simp only [List.getElem?_mapIdx, Option.map_eq_some_iff, Prod.mk.injEq]
  constructor
  · rintro ⟨i, hi, rfl⟩
    exact ⟨i, key, hi, rfl, rfl⟩
  · rintro ⟨i, key', hi, rfl, rfl⟩
    exact ⟨i, hi, rfl⟩

end Accounts

namespace Runner

variable {σ : Type} {t : Transport σ} {r after : Runner σ} {past events : List RunnerEvent}
  {count : Nat → Nat}

/-! ## What a feed does on a run -/

/-- What the subscriber of the `n`-th feed does in a move. -/
def eventsIn (t : Transport σ) (r : Runner σ) (n : Nat) : RunnerMove σ → List StreamEvent
  | .worked i m => if i = n then ((r.traffic.feeds[n]?).map fun f => (f.work t m).2).getD [] else []
  | _ => []

theorem eventsIn_worked_of_ne {i n : Nat} (hi : i ≠ n) (m : FeedMove σ) :
    r.eventsIn t i (.worked n m) = [] := if_neg (Ne.symm hi)

theorem eventsIn_worked {n : Nat} {f : StoppableFeed σ} (hfeed : r.traffic.feeds[n]? = some f)
    (m : FeedMove σ) : r.eventsIn t n (.worked n m) = (f.work t m).2 := by
  rw [eventsIn, if_pos rfl, hfeed]
  rfl

/-- A worker that there is not does nothing. -/
theorem eventsIn_worked_of_none {n : Nat} (hfeed : r.traffic.feeds[n]? = none) (i : Nat)
    (m : FeedMove σ) : r.eventsIn t i (.worked n m) = [] := by
  by_cases hi : i = n
  · rw [eventsIn, if_pos hi.symm, hi, hfeed]
    rfl
  · exact eventsIn_worked_of_ne hi m

/-- What the subscriber of the `n`-th feed does on a run, on one connection after the other. -/
def streamEvents (t : Transport σ) (r : Runner σ) (n : Nat) :
    List (RunnerMove σ) → List StreamEvent
  | [] => []
  | m :: ms => r.eventsIn t n m ++ (r.move t m).1.streamEvents t n ms

/-- How many updates the `n`-th feed delivers on a run. -/
def updatesOf (t : Transport σ) (r : Runner σ) (ms : List (RunnerMove σ)) (n : Nat) : Nat :=
  (StreamEvent.updates (r.streamEvents t n ms)).length

/-! ## Moves that touch neither feeds nor counters -/

/-- Whether feeds and counters are as they were. -/
def Untouched (r after : Runner σ) : Prop :=
  after.traffic.feeds = r.traffic.feeds ∧ after.accounts.counters = r.accounts.counters

theorem untouched_proceed (r : Runner σ) : r.Untouched r.proceed.1 := by
  unfold proceed
  cases r.phase with
  | ready | listing | ended summary | posting n begun spec rest => exact ⟨rfl, rfl⟩
  | starting begun rest => cases rest <;> exact ⟨rfl, rfl⟩
  | stopping keys => cases keys <;> exact ⟨rfl, rfl⟩
  | awaiting i begun spec rest | counting begun spec rest | closing i keys | joining =>
    dsimp only
    split <;> exact ⟨rfl, rfl⟩

theorem untouched_look (r : Runner σ) (j : Nat) (mon : Monitor) :
    r.Untouched (r.look j mon).1 := by
  unfold look
  split
  · exact ⟨rfl, rfl⟩
  · next f hfeed =>
    dsimp only
    cases f.feed.manager.state with
    | exhausted | stopped | connecting | connected | reconnecting => exact ⟨rfl, rfl⟩

theorem untouched_countOut (r : Runner σ) (j : Nat) (mon : Monitor) :
    r.Untouched (r.countOut j mon).1 := by
  unfold countOut
  dsimp only
  split
  · exact ⟨rfl, rfl⟩
  · exact ⟨rfl, rfl⟩

theorem untouched_attend (r : Runner σ) (j : Nat) : r.Untouched (r.attend j).1 := by
  unfold attend
  split
  · exact ⟨rfl, rfl⟩
  · next mon hmon =>
    cases mon.stage with
    | fresh | waiting => exact untouched_look r j mon
    | retiring => exact untouched_countOut r j mon
    | recording | closing | retired | dismissed => exact ⟨rfl, rfl⟩

theorem untouched_excuse (r : Runner σ) (j : Nat) : r.Untouched (r.excuse j).1 := by
  unfold excuse
  split
  · exact ⟨rfl, rfl⟩
  · split
    · exact ⟨rfl, rfl⟩
    · exact ⟨rfl, rfl⟩

/-- A move is that of a worker, or no subscriber does anything, and the move lets the traffic go on
or touches neither feeds nor counters. -/
theorem worked_or_silent (t : Transport σ) (r : Runner σ) (m : RunnerMove σ) :
    (∃ i fm, m = .worked i fm) ∨
      (∀ n, r.eventsIn t n m = []) ∧
        ((∃ tm, r.Carries tm ∧ r.traffic.delivered? t tm = none ∧ r.move t m = r.carry t tm) ∨
          r.Untouched (r.move t m).1) := by
  cases m with
  | worked i fm => exact .inl ⟨i, fm, rfl⟩
  | advanced =>
    refine .inr ⟨fun _ => rfl, ?_⟩
    unfold move
    dsimp only
    split
    · next i hcall => exact .inl ⟨_, .advanced i hcall, rfl, rfl⟩
    · exact .inr ⟨rfl, rfl⟩
  | answered reply =>
    refine .inr ⟨fun _ => rfl, ?_⟩
    unfold move
    dsimp only
    split
    · next i hcall => exact .inl ⟨_, .answered i reply hcall, rfl, rfl⟩
    · exact .inr ⟨rfl, rfl⟩
  | proceeded => exact .inr ⟨fun _ => rfl, .inr (untouched_proceed r)⟩
  | attended j => exact .inr ⟨fun _ => rfl, .inr (untouched_attend r j)⟩
  | excused j => exact .inr ⟨fun _ => rfl, .inr (untouched_excuse r j)⟩
  | signalled => exact .inr ⟨fun _ => rfl, .inr ⟨rfl, rfl⟩⟩
  | startsCalled specs | shutdownCalled =>
    refine .inr ⟨fun _ => rfl, .inr ?_⟩
    unfold move
    dsimp only
    split
    · exact ⟨rfl, rfl⟩
    · exact ⟨rfl, rfl⟩
  | listed keys =>
    refine .inr ⟨fun _ => rfl, .inr ?_⟩
    unfold move
    dsimp only
    split
    · split
      · exact ⟨rfl, rfl⟩
      · exact ⟨rfl, rfl⟩
    · exact ⟨rfl, rfl⟩

/-! ## Moves of the traffic, and runs -/

/-- Whether the counters stand at what each feed has delivered, and a feed that is not there yet
has delivered nothing. -/
structure Counts (r : Runner σ) (count : Nat → Nat) : Prop where
  balanced : r.accounts.Balanced r.traffic.feedKeys count
  fresh : ∀ n, r.traffic.feedKeys.length ≤ n → count n = 0

theorem counts_idle (config : RealtimeConfig) (calls : Option Client) :
    (idle config calls : Runner σ).Counts fun _ => 0 where
  balanced := ⟨List.nodup_nil, by simp [idle, Accounts.empty, Traffic.feedKeys, Traffic.idle]⟩
  fresh _ _ := rfl

theorem Counts.untouched (h : r.Counts count) (hsame : r.Untouched after) : after.Counts count := by
  have hkeys : after.traffic.feedKeys = r.traffic.feedKeys := by
    rw [Traffic.feedKeys, hsame.1, Traffic.feedKeys]
  refine ⟨⟨?_, ?_⟩, hkeys.symm ▸ h.fresh⟩
  · rw [hsame.2]
    exact h.balanced.nodup
  · rw [hsame.2, hkeys]
    exact h.balanced.mem_iff

/-- The streams that are entered get counters of their own. -/
theorem Counts.carried (h : r.Counts count) {tm : TrafficMove σ}
    (hquiet : r.traffic.delivered? t tm = none) (hnodup : (r.traffic.move t tm).feedKeys.Nodup) :
    (r.carry t tm).1.Counts count := by
  have hprefix := Traffic.feedKeys_prefix_move t r.traffic tm
  have hkeys : r.traffic.feedKeys ++ ((r.traffic.move t tm).feeds.drop r.traffic.feeds.length).map
      (fun f => f.feed.key) = (r.traffic.move t tm).feedKeys := by
    rw [List.map_drop, ← List.prefix_iff_eq_append.mp hprefix, Traffic.feedKeys, List.length_map]
    rfl
  constructor
  · unfold carry
    dsimp only
    rw [hquiet, ← hkeys]
    exact h.balanced.setCounters _ (hkeys ▸ hnodup) h.fresh
  · exact fun n hn => h.fresh n (Nat.le_trans hprefix.length_le hn)

/-- What a worker delivers goes to the counter under the key of its feed. -/
theorem accounts_carry_worked (t : Transport σ) (r : Runner σ) (n : Nat) (m : FeedMove σ) :
    (r.carry t (.worked n m)).1.accounts =
      (r.traffic.feeds[n]?).elim r.accounts fun f =>
        r.accounts.deliver f.feed.key (StreamEvent.updates (f.work t m).2).length := by
  have hentered : (r.traffic.move t (.worked n m)).feeds.drop r.traffic.feeds.length = [] :=
    List.drop_eq_nil_of_le (Nat.le_of_eq (List.length_modify ..))
  unfold carry
  dsimp only
  rw [hentered, Traffic.delivered?]
  cases r.traffic.feeds[n]? with
  | none => rfl
  | some f => rfl

theorem Counts.worked (h : r.Counts count) (hnodup : r.traffic.feedKeys.Nodup) (n : Nat)
    (m : FeedMove σ) : (r.move t (.worked n m)).1.Counts fun i =>
      count i + (StreamEvent.updates (r.eventsIn t i (.worked n m))).length := by
  have hkeys : (r.traffic.move t (.worked n m)).feedKeys = r.traffic.feedKeys :=
    Traffic.feedKeys_changeFeed fun f => StoppableFeed.outlives_work t f m
  show Counts (r.carry t (.worked n m)).1 _
  cases hfeed : r.traffic.feeds[n]? with
  | none =>
    simp only [eventsIn_worked_of_none hfeed]
    exact h.carried (by rw [Traffic.delivered?, hfeed]; rfl) (hkeys ▸ hnodup)
  | some f =>
    have hkey : r.traffic.feedKeys[n]? = some f.feed.key := by
      rw [Traffic.feedKeys, List.getElem?_map, hfeed]
      rfl
    constructor
    · show Accounts.Balanced _ (r.traffic.move t (.worked n m)).feedKeys _
      rw [accounts_carry_worked, hfeed, hkeys]
      refine h.balanced.deliver hnodup hkey (by rw [eventsIn_worked hfeed]) fun i hi => ?_
      rw [eventsIn_worked_of_ne hi]
      rfl
    · intro i hi
      have hi : r.traffic.feedKeys.length ≤ i := hkeys ▸ hi
      have hlt := (List.getElem?_eq_some_iff.mp hkey).1
      have hne : i ≠ n := by omega
      rw [eventsIn_worked_of_ne hne, h.fresh i hi]
      rfl

/-- **Every move keeps the counters right.** -/
theorem Counts.move (h : r.Counts count) (hnumbered : r.Numbered) (m : RunnerMove σ) :
    (r.move t m).1.Counts fun n =>
      count n + (StreamEvent.updates (r.eventsIn t n m)).length := by
  rcases worked_or_silent t r m with ⟨i, fm, rfl⟩ | ⟨hsilent, hother⟩
  · exact h.worked hnumbered.nodup i fm
  · simp only [hsilent]
    rcases hother with ⟨tm, hm, hquiet, hmove⟩ | hsame
    · rw [hmove]
      exact h.carried hquiet (hnumbered.carried hm).nodup
    · exact h.untouched hsame

/-- **The counters stand at what the feeds have delivered**, on whatever connections. -/
theorem Counts.run (h : r.Counts count) (hnumbered : r.Numbered) (ms : List (RunnerMove σ)) :
    (r.run t ms).1.Counts fun n => count n + r.updatesOf t ms n := by
  induction ms generalizing r count with
  | nil => exact h
  | cons m ms ih =>
    have hrest := ih (h.move (t := t) hnumbered m) (hnumbered.move (moveCase t r m))
    have hcount (n : Nat) : r.updatesOf t (m :: ms) n =
        (StreamEvent.updates (r.eventsIn t n m)).length + (r.move t m).1.updatesOf t ms n := by
      rw [updatesOf, streamEvents, StreamEvent.updates_append, List.length_append]
      rfl
    simp only [hcount, ← Nat.add_assoc]
    exact hrest

/-- Updates on two connections add up.  On the first a frame comes behind the update that cannot be
read, and the connection is made again. -/
example :
    let update := "\x7b\"method\":\"channelMessage\",\"params\":" ++
      "\x7b\"channel\":\"lightning_executions_X\",\"message\":[]\x7d\x7d"
    ((idle ⟨"ws://[::]", [], .usual⟩ none).run .playing
      [.startsCalled [⟨"X", .executions, false⟩], .proceeded, .advanced,
        .worked 0 (.dialAnswered (.ok [update, "?"])), .worked 0 .stepped, .worked 0 .stepped,
        .worked 0 .stepped, .worked 0 .woken, .worked 0 (.dialAnswered (.ok [update])),
        .worked 0 .stepped, .worked 0 .stepped]).1.accounts.counters =
      [(⟨"X", .executions⟩, 2)] := by
  decide +kernel

end Runner
end ExchangeClient
