import ExchangeClient.Proofs.Runner.Summary

/-!
# What becomes of the accounts while streams are started

Monitors and workers go on while a runner starts streams, and each has a hand in its accounts.
The number of streams alive grows with each stream that is counted and falls with each that a
monitor counts out, so of this number only the sum is fixed (`Accounted`); and it is fixed only
when every monitor that may still count out is counted (`Covered`), which is so in all runs of a
runner (`covered_run`).

The counters are those of before, each with what was delivered under its key, and new ones for
the streams that were entered (`CountersKept`).
-/

namespace ExchangeClient

/-- Whether an event tells that a stream was counted out. -/
def RunnerEvent.isCountedOut : RunnerEvent → Bool
  | .countedOut .. => true
  | _ => false

namespace Accounts

variable {a : Accounts} {key other : ChannelKey} {n : Nat}

theorem lookup_setCounter : (a.setCounter key n).counters.lookup other =
    if other = key then some n else a.counters.lookup other := by
  rw [setCounter]
  split
  · next h =>
    subst h
    exact lookup_filter_ne_append _ _ _
  · next h =>
    rw [List.lookup_append, FeedClient.lookup_filter_ne _ h, List.lookup_cons, beq_false_of_ne h,
      List.lookup_nil, Option.or_none]

theorem lookup_deliver : (a.deliver key n).counters.lookup other =
    if other = key then (a.counters.lookup key).map (· + n) else a.counters.lookup other := by
  rw [deliver]
  split
  · next hcounts =>
    rw [lookup_setCounter]
    split
    · obtain ⟨k, hk⟩ := Option.isSome_iff_exists.mp (Bool.and_eq_true_iff.mp hcounts).1
      rw [count, hk]
      rfl
    · rfl
  · next hcounts =>
    split
    · next h =>
      subst h
      cases hk : a.counters.lookup other with
      | none => rfl
      | some k =>
        obtain rfl : n = 0 := by simpa [hk] using hcounts
        rfl
    · rfl

end Accounts

namespace Runner

variable {σ : Type} {t : Transport σ} {r₀ r after : Runner σ} {entered : List StreamSpec}

/-! ## Streams alive -/

/-- Whether every monitor that may still count its stream out, and every stream that has no
monitor yet, is counted. -/
def Covered (r : Runner σ) : Prop :=
  (r.monitors.countP fun mon => !mon.stage.hasCountedOut) + r.phase.unposted ≤ r.accounts.live

/-- Whether the number of streams alive and the record are what has become of those before. -/
structure Accounted (r₀ r : Runner σ) (past : List RunnerEvent) : Prop where
  live : r₀.Covered → r.Covered ∧ r.accounts.live + past.countP RunnerEvent.isCountedOut =
    r₀.accounts.live + r.phase.posted.length + r.phase.unposted
  record : r.accounts.exhausted.length + (r₀.monitors.countP fun mon => mon.stage == .retiring) =
    r₀.accounts.exhausted.length + past.countP RunnerEvent.isCountedOut +
      r.monitors.countP fun mon => mon.stage == .retiring

variable {past events : List RunnerEvent}

theorem Accounted.quiet (h : Accounted r₀ r past) (hmonitors : after.monitors = r.monitors)
    (hlive : after.accounts.live = r.accounts.live)
    (hexhausted : after.accounts.exhausted = r.accounts.exhausted)
    (hphase : after.phase.posted = r.phase.posted ∧ after.phase.unposted = r.phase.unposted)
    (hsilent : ∀ e ∈ events, e.isCountedOut = false) : Accounted r₀ after (past ++ events) := by
  have hnone : events.countP RunnerEvent.isCountedOut = 0 :=
    List.countP_eq_zero.mpr fun e he => by rw [hsilent e he]; exact Bool.false_ne_true
  constructor
  · intro hcovered
    have hlive' := h.live hcovered
    rw [Covered] at hlive' ⊢
    rw [hmonitors, hlive, hphase.1, hphase.2, List.countP_append, hnone]
    exact hlive'
  · rw [hmonitors, hexhausted, List.countP_append, hnone]
    exact h.record

/-- A monitor tells of a deed whether it counts its stream out by it. -/
theorem MonitorCase.countP_isCountedOut {mon : Monitor} {stage : MonitorStage}
    {accounts : Accounts} (h : MonitorCase r mon stage accounts events) :
    events.countP RunnerEvent.isCountedOut + mon.stage.hasCountedOut.toNat =
      stage.hasCountedOut.toNat := by
  cases h with
  | sawEnd _ _ hstage | sawStop hstage | sawOther _ hstage =>
    rcases hstage with hstage | hstage
    · rw [hstage]; rfl
    · rw [hstage]; rfl
  | recorded hstage | countedOut hstage | lastOut hstage | closedDown hstage | excused hstage =>
    rw [hstage]
    rfl

/-- A stream is put on record when its monitor is about to count it out. -/
theorem MonitorCase.records {mon : Monitor} {stage : MonitorStage} {accounts : Accounts}
    (h : MonitorCase r mon stage accounts events) :
    accounts.exhausted.length + (mon.stage == .retiring).toNat = r.accounts.exhausted.length +
      events.countP RunnerEvent.isCountedOut + (stage == .retiring).toNat := by
  cases h with
  | sawEnd _ _ hstage | sawStop hstage | sawOther _ hstage =>
    rcases hstage with hstage | hstage
    · rw [hstage]; rfl
    · rw [hstage]; rfl
  | recorded hstage =>
    rw [hstage]
    exact congrArg (· + 0) List.length_append
  | countedOut hstage | lastOut hstage | closedDown hstage | excused hstage =>
    rw [hstage]
    rfl

theorem Accounted.attended (h : Accounted r₀ r past) {j : Nat} {mon : Monitor}
    {stage : MonitorStage} {accounts : Accounts} (hmon : r.monitors[j]? = some mon)
    (hcase : MonitorCase r mon stage accounts events) :
    Accounted r₀ (r.bring j mon stage accounts) (past ++ events) := by
  constructor
  · intro hcovered
    obtain ⟨hr, hlive⟩ := h.live hcovered
    have hmoved := countP_bring hmon stage accounts fun mon => !mon.stage.hasCountedOut
    rw [Covered] at hr
    dsimp only at hmoved
    rw [Covered, List.countP_append]
    show _ + r.phase.unposted ≤ accounts.live ∧
      accounts.live + _ = _ + r.phase.posted.length + r.phase.unposted
    have hout := hcase.countP_isCountedOut
    rcases hcase.live with ⟨hstage, haccounts⟩ | ⟨hbefore, hafter, haccounts⟩
    · rw [hstage] at hmoved hout
      omega
    · rw [hbefore, hafter, Bool.toNat_true, Bool.toNat_false] at hout
      rw [hbefore, hafter, Bool.not_false, Bool.not_true, Bool.toNat_true, Bool.toNat_false]
        at hmoved
      omega
  · have hmoved := countP_bring hmon stage accounts fun mon => mon.stage == .retiring
    dsimp only at hmoved
    have hrecords := hcase.records
    have hrecord := h.record
    rw [List.countP_append]
    show accounts.exhausted.length + _ = _
    omega

/-- A stream that is counted is one more alive. -/
theorem Accounted.counted (h : Accounted r₀ r past) {begun rest : List StreamSpec}
    {spec : StreamSpec} (hphase : r.phase = .counting begun spec rest) (n : Nat) :
    Accounted r₀ { r with accounts := r.accounts.countIn, phase := .posting n begun spec rest }
      (past ++ [.counted n spec.key]) := by
  refine ⟨fun hcovered => ?_, by rw [List.countP_append]; exact h.record⟩
  have hlive := h.live hcovered
  rw [Covered, hphase] at hlive
  rw [Covered, List.countP_append]
  show r.monitors.countP _ + 1 ≤ r.accounts.live + 1 ∧
    r.accounts.live + 1 + (_ + 0) = _ + begun.length + 1
  have hposted : (RunnerPhase.counting begun spec rest).posted.length = begun.length := rfl
  have hunposted : (RunnerPhase.counting begun spec rest).unposted = 0 := rfl
  omega

/-- The monitor of a stream that is counted has everything before it. -/
theorem Accounted.posted (h : Accounted r₀ r past) {begun rest : List StreamSpec}
    {spec : StreamSpec} {n : Nat} (hphase : r.phase = .posting n begun spec rest) :
    Accounted r₀ { r with
      monitors := r.monitors ++ [⟨spec.key, n, .fresh⟩]
      accounts := r.accounts.watch spec.key
      phase := .starting (begun ++ [spec]) rest } past := by
  constructor
  · intro hcovered
    have hlive := h.live hcovered
    rw [Covered, hphase] at hlive
    rw [Covered]
    show (r.monitors ++ [_]).countP _ + 0 ≤ r.accounts.live ∧
      r.accounts.live + _ = _ + (begun ++ [spec]).length + 0
    rw [List.countP_append, List.length_append]
    exact hlive
  · show r.accounts.exhausted.length + _ = _ + (r.monitors ++ [_]).countP _
    rw [List.countP_append]
    exact h.record

theorem isCountedOut_eq_false_of_mem_news {before after : Traffic σ} {e : RunnerEvent}
    (h : e ∈ before.news after) : e.isCountedOut = false := by
  have hpublished := Traffic.isPublished_of_mem_news h
  cases e <;> first | rfl | cases hpublished

/-- A move of the traffic leaves the monitors' side as it is. -/
theorem Accounted.carry (h : Accounted r₀ r past) (t : Transport σ) (tm : TrafficMove σ) :
    Accounted r₀ (r.carry t tm).1 (past ++ (r.carry t tm).2) := by
  obtain ⟨counters, hcounters⟩ := carry_accounts t r tm
  refine h.quiet rfl ?_ ?_ ⟨rfl, rfl⟩ fun e he => isCountedOut_eq_false_of_mem_news he
  · rw [hcounters]
  · rw [hcounters]

/-- In all runs of a runner the streams alive are counted. -/
theorem covered_run (t : Transport σ) (config : RealtimeConfig) (calls : Option Client)
    (ms : List (RunnerMove σ)) : ((idle config calls : Runner σ).run t ms).1.Covered :=
  Nat.le_of_eq (keepsCount_run t config calls ms).tallied.live.symm

/-! ## Counters -/

/-- How many updates the feeds of a key deliver in a move. -/
def updatesIn (t : Transport σ) (r : Runner σ) (key : ChannelKey) : RunnerMove σ → Nat
  | .worked n m =>
    match r.traffic.delivered? t (.worked n m) with
    | some (key', updates) => if key' = key then updates else 0
    | none => 0
  | _ => 0

/-- Whether the counters are those of before, each with what was delivered under its key since, and
a new one for each stream that was entered, with what the feed of this stream has delivered.
(Another feed of its key there is only if the same stream was stopped before.) -/
structure CountersKept (r₀ : Runner σ) (entered : List StreamSpec) (r : Runner σ)
    (count : Nat → Nat) (countUnder : ChannelKey → Nat) : Prop where
  others : ∀ key, key ∉ entered.map StreamSpec.key →
    r.accounts.counters.lookup key = (r₀.accounts.counters.lookup key).map (· + countUnder key)
  present : ∀ spec ∈ entered, (r.accounts.counters.lookup spec.key).isSome = true
  fresh : ∀ j spec, entered[j]? = some spec →
    (∀ n < r₀.traffic.feeds.length, r₀.traffic.feedKeys[n]? = some spec.key → count n = 0) →
    r.accounts.counters.lookup spec.key = some (count (r₀.traffic.feeds.length + j))
  unborn : ∀ n, r.traffic.feeds.length ≤ n → count n = 0

variable {count : Nat → Nat} {countUnder : ChannelKey → Nat}

theorem CountersKept.of_eq (h : CountersKept r₀ entered r count countUnder)
    (hcounters : after.accounts.counters = r.accounts.counters)
    (hfeeds : after.traffic.feeds.length = r.traffic.feeds.length) :
    CountersKept r₀ entered after count countUnder where
  others key hkey := by rw [hcounters, h.others key hkey]
  present spec hspec := by rw [hcounters, h.present spec hspec]
  fresh j spec hspec hquiet := by rw [hcounters, h.fresh j spec hspec hquiet]
  unborn n hn := h.unborn n (hfeeds ▸ hn)

/-- A stream that is entered has a counter of its own, which stands at nothing. -/
theorem CountersKept.enter (h : CountersKept r₀ entered r count countUnder) {spec : StreamSpec}
    (hnew : spec.key ∉ entered.map StreamSpec.key)
    (hlength : r.traffic.feeds.length = r₀.traffic.feeds.length + entered.length)
    (hcounters : after.accounts.counters = (r.accounts.setCounter spec.key 0).counters)
    (hfeeds : after.traffic.feeds.length = r.traffic.feeds.length + 1) :
    CountersKept r₀ (entered ++ [spec]) after count countUnder where
  others key hkey := by
    rw [List.map_append, List.mem_append, not_or] at hkey
    rw [hcounters, Accounts.lookup_setCounter, if_neg fun heq => hkey.2 (by simp [heq]),
      h.others key hkey.1]
  present other hother := by
    rw [hcounters, Accounts.lookup_setCounter]
    split
    · rfl
    · next hne =>
      rcases List.mem_append.mp hother with hold | hself
      · exact h.present other hold
      · exact absurd (congrArg StreamSpec.key (List.mem_singleton.mp hself)) hne
  fresh j other hj hquiet := by
    rw [hcounters, Accounts.lookup_setCounter]
    rcases getElem?_concat_iff.mp hj with hold | ⟨rfl, rfl⟩
    · have hne : other.key ≠ spec.key := fun heq =>
        hnew (heq ▸ List.mem_map_of_mem (List.mem_of_getElem? hold))
      rw [if_neg hne, h.fresh j other hold hquiet]
    · rw [if_pos rfl, h.unborn _ (Nat.le_of_eq hlength)]
  unborn n hn := h.unborn n (by omega)

theorem updatesIn_worked {n : Nat} {f : StoppableFeed σ} (hfeed : r.traffic.feeds[n]? = some f)
    (m : FeedMove σ) (key : ChannelKey) : r.updatesIn t key (.worked n m) =
      if f.feed.key = key then (StreamEvent.updates (f.work t m).2).length else 0 := by
  rw [updatesIn, Traffic.delivered?, hfeed]
  rfl

/-- A worker that there is not does nothing. -/
theorem CountersKept.worked_none (h : CountersKept r₀ entered r count countUnder) {n : Nat}
    (hfeed : r.traffic.feeds[n]? = none) (m : FeedMove σ) :
    CountersKept r₀ entered (r.carry t (.worked n m)).1
      (fun i => count i + (StreamEvent.updates (r.eventsIn t i (.worked n m))).length)
      (fun key => countUnder key + r.updatesIn t key (.worked n m)) := by
  have hsilent (i : Nat) : r.eventsIn t i (.worked n m) = [] := eventsIn_worked_of_none hfeed i m
  have hunder (key : ChannelKey) : r.updatesIn t key (.worked n m) = 0 := by
    rw [updatesIn, Traffic.delivered?, hfeed]
    rfl
  have haccounts := accounts_carry_worked t r n m
  rw [hfeed, Option.elim_none] at haccounts
  simp only [hsilent, hunder]
  exact h.of_eq (by rw [haccounts]) (List.length_modify ..)

/-- The feeds of the streams that were entered stand behind the others, in order. -/
theorem feedKeys_entered (hkeys : r.traffic.feedKeys =
    r₀.traffic.feedKeys ++ entered.map StreamSpec.key) (j : Nat) :
    r.traffic.feedKeys[r₀.traffic.feeds.length + j]? = (entered.map StreamSpec.key)[j]? := by
  rw [hkeys, List.getElem?_append_right (by simp [Traffic.feedKeys])]
  simp [Traffic.feedKeys]

/-- The feed of a key that was entered is the one of its stream, or one that was there before. -/
theorem eq_or_lt_of_feedKeys {n j : Nat} {spec : StreamSpec}
    (hkeys : r.traffic.feedKeys = r₀.traffic.feedKeys ++ entered.map StreamSpec.key)
    (hnodup : (entered.map StreamSpec.key).Nodup) (hj : entered[j]? = some spec)
    (hkey : r.traffic.feedKeys[n]? = some spec.key) :
    n = r₀.traffic.feeds.length + j ∨
      n < r₀.traffic.feeds.length ∧ r₀.traffic.feedKeys[n]? = some spec.key := by
  rcases Nat.lt_or_ge n r₀.traffic.feeds.length with hlt | hge
  · refine .inr ⟨hlt, ?_⟩
    rw [← hkey, hkeys, List.getElem?_append_left (by simpa [Traffic.feedKeys] using hlt)]
  · obtain ⟨j', rfl⟩ := Nat.exists_eq_add_of_le hge
    have hmapped : (entered.map StreamSpec.key)[j]? = some spec.key := by
      rw [List.getElem?_map, hj]
      rfl
    rw [feedKeys_entered hkeys] at hkey
    have hlt : j < (entered.map StreamSpec.key).length :=
      (List.getElem?_eq_some_iff.mp hmapped).1
    obtain rfl := (List.getElem?_inj hlt hnodup).mp (hmapped.trans hkey.symm)
    exact .inl rfl

/-- Updates that a feed delivers are counted under its key. -/
theorem CountersKept.deliver (h : CountersKept r₀ entered r count countUnder)
    (hkeys : r.traffic.feedKeys = r₀.traffic.feedKeys ++ entered.map StreamSpec.key)
    (hnodup : (entered.map StreamSpec.key).Nodup) {n delivered : Nat} {key : ChannelKey}
    (hkey : r.traffic.feedKeys[n]? = some key)
    (haccounts : after.accounts = r.accounts.deliver key delivered)
    (hfeeds : after.traffic.feeds.length = r.traffic.feeds.length) :
    CountersKept r₀ entered after (fun i => count i + if i = n then delivered else 0)
      (fun other => countUnder other + if key = other then delivered else 0) where
  others other hother := by
    rw [haccounts, Accounts.lookup_deliver]
    split
    · next heq =>
      subst heq
      rw [if_pos rfl, h.others _ hother, Option.map_map]
      refine congrArg (Option.map · _) (funext fun k => ?_)
      exact Nat.add_assoc ..
    · next hne =>
      rw [if_neg (Ne.symm hne), h.others other hother]
      rfl
  present spec hspec := by
    rw [haccounts, Accounts.lookup_deliver]
    split
    · next heq =>
      rw [Option.isSome_map, ← heq]
      exact h.present spec hspec
    · exact h.present spec hspec
  fresh j spec hj hquiet := by
    have hfresh := h.fresh j spec hj fun i hi hikey => Nat.eq_zero_of_add_eq_zero_right
      (hquiet i hi hikey)
    rw [haccounts, Accounts.lookup_deliver, hfresh]
    split
    · next heq =>
      rw [← heq, hfresh, Option.map_some]
      rcases eq_or_lt_of_feedKeys hkeys hnodup hj (heq ▸ hkey) with rfl | ⟨hlt, hold⟩
      · rw [if_pos rfl]
      · -- A feed of its key that was there before delivers nothing.
        have hnone := Nat.eq_zero_of_add_eq_zero_left (hquiet n hlt hold)
        rw [if_pos rfl] at hnone
        rw [hnone, if_neg (by omega)]
    · next hne =>
      rw [if_neg, Nat.add_zero]
      rintro rfl
      rw [feedKeys_entered hkeys, List.getElem?_map, hj] at hkey
      exact hne (Option.some.inj hkey)
  unborn i hi := by
    have hn : n < r.traffic.feedKeys.length := (List.getElem?_eq_some_iff.mp hkey).1
    rw [Traffic.feedKeys, List.length_map] at hn
    rw [hfeeds] at hi
    rw [h.unborn i hi, if_neg (by omega)]

/-- What a worker delivers is counted under the key of its feed. -/
theorem CountersKept.worked (h : CountersKept r₀ entered r count countUnder)
    (hkeys : r.traffic.feedKeys = r₀.traffic.feedKeys ++ entered.map StreamSpec.key)
    (hnodup : (entered.map StreamSpec.key).Nodup) (n : Nat) (m : FeedMove σ) :
    CountersKept r₀ entered (r.move t (.worked n m)).1
      (fun i => count i + (StreamEvent.updates (r.eventsIn t i (.worked n m))).length)
      (fun key => countUnder key + r.updatesIn t key (.worked n m)) := by
  show CountersKept r₀ entered (r.carry t (.worked n m)).1 _ _
  cases hfeed : r.traffic.feeds[n]? with
  | none => exact h.worked_none hfeed m
  | some f =>
    have haccounts := accounts_carry_worked t r n m
    rw [hfeed, Option.elim_some] at haccounts
    have hkey : r.traffic.feedKeys[n]? = some f.feed.key := by
      rw [Traffic.feedKeys, List.getElem?_map, hfeed]
      rfl
    have hcount (i : Nat) : (StreamEvent.updates (r.eventsIn t i (.worked n m))).length =
        if i = n then (StreamEvent.updates (f.work t m).2).length else 0 := by
      split
      · next hi => rw [hi, eventsIn_worked hfeed m]
      · next hi =>
        rw [eventsIn_worked_of_ne hi m]
        rfl
    simp only [hcount, updatesIn_worked hfeed m]
    exact h.deliver hkeys hnodup hkey haccounts (List.length_modify ..)

/-- A move of the traffic that registers nothing leaves the accounts as they are. -/
theorem accounts_carry_of_kept {tm : TrafficMove σ} (hquiet : r.traffic.delivered? t tm = none)
    (hfeeds : (r.traffic.move t tm).feeds = r.traffic.feeds) :
    (r.carry t tm).1.accounts = r.accounts := by
  unfold carry
  dsimp only
  rw [hquiet, hfeeds, List.drop_length]
  rfl

/-- A stream that is entered has a counter of its own. -/
theorem accounts_carry_of_entered {tm : TrafficMove σ} {f : StoppableFeed σ}
    (hquiet : r.traffic.delivered? t tm = none)
    (hfeeds : (r.traffic.move t tm).feeds = r.traffic.feeds ++ [f]) :
    (r.carry t tm).1.accounts = r.accounts.setCounter f.feed.key 0 := by
  unfold carry
  dsimp only
  rw [hquiet, hfeeds, List.drop_left]
  rfl

end Runner
end ExchangeClient
