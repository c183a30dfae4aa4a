import ExchangeClient.Proofs.Runner.Starting

/-!
# How far a starting has come

A runner that is told to start some streams starts them in order.  `Began` says that streams
were let through one after the other, each beside those before it, and `PhaseStage` how far the
runner has come with its list: which streams it has begun, how far the start under way is, and
what was called and asked till then.  `Staged` adds what this means for the registry and the
feeds: they are those of before and, behind them, those of the streams that were entered.

All this is said of a runner that was in any state before.
-/

namespace ExchangeClient

/-- Starts that were let through one after the other, each beside the streams that were running
before and those started before it. -/
inductive Began (c : FeedClient Nat) : List StreamSpec → List SeedEvent → Prop
  | nil : Began c [] []
  | concat {begun : List StreamSpec} {spec : StreamSpec} {seeds more : List SeedEvent}
    (h : Began c begun seeds)
    (hspec : Verdict c begun spec more (.ok ())) :
    Began c (begun ++ [spec]) (seeds ++ more)

/-- What is entered in the registry for some streams whose feeds have the numbers from `n` on. -/
def entriesFrom (n : Nat) (specs : List StreamSpec) : List (ChannelKey × Nat) :=
  specs.mapIdx fun j spec => (spec.key, n + j)

theorem entriesFrom_concat (n : Nat) (specs : List StreamSpec) (spec : StreamSpec) :
    entriesFrom n (specs ++ [spec]) = entriesFrom n specs ++ [(spec.key, n + specs.length)] :=
  List.mapIdx_concat

theorem map_fst_entriesFrom (n : Nat) (specs : List StreamSpec) :
    (entriesFrom n specs).map Prod.fst = specs.map StreamSpec.key := by
  refine List.ext_getElem? fun j => ?_
  rw [entriesFrom, List.getElem?_map, List.getElem?_mapIdx, List.getElem?_map, Option.map_map]
  rfl

/-- No two streams that were started one after the other have the same key, and none has that of
a stream that was running before. -/
theorem Began.nodup {c : FeedClient Nat} {begun : List StreamSpec} {seeds : List SeedEvent}
    (h : Began c begun seeds) :
    (begun.map StreamSpec.key).Nodup ∧ ∀ spec ∈ begun, spec.key ∉ c.keys := by
  induction h with
  | nil => exact ⟨List.nodup_nil, nofun⟩
  | @concat begun spec seeds more _ hspec ih =>
    obtain ⟨hfree, hnew⟩ : spec.key ∉ c.keys ∧ spec.key ∉ begun.map StreamSpec.key := by
      cases hspec with
      | started seeds hfree => exact not_or.mp (List.mem_append.not.mp hfree)
    constructor
    · rw [List.map_append, List.nodup_append]
      refine ⟨ih.1, List.nodup_singleton _, ?_⟩
      rintro key hkey _ hspec rfl
      rw [List.mem_singleton.mp hspec] at hkey
      exact hnew hkey
    · intro other hother
      rcases List.mem_append.mp hother with hother | hother
      · exact ih.2 other hother
      · rw [List.mem_singleton.mp hother]
        exact hfree

namespace Runner

variable {σ : Type} {t : Transport σ} {r₀ r after : Runner σ}

/-- How far the starting of some streams has come: what was asked for, which streams are entered,
and which calls were made. -/
inductive PhaseStage (r₀ : Runner σ) (specs : List StreamSpec) (tr : Traffic σ) :
    RunnerPhase → List SeedEvent → List StreamSpec → List ClientCall → Prop
  | starting {begun rest : List StreamSpec} {seeds : List SeedEvent}
    (hspecs : specs = begun ++ rest)
    (hbegan : Began r₀.traffic.client begun seeds) :
    PhaseStage r₀ specs tr (.starting begun rest) seeds begun (begun.map .starting)
  | awaiting {i : Nat} {begun rest : List StreamSpec} {spec : StreamSpec} {call : ClientCall}
    {seeds more : List SeedEvent} {entered : Bool} (hspecs : specs = begun ++ spec :: rest)
    (hbegan : Began r₀.traffic.client begun seeds)
    (hcall : tr.calls[i]? = some call)
    (hstage : StartStage r₀.traffic.client begun spec call more entered) :
    PhaseStage r₀ specs tr (.awaiting i begun spec rest) (seeds ++ more)
      (begun ++ if entered then [spec] else []) ((begun ++ [spec]).map .starting)
  | counting {begun rest : List StreamSpec} {spec : StreamSpec} {seeds : List SeedEvent}
    (hspecs : specs = begun ++ spec :: rest)
    (hbegan : Began r₀.traffic.client (begun ++ [spec]) seeds) :
    PhaseStage r₀ specs tr (.counting begun spec rest) seeds (begun ++ [spec])
      ((begun ++ [spec]).map .starting)
  | posting {begun rest : List StreamSpec} {spec : StreamSpec} {seeds : List SeedEvent}
    (hspecs : specs = begun ++ spec :: rest)
    (hbegan : Began r₀.traffic.client (begun ++ [spec]) seeds) :
    PhaseStage r₀ specs tr (.posting (r₀.traffic.feeds.length + begun.length) begun spec rest)
      seeds (begun ++ [spec]) ((begun ++ [spec]).map .starting)

/-- How far the starting of some streams has come, and what is registered by then. -/
structure Staged (r₀ : Runner σ) (specs : List StreamSpec) (r : Runner σ)
    (seeds : List SeedEvent) (entered : List StreamSpec) (made : List ClientCall) : Prop where
  phase : PhaseStage r₀ specs r.traffic r.phase seeds entered made
  client : r.traffic.client = { r₀.traffic.client with
    streams := r₀.traffic.client.streams ++ entriesFrom r₀.traffic.feeds.length entered }
  feedKeys : r.traffic.feedKeys = r₀.traffic.feedKeys ++ entered.map StreamSpec.key

variable {specs entered : List StreamSpec} {seeds : List SeedEvent} {made : List ClientCall}
  {phase : RunnerPhase} {tr tr' : Traffic σ}

theorem PhaseStage.of_calls (h : PhaseStage r₀ specs tr phase seeds entered made)
    (hcalls : tr'.calls = tr.calls) : PhaseStage r₀ specs tr' phase seeds entered made := by
  cases h with
  | starting hspecs hbegan => exact .starting hspecs hbegan
  | awaiting hspecs hbegan hcall hstage => exact .awaiting hspecs hbegan (hcalls ▸ hcall) hstage
  | counting hspecs hbegan => exact .counting hspecs hbegan
  | posting hspecs hbegan => exact .posting hspecs hbegan

/-- The streams that are entered have been let through one after the other. -/
theorem PhaseStage.began (h : PhaseStage r₀ specs tr phase seeds entered made) :
    ∃ seeds, Began r₀.traffic.client entered seeds := by
  cases h with
  | starting hspecs hbegan => exact ⟨_, hbegan⟩
  | @awaiting _ _ _ _ _ _ _ isIn hspecs hbegan hcall hstage =>
    cases isIn with
    | false =>
      rw [if_neg Bool.false_ne_true, List.append_nil]
      exact ⟨_, hbegan⟩
    | true =>
      generalize hresult : true = isIn at hstage
      cases hstage with
      | @returned _ result hverdict =>
        cases result with
        | ok u => exact ⟨_, hbegan.concat hverdict⟩
        | error cause => cases hresult
      | _ => cases hresult
  | counting hspecs hbegan => exact ⟨_, hbegan⟩
  | posting hspecs hbegan => exact ⟨_, hbegan⟩

/-- What neither calls nor registers anything leaves the stage as it is. -/
theorem Staged.of_eq (h : Staged r₀ specs r seeds entered made) (hphase : after.phase = r.phase)
    (hcalls : after.traffic.calls = r.traffic.calls)
    (hclient : after.traffic.client = r.traffic.client)
    (hkeys : after.traffic.feedKeys = r.traffic.feedKeys) :
    Staged r₀ specs after seeds entered made where
  phase := hphase ▸ h.phase.of_calls hcalls
  client := hclient.trans h.client
  feedKeys := hkeys.trans h.feedKeys

/-- The streams that are running are those before and those entered since. -/
theorem Staged.keys (h : Staged r₀ specs r seeds entered made) :
    r.traffic.client.keys = r₀.traffic.client.keysAfter entered := by
  rw [h.client, FeedClient.keys, List.map_append]
  exact congrArg _ (map_fst_entriesFrom _ _)

theorem Staged.feeds_length (h : Staged r₀ specs r seeds entered made) :
    r.traffic.feeds.length = r₀.traffic.feeds.length + entered.length := by
  have hlength := congrArg List.length h.feedKeys
  simpa [Traffic.feedKeys] using hlength

/-- The start under way goes on by a deed of its own: it enters its stream with a feed of its own,
or it enters nothing. -/
theorem Staged.comes (h : Staged r₀ specs r seeds entered made) {i : Nat}
    {begun rest : List StreamSpec} {spec : StreamSpec} {new : List SeedEvent}
    (hphase : r.phase = .awaiting i begun spec rest)
    (hcomes : ∀ call more isIn, r.traffic.calls[i]? = some call →
      StartStage r₀.traffic.client begun spec call more isIn →
      (isIn = false → r.traffic.client.keys = r₀.traffic.client.keysAfter begun) →
      StartStage.Comes r₀.traffic.client begun spec r.traffic tr' i (more ++ new) isIn)
    (accounts : Accounts) :
    tr'.calls.length = r.traffic.calls.length ∧
    ((tr'.feeds = r.traffic.feeds ∧
      Staged r₀ specs { r with traffic := tr', accounts } (seeds ++ new) entered made) ∨
    ∃ f : StoppableFeed σ, tr'.feeds = r.traffic.feeds ++ [f] ∧ f.feed.key = spec.key ∧
      Staged r₀ specs { r with traffic := tr', accounts } (seeds ++ new) (entered ++ [spec])
        made) := by
  have hpast := h.phase
  rw [hphase] at hpast
  have hkeys := h.keys
  have hlength := h.feeds_length
  obtain ⟨-, hclient, hfeedKeys⟩ := h
  cases hpast with
  | @awaiting _ _ _ _ call early more isIn hspecs hbegan hcall hstage =>
    obtain ⟨call', isIn', hcalls, hstage', hentry⟩ := hcomes call more isIn hcall hstage (by
      rintro rfl
      rw [hkeys, if_neg Bool.false_ne_true, List.append_nil])
    have hi : i < r.traffic.calls.length := (List.getElem?_eq_some_iff.mp hcall).1
    have hphase' : PhaseStage r₀ specs tr' r.phase (early ++ more ++ new)
        (begun ++ if isIn' then [spec] else []) ((begun ++ [spec]).map .starting) := by
      rw [hphase, List.append_assoc]
      exact .awaiting hspecs hbegan (by rw [hcalls, List.getElem?_set_self hi]) hstage'
    refine ⟨by rw [hcalls, List.length_set], ?_⟩
    cases hentry with
    | kept entered hclient' hfeeds' =>
      refine .inl ⟨hfeeds', hphase', hclient'.trans hclient, ?_⟩
      rw [← hfeedKeys, Traffic.feedKeys, Traffic.feedKeys, ← hfeeds']
    | entered f hkey hclient' hfeeds' =>
      rw [if_neg Bool.false_ne_true, List.append_nil] at hclient hfeedKeys hlength ⊢
      rw [if_pos rfl] at hphase'
      refine .inr ⟨f, hfeeds', hkey, hphase', ?_, ?_⟩
      · show tr'.client = _
        rw [hclient', hclient, entriesFrom_concat, hlength, List.append_assoc]
      · show tr'.feedKeys = _
        rw [Traffic.feedKeys, hfeeds', List.map_append, List.map_append, ← List.append_assoc,
          ← hfeedKeys, List.map_singleton, hkey]
        rfl

/-- The stream that was just started is found under its key. -/
theorem Staged.find? (h : Staged r₀ specs r seeds entered made) {begun : List StreamSpec}
    {spec : StreamSpec} (hentered : entered = begun ++ [spec]) :
    r.traffic.client.find? spec.key = some (r₀.traffic.feeds.length + begun.length) := by
  obtain ⟨_, hbegan⟩ := h.phase.began
  subst hentered
  obtain ⟨hnodup, hfree⟩ := hbegan.nodup
  have hold : r₀.traffic.client.streams.lookup spec.key = none :=
    Option.not_isSome_iff_eq_none.mp fun hrunning =>
      hfree spec (by simp) (FeedClient.isRunning_iff_mem_keys.mp hrunning)
  have hnew : (entriesFrom r₀.traffic.feeds.length begun).lookup spec.key = none := by
    rw [List.map_append, List.nodup_append] at hnodup
    refine List.lookup_eq_none_iff.mpr fun entry hentry => bne_iff_ne.mpr ?_
    have hmem : entry.1 ∈ begun.map StreamSpec.key :=
      map_fst_entriesFrom _ begun ▸ List.mem_map_of_mem hentry
    exact (hnodup.2.2 _ hmem _ (List.mem_singleton.mpr rfl)).symm
  rw [h.client, FeedClient.find?, List.lookup_append, hold, entriesFrom_concat,
    List.lookup_append, hnew, List.lookup_cons_self]
  rfl

/-- A runner that is starting streams is told nothing else. -/
theorem PhaseStage.rests (h : PhaseStage r₀ specs r.traffic r.phase seeds entered made) :
    (∀ specs', r.move t (.startsCalled specs') = (r, [])) ∧
      r.move t .shutdownCalled = (r, []) ∧ ∀ keys, r.move t (.listed keys) = (r, []) := by
  generalize hphase : r.phase = phase at h
  unfold Runner.move
  rw [hphase]
  cases h <;> exact ⟨fun _ => rfl, rfl, fun _ => rfl⟩

/-- The runner waits for a call only while a start is under way. -/
theorem PhaseStage.awaiting_of_call? {i : Nat}
    (h : PhaseStage r₀ specs tr phase seeds entered made) (hcall : phase.call? = some i) :
    ∃ begun spec rest, phase = .awaiting i begun spec rest := by
  cases h with
  | @awaiting j begun rest spec =>
    obtain rfl := Option.some.inj hcall
    exact ⟨begun, spec, rest, rfl⟩
  | _ => cases hcall

end Runner
end ExchangeClient
