import ExchangeClient.Proofs.Runner.Underway

/-!
# Starting stops at the first failure

A runner that is told to start some streams starts them in order, up to the first start that
is refused.  It may be in any state by then, whatever was done with it and with its client
before, and other things go on meanwhile.  When the starting returns, only the phase changes, so
what was kept under way says what has become of everything (`StartsOutcome`).

That it returns is up to the exchange: a start of a merged board waits for its seed.  With any
answers the starting can be brought to its return (`Underway.canReturn`): each of its own deeds
leaves one less to do (`Underway.nears`).
-/

namespace ExchangeClient

namespace ClientCall

/-- How many deeds a start has before it at most. -/
def deedsLeft : ClientCall → Nat
  | .starting _ => 3
  | .fetching _ => 2
  | .seeded _ _ => 1
  | .stopping _ | .closing _ | .returned _ => 0

end ClientCall

namespace Traffic

variable {σ : Type} {tr : Traffic σ} {i : Nat}

/-- A start that can do something by itself has less to do afterwards. -/
theorem deedsLeft_advance {call : ClientCall} {key : ChannelKey} (hcall : tr.calls[i]? = some call)
    (hkey : call.startKey? = some key) :
    ∃ after, (tr.advance i).calls[i]? = some after ∧ after.deedsLeft < call.deedsLeft := by
  have hi : i < tr.calls.length := (List.getElem?_eq_some_iff.mp hcall).1
  have hpos : 0 < call.deedsLeft := by
    cases call with
    | starting | seeded => exact Nat.zero_lt_succ _
    | fetching | stopping | closing | returned => cases hkey
  have hcase := callCase tr i
  generalize tr.advance i = after at hcase ⊢
  cases hcase with
  | rests hrests =>
    have hnone := hrests call hcall (.returned (.ok ()))
    cases call with
    | starting | seeded => cases hnone
    | fetching | stopping | closing | returned => cases hkey
  | asks spec hstarting =>
    obtain rfl := Option.some.inj (hcall.symm.trans hstarting)
    exact ⟨_, getElem?_settle hi _, Nat.lt_succ_self 2⟩
  | refused _ cause => exact ⟨_, getElem?_settle hi _, hpos⟩
  | entered _ _ feed client => exact ⟨_, List.getElem?_set_self hi, hpos⟩
  | taken key' n client hstopping =>
    obtain rfl := Option.some.inj (hcall.symm.trans hstopping)
    cases hkey
  | closes n hclosing | closed n hclosing =>
    obtain rfl := Option.some.inj (hcall.symm.trans hclosing)
    cases hkey

theorem deedsLeft_answer {spec : StreamSpec} (hcall : tr.calls[i]? = some (.fetching spec))
    (reply : Except ClientError Board) :
    ∃ after, (tr.answer i reply).calls[i]? = some after ∧
      after.deedsLeft < (ClientCall.fetching spec).deedsLeft := by
  have hi : i < tr.calls.length := (List.getElem?_eq_some_iff.mp hcall).1
  rw [answer, hcall]
  cases reply with
  | ok seed => exact ⟨_, getElem?_settle hi _, Nat.lt_succ_self 1⟩
  | error cause => exact ⟨_, getElem?_settle hi _, Nat.zero_lt_succ 1⟩

end Traffic

namespace Runner

variable {σ : Type} {t : Transport σ} {r₀ r after : Runner σ} {specs entered : List StreamSpec}
  {notes : RunNotes}

/-! ## It can return -/

/-- How many deeds a starting has before it at most. -/
def deedsLeft (r : Runner σ) : Nat :=
  match r.phase with
  | .starting _ rest => 7 * rest.length
  | .awaiting i _ _ rest =>
    7 * rest.length + 3 + ((r.traffic.calls[i]?).map ClientCall.deedsLeft).getD 0
  | .counting _ _ rest => 7 * rest.length + 2
  | .posting _ _ _ rest => 7 * rest.length + 1
  | _ => 0

/-- The next deed of a starting, when requests for seeds are answered in some way. -/
def startDeed (replies : StreamSpec → Except ClientError Board) (r : Runner σ) : RunnerMove σ :=
  match r.phase with
  | .awaiting i _ spec _ =>
    match r.traffic.calls[i]? with
    | some (.fetching _) => .answered (replies spec)
    | some (.returned _) => .proceeded
    | _ => .advanced
  | _ => .proceeded

/-- Whether the starting has returned in a move. -/
def Returns (t : Transport σ) (r : Runner σ) (m : RunnerMove σ) : Prop :=
  ∃ begun result, .startsReturned begun result ∈ (r.move t m).2

variable {replies : StreamSpec → Except ClientError Board}

/-- Whether the starting returns in a move or has less to do after it. -/
def Nears (t : Transport σ) (r : Runner σ) (m : RunnerMove σ) : Prop :=
  r.Returns t m ∨ ¬ r.Returns t m ∧ (r.move t m).1.deedsLeft < r.deedsLeft

/-- A deed of the call that the runner waits for. -/
theorem nears_of_carry {i : Nat} {begun rest : List StreamSpec} {spec : StreamSpec}
    {call : ClientCall} {m : RunnerMove σ} (tm : TrafficMove σ)
    (hphase : r.phase = .awaiting i begun spec rest) (hcall : r.traffic.calls[i]? = some call)
    (hmove : r.move t m = r.carry t tm)
    (hless : ∃ after, (r.traffic.move t tm).calls[i]? = some after ∧
      after.deedsLeft < call.deedsLeft) : r.Nears t m := by
  obtain ⟨after, hafter, hlt⟩ := hless
  right
  rw [Returns, hmove]
  constructor
  · rintro ⟨begun', result, hreturned⟩
    cases Traffic.isPublished_of_mem_news hreturned
  · have hphase' : (r.carry t tm).1.phase = .awaiting i begun spec rest := hphase
    have hafter' : (r.carry t tm).1.traffic.calls[i]? = some after := hafter
    rw [deedsLeft, deedsLeft, hphase, hphase']
    dsimp only
    rw [hcall, hafter']
    exact Nat.add_lt_add_left hlt _

/-- A deed of the runner itself that leads from one phase to the next. -/
theorem nears_of_proceed {told : List RunnerEvent} (hproceed : r.proceed = (after, told))
    (htold : ∀ begun result, .startsReturned begun result ∉ told)
    (hless : after.deedsLeft < r.deedsLeft) : r.Nears t .proceeded := by
  have hmove : r.move t .proceeded = (after, told) := hproceed
  right
  rw [Returns, hmove]
  exact ⟨fun ⟨begun, result, hreturned⟩ => htold begun result hreturned, hless⟩

/-- A deed of the runner itself with which the starting returns. -/
theorem nears_of_returned {begun : List StreamSpec} {result : Except RunFailure Unit}
    (hproceed : r.proceed = (after, [.startsReturned begun result])) : r.Nears t .proceeded := by
  have hmove : r.move t .proceeded = (after, [.startsReturned begun result]) := hproceed
  left
  rw [Returns, hmove]
  exact ⟨begun, result, List.mem_singleton.mpr rfl⟩

theorem nears_starting {begun rest : List StreamSpec} (hphase : r.phase = .starting begun rest) :
    r.Nears t .proceeded := by
  cases rest with
  | nil =>
    have hproceed : r.proceed =
        ({ r with phase := .ready }, [.startsReturned begun (.ok ())]) := by
      rw [proceed, hphase]
    exact nears_of_returned hproceed
  | cons spec rest =>
    have hproceed : r.proceed =
        (r.call (.starting spec) (.awaiting r.traffic.calls.length begun spec rest), []) := by
      rw [proceed, hphase]
    have hcall : (r.traffic.calls ++ [ClientCall.starting spec])[r.traffic.calls.length]? =
        some (.starting spec) := List.getElem?_concat_length
    refine nears_of_proceed hproceed (by simp) ?_
    rw [deedsLeft, deedsLeft, hphase]
    dsimp only [Runner.call]
    rw [hcall, List.length_cons]
    show 7 * rest.length + 3 + 3 < 7 * (rest.length + 1)
    omega

/-- The call that the runner waits for has returned. -/
theorem nears_returned {i : Nat} {begun rest : List StreamSpec} {spec : StreamSpec}
    {result : Except ClientError Unit} (hphase : r.phase = .awaiting i begun spec rest)
    (hcall : r.traffic.calls[i]? = some (.returned result)) : r.Nears t .proceeded := by
  cases result with
  | ok u =>
    have hproceed : r.proceed = ({ r with phase := .counting begun spec rest }, []) := by
      rw [proceed, hphase]
      dsimp only
      rw [hcall]
    refine nears_of_proceed hproceed (by simp) ?_
    rw [deedsLeft, deedsLeft, hphase]
    dsimp only
    omega
  | error cause =>
    have hproceed : r.proceed = ({ r with phase := .ready },
        [.startsReturned begun (.error ⟨.startStream spec.key, cause⟩)]) := by
      rw [proceed, hphase]
      dsimp only
      rw [hcall]
    exact nears_of_returned hproceed

theorem nears_counting {begun rest : List StreamSpec} {spec : StreamSpec}
    (hphase : r.phase = .counting begun spec rest) : r.Nears t .proceeded := by
  cases hfound : r.traffic.client.find? spec.key with
  | none =>
    have hproceed : r.proceed = ({ r with phase := .starting (begun ++ [spec]) rest }, []) := by
      rw [proceed, hphase]
      dsimp only
      rw [hfound]
    refine nears_of_proceed hproceed (by simp) ?_
    rw [deedsLeft, deedsLeft, hphase]
    dsimp only
    omega
  | some n =>
    have hproceed : r.proceed = ({ r with
        accounts := r.accounts.countIn
        phase := .posting n begun spec rest }, [.counted n spec.key]) := by
      rw [proceed, hphase]
      dsimp only
      rw [hfound]
    refine nears_of_proceed hproceed (by simp) ?_
    rw [deedsLeft, deedsLeft, hphase]
    dsimp only
    omega

theorem nears_posting {n : Nat} {begun rest : List StreamSpec} {spec : StreamSpec}
    (hphase : r.phase = .posting n begun spec rest) : r.Nears t .proceeded := by
  have hproceed : r.proceed = ({ r with
      monitors := r.monitors ++ [⟨spec.key, n, .fresh⟩]
      accounts := r.accounts.watch spec.key
      phase := .starting (begun ++ [spec]) rest }, []) := by
    rw [proceed, hphase]
  refine nears_of_proceed hproceed (by simp) ?_
  rw [deedsLeft, deedsLeft, hphase]
  dsimp only
  omega

/-- The call that the runner waits for is a start, however far it has come. -/
theorem nears_awaiting {i : Nat} {begun rest : List StreamSpec} {spec : StreamSpec}
    {call : ClientCall} {c : FeedClient Nat} {more : List SeedEvent} {isIn : Bool}
    (hphase : r.phase = .awaiting i begun spec rest) (hcall : r.traffic.calls[i]? = some call)
    (hstart : StartStage c begun spec call more isIn) : r.Nears t (r.startDeed replies) := by
  rw [startDeed, hphase]
  dsimp only
  rw [hcall]
  cases hstart with
  | starting | seeded =>
    exact nears_of_carry (.advanced i) hphase hcall (by rw [Runner.move, hphase]; rfl)
      (Traffic.deedsLeft_advance hcall rfl)
  | fetching =>
    exact nears_of_carry (.answered i (replies spec)) hphase hcall
      (by rw [Runner.move, hphase]; rfl) (Traffic.deedsLeft_answer hcall _)
  | returned => exact nears_returned hphase hcall

/-- **Each deed of a starting returns or leaves less to do.** -/
theorem Underway.nears (h : Underway r₀ specs r entered notes)
    (replies : StreamSpec → Except ClientError Board) : r.Nears t (r.startDeed replies) := by
  obtain ⟨seeds, made, events, updates, updatesUnder⟩ := notes
  have hstage : PhaseStage r₀ specs r.traffic r.phase seeds entered made := h.staged.phase
  have hown (hdeed : r.startDeed replies = .proceeded) (hnears : r.Nears t .proceeded) :
      r.Nears t (r.startDeed replies) := by
    rw [hdeed]
    exact hnears
  generalize hphase : r.phase = phase at hstage
  cases hstage with
  | starting => exact hown (by rw [startDeed, hphase]) (nears_starting hphase)
  | awaiting _ _ hcall hstart => exact nears_awaiting hphase hcall hstart
  | counting => exact hown (by rw [startDeed, hphase]) (nears_counting hphase)
  | posting => exact hown (by rw [startDeed, hphase]) (nears_posting hphase)

/-- Whether a starting can be brought to its return by answers of some kind. -/
def CanReturn (t : Transport σ) (replies : StreamSpec → Except ClientError Board) (r : Runner σ)
    (past : RunNotes) : Prop :=
  ∃ ms m begun result, (∀ begun result, .startsReturned begun result ∉ (r.run t ms).2) ∧
    .startsReturned begun result ∈ ((r.run t ms).1.move t m).2 ∧
    ∀ spec reply, .answered spec reply ∈ (r.notes t past ms).seeds →
      .answered spec reply ∈ past.seeds ∨ reply = replies spec

/-- By a deed of its own a start is answered nothing. -/
theorem answered_not_mem_advanced (tr : Traffic σ) (i : Nat) (spec : StreamSpec)
    (reply : Except ClientError Board) : .answered spec reply ∉ tr.seedEvents (.advanced i) := by
  rw [Traffic.seedEvents]
  split <;> simp

/-- Requests for seeds are answered in the way that was said. -/
theorem Underway.answers (h : Underway r₀ specs r entered notes) {spec : StreamSpec}
    {reply : Except ClientError Board}
    (hanswered : .answered spec reply ∈ r.seedEventsIn (r.startDeed replies)) :
    reply = replies spec := by
  obtain ⟨seeds, made, events, updates, updatesUnder⟩ := notes
  have hstage : PhaseStage r₀ specs r.traffic r.phase seeds entered made := h.staged.phase
  generalize hphase : r.phase = phase at hstage
  rw [startDeed, hphase] at hanswered
  cases hstage with
  | starting | counting | posting => cases hanswered
  | @awaiting i begun rest spec' call early more isIn hspecs hbegan hcall hstart =>
    dsimp only at hanswered
    rw [hcall] at hanswered
    cases hstart with
    | starting | seeded =>
      dsimp only at hanswered
      rw [seedEventsIn, hphase] at hanswered
      exact absurd hanswered (answered_not_mem_advanced _ _ _ _)
    | fetching =>
      dsimp only at hanswered
      rw [seedEventsIn, hphase] at hanswered
      dsimp only [RunnerPhase.call?, Option.map_some, Option.getD_some] at hanswered
      rw [Traffic.seedEvents, hcall] at hanswered
      obtain ⟨rfl, rfl⟩ := SeedEvent.answered.inj (List.mem_singleton.mp hanswered)
      rfl
    | returned => cases hanswered

/-- **A starting can be brought to its return, whatever the answers are.** -/
theorem Underway.canReturn (h : Underway r₀ specs r entered notes)
    (replies : StreamSpec → Except ClientError Board) :
    CanReturn t replies r notes := by
  induction hleft : r.deedsLeft using Nat.strongRecOn generalizing r entered notes with
  | ind left ih =>
    subst hleft
    rcases h.nears (t := t) replies with ⟨begun, result, hreturned⟩ | ⟨hnot, hless⟩
    · exact ⟨[], _, begun, result, by simp, hreturned, fun _ _ hanswered => .inl hanswered⟩
    · have hgoing : ∀ begun result, .startsReturned begun result ∉
          (r.move t (r.startDeed replies)).2 := fun begun result hreturned =>
        hnot ⟨begun, result, hreturned⟩
      obtain ⟨entered', hnext⟩ := h.move _ hgoing
      obtain ⟨ms, m, begun, result, hrun, hreturned, hseeds⟩ := ih _ hless hnext rfl
      refine ⟨r.startDeed replies :: ms, m, begun, result, fun begun result hmem => ?_, hreturned,
        fun spec reply hanswered => ?_⟩
      · exact (List.mem_append.mp hmem).elim (hgoing begun result) (hrun begun result)
      · rcases hseeds spec reply hanswered with hpast | hreply
        · exact (List.mem_append.mp hpast).imp_right h.answers
        · exact .inr hreply

/-! ## What it comes to -/

/-- What the starting of some streams on a client comes to: all of them were let through, or the
first that was not is named. -/
inductive StartsVerdict (c : FeedClient Nat) (specs : List StreamSpec) :
    List SeedEvent → List StreamSpec → Except RunFailure Unit → Prop
  | all {seeds : List SeedEvent} (hbegan : Began c specs seeds) :
    StartsVerdict c specs seeds specs (.ok ())
  | failed {begun rest : List StreamSpec} {spec : StreamSpec} {seeds more : List SeedEvent}
    {cause : ClientError} (hspecs : specs = begun ++ spec :: rest) (hbegan : Began c begun seeds)
    (hrefused : Verdict c begun spec more (.error cause)) :
    StartsVerdict c specs (seeds ++ more) begun (.error ⟨.startStream spec.key, cause⟩)

/-- What has become of a runner `r₀` that was told to start some streams, when it has started
those in `begun` and returned a result. -/
structure StartsOutcome (r₀ : Runner σ) (specs : List StreamSpec) (after : Runner σ)
    (notes : RunNotes) (begun : List StreamSpec) (result : Except RunFailure Unit) : Prop where
  verdict : StartsVerdict r₀.traffic.client specs notes.seeds begun result
  /-- No start was called behind the first that failed. -/
  attempted : notes.calls = (specs.take (begun.length + 1)).map .starting
  client : after.traffic.client = { r₀.traffic.client with
    streams := r₀.traffic.client.streams ++ entriesFrom r₀.traffic.feeds.length begun }
  /-- Nothing else has a worker. -/
  feedKeys : after.traffic.feedKeys = r₀.traffic.feedKeys ++ begun.map StreamSpec.key
  monitors : after.monitors.map watchedBy =
    r₀.monitors.map watchedBy ++ entriesFrom r₀.traffic.feeds.length begun
  counters : CountersKept r₀ begun after notes.updates notes.updatesUnder
  live : r₀.Covered → after.accounts.live + notes.events.countP RunnerEvent.isCountedOut =
    r₀.accounts.live + begun.length
  /-- What was counted out is on record, but for monitors that have put their streams there and
  have still to count them out. -/
  record : after.accounts.exhausted.length +
      (r₀.monitors.countP fun mon => mon.stage == .retiring) =
    r₀.accounts.exhausted.length + notes.events.countP RunnerEvent.isCountedOut +
      after.monitors.countP fun mon => mon.stage == .retiring

/-- Only the phase changes when the starting returns. -/
theorem Underway.ready (h : Underway r₀ specs r entered notes) {result : Except RunFailure Unit}
    (hposted : r.phase.posted = entered) (hunposted : r.phase.unposted = 0)
    (hverdict : StartsVerdict r₀.traffic.client specs notes.seeds entered result)
    (hattempted : notes.calls = (specs.take (entered.length + 1)).map .starting) :
    StartsOutcome r₀ specs { r with phase := .ready } notes entered result where
  verdict := hverdict
  attempted := hattempted
  client := h.staged.client
  feedKeys := h.staged.feedKeys
  monitors := hposted ▸ h.monitors
  counters := h.counters.of_eq rfl rfl
  live hcovered := by
    have hlive := (h.accounted.live hcovered).2
    rwa [hposted, hunposted] at hlive
  record := h.accounted.record

theorem Underway.outcome (h : Underway r₀ specs r entered notes) {begun : List StreamSpec}
    {result : Except RunFailure Unit} (m : RunnerMove σ)
    (hreturned : .startsReturned begun result ∈ (r.move t m).2) :
    StartsOutcome r₀ specs (r.move t m).1 notes begun result := by
  obtain ⟨seeds, made, events, updates, updatesUnder⟩ := notes
  have hstage : PhaseStage r₀ specs r.traffic r.phase seeds entered made := h.staged.phase
  have hcase := moveCase t r m
  generalize r.move t m = moved at hcase hreturned ⊢
  obtain ⟨after, told⟩ := moved
  cases hcase with
  | rested => cases hreturned
  | carried tm hm => cases Traffic.isPublished_of_mem_news hreturned
  | counted => simp at hreturned
  | posted => cases hreturned
  | attended j mon hmon hcase => exact absurd hreturned (hcase.ne_startsReturned begun result)
  | signalled => cases hreturned
  | phased hcase =>
    cases hcase with
    | startsReturned begun' hphase =>
      obtain ⟨rfl, rfl⟩ := RunnerEvent.startsReturned.inj (List.mem_singleton.mp hreturned)
      rw [hphase] at hstage
      cases hstage with
      | starting hspecs hbegan =>
        rw [List.append_nil] at hspecs
        subst hspecs
        refine h.ready (by rw [hphase]; rfl) (by rw [hphase]; rfl) (.all hbegan) ?_
        rw [List.take_of_length_le (Nat.le_succ _)]
    | refused i begun' spec rest cause hphase hcall =>
      obtain ⟨rfl, rfl⟩ := RunnerEvent.startsReturned.inj (List.mem_singleton.mp hreturned)
      rw [hphase] at hstage
      cases hstage with
      | @awaiting _ _ _ _ call early more isIn hspecs hbegan hcall' hstart =>
        obtain rfl := Option.some.inj (hcall.symm.trans hcall')
        cases hstart with
        | returned hverdict =>
          have hnone : begun ++ (if (Except.error cause : Except ClientError Unit).isOk = true
              then [spec] else []) = begun := List.append_nil _
          rw [hnone] at h
          refine h.ready (by rw [hphase]; rfl) (by rw [hphase]; rfl)
            (.failed hspecs hbegan hverdict) ?_
          rw [hspecs, List.take_append, List.take_of_length_le (Nat.le_succ _),
            Nat.add_sub_cancel_left]
          rfl
    | _ => simp at hreturned

/-- **Starting streams stops cleanly at the first failure.**  Let a runner in any state be told to
start some streams, and let anything happen meanwhile.

* When the starting returns, let `begun` be the streams it reports as started.  The starts were let
  through in order up to the end of the list, or up to one that was refused and that the error
  names; no start behind that was called, no seed asked for and no worker spawned.  The registry,
  the feeds, the monitors and the counters are those of before and those of the streams in `begun`,
  and every other counter has counted what was delivered under its key.  The number of streams
  alive has grown by that of the streams in `begun`, less those that were counted out meanwhile.
* Whatever the requests for seeds are answered, the starting can be brought to its return.
* In the runs of a runner the streams alive are counted as that number needs it. -/
theorem starts_until_first_failure (t : Transport σ) (r₀ : Runner σ) (hready : r₀.phase = .ready)
    (specs : List StreamSpec) :
    (∀ ms m, (∀ begun result,
        .startsReturned begun result ∉ (r₀.run t (.startsCalled specs :: ms)).2) →
      ∀ begun result, .startsReturned begun result ∈
        ((r₀.run t (.startsCalled specs :: ms)).1.move t m).2 →
      StartsOutcome r₀ specs ((r₀.run t (.startsCalled specs :: ms)).1.move t m).1
        (r₀.notes t .blank (.startsCalled specs :: ms)) begun result) ∧
    (∀ replies : StreamSpec → Except ClientError Board, ∃ ms m begun result,
      (∀ begun result, .startsReturned begun result ∉
        (r₀.run t (.startsCalled specs :: ms)).2) ∧
      .startsReturned begun result ∈ ((r₀.run t (.startsCalled specs :: ms)).1.move t m).2 ∧
      ∀ spec reply, .answered spec reply ∈
        (r₀.notes t .blank (.startsCalled specs :: ms)).seeds → reply = replies spec) ∧
    ∀ config calls early, r₀ = ((idle config calls).run t early).1 → r₀.Covered := by
  have hstart := underway_startsCalled t hready specs
  have hsilent : (r₀.move t (.startsCalled specs)).2 = [] := by rw [Runner.move, hready]
  refine ⟨fun ms m hgoing begun result hreturned => ?_, fun replies => ?_, ?_⟩
  · obtain ⟨entered, h⟩ := hstart.run ms fun begun result hmem =>
      hgoing begun result (List.mem_append_right _ hmem)
    exact h.outcome m hreturned
  · obtain ⟨ms, m, begun, result, hgoing, hreturned, hseeds⟩ :=
      hstart.canReturn (t := t) replies
    refine ⟨ms, m, begun, result, fun begun result hmem => ?_, hreturned,
      fun spec reply hanswered => ?_⟩
    · rw [run_cons, hsilent] at hmem
      exact hgoing begun result hmem
    · exact (hseeds spec reply hanswered).resolve_left fun h => by cases h
  · rintro config calls early rfl
    exact covered_run t config calls early

/-- A runner that has started the ticker of a product. -/
def tickerRunner : Runner Unit :=
  ((idle impatientConfig none).run .muted
    (.startsCalled (twoTickers.take 1) :: startNext ++ [.proceeded])).1

/-- A ticker that is not running, one that is running, said to be merged, and another. -/
def repeatedSpecs : List StreamSpec :=
  [⟨"X", .ticker, false⟩, ⟨"BTC_JPY", .ticker, true⟩, ⟨"Y", .ticker, false⟩]

/-- The first is started, and given up before the second is refused. -/
def repeatedStarts : List (RunnerMove Unit) :=
  startNext ++ giveUp 1 ++ [.proceeded, .advanced]

/-- The error names the ticker that is running. -/
theorem repeatedStarts_refused :
    let after := tickerRunner.run .muted (.startsCalled repeatedSpecs :: repeatedStarts)
    let failure : RunFailure :=
      ⟨.startStream ⟨"BTC_JPY", .ticker⟩, .alreadyExists ⟨"BTC_JPY", .ticker⟩⟩
    tickerRunner.phase = .ready ∧
      .startsReturned [⟨"X", .ticker, false⟩] (.error failure) ∈
        (after.1.move .muted .proceeded).2 ∧
      StartsOutcome tickerRunner repeatedSpecs (after.1.move .muted .proceeded).1
        (tickerRunner.notes .muted .blank (.startsCalled repeatedSpecs :: repeatedStarts))
        [⟨"X", .ticker, false⟩] (.error failure) ∧
      tickerRunner.Covered := by
  intro after failure
  have hready : tickerRunner.phase = .ready := by rfl
  have hevents : after.2 =
      [.published 1 ⟨"X", .ticker⟩ .connecting, .counted 1 ⟨"X", .ticker⟩,
        .published 1 ⟨"X", .ticker⟩ (.exhausted 0), .saw 1 (.exhausted 0), .countedOut 1 2] := by
    rfl
  have hreturned : .startsReturned [⟨"X", .ticker, false⟩] (.error failure) ∈
      (after.1.move .muted .proceeded).2 := List.mem_of_getElem? (i := 0) (by rfl)
  obtain ⟨houtcome, -, hcovered⟩ :=
    starts_until_first_failure .muted tickerRunner hready repeatedSpecs
  have hgoing (begun : List StreamSpec) (result : Except RunFailure Unit) :
      .startsReturned begun result ∉ after.2 := by
    rw [hevents]
    simp
  exact ⟨hready, hreturned, houtcome repeatedStarts .proceeded hgoing _ _ hreturned,
    hcovered _ _ _ rfl⟩

end Runner
end ExchangeClient
