import ExchangeClient.Proofs.Runner.Accounting
import ExchangeClient.Proofs.Runner.Staging

/-!
# A starting under way

While a runner starts streams its monitors, the workers of all streams, and whoever asks for a
shutdown go on as they like.  `Underway` puts together what is kept meanwhile: what was
registered, counted, watched and asked for since the starting began is that of the streams
begun so far, and of the one whose start is under way as far as it has come.

A move that has nothing to do with the starting leaves all of this as it is, but for what is
delivered and counted out; the moves of the start under way and of the runner itself are those of
`StartStage` and of `Runner.proceed`.
-/

namespace ExchangeClient

/-- What is noted of a run. -/
structure RunNotes where
  /-- What was asked and answered for seeds. -/
  seeds : List SeedEvent
  /-- The calls that were made on the client. -/
  calls : List ClientCall
  events : List RunnerEvent
  /-- How many updates each feed has delivered. -/
  updates : Nat → Nat
  /-- How many updates the feeds of each key have delivered. -/
  updatesUnder : ChannelKey → Nat

/-- The notes before anything has happened. -/
def RunNotes.blank : RunNotes := ⟨[], [], [], fun _ => 0, fun _ => 0⟩

namespace Runner

variable {σ : Type} {t : Transport σ} {r₀ r after : Runner σ} {specs entered : List StreamSpec}

/-! ## What is noted of a run -/

/-- What a move asks and is answered for seeds. -/
def seedEventsIn (r : Runner σ) : RunnerMove σ → List SeedEvent
  | .advanced => (r.phase.call?.map fun i => r.traffic.seedEvents (.advanced i)).getD []
  | .answered reply => (r.phase.call?.map fun i => r.traffic.seedEvents (.answered i reply)).getD []
  | _ => []

/-- The notes with those of a move. -/
def note (t : Transport σ) (r : Runner σ) (notes : RunNotes) (m : RunnerMove σ) : RunNotes where
  seeds := notes.seeds ++ r.seedEventsIn m
  calls := notes.calls ++ (r.move t m).1.traffic.calls.drop r.traffic.calls.length
  events := notes.events ++ (r.move t m).2
  updates n := notes.updates n + (StreamEvent.updates (r.eventsIn t n m)).length
  updatesUnder key := notes.updatesUnder key + r.updatesIn t key m

/-- The notes with those of a run. -/
def notes (t : Transport σ) (r : Runner σ) (past : RunNotes) : List (RunnerMove σ) → RunNotes
  | [] => past
  | m :: ms => (r.move t m).1.notes t (r.note t past m) ms

/-! ## All of it -/

/-- What a monitor watches. -/
def watchedBy (mon : Monitor) : ChannelKey × Nat := (mon.key, mon.feed)

/-- Whether a runner has been starting some streams since it was `r₀`: the streams in `entered`
were entered by then, and what was called, asked, watched and counted is theirs. -/
structure Underway (r₀ : Runner σ) (specs : List StreamSpec) (r : Runner σ)
    (entered : List StreamSpec) (past : RunNotes) : Prop where
  staged : Staged r₀ specs r past.seeds entered past.calls
  monitors : r.monitors.map watchedBy =
    r₀.monitors.map watchedBy ++ entriesFrom r₀.traffic.feeds.length r.phase.posted
  accounted : Accounted r₀ r past.events
  counters : CountersKept r₀ entered r past.updates past.updatesUnder

variable {m : RunnerMove σ} {notes : RunNotes}

/-- Whether a move neither delivers anything nor is about seeds. -/
structure IsSilent (t : Transport σ) (r : Runner σ) (m : RunnerMove σ) : Prop where
  seeds : r.seedEventsIn m = []
  events : ∀ n, r.eventsIn t n m = []
  updates : ∀ key, r.updatesIn t key m = 0

/-- The notes of such a move are those of the calls and events in it. -/
theorem IsSilent.note_eq (h : r.IsSilent t m) (calls : List ClientCall)
    (hcalls : (r.move t m).1.traffic.calls = r.traffic.calls ++ calls) :
    r.note t notes m = { notes with
      calls := notes.calls ++ calls, events := notes.events ++ (r.move t m).2 } := by
  rw [note, h.seeds, hcalls, List.drop_left]
  simp only [h.events, h.updates, List.append_nil]
  rfl

/-- A deed that registers nothing and calls nothing. -/
theorem Underway.keep (h : Underway r₀ specs r entered notes) (hsilent : r.IsSilent t m)
    (htraffic : (r.move t m).1.traffic = r.traffic)
    (hphase : (r.move t m).1.phase = r.phase)
    (hmonitors : (r.move t m).1.monitors.map watchedBy = r.monitors.map watchedBy)
    (hcounters : (r.move t m).1.accounts.counters = r.accounts.counters)
    (haccounted : Accounted r₀ (r.move t m).1 (notes.events ++ (r.move t m).2)) :
    Underway r₀ specs (r.move t m).1 entered (r.note t notes m) := by
  rw [hsilent.note_eq [] (by rw [htraffic, List.append_nil]), List.append_nil]
  refine ⟨h.staged.of_eq hphase ?_ ?_ ?_, ?_, haccounted, h.counters.of_eq hcounters ?_⟩
  · rw [htraffic]
  · rw [htraffic]
  · rw [htraffic]
  · rw [hmonitors, hphase, h.monitors]
  · rw [htraffic]

theorem Underway.rest (h : Underway r₀ specs r entered notes) (hsilent : r.IsSilent t m)
    (hmove : r.move t m = (r, [])) :
    Underway r₀ specs (r.move t m).1 entered (r.note t notes m) := by
  refine h.keep hsilent ?_ ?_ ?_ ?_ ?_
  all_goals rw [hmove]
  rw [List.append_nil]
  exact h.accounted

theorem Underway.attends (h : Underway r₀ specs r entered notes) (hsilent : r.IsSilent t m)
    (hattends : Attends r (r.move t m).1 (r.move t m).2) :
    Underway r₀ specs (r.move t m).1 entered (r.note t notes m) := by
  have hkeep := h.keep hsilent
  have hrest := h.rest hsilent
  generalize r.move t m = moved at hattends hkeep hrest ⊢
  obtain ⟨after, events⟩ := moved
  cases hattends with
  | rested => exact hrest rfl
  | attended j mon hmon hcase =>
    exact hkeep rfl rfl (map_set_of_eq hmon rfl) hcase.counters (h.accounted.attended hmon hcase)

/-! ### Moves of the traffic -/

theorem Underway.worked (h : Underway r₀ specs r entered notes)
    (hnodup : (entered.map StreamSpec.key).Nodup) (n : Nat) (fm : FeedMove σ) :
    Underway r₀ specs (r.move t (.worked n fm)).1 entered (r.note t notes (.worked n fm)) := by
  have hcalls : (r.move t (.worked n fm)).1.traffic.calls = r.traffic.calls := rfl
  have hkeys : (r.move t (.worked n fm)).1.traffic.feedKeys = r.traffic.feedKeys :=
    Traffic.feedKeys_changeFeed fun f => StoppableFeed.outlives_work t f fm
  have hstaged : Staged r₀ specs (r.move t (.worked n fm)).1 notes.seeds entered notes.calls :=
    h.staged.of_eq rfl hcalls rfl hkeys
  refine ⟨?_, h.monitors, h.accounted.carry t _, h.counters.worked h.staged.feedKeys hnodup n fm⟩
  rw [note, hcalls, List.drop_length, List.append_nil]
  show Staged r₀ specs _ (notes.seeds ++ []) entered notes.calls
  rw [List.append_nil]
  exact hstaged

/-- The start under way goes on. -/
theorem Underway.goesOn (h : Underway r₀ specs r entered notes) {i : Nat}
    {begun rest : List StreamSpec} {spec : StreamSpec} (tm : TrafficMove σ)
    (hphase : r.phase = .awaiting i begun spec rest)
    (hmove : r.move t m = r.carry t tm) (hseeds : r.seedEventsIn m = r.traffic.seedEvents tm)
    (hnothing : (∀ n, r.eventsIn t n m = []) ∧ ∀ key, r.updatesIn t key m = 0)
    (hquiet : r.traffic.delivered? t tm = none)
    (hcomes : ∀ call more isIn, r.traffic.calls[i]? = some call →
      StartStage r₀.traffic.client begun spec call more isIn →
      (isIn = false → r.traffic.client.keys = r₀.traffic.client.keysAfter begun) →
      StartStage.Comes r₀.traffic.client begun spec r.traffic (r.traffic.move t tm) i
        (more ++ r.traffic.seedEvents tm) isIn) :
    ∃ entered', Underway r₀ specs (r.move t m).1 entered' (r.note t notes m) := by
  obtain ⟨hcalls, hcase⟩ := h.staged.comes hphase hcomes (r.carry t tm).1.accounts
  have hnote : r.note t notes m = { notes with
      seeds := notes.seeds ++ r.traffic.seedEvents tm
      events := notes.events ++ (r.carry t tm).2 } := by
    have hdrop : (r.carry t tm).1.traffic.calls.drop r.traffic.calls.length = [] :=
      List.drop_eq_nil_of_le (Nat.le_of_eq hcalls)
    rw [note, hmove, hseeds, hdrop]
    simp only [hnothing.1, hnothing.2, List.append_nil]
    rfl
  rw [hnote, hmove]
  have haccounted := h.accounted.carry t tm
  rcases hcase with ⟨hfeeds, hstaged⟩ | ⟨f, hfeeds, hkey, hstaged⟩
  · refine ⟨entered, hstaged, h.monitors, haccounted, h.counters.of_eq ?_ ?_⟩
    · rw [accounts_carry_of_kept hquiet hfeeds]
    · exact congrArg List.length hfeeds
  · refine ⟨entered ++ [spec], hstaged, h.monitors, haccounted,
      h.counters.enter ?_ h.staged.feeds_length ?_ ?_⟩
    · obtain ⟨_, hbegan⟩ := hstaged.phase.began
      have hnodup := hbegan.nodup.1
      rw [List.map_append, List.nodup_append] at hnodup
      exact fun hmem => hnodup.2.2 _ hmem _ (List.mem_singleton.mpr rfl) rfl
    · rw [accounts_carry_of_entered hquiet hfeeds, hkey]
    · exact (congrArg List.length hfeeds).trans List.length_append

/-! ### Moves of the runner -/

/-- The runner goes on with its own phase. -/
theorem Underway.proceeded (h : Underway r₀ specs r entered notes) {calls : List ClientCall}
    {events : List RunnerEvent} (hproceed : r.proceed = (after, events))
    (hcalls : after.traffic.calls = r.traffic.calls ++ calls)
    (hclient : after.traffic.client = r.traffic.client)
    (hfeeds : after.traffic.feeds = r.traffic.feeds)
    (hcounters : after.accounts.counters = r.accounts.counters)
    (hstage : PhaseStage r₀ specs after.traffic after.phase notes.seeds entered
      (notes.calls ++ calls))
    (hmonitors : after.monitors.map watchedBy =
      r₀.monitors.map watchedBy ++ entriesFrom r₀.traffic.feeds.length after.phase.posted)
    (haccounted : Accounted r₀ after (notes.events ++ events)) :
    Underway r₀ specs (r.move t .proceeded).1 entered (r.note t notes .proceeded) := by
  have hsilent : r.IsSilent t .proceeded := ⟨rfl, fun _ => rfl, fun _ => rfl⟩
  have hmove : r.move t .proceeded = (after, events) := hproceed
  rw [hsilent.note_eq calls (by rw [hmove, hcalls]), hmove]
  refine ⟨⟨hstage, hclient.trans h.staged.client, ?_⟩, hmonitors, haccounted,
    h.counters.of_eq hcounters (congrArg List.length hfeeds)⟩
  rw [← h.staged.feedKeys, Traffic.feedKeys, Traffic.feedKeys, hfeeds]

/-- The next stream is asked for. -/
theorem Underway.calls (h : Underway r₀ specs r entered notes) {spec : StreamSpec}
    {rest : List StreamSpec} (hphase : r.phase = .starting entered (spec :: rest))
    (hspecs : specs = entered ++ spec :: rest)
    (hbegan : Began r₀.traffic.client entered notes.seeds)
    (hmade : notes.calls = entered.map .starting) :
    Underway r₀ specs (r.move t .proceeded).1 entered (r.note t notes .proceeded) := by
  have hproceed : r.proceed =
      (r.call (.starting spec) (.awaiting r.traffic.calls.length entered spec rest), []) := by
    rw [Runner.proceed, hphase]
  have hposted : r.phase.posted = entered := by rw [hphase]; rfl
  refine h.proceeded hproceed rfl rfl rfl rfl ?_ (hposted ▸ h.monitors) ?_
  · have hstage : PhaseStage r₀ specs (r.call (.starting spec) .ready).traffic
        (.awaiting r.traffic.calls.length entered spec rest) (notes.seeds ++ [])
        (entered ++ []) ((entered ++ [spec]).map .starting) :=
      .awaiting hspecs hbegan List.getElem?_concat_length .starting
    rw [List.append_nil, List.append_nil, List.map_append, ← hmade] at hstage
    exact hstage
  · refine h.accounted.quiet rfl rfl rfl ?_ (List.forall_mem_nil _)
    rw [hphase]
    exact ⟨rfl, rfl⟩

/-- The call for a stream has come back, and the stream was let in. -/
theorem Underway.letsIn {begun rest : List StreamSpec} {spec : StreamSpec} {i : Nat}
    (h : Underway r₀ specs r (begun ++ [spec]) notes)
    (hphase : r.phase = .awaiting i begun spec rest)
    (hcall : r.traffic.calls[i]? = some (.returned (.ok ())))
    (hspecs : specs = begun ++ spec :: rest)
    (hbegan : Began r₀.traffic.client (begun ++ [spec]) notes.seeds)
    (hmade : notes.calls = (begun ++ [spec]).map .starting) :
    Underway r₀ specs (r.move t .proceeded).1 (begun ++ [spec]) (r.note t notes .proceeded) := by
  have hproceed : r.proceed = ({ r with phase := .counting begun spec rest }, []) := by
    rw [Runner.proceed, hphase]
    dsimp only
    rw [hcall]
  have hposted : r.phase.posted = begun := by rw [hphase]; rfl
  refine h.proceeded hproceed (List.append_nil _).symm rfl rfl rfl ?_ (hposted ▸ h.monitors) ?_
  · rw [List.append_nil, hmade]
    exact .counting hspecs hbegan
  · refine h.accounted.quiet rfl rfl rfl ?_ (List.forall_mem_nil _)
    rw [hphase]
    exact ⟨rfl, rfl⟩

/-- The stream is counted among those that are alive. -/
theorem Underway.countsIn {begun rest : List StreamSpec} {spec : StreamSpec}
    (h : Underway r₀ specs r (begun ++ [spec]) notes)
    (hphase : r.phase = .counting begun spec rest) (hspecs : specs = begun ++ spec :: rest)
    (hbegan : Began r₀.traffic.client (begun ++ [spec]) notes.seeds)
    (hmade : notes.calls = (begun ++ [spec]).map .starting) :
    Underway r₀ specs (r.move t .proceeded).1 (begun ++ [spec]) (r.note t notes .proceeded) := by
  have hproceed : r.proceed = ({ r with
      accounts := r.accounts.countIn
      phase := .posting (r₀.traffic.feeds.length + begun.length) begun spec rest },
      [.counted (r₀.traffic.feeds.length + begun.length) spec.key]) := by
    rw [Runner.proceed, hphase]
    dsimp only
    rw [h.staged.find? rfl]
  have hposted : r.phase.posted = begun := by rw [hphase]; rfl
  refine h.proceeded hproceed (List.append_nil _).symm rfl rfl rfl ?_ (hposted ▸ h.monitors) ?_
  · rw [List.append_nil, hmade]
    exact .posting hspecs hbegan
  · exact h.accounted.counted hphase _

/-- The stream gets a monitor. -/
theorem Underway.posts {begun rest : List StreamSpec} {spec : StreamSpec}
    (h : Underway r₀ specs r (begun ++ [spec]) notes)
    (hphase : r.phase = .posting (r₀.traffic.feeds.length + begun.length) begun spec rest)
    (hspecs : specs = begun ++ spec :: rest)
    (hbegan : Began r₀.traffic.client (begun ++ [spec]) notes.seeds)
    (hmade : notes.calls = (begun ++ [spec]).map .starting) :
    Underway r₀ specs (r.move t .proceeded).1 (begun ++ [spec]) (r.note t notes .proceeded) := by
  have hproceed : r.proceed = ({ r with
      monitors := r.monitors ++ [⟨spec.key, r₀.traffic.feeds.length + begun.length, .fresh⟩]
      accounts := r.accounts.watch spec.key
      phase := .starting (begun ++ [spec]) rest }, []) := by
    rw [Runner.proceed, hphase]
  have hposted : r.phase.posted = begun := by rw [hphase]; rfl
  refine h.proceeded hproceed (List.append_nil _).symm rfl rfl rfl ?_ ?_ ?_
  · rw [List.append_nil, hmade]
    exact .starting (by rw [hspecs, List.append_cons]) hbegan
  · show (r.monitors ++ [_]).map watchedBy = _ ++ entriesFrom _ (begun ++ [spec])
    rw [List.map_append, h.monitors, hposted, entriesFrom_concat, List.append_assoc]
    rfl
  · rw [List.append_nil]
    exact h.accounted.posted hphase

/-- What the runner does next, unless its starting returns. -/
theorem Underway.proceed (h : Underway r₀ specs r entered notes)
    (hgoing : ∀ begun result, .startsReturned begun result ∉ r.proceed.2) :
    Underway r₀ specs (r.move t .proceeded).1 entered (r.note t notes .proceeded) := by
  have hsilent : r.IsSilent t .proceeded := ⟨rfl, fun _ => rfl, fun _ => rfl⟩
  obtain ⟨seeds, made, events, updates, updatesUnder⟩ := notes
  have hstage : PhaseStage r₀ specs r.traffic r.phase seeds entered made := h.staged.phase
  generalize hphase : r.phase = phase at hstage
  cases hstage with
  | @starting _ rest _ hspecs hbegan =>
    cases rest with
    | nil =>
      have hproceed : r.proceed =
          ({ r with phase := .ready }, [.startsReturned entered (.ok ())]) := by
        rw [Runner.proceed, hphase]
      rw [hproceed] at hgoing
      exact absurd (List.mem_singleton.mpr rfl) (hgoing entered (.ok ()))
    | cons spec rest => exact h.calls hphase hspecs hbegan rfl
  | @awaiting i begun rest spec call early more isIn hspecs hbegan hcall hstart =>
    cases hstart with
    | @returned more result hverdict =>
      cases result with
      | ok u => exact h.letsIn hphase hcall hspecs (hbegan.concat hverdict) rfl
      | error cause =>
        have hproceed : r.proceed = ({ r with phase := .ready },
            [.startsReturned begun (.error ⟨.startStream spec.key, cause⟩)]) := by
          rw [Runner.proceed, hphase]
          dsimp only
          rw [hcall]
        rw [hproceed] at hgoing
        exact absurd (List.mem_singleton.mpr rfl) (hgoing _ _)
    | starting | fetching | seeded =>
      refine h.rest hsilent ?_
      rw [move, Runner.proceed, hphase]
      dsimp only
      rw [hcall]
  | counting hspecs hbegan => exact h.countsIn hphase hspecs hbegan rfl
  | posting hspecs hbegan => exact h.posts hphase hspecs hbegan rfl

/-! ### Moves and runs -/

/-- **Every move keeps to it until the starting returns.** -/
theorem Underway.move (h : Underway r₀ specs r entered notes) (m : RunnerMove σ)
    (hgoing : ∀ begun result, .startsReturned begun result ∉ (r.move t m).2) :
    ∃ entered', Underway r₀ specs (r.move t m).1 entered' (r.note t notes m) := by
  obtain ⟨hstarts, hshutdown, hlisted⟩ := h.staged.phase.rests (t := t)
  cases m with
  | startsCalled specs' =>
    exact ⟨entered, h.rest ⟨rfl, fun _ => rfl, fun _ => rfl⟩ (hstarts specs')⟩
  | shutdownCalled => exact ⟨entered, h.rest ⟨rfl, fun _ => rfl, fun _ => rfl⟩ hshutdown⟩
  | listed keys => exact ⟨entered, h.rest ⟨rfl, fun _ => rfl, fun _ => rfl⟩ (hlisted keys)⟩
  | proceeded => exact ⟨entered, h.proceed hgoing⟩
  | worked n fm =>
    obtain ⟨_, hbegan⟩ := h.staged.phase.began
    exact ⟨entered, h.worked hbegan.nodup.1 n fm⟩
  | attended j =>
    exact ⟨entered, h.attends ⟨rfl, fun _ => rfl, fun _ => rfl⟩ (attends_attend r j)⟩
  | excused j =>
    exact ⟨entered, h.attends ⟨rfl, fun _ => rfl, fun _ => rfl⟩ (attends_excuse r j)⟩
  | signalled =>
    refine ⟨entered, h.keep ⟨rfl, fun _ => rfl, fun _ => rfl⟩ rfl rfl rfl rfl ?_⟩
    exact h.accounted.quiet rfl rfl rfl ⟨rfl, rfl⟩ (List.forall_mem_nil _)
  | advanced =>
    cases hcall : r.phase.call? with
    | none =>
      refine ⟨entered, h.rest ⟨by rw [seedEventsIn, hcall]; rfl, fun _ => rfl, fun _ => rfl⟩ ?_⟩
      rw [Runner.move, hcall]
    | some i =>
      obtain ⟨begun, spec, rest, hphase⟩ := h.staged.phase.awaiting_of_call? hcall
      refine h.goesOn (.advanced i) hphase ?_ ?_ ⟨fun _ => rfl, fun _ => rfl⟩ rfl ?_
      · rw [Runner.move, hcall]
      · rw [seedEventsIn, hcall]
        rfl
      · intro call more isIn hcall hstage htaken
        refine hstage.advance hcall ?_ ?_ htaken
        · rw [h.staged.client]
        · rw [h.staged.client]
  | answered reply =>
    cases hcall : r.phase.call? with
    | none =>
      refine ⟨entered, h.rest ⟨by rw [seedEventsIn, hcall]; rfl, fun _ => rfl, fun _ => rfl⟩ ?_⟩
      rw [Runner.move, hcall]
    | some i =>
      obtain ⟨begun, spec, rest, hphase⟩ := h.staged.phase.awaiting_of_call? hcall
      refine h.goesOn (.answered i reply) hphase ?_ ?_ ⟨fun _ => rfl, fun _ => rfl⟩ rfl ?_
      · rw [Runner.move, hcall]
      · rw [seedEventsIn, hcall]
        rfl
      · exact fun call more isIn hcall hstage _ => hstage.answer hcall reply

theorem Underway.run (h : Underway r₀ specs r entered notes) (ms : List (RunnerMove σ))
    (hgoing : ∀ begun result, .startsReturned begun result ∉ (r.run t ms).2) :
    ∃ entered', Underway r₀ specs (r.run t ms).1 entered' (r.notes t notes ms) := by
  induction ms generalizing r entered notes with
  | nil => exact ⟨entered, h⟩
  | cons m ms ih =>
    obtain ⟨entered', hnext⟩ := h.move m fun begun result hmem =>
      hgoing begun result (List.mem_append_left _ hmem)
    exact ih hnext fun begun result hmem => hgoing begun result (List.mem_append_right _ hmem)

/-- A runner that is told to start some streams has started none of them. -/
theorem underway_startsCalled (t : Transport σ) (hready : r₀.phase = .ready)
    (specs : List StreamSpec) :
    Underway r₀ specs (r₀.move t (.startsCalled specs)).1 []
      (r₀.note t .blank (.startsCalled specs)) := by
  have hmove : r₀.move t (.startsCalled specs) = ({ r₀ with phase := .starting [] specs }, []) := by
    rw [Runner.move, hready]
  have hsilent : r₀.IsSilent t (.startsCalled specs) := ⟨rfl, fun _ => rfl, fun _ => rfl⟩
  rw [hsilent.note_eq [] (by rw [hmove, List.append_nil]), hmove]
  constructor
  · exact ⟨.starting rfl .nil, by simp [entriesFrom], (List.append_nil _).symm⟩
  · exact (List.append_nil _).symm
  · refine ⟨fun hcovered => ⟨?_, rfl⟩, rfl⟩
    rw [Covered, hready] at hcovered
    exact hcovered
  · exact ⟨fun key _ => Option.map_id'.symm, by simp, by simp, fun _ _ => rfl⟩

end Runner
end ExchangeClient
