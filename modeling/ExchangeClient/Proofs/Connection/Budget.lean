import ExchangeClient.Connection.Dialing
import ExchangeClient.Proofs.Connection.Publishing

/-!
# The budget of a worker

A worker may fail to dial so many times in a row.  It counts, compares, forgets its count when a
dial succeeds, and takes a loop of its own through the sessions that fail; that all this comes to
the budget that was set, no more and no less, is a statement about histories.  The worker gives up
at the dial with which more dials have failed in a row than the budget allows, counted back to the
last that succeeded, and at no other (`KeepsBudget`).  Every history without a stop is of this kind,
and no sequence of outcomes is without a history (`keepsBudget_and_dials_on`).

Three invariants carry this.  The count of the worker is the number of dials that failed in a row
(`Counted`); the budget must not be the greatest number there is, or the count would wrap around
before it exceeds it.  What the worker has done goes with its phase (`Conduct`), so that it cannot
have given up and go on.  And its dials and waits alternate, whatever came between (`Paced`).
-/

namespace ExchangeClient

/-- What a history without a stop has to do with the budget of its worker. -/
structure KeepsBudget (config : ConnectionConfig) (events : List WorkerEvent) (log : WorkerLog) :
    Prop where
  /-- When the budget is spent it is by one dial.  That dial is the last event: the worker does
  nothing more than publish that it gives up, and exit. -/
  spent : config.retryMax.toNat < failuresInRow (dialsOf events) →
    failuresInRow (dialsOf events) = config.retryMax.toNat + 1 ∧
      events.getLast? = some .dialFailed ∧ log.worker.hasExited = true ∧
      ∃ earlier, log.acts = earlier ++ [.dial, .publish (.exhausted config.retryMax), .exit] ∧
        ∀ act ∈ earlier, act.isFinal = false
  /-- Until then it goes on. -/
  unspent : failuresInRow (dialsOf events) ≤ config.retryMax.toNat →
    log.worker.hasExited = false ∧ ∀ act ∈ log.acts, act.isFinal = false
  /-- The budget was not spent before. -/
  first : ∀ early late, events = early ++ late → late ≠ [] →
    failuresInRow (dialsOf early) ≤ config.retryMax.toNat
  /-- From a dial that succeeds on, the worker does what it would do if the dial were its first. -/
  restored : ∀ early late, events = early ++ .dialed :: late →
    ∃ other, WorkerLog.start.run config (.dialed :: late) = some other ∧
      other.worker = log.worker ∧ other.acts <:+ log.acts
  /-- Between a dial and the next there is one wait, of the length that was set. -/
  paced : ∀ early between late, log.acts = early ++ .dial :: between ++ .dial :: late →
    .dial ∉ between → between.filter WorkerAct.isWait = [.wait config.retryWait]

namespace WorkerLog

variable {config : ConnectionConfig} {log log' : WorkerLog} {event : WorkerEvent}
  {events early late : List WorkerEvent}

theorem react_eq_some (h : log.react config event = some log') :
    ∃ states, log.worker.react config.retryMax event = some (log'.worker, states) ∧
      log'.acts = log.acts ++ (states.map .publish ++ log'.worker.phase.acts config) := by
  obtain ⟨⟨w, states⟩, hreact, rfl⟩ := Option.map_eq_some_iff.mp h
  exact ⟨states, hreact, rfl⟩

/-- What holds at the start and is kept by every event but the stop holds after every history
without a stop. -/
theorem run_induction {P : List WorkerEvent → WorkerLog → Prop} (hstart : P [] start)
    (hkeep : ∀ events log event log', P events log → event ≠ .stopSeen →
      log.react config event = some log' → P (events ++ [event]) log')
    (hstop : .stopSeen ∉ events) (h : start.run config events = some log) : P events log := by
  induction events using List.reverseRecOn generalizing log with
  | nil =>
    obtain rfl := Option.some.inj h
    exact hstart
  | append_singleton events event ih =>
    rw [run_append] at h
    obtain ⟨before, hbefore, hlast⟩ := Option.bind_eq_some_iff.mp h
    rw [run_cons] at hlast
    obtain ⟨after, hafter, hlog⟩ := Option.bind_eq_some_iff.mp hlast
    obtain rfl := Option.some.inj hlog
    rw [List.mem_append, not_or, List.mem_singleton] at hstop
    exact hkeep events before event after (ih hstop.1 hbefore) (Ne.symm hstop.2) hafter

/-! ## What was done -/

/-- Whether nothing that was done tells that the connection is over. -/
def GoesOn (acts : List WorkerAct) : Prop := ∀ act ∈ acts, act.isFinal = false

theorem GoesOn.append {acts more : List WorkerAct} (h : GoesOn acts)
    (hmore : ∀ act ∈ more, act.isFinal = false) : GoesOn (acts ++ more) :=
  List.forall_mem_append.mpr ⟨h, hmore⟩

/-- What a worker that was not asked to stop has done when it has come to a phase. -/
inductive Conduct (config : ConnectionConfig) : WorkerPhase → List WorkerAct → Prop
  | dialing {earlier : List WorkerAct} (h : GoesOn earlier) :
    Conduct config .dialing (earlier ++ [.dial])
  | inSession {acts : List WorkerAct} (h : GoesOn acts) : Conduct config .inSession acts
  | joining {acts : List WorkerAct} (h : GoesOn acts) : Conduct config (.joining .failed) acts
  | closing {acts : List WorkerAct} (h : GoesOn acts) : Conduct config (.closing .failed) acts
  | waiting {acts : List WorkerAct} (h : GoesOn acts) : Conduct config .waiting acts
  | gaveUp {earlier : List WorkerAct} (h : GoesOn earlier) :
    Conduct config .exited
      (earlier ++ [.dial, .publish (.exhausted config.retryMax), .exit])

theorem conduct_start (config : ConnectionConfig) :
    Conduct config start.worker.phase start.acts := by
  show Conduct config .dialing ([] ++ [.dial])
  exact .dialing (List.forall_mem_nil _)

/-- A worker that has not exited has not told that the connection is over. -/
theorem Conduct.goesOn {phase : WorkerPhase} {acts : List WorkerAct} (h : Conduct config phase acts)
    (hphase : phase ≠ .exited) : GoesOn acts := by
  cases h with
  | dialing h => exact h.append (by simp [WorkerAct.isFinal])
  | inSession h | joining h | closing h | waiting h => exact h
  | gaveUp => exact absurd rfl hphase

/-- **An event leaves the conduct in order**, if it is not the stop. -/
theorem Conduct.react (h : Conduct config log.worker.phase log.acts) (hevent : event ≠ .stopSeen)
    (hreact : log.react config event = some log') :
    Conduct config log'.worker.phase log'.acts := by
  obtain ⟨states, hworker, hacts⟩ := react_eq_some hreact
  obtain ⟨w, acts⟩ := log
  obtain ⟨w', acts'⟩ := log'
  have hcase := Worker.reactCase hworker
  dsimp only at h hcase hacts ⊢
  subst hacts
  cases hcase with
  | gaveUp failures =>
    cases h with
    | dialing hearlier =>
      rw [List.append_assoc]
      exact .gaveUp hearlier
  | dialFailed failures =>
    exact .waiting ((h.goesOn nofun).append (by simp [WorkerPhase.acts, WorkerAct.isFinal]))
  | dialed failures =>
    refine .inSession ((h.goesOn nofun).append ?_)
    simp [WorkerPhase.acts, WorkerAct.isFinal, ConnectionState.isTerminal]
  | sessionFailed failures =>
    exact .joining ((h.goesOn nofun).append (by simp [WorkerPhase.acts]))
  | joined cause failures =>
    cases h with
    | joining hacts => exact .closing (hacts.append (by simp [WorkerPhase.acts]))
  | lost failures =>
    refine .waiting ((h.goesOn nofun).append ?_)
    simp [WorkerPhase.acts, WorkerAct.isFinal, ConnectionState.isTerminal]
  | waited failures => exact .dialing (h.goesOn nofun)
  | left failures => cases h
  | stoppedDialing | stoppedInSession | stoppedWaiting => exact absurd rfl hevent

/-! ## Counting -/

/-- What the count of a worker has to do with its history. -/
structure Counted (config : ConnectionConfig) (events : List WorkerEvent) (w : Worker) : Prop where
  count : w.failures.toNat = failuresInRow (dialsOf events)
  going : w.phase ≠ .exited → failuresInRow (dialsOf events) ≤ config.retryMax.toNat
  gone : w.phase = .exited → failuresInRow (dialsOf events) = config.retryMax.toNat + 1 ∧
    events.getLast? = some .dialFailed

theorem counted_start (config : ConnectionConfig) : Counted config [] start.worker :=
  ⟨rfl, fun _ => Nat.zero_le _, nofun⟩

/-- An event that is no dial does not count. -/
theorem Counted.keep {w w' : Worker} (h : Counted config events w) (hdial : event.dial? = none)
    (hfailures : w'.failures = w.failures) (hhere : w.phase ≠ .exited)
    (hthere : w'.phase ≠ .exited) : Counted config (events ++ [event]) w' := by
  have hdials : dialsOf (events ++ [event]) = dialsOf events := by
    rw [dialsOf_append]
    simp [dialsOf, hdial]
  refine ⟨?_, fun _ => ?_, fun hexited => absurd hexited hthere⟩
  · rw [hdials, hfailures]
    exact h.count
  · rw [hdials]
    exact h.going hhere

/-- A count within a budget that is not the greatest number can be increased. -/
theorem toNat_add_one {retryMax failures : UInt32} (hmax : retryMax < 0xFFFFFFFF)
    (hle : failures.toNat ≤ retryMax.toNat) : (failures + 1).toNat = failures.toNat + 1 := by
  have hlt : retryMax.toNat < 0xFFFFFFFF := UInt32.lt_iff_toNat_lt.mp hmax
  rw [UInt32.toNat_add]
  exact Nat.mod_eq_of_lt (show failures.toNat + 1 < 2 ^ 32 by omega)

/-- A dial that fails is the last exactly if the budget does not allow for it. -/
theorem exited_iff_of_dialFailed {retryMax failures : UInt32} {w : Worker}
    {states : List ConnectionState}
    (h : Worker.react retryMax ⟨.dialing, failures⟩ .dialFailed = some (w, states)) :
    w.phase = .exited ↔ retryMax < failures + 1 := by
  simp only [Worker.react, Worker.failDial] at h
  split at h
  · next hspent =>
    cases h
    exact ⟨fun _ => hspent, fun _ => rfl⟩
  · next hallowed =>
    cases h
    constructor
    · intro hexited
      cases hexited
    · exact fun hspent => absurd hspent hallowed

/-- **Every event is counted as it should be**, if it is not the stop. -/
theorem Counted.react (h : Counted config events log.worker)
    (hconduct : Conduct config log.worker.phase log.acts) (hmax : config.retryMax < 0xFFFFFFFF)
    (hevent : event ≠ .stopSeen) (hreact : log.react config event = some log') :
    Counted config (events ++ [event]) log'.worker := by
  obtain ⟨states, hworker, -⟩ := react_eq_some hreact
  obtain ⟨w, acts⟩ := log
  obtain ⟨w', acts'⟩ := log'
  have hcase := Worker.reactCase hworker
  have hfailed : dialsOf (events ++ [.dialFailed]) = dialsOf events ++ [.failed] :=
    dialsOf_append ..
  dsimp only at h hconduct hworker hcase ⊢
  cases hcase with
  | gaveUp failures =>
    have hle : failures.toNat ≤ config.retryMax.toNat := h.count ▸ h.going nofun
    have hspent := (exited_iff_of_dialFailed hworker).mp rfl
    rw [UInt32.lt_iff_toNat_lt, toNat_add_one hmax hle] at hspent
    have hcount : failuresInRow (dialsOf (events ++ [.dialFailed])) = failures.toNat + 1 := by
      rw [hfailed, failuresInRow_failed, ← h.count]
    refine ⟨?_, fun hne => absurd rfl hne, fun _ => ⟨?_, List.getLast?_concat⟩⟩
    · rw [hcount]
      exact toNat_add_one hmax hle
    · rw [hcount]
      omega
  | dialFailed failures =>
    have hle : failures.toNat ≤ config.retryMax.toNat := h.count ▸ h.going nofun
    have hallowed : ¬ config.retryMax < failures + 1 :=
      fun hspent => nomatch (exited_iff_of_dialFailed hworker).mpr hspent
    rw [UInt32.lt_iff_toNat_lt, toNat_add_one hmax hle] at hallowed
    have hcount : failuresInRow (dialsOf (events ++ [.dialFailed])) = failures.toNat + 1 := by
      rw [hfailed, failuresInRow_failed, ← h.count]
    refine ⟨?_, fun _ => ?_, nofun⟩
    · rw [hcount]
      exact toNat_add_one hmax hle
    · rw [hcount]
      omega
  | dialed failures =>
    have hsucceeded : dialsOf (events ++ [.dialed]) = dialsOf events ++ [.succeeded] :=
      dialsOf_append ..
    refine ⟨?_, fun _ => ?_, nofun⟩
    · rw [hsucceeded, failuresInRow_succeeded]
      rfl
    · rw [hsucceeded, failuresInRow_succeeded]
      exact Nat.zero_le _
  | sessionFailed | joined | lost | waited => exact h.keep rfl rfl nofun nofun
  | left failures => cases hconduct
  | stoppedDialing | stoppedInSession | stoppedWaiting => exact absurd rfl hevent

/-! ## Pacing -/

/-- Which of dialing and waiting may come after the other. -/
def Alternates (config : ConnectionConfig) : WorkerAct → WorkerAct → Prop
  | .dial, act => act = .wait config.retryWait
  | .wait _, act => act = .dial
  | _, _ => False

/-- Whether a worker dials or waits. -/
def isPace (act : WorkerAct) : Bool := act == .dial || act.isWait

/-- The dials and waits of a worker that has come to a phase. -/
structure Paced (config : ConnectionConfig) (phase : WorkerPhase) (acts : List WorkerAct) :
    Prop where
  alternate : (acts.filter isPace).IsChain (Alternates config)
  last : ∃ act, (acts.filter isPace).getLast? = some act ∧
    (if phase = .waiting then act.isWait = true else act = .dial)

theorem paced_start (config : ConnectionConfig) : Paced config start.worker.phase start.acts :=
  ⟨List.isChain_singleton _, .dial, rfl, rfl⟩

/-- A phase that a worker neither dials nor waits in adds nothing to its pace. -/
theorem Paced.keep {phase phase' : WorkerPhase} {acts more : List WorkerAct}
    (h : Paced config phase acts) (hmore : more.filter isPace = [])
    (hhere : phase ≠ .waiting) (hthere : phase' ≠ .waiting) :
    Paced config phase' (acts ++ more) := by
  obtain ⟨halternate, act, hlast, hact⟩ := h
  have hfilter : (acts ++ more).filter isPace = acts.filter isPace := by
    rw [List.filter_append, hmore, List.append_nil]
  rw [if_neg hhere] at hact
  exact ⟨hfilter ▸ halternate, act, hfilter ▸ hlast, by rwa [if_neg hthere]⟩

/-- A dial after a wait and a wait after a dial keep the pace. -/
theorem Paced.next {phase phase' : WorkerPhase} {acts more : List WorkerAct}
    (h : Paced config phase acts) (next : WorkerAct) (hmore : more.filter isPace = [next])
    (hnext : ∀ act, (if phase = .waiting then act.isWait = true else act = .dial) →
      Alternates config act next)
    (hphase : if phase' = .waiting then next.isWait = true else next = .dial) :
    Paced config phase' (acts ++ more) := by
  obtain ⟨halternate, act, hlast, hact⟩ := h
  have hfilter : (acts ++ more).filter isPace = acts.filter isPace ++ [next] := by
    rw [List.filter_append, hmore]
  refine ⟨?_, next, ?_, hphase⟩
  · rw [hfilter]
    refine halternate.append (List.isChain_singleton _) fun a ha b hb => ?_
    obtain rfl := Option.some.inj (hlast.symm.trans ha)
    obtain rfl := Option.some.inj hb
    exact hnext act hact
  · rw [hfilter]
    exact List.getLast?_concat

/-- **An event keeps the pace**, if it is not the stop. -/
theorem Paced.react (h : Paced config log.worker.phase log.acts) (hevent : event ≠ .stopSeen)
    (hreact : log.react config event = some log') : Paced config log'.worker.phase log'.acts := by
  obtain ⟨states, hworker, hacts⟩ := react_eq_some hreact
  obtain ⟨w, acts⟩ := log
  obtain ⟨w', acts'⟩ := log'
  have hcase := Worker.reactCase hworker
  dsimp only at h hcase hacts ⊢
  subst hacts
  cases hcase with
  | gaveUp | dialed | sessionFailed | joined | left => exact h.keep rfl nofun nofun
  | dialFailed | lost =>
    refine h.next (.wait config.retryWait) rfl ?_ rfl
    rintro act rfl
    rfl
  | waited =>
    refine h.next .dial rfl ?_ rfl
    intro act hact
    cases act with
    | wait => rfl
    | dial | publish | exit => cases hact
  | stoppedDialing | stoppedInSession | stoppedWaiting => exact absurd rfl hevent

/-- Between a dial and the next there is one wait. -/
theorem Paced.filter_isWait {phase : WorkerPhase} {early between late : List WorkerAct}
    (h : Paced config phase (early ++ .dial :: between ++ .dial :: late))
    (hbetween : .dial ∉ between) :
    between.filter WorkerAct.isWait = [.wait config.retryWait] := by
  have hsame : between.filter isPace = between.filter WorkerAct.isWait := by
    refine List.filter_congr fun act hact => ?_
    have hne : act ≠ .dial := fun heq => hbetween (heq ▸ hact)
    simp [isPace, hne]
  have hsplit : (early ++ .dial :: between ++ .dial :: late).filter isPace =
      early.filter isPace ++
        (.dial :: (between.filter WorkerAct.isWait ++ .dial :: late.filter isPace)) := by
    simp [isPace, WorkerAct.isWait, ← hsame]
  have hchain := h.alternate
  rw [hsplit] at hchain
  have htail := hchain.right_of_append
  match hwaits : between.filter WorkerAct.isWait with
  | [] =>
    rw [hwaits] at htail
    cases (List.isChain_cons_cons.mp htail).1
  | [act] =>
    rw [hwaits] at htail
    rw [show act = .wait config.retryWait from (List.isChain_cons_cons.mp htail).1]
  | act :: act' :: acts =>
    rw [hwaits] at htail
    obtain ⟨hfirst, hrest⟩ := List.isChain_cons_cons.mp htail
    obtain rfl : act = .wait config.retryWait := hfirst
    obtain rfl : act' = .dial := (List.isChain_cons_cons.mp hrest).1
    -- A dial is no wait.
    have hdial : WorkerAct.dial ∈ between.filter WorkerAct.isWait := by simp [hwaits]
    cases (List.mem_filter.mp hdial).2

/-! ## Histories -/

/-- What was done before does not matter for what is done next. -/
theorem run_append_acts (w : Worker) (done acts : List WorkerAct) :
    run config ⟨w, done ++ acts⟩ events =
      (run config ⟨w, acts⟩ events).map fun log => ⟨log.worker, done ++ log.acts⟩ := by
  induction events generalizing w acts with
  | nil => rfl
  | cons event events ih =>
    rw [run_cons, run_cons, WorkerLog.react, WorkerLog.react]
    cases w.react config.retryMax event with
    | none => rfl
    | some next =>
      obtain ⟨w', states⟩ := next
      simp only [Option.map_some, Option.bind_some, List.append_assoc]
      exact ih w' _

/-- **A dial that succeeds restores the whole budget.** -/
theorem exists_suffix_of_dialed (hstop : .stopSeen ∉ early)
    (h : start.run config (early ++ .dialed :: late) = some log) :
    ∃ other, start.run config (.dialed :: late) = some other ∧ other.worker = log.worker ∧
      other.acts <:+ log.acts := by
  rw [run_append] at h
  obtain ⟨⟨w, acts⟩, hearly, hlate⟩ := Option.bind_eq_some_iff.mp h
  have hconduct : Conduct config w.phase acts :=
    run_induction (P := fun _ log => Conduct config log.worker.phase log.acts)
      (conduct_start config) (fun _ _ _ _ hc hevent => hc.react hevent) hstop hearly
  obtain ⟨phase, failures⟩ := w
  cases hconduct with
  | dialing hgoes =>
    rename_i earlier
    -- The count is forgotten, so the worker might as well be fresh.
    have hforgotten : run config ⟨⟨.dialing, failures⟩, earlier ++ [.dial]⟩ (.dialed :: late) =
        run config ⟨.fresh, earlier ++ [.dial]⟩ (.dialed :: late) := rfl
    rw [hforgotten, run_append_acts] at hlate
    obtain ⟨other, hother, rfl⟩ := Option.map_eq_some_iff.mp hlate
    exact ⟨other, hother, rfl, List.suffix_append earlier other.acts⟩
  | inSession | joining | closing | waiting | gaveUp =>
    rw [run_cons] at hlate
    cases hlate

/-- Nothing happens to a worker that has exited. -/
theorem eq_nil_of_hasExited (hexited : log.worker.phase = .exited)
    (h : log.run config events = some log') : events = [] := by
  cases events with
  | nil => rfl
  | cons event events =>
    have hnone : log.react config event = none := by
      rw [WorkerLog.react, Worker.react_eq_none_of_exited (by simp [Worker.hasExited, hexited])]
      rfl
    rw [run_cons, hnone] at h
    cases h

/-- What holds after every history without a stop. -/
theorem invariants_of_run (hmax : config.retryMax < 0xFFFFFFFF) (hstop : .stopSeen ∉ events)
    (h : start.run config events = some log) :
    Conduct config log.worker.phase log.acts ∧ Counted config events log.worker ∧
      Paced config log.worker.phase log.acts := by
  refine run_induction
    (P := fun events log => Conduct config log.worker.phase log.acts ∧
      Counted config events log.worker ∧ Paced config log.worker.phase log.acts)
    ⟨conduct_start config, counted_start config, paced_start config⟩ ?_ hstop h
  rintro events log event log' ⟨hconduct, hcounted, hpaced⟩ hevent hreact
  exact ⟨hconduct.react hevent hreact, hcounted.react hconduct hmax hevent hreact,
    hpaced.react hevent hreact⟩

/-- **Every history without a stop keeps to the budget.** -/
theorem keepsBudget (hmax : config.retryMax < 0xFFFFFFFF) (hstop : .stopSeen ∉ events)
    (h : start.run config events = some log) : KeepsBudget config events log := by
  obtain ⟨hconduct, hcounted, hpaced⟩ := invariants_of_run hmax hstop h
  refine ⟨fun hspent => ?_, fun hunspent => ?_, fun early late hsplit hlate => ?_,
    fun early late hsplit => ?_, fun early between late hsplit hbetween => ?_⟩
  · have hphase : log.worker.phase = .exited := by
      by_contra hphase
      exact absurd (hcounted.going hphase) (Nat.not_le.mpr hspent)
    obtain ⟨hcount, hlast⟩ := hcounted.gone hphase
    refine ⟨hcount, hlast, by simp [Worker.hasExited, hphase], ?_⟩
    rw [hphase] at hconduct
    generalize log.acts = acts at hconduct
    cases hconduct with
    | gaveUp hgoes => exact ⟨_, rfl, hgoes⟩
  · have hphase : log.worker.phase ≠ .exited := by
      intro hphase
      obtain ⟨hcount, -⟩ := hcounted.gone hphase
      omega
    exact ⟨by simpa [Worker.hasExited] using hphase, hconduct.goesOn hphase⟩
  · rw [hsplit, List.mem_append, not_or] at hstop
    rw [hsplit, run_append] at h
    obtain ⟨between, hearly, hrest⟩ := Option.bind_eq_some_iff.mp h
    obtain ⟨-, hcounted, -⟩ := invariants_of_run hmax hstop.1 hearly
    exact hcounted.going fun hphase => hlate (eq_nil_of_hasExited hphase hrest)
  · rw [hsplit, List.mem_append, not_or] at hstop
    exact exists_suffix_of_dialed hstop.1 (hsplit ▸ h)
  · rw [hsplit] at hpaced
    exact hpaced.filter_isWait hbetween

/-! ## Every sequence of outcomes has a history -/

/-- A worker that dials is told how the dial comes out, and waits unless it gives up. -/
theorem exists_run_events (config : ConnectionConfig) (hdialing : log.worker.phase = .dialing)
    (o : DialOutcome) :
    ∃ log', log.run config o.events = some log' ∧
      (log'.worker.phase = .exited ∨ log'.worker.phase = .waiting) := by
  obtain ⟨⟨phase, failures⟩, acts⟩ := log
  dsimp only at hdialing
  subst hdialing
  cases o with
  | failed =>
    refine ⟨_, rfl, ?_⟩
    show (Worker.failDial config.retryMax ⟨.dialing, failures⟩).1.phase = .exited ∨
      (Worker.failDial config.retryMax ⟨.dialing, failures⟩).1.phase = .waiting
    rw [Worker.failDial]
    split
    · exact .inl rfl
    · exact .inr rfl
  | succeeded => exact ⟨_, rfl, .inr rfl⟩

theorem stopSeen_notMem_rounds (outcomes : List DialOutcome) :
    .stopSeen ∉ outcomes.flatMap DialOutcome.round := by
  rw [List.mem_flatMap]
  rintro ⟨o, -, ho⟩
  cases o <;> simp [DialOutcome.round, DialOutcome.events] at ho

/-- **As long as the budget is not spent the worker dials again**, however the dials come out. -/
theorem exists_run_rounds (hmax : config.retryMax < 0xFFFFFFFF) {outcomes : List DialOutcome}
    (h : ∀ early, early <+: outcomes → failuresInRow early ≤ config.retryMax.toNat) :
    ∃ log, start.run config (outcomes.flatMap DialOutcome.round) = some log ∧
      log.worker.phase = .dialing := by
  induction outcomes using List.reverseRecOn with
  | nil => exact ⟨start, rfl, rfl⟩
  | append_singleton outcomes o ih =>
    obtain ⟨log, hlog, hdialing⟩ := ih fun early hearly =>
      h early (hearly.trans (List.prefix_append outcomes [o]))
    obtain ⟨log', hlog', hphase⟩ := exists_run_events config hdialing o
    have hrun : start.run config (outcomes.flatMap DialOutcome.round ++ o.events) = some log' := by
      rw [run_append, hlog]
      exact hlog'
    have hstop : .stopSeen ∉ outcomes.flatMap DialOutcome.round ++ o.events := by
      have hrounds := stopSeen_notMem_rounds (outcomes ++ [o])
      simp only [List.flatMap_append, List.flatMap_singleton, DialOutcome.round] at hrounds
      exact fun hmem => hrounds (List.append_assoc .. ▸ List.mem_append_left _ hmem)
    have hdials : dialsOf (outcomes.flatMap DialOutcome.round ++ o.events) = outcomes ++ [o] := by
      rw [dialsOf_append, dialsOf_rounds, dialsOf_events]
    have hwaiting : log'.worker.phase = .waiting := by
      refine hphase.resolve_left fun hexited => ?_
      obtain ⟨-, hcounted, -⟩ := invariants_of_run hmax hstop hrun
      obtain ⟨hcount, -⟩ := hcounted.gone hexited
      have hle := h (outcomes ++ [o]) List.prefix_rfl
      rw [hdials] at hcount
      omega
    have hrounds : (outcomes ++ [o]).flatMap DialOutcome.round =
        outcomes.flatMap DialOutcome.round ++ o.events ++ [.waited] := by
      rw [List.flatMap_append, List.flatMap_singleton, DialOutcome.round, List.append_assoc]
    obtain ⟨⟨phase, failures⟩, acts⟩ := log'
    dsimp only at hwaiting
    subst hwaiting
    refine ⟨⟨⟨.dialing, failures⟩, acts ++ [.dial]⟩, ?_, rfl⟩
    rw [hrounds, run_append, hrun]
    rfl

/-- **The budget of a worker is exact.**  Of every history without a stop, whatever the settings but
that the budget is not the greatest number there is: the worker gives up at the dial with which the
budget is spent, counted back to the last dial that succeeded, and at no other; it does so at once;
a dial that succeeds restores the whole budget; and between a dial and the next the worker waits
once, as long as it was set to.  And as long as the budget is not spent it dials again, and however
its dials come out, there is a history in which they do. -/
theorem keepsBudget_and_dials_on (config : ConnectionConfig)
    (hmax : config.retryMax < 0xFFFFFFFF) :
    (∀ (events : List WorkerEvent) (log : WorkerLog), .stopSeen ∉ events →
      start.run config events = some log → KeepsBudget config events log) ∧
    ∀ (outcomes : List DialOutcome) (last : DialOutcome),
      (∀ early, early <+: outcomes → failuresInRow early ≤ config.retryMax.toNat) →
      ∃ log, start.run config (outcomes.flatMap DialOutcome.round ++ last.events) = some log := by
  refine ⟨fun events log hstop h => keepsBudget hmax hstop h, fun outcomes last h => ?_⟩
  obtain ⟨log, hlog, hdialing⟩ := exists_run_rounds hmax h
  obtain ⟨log', hlog', -⟩ := exists_run_events config hdialing last
  refine ⟨log', ?_⟩
  rw [run_append, hlog]
  exact hlog'

/-- One dial may fail: the first does, the second succeeds and is lost, and when then two fail in a
row, the worker gives up. -/
theorem keepsBudget_of_one :
    let config := { ConnectionConfig.usual with retryMax := 1 }
    let events := [DialOutcome.failed, .succeeded, .failed].flatMap DialOutcome.round ++
      DialOutcome.failed.events
    let pause := WorkerAct.wait (.ofSecs 3)
    config.retryMax < 0xFFFFFFFF ∧
      ∃ log, start.run config events = some log ∧ KeepsBudget config events log ∧
        log.acts = [.dial, pause, .dial, .publish .connected, .publish .reconnecting, pause, .dial,
          pause, .dial, .publish (.exhausted 1), .exit] := by
  intro config events pause
  have hmax : config.retryMax < 0xFFFFFFFF := by decide
  exact ⟨hmax, _, rfl, (keepsBudget_and_dials_on config hmax).1 _ _ (by decide) rfl, rfl⟩

end WorkerLog
end ExchangeClient
