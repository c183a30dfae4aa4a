import ExchangeClient.Connection.Lifespan
import Mathlib.Data.List.Chain
import Mathlib.Data.List.Destutter

/-!
# What is published of a connection

The states that are published from the start of a manager to the end of its stop keep to a simple
language.  A connection that comes and goes is published in `rounds`, and then the worker exits: it
was stopped without a connection or with one, or it has given up.  `Published` says which words
belong to which phase of the worker, and every event keeps to it.  The stop itself publishes once
more that it is over, which only those can tell from the worker's own word who missed that one, or
where the worker had given up.

Which state may come directly after which is written down in `Follows`; the words keep to it, so no
state is published twice in a row but the last.
-/

namespace ExchangeClient

namespace ConnectionState

/-- What is published of a connection that has come and gone so many times. -/
def rounds (n : Nat) : List ConnectionState :=
  .connecting :: (List.replicate n [.connected, .reconnecting]).flatten

/-- Whether a state may be published directly after another. -/
def Follows : ConnectionState → ConnectionState → Prop
  | .connecting, .connected | .connecting, .stopped | .connecting, .exhausted _ => True
  | .connected, .reconnecting | .connected, .stopped => True
  | .reconnecting, .connected | .reconnecting, .stopped | .reconnecting, .exhausted _ => True
  | .exhausted _, .stopped => True
  | _, _ => False

/-- Whether a state tells that there is no connection, but that there may be one yet. -/
def isPending : ConnectionState → Bool
  | .connecting | .reconnecting => true
  | _ => false

variable {a b : ConnectionState}

theorem Follows.ne (h : Follows a b) : a ≠ b := by
  rintro rfl
  cases a <;> exact h

theorem rounds_succ (n : Nat) : rounds (n + 1) = rounds n ++ [.connected, .reconnecting] := by
  rw [rounds, List.replicate_succ', List.flatten_append, List.flatten_singleton]
  rfl

theorem isPending_of_mem_getLast? {n : Nat} (h : a ∈ (rounds n).getLast?) : a.isPending = true := by
  cases n with
  | zero =>
    obtain rfl := Option.some.inj h
    rfl
  | succ n =>
    rw [rounds_succ, List.getLast?_append_of_ne_nil _ (List.cons_ne_nil _ _)] at h
    obtain rfl := Option.some.inj h
    rfl

theorem follows_of_isPending (h : a.isPending = true) :
    Follows a .connected ∧ Follows a .stopped ∧ ∀ retries, Follows a (.exhausted retries) := by
  cases a with
  | connecting | reconnecting => exact ⟨trivial, trivial, fun _ => trivial⟩
  | connected | stopped | exhausted => cases h

/-- What may follow a pending connection may follow rounds. -/
theorem isChain_rounds_append {n : Nat} {rest : List ConnectionState}
    (hrounds : (rounds n).IsChain Follows) (hrest : (b :: rest).IsChain Follows)
    (hfollows : ∀ a, a.isPending = true → Follows a b) :
    (rounds n ++ b :: rest).IsChain Follows := by
  refine hrounds.append hrest fun a ha b' hb' => ?_
  obtain rfl := Option.some.inj hb'
  exact hfollows a (isPending_of_mem_getLast? ha)

theorem isChain_rounds (n : Nat) : (rounds n).IsChain Follows := by
  induction n with
  | zero => exact List.isChain_singleton _
  | succ n ih =>
    rw [rounds_succ]
    exact isChain_rounds_append ih (List.isChain_pair.mpr trivial)
      fun _ ha => (follows_of_isPending ha).1

/-- How the published words end. -/
def endings (retryMax : UInt32) : List (List ConnectionState) :=
  [[.stopped], [.connected, .stopped], [.exhausted retryMax], [.exhausted retryMax, .stopped]]

theorem mem_endings {retryMax : UInt32} {ending : List ConnectionState} :
    ending ∈ endings retryMax ↔
      ending = [.stopped] ∨ ending = [.connected, .stopped] ∨ ending = [.exhausted retryMax] ∨
        ending = [.exhausted retryMax, .stopped] := by
  simp [endings]

/-- The words keep to the order. -/
theorem isChain_word {retryMax : UInt32} (n : Nat) {ending : List ConnectionState}
    (h : ending ∈ endings retryMax) : (rounds n ++ ending).IsChain Follows := by
  rcases mem_endings.mp h with rfl | rfl | rfl | rfl
  · exact isChain_rounds_append (isChain_rounds n) (List.isChain_singleton _)
      fun _ ha => (follows_of_isPending ha).2.1
  · exact isChain_rounds_append (isChain_rounds n) (List.isChain_pair.mpr trivial)
      fun _ ha => (follows_of_isPending ha).1
  · exact isChain_rounds_append (isChain_rounds n) (List.isChain_singleton _)
      fun _ ha => (follows_of_isPending ha).2.2 retryMax
  · exact isChain_rounds_append (isChain_rounds n) (List.isChain_pair.mpr trivial)
      fun _ ha => (follows_of_isPending ha).2.2 retryMax

/-- The beginnings of words keep to the order as well. -/
theorem isChain_of_begins {retryMax : UInt32} {n : Nat} {ending published : List ConnectionState}
    (hending : ending ∈ endings retryMax) (hbegins : published <+: rounds n ++ ending) :
    published.IsChain Follows := by
  obtain ⟨rest, hrest⟩ := hbegins
  have hword := isChain_word n hending
  rw [← hrest] at hword
  exact hword.left_of_append

/-- Nothing is published after it was published that a connection was stopped. -/
theorem eq_nil_of_isChain_stopped {late : List ConnectionState}
    (h : (.stopped :: late).IsChain Follows) : late = [] := by
  cases late with
  | nil => rfl
  | cons b late =>
    have hfollows := (List.isChain_cons_cons.mp h).1
    cases b <;> cases hfollows

/-- Nothing but a stop is published after it was published that a connection was given up. -/
theorem eq_of_isChain_exhausted {retries : UInt32} {late : List ConnectionState}
    (h : (.exhausted retries :: late).IsChain Follows) : late = [] ∨ late = [.stopped] := by
  cases late with
  | nil => exact .inl rfl
  | cons b late =>
    obtain ⟨hfollows, hrest⟩ := List.isChain_cons_cons.mp h
    cases b with
    | stopped =>
      rw [eq_nil_of_isChain_stopped hrest]
      exact .inr rfl
    | connecting | connected | reconnecting | exhausted => cases hfollows

/-! ## Merging repeats -/

/-- A word that keeps to the order has no repeats to merge. -/
theorem destutter_of_isChain {word : List ConnectionState} (h : word.IsChain Follows) :
    word.destutter (· ≠ ·) = word :=
  List.destutter_of_isChain _ _ (h.imp fun _ _ => Follows.ne)

/-- A state that is published again is merged with itself. -/
theorem destutter_append_pair (word : List ConnectionState) (a : ConnectionState) :
    (word ++ [a, a]).destutter (· ≠ ·) = (word ++ [a]).destutter (· ≠ ·) := by
  cases word with
  | nil => simp
  | cons b word =>
    rw [List.cons_append, List.cons_append, List.destutter_cons', List.destutter_cons']
    induction word generalizing b with
    | nil => by_cases h : b = a <;> simp [h]
    | cons c word ih =>
      rw [List.cons_append, List.cons_append, List.destutter'_cons, List.destutter'_cons]
      split
      · rw [ih]
      · exact ih b

end ConnectionState

open ConnectionState

namespace Worker

/-! ## The worker -/

/-- What may happen to a worker, what becomes of it, and what it publishes. -/
inductive ReactCase (retryMax : UInt32) : Worker → WorkerEvent → Worker → List ConnectionState →
    Prop
  | gaveUp (failures : UInt32) :
    ReactCase retryMax ⟨.dialing, failures⟩ .dialFailed ⟨.exited, failures + 1⟩
      [.exhausted retryMax]
  | dialFailed (failures : UInt32) :
    ReactCase retryMax ⟨.dialing, failures⟩ .dialFailed ⟨.waiting, failures + 1⟩ []
  | dialed (failures : UInt32) :
    ReactCase retryMax ⟨.dialing, failures⟩ .dialed ⟨.inSession, 0⟩ [.connected]
  | stoppedDialing (failures : UInt32) :
    ReactCase retryMax ⟨.dialing, failures⟩ .stopSeen ⟨.exited, failures⟩ [.stopped]
  | sessionFailed (failures : UInt32) :
    ReactCase retryMax ⟨.inSession, failures⟩ .sessionFailed ⟨.joining .failed, failures⟩ []
  | stoppedInSession (failures : UInt32) :
    ReactCase retryMax ⟨.inSession, failures⟩ .stopSeen ⟨.joining .stopped, failures⟩ []
  | joined (cause : SessionEnd) (failures : UInt32) :
    ReactCase retryMax ⟨.joining cause, failures⟩ .joined ⟨.closing cause, failures⟩ []
  | lost (failures : UInt32) :
    ReactCase retryMax ⟨.closing .failed, failures⟩ .closed ⟨.waiting, failures⟩ [.reconnecting]
  | left (failures : UInt32) :
    ReactCase retryMax ⟨.closing .stopped, failures⟩ .closed ⟨.exited, failures⟩ [.stopped]
  | waited (failures : UInt32) :
    ReactCase retryMax ⟨.waiting, failures⟩ .waited ⟨.dialing, failures⟩ []
  | stoppedWaiting (failures : UInt32) :
    ReactCase retryMax ⟨.waiting, failures⟩ .stopSeen ⟨.exited, failures⟩ [.stopped]

variable {retryMax : UInt32} {w w' : Worker} {event : WorkerEvent}
  {states published : List ConnectionState}

theorem reactCase (h : w.react retryMax event = some (w', states)) :
    ReactCase retryMax w event w' states := by
  obtain ⟨phase, failures⟩ := w
  unfold react at h
  dsimp only at h
  split at h
  · unfold failDial at h
    dsimp only at h
    split at h
    · cases h
      exact .gaveUp failures
    · cases h
      exact .dialFailed failures
  · cases h
    exact .dialed failures
  · cases h
    exact .stoppedDialing failures
  · cases h
    exact .sessionFailed failures
  · cases h
    exact .stoppedInSession failures
  · cases h
    exact .joined _ failures
  · cases h
    exact .lost failures
  · cases h
    exact .left failures
  · cases h
    exact .waited failures
  · cases h
    exact .stoppedWaiting failures
  · cases h

/-- The words that are published by a worker that has come to some phase. -/
inductive Published (retryMax : UInt32) : WorkerPhase → List ConnectionState → Prop
  | dialing (n : Nat) : Published retryMax .dialing (rounds n)
  | waiting (n : Nat) : Published retryMax .waiting (rounds n)
  | inSession (n : Nat) : Published retryMax .inSession (rounds n ++ [.connected])
  | joining (cause : SessionEnd) (n : Nat) :
    Published retryMax (.joining cause) (rounds n ++ [.connected])
  | closing (cause : SessionEnd) (n : Nat) :
    Published retryMax (.closing cause) (rounds n ++ [.connected])
  | stopped (n : Nat) : Published retryMax .exited (rounds n ++ [.stopped])
  | left (n : Nat) : Published retryMax .exited (rounds n ++ [.connected, .stopped])
  | gaveUp (n : Nat) : Published retryMax .exited (rounds n ++ [.exhausted retryMax])

/-- **Every event keeps to the language.** -/
theorem Published.react (h : Published retryMax w.phase published)
    (hreact : w.react retryMax event = some (w', states)) :
    Published retryMax w'.phase (published ++ states) := by
  have hsilent : published ++ [] = published := List.append_nil published
  have hcase := reactCase hreact
  cases hcase with
  | gaveUp failures =>
    cases h with
    | dialing n => exact .gaveUp n
  | dialFailed failures =>
    rw [hsilent]
    cases h with
    | dialing n => exact .waiting n
  | dialed failures =>
    cases h with
    | dialing n => exact .inSession n
  | stoppedDialing failures =>
    cases h with
    | dialing n => exact .stopped n
  | sessionFailed failures =>
    rw [hsilent]
    cases h with
    | inSession n => exact .joining .failed n
  | stoppedInSession failures =>
    rw [hsilent]
    cases h with
    | inSession n => exact .joining .stopped n
  | joined cause failures =>
    rw [hsilent]
    cases h with
    | joining _ n => exact .closing cause n
  | lost failures =>
    cases h with
    | closing _ n =>
      rw [List.append_assoc]
      show Published retryMax .waiting (rounds n ++ [.connected, .reconnecting])
      rw [← rounds_succ]
      exact .waiting (n + 1)
  | left failures =>
    cases h with
    | closing _ n =>
      rw [List.append_assoc]
      exact .left n
  | waited failures =>
    rw [hsilent]
    cases h with
    | waiting n => exact .dialing n
  | stoppedWaiting failures =>
    cases h with
    | waiting n => exact .stopped n

/-- Whether a worker will not dial any more once its connection is torn down. -/
def isResigned (w : Worker) : Bool :=
  match w.phase with
  | .joining .stopped | .closing .stopped | .exited => true
  | _ => false

/-- A worker that has seen the request to stop is resigned, and all that a resigned one does is to
tear its connection down. -/
theorem isResigned_of_react (h : w.react retryMax event = some (w', states))
    (hseen : event = .stopSeen ∨ w.isResigned = true) :
    w'.isResigned = true ∧ (w.isResigned = true → event = .joined ∨ event = .closed) := by
  have hcase := reactCase h
  cases hcase with
  | stoppedDialing | stoppedInSession | stoppedWaiting => exact ⟨rfl, nofun⟩
  | joined cause =>
    have hresigned := hseen.resolve_left nofun
    cases cause with
    | stopped => exact ⟨rfl, fun _ => .inl rfl⟩
    | failed => cases hresigned
  | left => exact ⟨rfl, fun _ => .inr rfl⟩
  | gaveUp | dialFailed | dialed | sessionFailed | lost | waited =>
    have hresigned := hseen.resolve_left nofun
    cases hresigned

/-- What a worker has published so far can be continued to a whole word. -/
theorem Published.exists_word {phase : WorkerPhase} (h : Published retryMax phase published) :
    ∃ n, ∃ ending ∈ endings retryMax, published <+: rounds n ++ ending := by
  cases h with
  | dialing n | waiting n => exact ⟨n, _, mem_endings.mpr (.inl rfl), List.prefix_append _ _⟩
  | inSession n | joining _ n | closing _ n =>
    refine ⟨n, _, mem_endings.mpr (.inr (.inl rfl)), ?_⟩
    exact (List.prefix_append_right_inj _).mpr (List.prefix_append [ConnectionState.connected] _)
  | stopped n => exact ⟨n, _, mem_endings.mpr (.inl rfl), List.prefix_rfl⟩
  | left n => exact ⟨n, _, mem_endings.mpr (.inr (.inl rfl)), List.prefix_rfl⟩
  | gaveUp n => exact ⟨n, _, mem_endings.mpr (.inr (.inr (.inl rfl))), List.prefix_rfl⟩

/-- What is published before the stop returns has no repeats to merge. -/
theorem Published.destutter_eq {phase : WorkerPhase} (h : Published retryMax phase published) :
    published.destutter (· ≠ ·) = published := by
  obtain ⟨n, ending, hending, hbegins⟩ := h.exists_word
  exact destutter_of_isChain (isChain_of_begins hending hbegins)

/-- When the stop has returned, the word is whole. -/
theorem Published.exists_eq (h : Published retryMax .exited published) :
    ∃ n, ∃ ending ∈ endings retryMax,
      (published ++ [ConnectionState.stopped]).destutter (· ≠ ·) = rounds n ++ ending := by
  -- The worker may have published that the connection is over, and then this is a repeat.
  cases h with
  | stopped n =>
    have hending : [ConnectionState.stopped] ∈ endings retryMax := mem_endings.mpr (.inl rfl)
    refine ⟨n, _, hending, ?_⟩
    rw [List.append_assoc]
    exact (destutter_append_pair _ _).trans (destutter_of_isChain (isChain_word n hending))
  | left n =>
    have hending : [ConnectionState.connected, .stopped] ∈ endings retryMax :=
      mem_endings.mpr (.inr (.inl rfl))
    refine ⟨n, _, hending, ?_⟩
    have hrepeat : rounds n ++ [.connected, .stopped] ++ [.stopped] =
        (rounds n ++ [.connected]) ++ [.stopped, .stopped] := by
      rw [List.append_assoc, List.append_assoc]
      rfl
    rw [hrepeat, destutter_append_pair, List.append_assoc]
    exact destutter_of_isChain (isChain_word n hending)
  | gaveUp n =>
    have hending : [ConnectionState.exhausted retryMax, .stopped] ∈ endings retryMax :=
      mem_endings.mpr (.inr (.inr (.inr rfl)))
    refine ⟨n, _, hending, ?_⟩
    rw [List.append_assoc]
    exact destutter_of_isChain (isChain_word n hending)

end Worker

/-- A manager is started if it has no worker and the address will do. -/
theorem Manager.start_eq_ok_iff {m m' : Manager} {address : String} :
    m.start address = .ok m' ↔ m.worker = none ∧ (Endpoint.ofAddress address).isOk = true ∧
      m' = { m with state := .connecting, worker := some .fresh } := by
  unfold start
  cases m.worker with
  | some w => exact ⟨nofun, nofun⟩
  | none =>
    cases Endpoint.ofAddress address with
    | error cause => exact ⟨nofun, nofun⟩
    | ok url =>
      refine ⟨fun h => ⟨rfl, rfl, (Except.ok.inj h).symm⟩, ?_⟩
      rintro ⟨-, -, rfl⟩
      rfl

namespace Lifespan

variable {l : Lifespan} {retryMax : UInt32}

/-! ## Whole lifespans -/

/-- Whether nothing but the teardown has happened to a worker since it saw the request to stop. -/
def IsQuiet (events : List WorkerEvent) : Prop :=
  ∀ early late, events = early ++ .stopSeen :: late → ∀ e ∈ late, e = .joined ∨ e = .closed

theorem IsQuiet.append {events : List WorkerEvent} {event : WorkerEvent} (h : IsQuiet events)
    (hevent : .stopSeen ∈ events → event = .joined ∨ event = .closed) :
    IsQuiet (events ++ [event]) := by
  intro early late hsplit
  rcases List.eq_nil_or_concat late with rfl | ⟨late, last, rfl⟩
  · exact List.forall_mem_nil _
  · have hevents : events ++ [event] = (early ++ .stopSeen :: late) ++ [last] := by
      rw [hsplit, List.concat_eq_append, List.append_assoc, List.cons_append]
    obtain ⟨hbefore, hlast⟩ := List.append_inj' hevents rfl
    obtain rfl : event = last := by simpa using hlast
    have hseen : .stopSeen ∈ events := by
      rw [hbefore]
      exact List.mem_append_right early List.mem_cons_self
    intro e he
    rw [List.concat_eq_append] at he
    rcases List.mem_append.mp he with he | he
    · exact h early late hbefore e he
    · rw [List.mem_singleton.mp he]
      exact hevent hseen

/-- What holds of a lifespan at any time. -/
structure Regular (retryMax : UInt32) (l : Lifespan) : Prop where
  retryMax_eq : l.manager.retryMax = retryMax
  shown : l.published.getLast? = some l.manager.state
  working : ∀ w, l.manager.worker = some w → Worker.Published retryMax w.phase l.published
  /-- The worker is gone when the stop has returned. -/
  concluded : l.manager.worker = none →
    ∃ word, Worker.Published retryMax .exited word ∧ l.published = word ++ [.stopped]
  resigned : .stopSeen ∈ l.events → ∀ w, l.manager.worker = some w → w.isResigned = true
  quiet : IsQuiet l.events

theorem Regular.work (h : Regular retryMax l) (event : WorkerEvent) :
    Regular retryMax (l.work event) := by
  unfold Lifespan.work
  split
  · next w' states hbind =>
    have hmanager : l.manager.react event =
        { l.manager.publish states with worker := some w' } := by
      rw [Manager.react, hbind]
    obtain ⟨w, hw, hreact⟩ := Option.bind_eq_some_iff.mp hbind
    rw [hmanager]
    have hresigns := Worker.isResigned_of_react hreact
    refine ⟨h.retryMax_eq, ?_, ?_, fun hnone => (by cases hnone), ?_, ?_⟩
    · show (l.published ++ states).getLast? = some (states.getLastD l.manager.state)
      rw [List.getLast?_append, h.shown, List.getLastD_eq_getLast?]
      cases states.getLast? <;> rfl
    · rintro _ ⟨⟩
      rw [h.retryMax_eq] at hreact
      exact (h.working w hw).react hreact
    · rintro hseen _ ⟨⟩
      refine (hresigns ?_).1
      rcases List.mem_append.mp hseen with hseen | hseen
      · exact .inr (h.resigned hseen w hw)
      · exact .inl (List.mem_singleton.mp hseen).symm
    · refine h.quiet.append fun hseen => ?_
      have hresigned := h.resigned hseen w hw
      exact (hresigns (.inr hresigned)).2 hresigned
  · exact h

/-- The stop returns when the worker has exited. -/
theorem Regular.conclude (h : Regular retryMax l) (hreturns : l.mayReturn = true) :
    Regular retryMax l.conclude := by
  rw [mayReturn, Bool.and_eq_true, Option.any_eq_true] at hreturns
  obtain ⟨-, w, hw, hexited⟩ := hreturns
  have hfinish : l.manager.finish = { l.manager with state := .stopped, worker := none } := by
    rw [Manager.finish, hw]
    rfl
  have hphase : w.phase = .exited := by simpa [Worker.hasExited] using hexited
  unfold Lifespan.conclude
  rw [hfinish]
  refine ⟨h.retryMax_eq, List.getLast?_concat, fun _ hsome => (by cases hsome), fun _ => ?_,
    fun _ _ hsome => (by cases hsome), h.quiet⟩
  have hpublished := h.working w hw
  rw [hphase] at hpublished
  exact ⟨l.published, hpublished, rfl⟩

theorem Regular.move (h : Regular retryMax l) (m : LifespanMove) : Regular retryMax (l.move m) := by
  cases m with
  | worked event =>
    rw [Lifespan.move]
    split
    · exact h.work event
    · exact h
  | stopAsked => exact ⟨h.retryMax_eq, h.shown, h.working, h.concluded, h.resigned, h.quiet⟩
  | stopReturned =>
    rw [Lifespan.move]
    split
    · next hreturns => exact h.conclude hreturns
    · exact h

theorem Regular.run (h : Regular retryMax l) (ms : List LifespanMove) :
    Regular retryMax (l.run ms) := by
  induction ms generalizing l with
  | nil => exact h
  | cons m ms ih => exact ih (h.move m)

theorem regular_of_start {m m' : Manager} {address : String} (h : m.start address = .ok m') :
    Regular m.retryMax (ofManager m') := by
  obtain ⟨-, -, rfl⟩ := Manager.start_eq_ok_iff.mp h
  refine ⟨rfl, rfl, ?_, nofun, nofun, ?_⟩
  · rintro _ ⟨⟩
    exact .dialing 0
  · intro early late hsplit
    cases early <;> cases hsplit

/-- What was published is the beginning of a word. -/
theorem Regular.exists_word (h : Regular retryMax l) : ∃ n, ∃ ending ∈ endings retryMax,
    l.published.destutter (· ≠ ·) <+: rounds n ++ ending := by
  cases hworker : l.manager.worker with
  | some w =>
    have hpublished := h.working w hworker
    rw [hpublished.destutter_eq]
    exact hpublished.exists_word
  | none =>
    obtain ⟨word, hword, hpublished⟩ := h.concluded hworker
    obtain ⟨n, ending, hending, heq⟩ := hword.exists_eq
    have hwhole : l.published.destutter (· ≠ ·) = rounds n ++ ending := by
      rw [hpublished, heq]
    exact ⟨n, ending, hending, hwhole ▸ List.prefix_rfl⟩

/-- **The language of a connection.**  Whatever happens to a worker, and whenever a stop is asked
for, the states that are published from the start to the end of the stop, repeats merged, are the
beginning of a word: rounds of a connection that comes and goes, and then the worker is stopped
without a connection or with one, or gives up, after which it may still be stopped.  So a
connection is not given up directly after it stood, nothing but a stop is published after that, and
nothing after a stop.  A worker that has seen the request to stop does nothing but tear its
connection down.  What is shown is what was published last; and when the stop has returned, the
worker being gone, that is that the connection was stopped. -/
theorem published_language {m m' : Manager} {address : String} (hstart : m.start address = .ok m')
    (ms : List LifespanMove) :
    let l := (ofManager m').run ms
    let word := l.published.destutter (· ≠ ·)
    (∃ n, ∃ ending ∈ endings m.retryMax, word <+: rounds n ++ ending) ∧
      (∀ early retries late, word = early ++ .exhausted retries :: late →
        early.getLast? ≠ some .connected ∧ (late = [] ∨ late = [.stopped])) ∧
      (∀ early late, word = early ++ .stopped :: late → late = []) ∧
      (∀ early late, l.events = early ++ .stopSeen :: late →
        ∀ e ∈ late, e = .joined ∨ e = .closed) ∧
      l.published.getLast? = some l.manager.state ∧
      (l.manager.worker = none → l.published.getLast? = some .stopped) := by
  intro l word
  have h : Regular m.retryMax l := (regular_of_start hstart).run ms
  obtain ⟨n, ending, hending, hbegins⟩ := h.exists_word
  have hchain : word.IsChain Follows := isChain_of_begins hending hbegins
  refine ⟨⟨n, ending, hending, hbegins⟩, fun early retries late hsplit => ?_,
    fun early late hsplit => ?_, h.quiet, h.shown, fun hover => ?_⟩
  · rw [hsplit] at hchain
    refine ⟨fun hlast => ?_, eq_of_isChain_exhausted hchain.right_of_append⟩
    -- A connection that stands would have been given up.
    have hfollows : Follows .connected (.exhausted retries) :=
      (List.isChain_append.mp hchain).2.2 _ hlast _ rfl
    exact hfollows
  · rw [hsplit] at hchain
    exact eq_nil_of_isChain_stopped hchain.right_of_append
  · obtain ⟨word, -, hpublished⟩ := h.concluded hover
    rw [hpublished]
    exact List.getLast?_concat

/-- A connection is lost and then given up, for not one dial may fail; it is stopped afterwards,
which its worker cannot see any more. -/
theorem published_lost_and_exhausted :
    let m : Manager := ⟨0, .connecting, none⟩
    let l := (ofManager { m with worker := some .fresh }).run
      [.worked .dialed, .worked .sessionFailed, .worked .joined, .worked .closed, .worked .waited,
        .worked .dialFailed, .stopAsked, .worked .stopSeen, .stopReturned]
    l.published = [.connecting, .connected, .reconnecting, .exhausted 0, .stopped] ∧
      ∃ n, ∃ ending ∈ endings 0, l.published.destutter (· ≠ ·) <+: rounds n ++ ending := by
  intro m l
  have hstart : m.start "ws://[::1]" = .ok { m with worker := some .fresh } :=
    Manager.start_eq_ok_iff.mpr ⟨rfl, by decide +kernel, rfl⟩
  exact ⟨by rfl, (published_language hstart _).1⟩

end Lifespan
end ExchangeClient
