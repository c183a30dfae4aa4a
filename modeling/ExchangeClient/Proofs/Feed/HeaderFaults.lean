import ExchangeClient.Proofs.Connection.Publishing
import ExchangeClient.Proofs.Feed.OneWorker
import ExchangeClient.Simulation.Exchange

/-!
# Faults of the configuration

A stream is configured with an address and with headers.  A fault of the address is found when
the stream is started, and the start fails with it (`failsAtOnce_iff`).  A fault of a header is
found only where the worker dials, and there it counts as a dial that failed: the worker waits
and dials again, as long as its allowance lasts (`redialsFault_iff`), although no repetition
mends a header.

`Endpoint.Admits` says which answers a dial with some headers can get.
-/

namespace ExchangeClient

namespace Endpoint

/-- Whether every header has a name and a value that can be sent. -/
def AreSound (headers : List (String × String)) : Prop :=
  ∀ header ∈ headers, Header.isName header.1 = true ∧ Header.isValue header.2 = true

theorem isOk_checkHeaders_iff (checked headers : List (String × String)) :
    (checkHeaders checked headers).isOk = true ↔ AreSound headers := by
  induction headers generalizing checked with
  | nil => simp [checkHeaders, AreSound, Except.isOk, Except.toBool]
  | cons header rest ih =>
    rw [AreSound, List.forall_mem_cons, checkHeaders]
    cases hname : Header.isName header.1 with
    | false => simp [Except.isOk, Except.toBool]
    | true =>
      cases hvalue : Header.isValue header.2 with
      | false => simp [Except.isOk, Except.toBool]
      | true => simpa [AreSound] using ih _

/-- A handshake can be written if every header can be sent. -/
theorem isOk_handshakeHeaders_iff (headers : List (String × String)) :
    (handshakeHeaders headers).isOk = true ↔ AreSound headers :=
  isOk_checkHeaders_iff [] headers

/-- The answers that a dial with some headers can get: the first fault of the headers, before
anything is sent, and if they have none, whatever comes of the network, which finds no fault
with the configuration. -/
def Admits {σ : Type} (headers : List (String × String)) (answer : Except ClientError σ) : Prop :=
  match handshakeHeaders headers with
  | .error cause => answer = .error cause
  | .ok _ => ∀ cause, answer = .error cause → cause.isConfigError = false

end Endpoint

/-- The simulated exchange, too, answers only what can be answered. -/
theorem Exchange.admits_dial (ex : Exchange) {address : String}
    (hurl : (Endpoint.ofAddress address).isOk = true) (headers : List (String × String)) :
    Endpoint.Admits headers (ex.dial address headers).outcome := by
  unfold Endpoint.Admits dial
  cases Endpoint.handshakeHeaders headers with
  | error cause => rfl
  | ok sent =>
    cases hread : Endpoint.ofAddress address with
    | error cause => rw [hread] at hurl; cases hurl
    | ok url =>
      intro cause hcause
      dsimp only at hcause
      split at hcause
      · cases hcause; rfl
      · split at hcause
        · cases hcause; rfl
        · split at hcause
          · cases hcause; rfl
          · unfold answerDial at hcause
            split at hcause
            · cases hcause; rfl
            · cases hcause; rfl
            · cases hcause
            · cases hcause

/-- A feed whose worker was just spawned. -/
def Feed.spawned (σ : Type) (config : RealtimeConfig) (s : Subscriber) : Feed σ :=
  ⟨⟨config.connection.retryMax, .connecting, some .fresh⟩, s, none⟩

/-- A feed is started with a fresh worker, unless the address is at fault. -/
theorem Feed.start_eq {σ : Type} (config : RealtimeConfig) (s : Subscriber) :
    Feed.start config s =
      (Endpoint.ofAddress config.endpoint).map fun _ => Feed.spawned σ config s := by
  unfold Feed.start Manager.start
  cases Endpoint.ofAddress config.endpoint <;> rfl

theorem Feed.start_eq_ok_iff {σ : Type} {config : RealtimeConfig} {s : Subscriber} {f : Feed σ} :
    Feed.start config s = .ok f ↔
      (Endpoint.ofAddress config.endpoint).isOk = true ∧ f = .spawned σ config s := by
  rw [Feed.start_eq]
  cases Endpoint.ofAddress config.endpoint with
  | error cause => exact ⟨nofun, nofun⟩
  | ok url => exact ⟨fun h => ⟨rfl, (Except.ok.inj h).symm⟩, fun h => congrArg _ h.2.symm⟩

theorem Endpoint.isConfigError_of_ofAddress {address : String} {cause : ClientError}
    (h : ofAddress address = .error cause) : cause.isConfigError = true := by
  unfold ofAddress at h
  split at h
  · cases h; rfl
  · split at h
    · cases h
    · cases h; rfl

/-! ## Faults of the address -/

namespace Traffic

/-- Whether every start of a stream that is not running fails with a fault of the
configuration, and no worker is spawned. -/
def FailsAtOnce (σ : Type) (config : RealtimeConfig) : Prop :=
  ∀ (tr : Traffic σ) (product : ProductCode) (handler : Handler), tr.client.config = config →
    tr.client.isRunning ⟨product, handler.kind⟩ = false →
    ∃ cause, tr.launch product handler = .error cause ∧ cause.isConfigError = true

variable {σ : Type}

/-- A stream that is not running is started with a fresh worker, unless the address is at
fault. -/
theorem launch_of_free {tr : Traffic σ} {product : ProductCode} {handler : Handler}
    (hfree : tr.client.isRunning ⟨product, handler.kind⟩ = false) :
    tr.launch product handler = (Endpoint.ofAddress tr.client.config.endpoint).map fun _ =>
      { tr with
        client := { tr.client with
          streams := tr.client.streams ++ [(⟨product, handler.kind⟩, tr.feeds.length)] }
        feeds := tr.feeds ++ [.ofFeed (.spawned σ tr.client.config
          (.ofHandler product handler tr.client.config.connection))] } := by
  have hkey : (Subscriber.ofHandler product handler tr.client.config.connection).key =
      ⟨product, handler.kind⟩ := rfl
  rw [launch, Feed.start_eq, hkey, FeedClient.enter, hfree]
  cases Endpoint.ofAddress tr.client.config.endpoint <;> rfl

/-- **A start fails at once exactly if the address is at fault**, whatever the headers are. -/
theorem failsAtOnce_iff (σ : Type) (config : RealtimeConfig) :
    FailsAtOnce σ config ↔ (Endpoint.ofAddress config.endpoint).isOk = false := by
  constructor
  · intro h
    obtain ⟨cause, hlaunch, -⟩ := h (.idle config none) "" .ticker rfl rfl
    rw [launch_of_free rfl] at hlaunch
    cases hread : Endpoint.ofAddress config.endpoint with
    | error cause => rfl
    | ok url =>
      rw [show (Traffic.idle config none : Traffic σ).client.config = config from rfl, hread]
        at hlaunch
      cases hlaunch
  · rintro hbad tr product handler rfl hfree
    rw [launch_of_free hfree]
    cases hread : Endpoint.ofAddress tr.client.config.endpoint with
    | error cause => exact ⟨cause, rfl, Endpoint.isConfigError_of_ofAddress hread⟩
    | ok url => rw [hread] at hbad; cases hbad

end Traffic

/-! ## The allowance of a worker -/

namespace Worker

variable {retryMax : UInt32} {w w' : Worker} {event : WorkerEvent} {states : List ConnectionState}

/-- A worker that has not exited has allowance left. -/
def IsWithin (retryMax : UInt32) (w : Worker) : Prop := w.hasExited = true ∨ w.failures ≤ retryMax

theorem IsWithin.react (h : w.IsWithin retryMax)
    (hreact : w.react retryMax event = some (w', states)) : w'.IsWithin retryMax := by
  have hcase := reactCase hreact
  cases hcase with
  | gaveUp | stoppedDialing | left | stoppedWaiting => exact .inl rfl
  | dialFailed failures =>
    -- The worker waits, so its allowance is not used up.
    right
    simp only [Worker.react, failDial] at hreact
    split at hreact
    · cases hreact
    · rename_i hallowed
      exact UInt32.not_lt.mp hallowed
  | dialed failures => exact .inr (UInt32.zero_le)
  | sessionFailed | stoppedInSession | joined | lost | waited =>
    exact .inr (h.resolve_left Bool.false_ne_true)

/-- Without an allowance the first dial that fails is the last. -/
theorem hasExited_of_react (h : w.IsWithin 0)
    (hreact : w.react 0 .dialFailed = some (w', states)) : w'.hasExited = true := by
  have hcase := reactCase hreact
  cases hcase with
  | gaveUp => rfl
  | dialFailed failures =>
    have hfailures : failures = 0 := UInt32.le_zero_iff.mp (h.resolve_left Bool.false_ne_true)
    subst hfailures
    cases hreact

end Worker

namespace Manager

variable {m : Manager}

/-- The worker of a manager has exited or has allowance left. -/
def IsWithin (m : Manager) : Prop := ∀ w, m.worker = some w → w.IsWithin m.retryMax

theorem retryMax_react (m : Manager) (event : WorkerEvent) :
    (m.react event).retryMax = m.retryMax := by
  unfold react
  split <;> rfl

theorem retryMax_reacts (m : Manager) (events : List WorkerEvent) :
    (m.reacts events).retryMax = m.retryMax := by
  induction events generalizing m with
  | nil => rfl
  | cons event events ih => exact (ih _).trans (m.retryMax_react event)

theorem IsWithin.react (h : m.IsWithin) (event : WorkerEvent) : (m.react event).IsWithin := by
  intro w' hw'
  rw [retryMax_react]
  unfold Manager.react at hw'
  split at hw'
  · rename_i worker states hbind
    obtain ⟨w, hw, hreact⟩ := Option.bind_eq_some_iff.mp hbind
    obtain rfl := Option.some.inj hw'
    exact (h w hw).react hreact
  · exact h w' hw'

theorem IsWithin.reacts (h : m.IsWithin) (events : List WorkerEvent) :
    (m.reacts events).IsWithin := by
  induction events generalizing m with
  | nil => exact h
  | cons event events ih => exact ih (h.react event)

/-- Without an allowance the worker of a manager exits when its dial fails. -/
theorem isRunning_react_dialFailed {failures : UInt32} (h : m.IsWithin) (hnone : m.retryMax = 0)
    (hworker : m.worker = some ⟨.dialing, failures⟩) :
    (m.react .dialFailed).isRunning = false := by
  have hwithin := h _ hworker
  rw [hnone] at hwithin
  have hreact : Worker.react 0 ⟨.dialing, failures⟩ .dialFailed =
      some (Worker.failDial 0 ⟨.dialing, failures⟩) := rfl
  have hexited : (Worker.failDial 0 ⟨.dialing, failures⟩).1.hasExited = true :=
    Worker.hasExited_of_react hwithin hreact
  simp [Manager.react, isRunning, hworker, hnone, hreact, hexited]

end Manager

/-! ## Faults of the headers -/

namespace Feed

variable {σ : Type} {t : Transport σ} {f : Feed σ} {config : RealtimeConfig} {s : Subscriber}

/-- Whether every dial of a run is answered as a dial with these headers can be. -/
def AnswersAdmitted (headers : List (String × String)) (ms : List (FeedMove σ)) : Prop :=
  ∀ answer, .dialAnswered answer ∈ ms → Endpoint.Admits headers answer

/-- Whether a feed that was started can dial again after a dial that failed with a fault of
the configuration. -/
def RedialsFault (t : Transport σ) (config : RealtimeConfig) (s : Subscriber) : Prop :=
  ∃ f before cause after,
    Feed.start config s = .ok f ∧
    AnswersAdmitted config.headers (before ++ .dialAnswered (.error cause) :: after) ∧
    cause.isConfigError = true ∧
    (f.run t before).1.wantsDial = true ∧
    (f.run t (before ++ .dialAnswered (.error cause) :: after)).1.wantsDial = true

/-- A worker whose first dial fails waits, if one dial may fail. -/
theorem react_fresh_dialFailed {retryMax : UInt32} (h : 0 < retryMax) :
    Worker.fresh.react retryMax .dialFailed = some (⟨.waiting, 1⟩, []) := by
  have hallowed : ¬retryMax < 1 := by
    rw [UInt32.lt_iff_toNat_lt] at h ⊢
    simpa using Nat.ne_of_gt h
  simp [Worker.react, Worker.fresh, Worker.failDial, hallowed]

/-- A started worker dials again after a fault of the headers, if one dial may fail. -/
theorem redialsFault_of_not_areSound (t : Transport σ) (s : Subscriber)
    (hheaders : ¬Endpoint.AreSound config.headers)
    (hurl : (Endpoint.ofAddress config.endpoint).isOk = true)
    (hallowed : 0 < config.connection.retryMax) : RedialsFault t config s := by
  rw [← Endpoint.isOk_handshakeHeaders_iff] at hheaders
  cases hcause : Endpoint.handshakeHeaders config.headers with
  | ok sent => exact absurd (by rw [hcause]; rfl) hheaders
  | error cause =>
    have hfailed : (Manager.mk config.connection.retryMax .connecting (some .fresh)).react
        .dialFailed = ⟨config.connection.retryMax, .connecting, some ⟨.waiting, 1⟩⟩ := by
      simp [Manager.react, react_fresh_dialFailed hallowed, Manager.publish]
    refine ⟨_, [], cause, [.woken], start_eq_ok_iff.mpr ⟨hurl, rfl⟩, ?_,
      Endpoint.isConfigError_of_checkHeaders hcause, rfl, ?_⟩
    · intro answer hanswer
      obtain rfl : answer = .error cause := by simpa using hanswer
      simp only [Endpoint.Admits, hcause]
    · have hrun : ((spawned σ config s).run t [.dialAnswered (.error cause), .woken]).1.manager =
        ((spawned σ config s).manager.react .dialFailed).react .waited := rfl
      rw [List.nil_append, wantsDial, hrun, spawned, hfailed]
      rfl

theorem fst_run_append (t : Transport σ) (f : Feed σ) (ms ms' : List (FeedMove σ)) :
    (f.run t (ms ++ ms')).1 = ((f.run t ms).1.run t ms').1 := by
  induction ms generalizing f with
  | nil => rfl
  | cons m ms ih => exact ih (f.move t m).1

theorem exists_worker_of_wantsDial (h : f.wantsDial = true) :
    ∃ failures, f.manager.worker = some ⟨.dialing, failures⟩ := by
  rw [wantsDial, Manager.phase?, beq_iff_eq, Option.map_eq_some_iff] at h
  obtain ⟨⟨phase, failures⟩, hworker, rfl⟩ := h
  exact ⟨failures, hworker⟩

/-- Without an allowance no worker dials again after a dial that failed. -/
theorem not_wantsDial_of_no_allowance {before after : List (FeedMove σ)} {cause : ClientError}
    (hwithin : f.manager.IsWithin) (hnone : f.manager.retryMax = 0)
    (hdials : (f.run t before).1.wantsDial = true) :
    (f.run t (before ++ .dialAnswered (.error cause) :: after)).1.wantsDial = false := by
  obtain ⟨events, hevents⟩ := exists_reacts_run t f before
  obtain ⟨failures, hworker⟩ := exists_worker_of_wantsDial hdials
  have hwithin' : (f.run t before).1.manager.IsWithin := hevents ▸ hwithin.reacts events
  have hnone' : (f.run t before).1.manager.retryMax = 0 := by
    rw [hevents, Manager.retryMax_reacts, hnone]
  have hexited := Manager.isRunning_react_dialFailed hwithin' hnone' hworker
  rw [fst_run_append, run_cons, move, if_pos hdials]
  by_contra hredials
  obtain ⟨failures', hworker'⟩ :=
    exists_worker_of_wantsDial ((Bool.not_eq_false _).mp hredials)
  have hlast : (((f.run t before).1.answerDial (.error cause)).run t after).1.manager.isRunning
      = true := by
    rw [Manager.isRunning, hworker']
    rfl
  exact absurd (hexited.symm.trans (isRunning_of_run hlast)) Bool.false_ne_true

/-- **A worker dials again after a fault of the configuration exactly if** a header is at
fault, the address is not, and a dial may fail. -/
theorem redialsFault_iff (t : Transport σ) (config : RealtimeConfig) (s : Subscriber) :
    RedialsFault t config s ↔
      ¬Endpoint.AreSound config.headers ∧ (Endpoint.ofAddress config.endpoint).isOk = true
        ∧ 0 < config.connection.retryMax := by
  constructor
  · rintro ⟨f, before, cause, after, hstart, hadmitted, hfault, hdials, hredials⟩
    obtain ⟨hurl, rfl⟩ := start_eq_ok_iff.mp hstart
    refine ⟨fun hheaders => ?_, hurl, ?_⟩
    · -- The dial was answered, so the headers were at fault.
      have hanswer := hadmitted (.error cause) (by simp)
      rw [← Endpoint.isOk_handshakeHeaders_iff] at hheaders
      unfold Endpoint.Admits at hanswer
      split at hanswer
      · rename_i hcause
        rw [hcause] at hheaders
        cases hheaders
      · rw [hanswer cause rfl] at hfault
        cases hfault
    · rw [UInt32.pos_iff_ne_zero]
      intro hnone
      have hwithin :
          (Manager.mk config.connection.retryMax .connecting (some .fresh)).IsWithin := by
        rintro _ ⟨⟩
        exact .inr UInt32.zero_le
      rw [not_wantsDial_of_no_allowance hwithin hnone hdials] at hredials
      cases hredials
  · rintro ⟨hheaders, hurl, hallowed⟩
    exact redialsFault_of_not_areSound t s hheaders hurl hallowed

/-- What is asked of a configuration: where a header is at fault every start says so, and no
worker dials again after such a fault. -/
structure SurfacesFaults (t : Transport σ) (config : RealtimeConfig) : Prop where
  atOnce : ¬Endpoint.AreSound config.headers → Traffic.FailsAtOnce σ config
  notRetried : ∀ s, ¬RedialsFault t config s

/-- **Faults of the configuration are surfaced exactly if** no header is at fault, or the
address is as well: a fault of the headers alone is never surfaced. -/
theorem surfacesFaults_iff (t : Transport σ) (config : RealtimeConfig) :
    SurfacesFaults t config ↔
      Endpoint.AreSound config.headers ∨ (Endpoint.ofAddress config.endpoint).isOk = false := by
  constructor
  · intro h
    rw [or_iff_not_imp_left]
    exact fun hheaders => (Traffic.failsAtOnce_iff σ config).mp (h.atOnce hheaders)
  · intro h
    refine ⟨fun hheaders => (Traffic.failsAtOnce_iff σ config).mpr (h.resolve_left hheaders),
      fun s hredials => ?_⟩
    obtain ⟨hheaders, hurl, -⟩ := (redialsFault_iff t config s).mp hredials
    rcases h with h | h
    · exact hheaders h
    · rw [hurl] at h
      cases h

/-- A configuration with a header whose name contains a space. -/
def spacedHeader : RealtimeConfig := ⟨"ws://[::1]", [("bad name", "x")], .usual⟩

/-- A ticker with this configuration is started, its first dial fails with the fault of the
header, and when the wait is over the worker wants to dial again. -/
theorem spacedHeader_redialed :
    let subscriber := Subscriber.ofHandler "BTC_JPY" .ticker spacedHeader.connection
    Feed.start spacedHeader subscriber = .ok (spawned Link spacedHeader subscriber) ∧
      RedialsFault Link.transport spacedHeader subscriber ∧
      ¬SurfacesFaults Link.transport spacedHeader := by
  intro subscriber
  have hheaders : ¬Endpoint.AreSound spacedHeader.headers := by
    intro h
    have hname := (h ("bad name", "x") List.mem_cons_self).1
    revert hname
    decide
  have hurl : (Endpoint.ofAddress spacedHeader.endpoint).isOk = true := by decide +kernel
  have hredials := redialsFault_of_not_areSound Link.transport subscriber hheaders hurl (by decide)
  exact ⟨start_eq_ok_iff.mpr ⟨hurl, rfl⟩, hredials, fun h => h.notRetried _ hredials⟩

end Feed

end ExchangeClient
