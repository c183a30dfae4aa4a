import ExchangeClient.Proofs.Stream.Asking
import ExchangeClient.Proofs.Stream.Mirror

/-!
# All topics or none

A subscriber reads as soon as it holds any topic, so one that rested with a part of its topics
would never ask for the others.  Here it is shown that it does not, as long as its mailbox
brings nothing but unsubscriptions: between two steps it is parked, or holds nothing, or holds
all of its topics.

What can go wrong goes wrong in the middle of asking: a frame cannot be written, or the step is
given up.  Either ends the session, and the next connection starts from nothing.  So on each
connection a subscriber first takes and drops what is in the mailbox, then asks for its topics
in order, and only then sends unsubscriptions and reads; `Stage` says how far it has come, with
the broken sessions beside.
-/

namespace ExchangeClient

namespace StreamEvent

variable {events more : List StreamEvent}

/-- Whether nothing is read before all of some topics are asked for. -/
def ReadsLast (topics : List String) (events : List StreamEvent) : Prop :=
  ∀ early e late, events = early ++ e :: late → e.isRead = true →
    askedFrames early = topics.map .subscribe

theorem readsLast_of_unread {topics : List String} (h : ∀ e ∈ events, e.isRead = false) :
    ReadsLast topics events := by
  intro early e late hsplit hread
  have hmem : e ∈ events := by
    rw [hsplit]
    exact List.mem_append_right early List.mem_cons_self
  rw [h e hmem] at hread
  cases hread

/-- Once all topics are asked for, anything may follow that asks for nothing more. -/
theorem ReadsLast.append {topics : List String} (h : ReadsLast topics events)
    (hall : askedFrames events = topics.map .subscribe) (hmore : askedFrames more = []) :
    ReadsLast topics (events ++ more) := by
  intro early e late hsplit hread
  rcases List.append_eq_append_iff.mp hsplit with ⟨rest, rfl, hrest⟩ | ⟨rest, hevents, hlate⟩
  · have hnone : askedFrames rest = [] := by
      rw [hrest, askedFrames_append] at hmore
      exact (List.append_eq_nil_iff.mp hmore).1
    rw [askedFrames_append, hnone, hall, List.append_nil]
  · cases rest with
    | nil =>
      rw [List.append_nil] at hevents
      rw [← hevents]
      exact hall
    | cons e' rest =>
      obtain ⟨rfl, -⟩ := List.cons.inj hlate
      exact h early e rest hevents hread

end StreamEvent

/-- How a session ends with a step that ends so, if a step that waits is given up. -/
def StepEnd.sessionEnd? : StepEnd → Option SessionEnd
  | .done => none
  | .failed _ => some .failed
  | .waiting => some .stopped

theorem StepEnd.sessionEnd?_eq_none {e : StepEnd} : e = .done ↔ e.sessionEnd? = none := by
  cases e <;> simp [sessionEnd?]

namespace Session

open StreamEvent

variable {σ : Type} {t : Transport σ} {s : Session σ} {topics : List String}

/-! ## How far a session has come -/

/-- How far a session has come with asking for the topics. -/
inductive Stage (topics : List String) (s : Session σ) : Prop
  /-- Nothing was done on the connection, but frames were taken and dropped. -/
  | unasked (hoffline : ∀ e ∈ s.events, e.isOffline = true) (hheld : s.subscriber.held = [])
    (hending : s.ending ≠ some .failed)
  /-- Every topic was asked for. -/
  | asked (hpast : ∀ frame ∈ sentFrames s.past, frame.method ≠ .unsubscribe)
    (hasked : askedFrames s.events = topics.map .subscribe)
    (hread : ReadsLast topics s.events)
    (hheld : s.ending = none →
      s.subscriber.parked = true ∨ ∀ x, x ∈ s.subscriber.held ↔ x ∈ topics)
  /-- The session ended in the middle of asking. -/
  | broken (hpast : ∀ frame ∈ sentFrames s.past, frame.method ≠ .unsubscribe)
    (asked : List String) (hfront : asked <+: topics)
    (hasked : askedFrames s.events = asked.map .subscribe)
    (hunread : ∀ e ∈ s.events, e.isRead = false)
    (hending : s.ending = some .stopped ∨ s.ending = some .failed ∧
      ∃ front topic cause, s.events = front ++ [.unsent (.subscribe topic) cause])

/-- What leaves the events of a session alone leaves it where it is. -/
theorem Stage.keep {s' : Session σ} (h : Stage topics s) (hpast : s'.past = s.past)
    (hevents : s'.events = s.events) (hending : s'.ending = s.ending)
    (hheld : s'.subscriber.held = s.subscriber.held)
    (hparked : s'.subscriber.parked = s.subscriber.parked) : Stage topics s' := by
  cases h with
  | unasked hoffline hnone hlive =>
    exact .unasked (by rwa [hevents]) (by rwa [hheld]) (by rwa [hending])
  | asked hbefore hasked hread hall =>
    refine .asked (by rwa [hpast]) (by rwa [hevents]) (by rwa [hevents]) ?_
    rw [hending, hheld, hparked]
    exact hall
  | broken hbefore asked hfront hasked hunread hend =>
    refine .broken (by rwa [hpast]) asked hfront (by rwa [hevents]) (by rwa [hevents]) ?_
    rw [hending, hevents]
    exact hend

/-- Frames are taken from the mailbox, all of them unsubscriptions. -/
theorem Stage.declined {turn : Turn (Recorded σ)} {ending : Option SessionEnd}
    (h : Stage topics s) (hturn : Subscriber.Declines s.subscriber turn)
    (hnext : s.ending = none ∧ ending = turn.ending.sessionEnd? ∨
      s.ending ≠ some .failed ∧ ending = some .stopped) :
    Stage topics (s.after turn ending) := by
  cases h with
  | unasked hoffline hheld hlive =>
    obtain ⟨hdone, hheld', hoffline'⟩ := hturn.offline hheld
    refine .unasked (fun e he => (List.mem_append.mp he).elim (hoffline e) (hoffline' e)) hheld' ?_
    show ending ≠ some .failed
    rcases hnext with ⟨-, rfl⟩ | ⟨-, rfl⟩
    · rw [hdone]
      exact nofun
    · exact nofun
  | asked hpast hasked hread hheld =>
    refine .asked hpast ?_ (hread.append hasked hturn.unasked) fun hlive => ?_
    · show askedFrames (s.events ++ turn.events) = _
      rw [askedFrames_append, hasked, hturn.unasked, List.append_nil]
    · rcases hnext with ⟨hbefore, hending⟩ | ⟨-, rfl⟩
      · have hdone : turn.ending = .done := by
          rw [StepEnd.sessionEnd?_eq_none, ← hending]
          exact hlive
        rcases hturn.settled hdone with hparked | hsame
        · exact .inl hparked
        · rcases hheld hbefore with hparked | hall
          · exact .inl (hturn.parked (.inl hparked))
          · refine .inr fun x => ?_
            show x ∈ turn.subscriber.held ↔ _
            rw [hsame, hall]
      · cases hlive
  | broken hpast asked hfront hasked hunread hending =>
    obtain ⟨hstopped, rfl⟩ : s.ending = some .stopped ∧ ending = some .stopped := by
      rcases hnext with ⟨hnone, -⟩ | ⟨hne, rfl⟩
      · rw [hnone] at hending
        rcases hending with h | ⟨h, -⟩ <;> cases h
      · exact ⟨hending.resolve_right fun hfailed => hne hfailed.1, rfl⟩
    refine .broken hpast asked hfront ?_ (fun e he => ?_) (.inl rfl)
    · show askedFrames (s.events ++ turn.events) = _
      rw [askedFrames_append, hasked, hturn.unasked, List.append_nil]
    · exact (List.mem_append.mp he).elim (hunread e) (hturn.unread e)

/-- A session that goes on has not ended in one way or another. -/
theorem not_broken {p : Prop} (hlive : s.ending = none) :
    ¬ (s.ending = some .stopped ∨ s.ending = some .failed ∧ p) := by
  rw [hlive]
  rintro (h | ⟨h, -⟩) <;> cases h

/-- Where nothing is held and nothing is parked, the topics are still to be asked for. -/
theorem Stage.ask {turn : Turn (Recorded σ)} {asked : List String} (h : Stage topics s)
    (hlive : s.ending = none) (hne : topics ≠ []) (hnone : s.subscriber.held = [])
    (hunparked : s.subscriber.parked = false)
    (hpast : ∀ frame ∈ sentFrames s.past, frame.method ≠ .unsubscribe)
    (hturn : Subscriber.Asks topics s.subscriber turn asked) :
    Stage topics (s.after turn turn.ending.sessionEnd?) := by
  cases h with
  | unasked hoffline _ _ =>
    have hasked : askedFrames (s.events ++ turn.events) = asked.map .subscribe := by
      rw [askedFrames_append, askedFrames_of_isOffline hoffline, askedFrames, hturn.sent]
      exact List.filter_eq_self.mpr (List.forall_mem_map.mpr fun _ _ => rfl)
    have hunread : ∀ e ∈ s.events ++ turn.events, e.isRead = false := fun e he =>
      (List.mem_append.mp he).elim (fun he => isRead_of_isOffline (hoffline e he))
        (hturn.unread e)
    cases hend : turn.ending with
    | done =>
      obtain ⟨rfl, hheld⟩ := hturn.done hend
      refine .asked hpast hasked (readsLast_of_unread hunread) fun _ => .inr fun x => ?_
      show x ∈ turn.subscriber.held ↔ _
      rw [hheld, hnone]
      simp
    | failed cause =>
      obtain ⟨front, topic, hevents⟩ := hturn.failed cause hend
      refine .broken hpast asked hturn.front hasked hunread (.inr ⟨rfl, s.events ++ front, topic,
        cause, ?_⟩)
      show s.events ++ turn.events = _
      rw [hevents, List.append_assoc]
    | waiting => exact .broken hpast asked hturn.front hasked hunread (.inl rfl)
  | asked _ _ _ hheld =>
    rcases hheld hlive with hparked | hall
    · rw [hparked] at hunparked
      cases hunparked
    · obtain ⟨x, hx⟩ := List.exists_mem_of_ne_nil topics hne
      have hmem := (hall x).mpr hx
      rw [hnone] at hmem
      cases hmem
  | broken _ _ _ _ _ hending => exact absurd hending (not_broken hlive)

/-- Where anything is held, all topics were asked for, and what is read may be read. -/
theorem Stage.read {turn : Turn (Recorded σ)} (h : Stage topics s) (hlive : s.ending = none)
    (hsome : s.subscriber.held ≠ [])
    (hturn : Subscriber.ReadCase t.recorded s.subscriber s.link turn) :
    Stage topics (s.after turn turn.ending.sessionEnd?) := by
  have hsent : askedFrames turn.events = [] := by
    rw [askedFrames, hturn.sentFrames_eq]
    rfl
  cases h with
  | unasked _ hnone _ => exact absurd hnone hsome
  | asked hpast hasked hread hheld =>
    refine .asked hpast ?_ (hread.append hasked hsent) ?_
    · show askedFrames (s.events ++ turn.events) = _
      rw [askedFrames_append, hasked, hsent, List.append_nil]
    · cases hturn with
      | accepted => exact fun _ => hheld hlive
      | refused | unread | unfinished => exact fun hlive => by cases hlive
  | broken _ _ _ _ _ hending => exact absurd hending (not_broken hlive)

/-- A session that is stopped while its subscriber waits. -/
theorem Stage.stop (h : Stage topics s) (hlive : s.ending = none) :
    Stage topics { s with ending := some .stopped } := by
  cases h with
  | unasked hoffline hnone _ => exact .unasked hoffline hnone nofun
  | asked hpast hasked hread _ => exact .asked hpast hasked hread nofun
  | broken _ _ _ _ _ hending => exact absurd hending (not_broken hlive)

/-- **A step moves a session from one stage to the next.**  It is made as a whole, or as far as
it came when it was given up. -/
theorem Stage.step (h : Stage topics s) (hlive : s.ending = none)
    (htopics : s.subscriber.topics = topics) (hnodup : topics.Nodup) (hne : topics ≠ [])
    (hmailbox : ∀ frame ∈ s.subscriber.mailbox, frame.method = .unsubscribe)
    (hparked : s.subscriber.parked = false →
      ∀ frame ∈ sentFrames s.past, frame.method ≠ .unsubscribe) :
    Stage topics (s.after (s.subscriber.step t.recorded s.link)
      (s.subscriber.step t.recorded s.link).ending.sessionEnd?) := by
  have hcase := Subscriber.stepCase t.recorded s.subscriber s.link
  generalize s.subscriber.step t.recorded s.link = turn at hcase
  cases hcase with
  | control frame rest hnext =>
    have hmethod : frame.method = .unsubscribe := by
      refine hmailbox frame ?_
      rw [hnext]
      exact List.mem_cons_self
    exact h.declined (Subscriber.declines_sendNext t.recorded s.subscriber s.link rest hmethod)
      (.inl ⟨hlive, rfl⟩)
  | subscribing _ hnone hunparked =>
    rw [htopics]
    obtain ⟨asked, hturn⟩ := Subscriber.asks_subscribe t.recorded hnodup s.subscriber s.link
      fun x _ => by
        rw [hnone]
        exact List.not_mem_nil
    exact h.ask hlive hne hnone hunparked (hparked hunparked) hturn
  | noticing => exact h.keep rfl (List.append_nil _) hlive.symm rfl rfl
  | reading _ hsome => exact h.read hlive hsome (Subscriber.readCase t.recorded s.subscriber s.link)
  | idling => exact (h.stop hlive).keep rfl (List.append_nil _) rfl rfl rfl

/-! ## Whole sessions -/

/-- A session of a subscriber of some topics whose mailbox brings nothing but
unsubscriptions. -/
structure Orderly (topics : List String) (s : Session σ) : Prop where
  topics_eq : s.subscriber.topics = topics
  mailbox : ∀ frame ∈ s.subscriber.mailbox, frame.method = .unsubscribe
  recorded : s.link.written = sentFrames s.events
  parked : ∀ frame ∈ sentFrames (s.past ++ s.events), frame.method = .unsubscribe →
    s.subscriber.parked = true
  disconnected : s.ending = some .failed → s.subscriber.held = []
  stage : Stage topics s

theorem Orderly.past_of_not_parked (h : Orderly topics s)
    (hunparked : s.subscriber.parked = false) :
    ∀ frame ∈ sentFrames s.past, frame.method ≠ .unsubscribe := by
  intro frame hframe hmethod
  have hparked : s.subscriber.parked = true := by
    refine h.parked frame ?_ hmethod
    rw [sentFrames_append]
    exact List.mem_append_left _ hframe
  rw [hparked] at hunparked
  cases hunparked

/-- A session stays orderly with what its subscriber does in a turn. -/
theorem Orderly.after {turn : Turn (Recorded σ)} {ending : Option SessionEnd}
    (h : Orderly topics s) (hhandled : Subscriber.HandsOn s.subscriber turn)
    (htakes : Subscriber.TakesInOrder s.subscriber turn)
    (hrecords : Subscriber.Records s.link turn)
    (hparked : Subscriber.StaysParked s.subscriber turn)
    (hfailed : ending = some .failed → turn.subscriber.held = [])
    (hstage : Stage topics (s.after turn ending)) : Orderly topics (s.after turn ending) where
  topics_eq := hhandled.topics_eq.trans h.topics_eq
  mailbox frame hframe := h.mailbox frame (htakes.mem_mailbox hframe)
  recorded := by
    show turn.link.written = sentFrames (s.events ++ turn.events)
    rw [sentFrames_append, ← h.recorded]
    exact hrecords
  parked frame hframe hmethod := by
    refine hparked ?_
    have hevents : frame ∈ sentFrames (s.past ++ (s.events ++ turn.events)) := hframe
    rw [← List.append_assoc, sentFrames_append] at hevents
    rcases List.mem_append.mp hevents with hframe | hframe
    · exact .inl (h.parked frame hframe hmethod)
    · exact .inr ⟨frame, hframe, hmethod⟩
  disconnected := hfailed
  stage := hstage

/-- The last sending of what is in the mailbox. -/
theorem Orderly.dismiss (t : Transport σ) (h : Orderly topics s)
    (hending : s.ending ≠ some .failed) : Orderly topics (s.dismiss t) := by
  have hdeclines := Subscriber.declines_flush t.recorded s.subscriber s.link h.mailbox
  exact h.after (Subscriber.handsOn_flush t.recorded s.subscriber s.link)
    (Subscriber.takesInOrder_flush t.recorded s.subscriber s.link)
    (Subscriber.records_flush t s.subscriber s.link) hdeclines.staysParked nofun
    (h.stage.declined hdeclines (.inr ⟨hending, rfl⟩))

/-- A step, as far as it came. -/
theorem Orderly.afterStep (t : Transport σ) (h : Orderly topics s) (hlive : s.ending = none)
    (hnodup : topics.Nodup) (hne : topics ≠ []) :
    Orderly topics (s.after (s.subscriber.step t.recorded s.link)
      (s.subscriber.step t.recorded s.link).ending.sessionEnd?) := by
  obtain ⟨frames, htallies⟩ := (Subscriber.stepCase t.recorded s.subscriber s.link).tallies
  have hfailed (hend : (s.subscriber.step t.recorded s.link).ending.sessionEnd? = some .failed) :
      (s.subscriber.step t.recorded s.link).subscriber.held = [] := by
    rw [htallies.held, if_pos]
    generalize (s.subscriber.step t.recorded s.link).ending = ending at hend
    cases ending with
    | failed => rfl
    | done | waiting => cases hend
  exact h.after (Subscriber.handsOn_step t.recorded s.subscriber s.link)
    (Subscriber.takesInOrder_step t.recorded s.subscriber s.link)
    (Subscriber.records_step t s.subscriber s.link)
    (Subscriber.staysParked_step t.recorded s.subscriber s.link h.mailbox) hfailed
    (h.stage.step hlive h.topics_eq hnodup hne h.mailbox h.past_of_not_parked)

/-- A frame that is put into the mailbox. -/
theorem Orderly.post (h : Orderly topics s) {frame : ControlFrame}
    (hframe : frame.method = .unsubscribe) : Orderly topics (s.post frame) := by
  unfold Session.post
  split
  · exact h
  · refine ⟨h.topics_eq, fun frame' hmem => ?_, h.recorded, h.parked, h.disconnected,
      h.stage.keep rfl rfl rfl rfl rfl⟩
    rcases List.mem_append.mp hmem with hmem | hmem
    · exact h.mailbox frame' hmem
    · rw [List.mem_singleton.mp hmem]
      exact hframe

theorem Orderly.posts (h : Orderly topics s) {posted : List ControlFrame}
    (hposted : ∀ frame ∈ posted, frame.method = .unsubscribe) :
    Orderly topics (posted.foldl Session.post s) := by
  induction posted generalizing s with
  | nil => exact h
  | cons frame posted ih =>
    obtain ⟨hframe, hposted⟩ := List.forall_mem_cons.mp hposted
    exact ih (h.post hframe) hposted

/-- Posting ends no session. -/
theorem ending_posts (s : Session σ) (posted : List ControlFrame) :
    (posted.foldl Session.post s).ending = s.ending := by
  induction posted generalizing s with
  | nil => rfl
  | cons frame posted ih =>
    rw [List.foldl_cons, ih, Session.post]
    split <;> rfl

/-- **Every move keeps a session orderly**, if nothing but unsubscriptions are put into the
mailbox. -/
theorem Orderly.move (t : Transport σ) (h : Orderly topics s) (hnodup : topics.Nodup)
    (hne : topics ≠ []) {m : SessionMove σ}
    (hm : ∀ frame ∈ m.posted, frame.method = .unsubscribe) : Orderly topics (s.move t m) := by
  cases m with
  | enqueue frame => exact h.post (hm frame List.mem_cons_self)
  | orphan =>
    exact ⟨h.topics_eq, h.mailbox, h.recorded, h.parked, h.disconnected,
      h.stage.keep rfl rfl rfl rfl rfl⟩
  | stirred change =>
    exact ⟨h.topics_eq, h.mailbox, h.recorded, h.parked, h.disconnected,
      h.stage.keep rfl rfl rfl rfl rfl⟩
  | stepped =>
    rw [Session.move]
    split
    · next hlive =>
      have hafter := h.afterStep t hlive hnodup hne
      rw [Session.step]
      cases hend : (s.subscriber.step t.recorded s.link).ending with
      | done | failed =>
        rw [hend] at hafter
        exact hafter
      | waiting => exact h
    · exact h
  | cancelled =>
    rw [Session.move]
    split
    · next hlive =>
      refine h.dismiss t ?_
      rw [hlive]
      exact nofun
    · exact h
  | cutShort posted =>
    rw [Session.move]
    split
    · next hlive =>
      have hafter := h.afterStep t hlive hnodup hne
      rw [Session.cutShort]
      cases hend : (s.subscriber.step t.recorded s.link).ending with
      | done | failed => exact h
      | waiting =>
        rw [hend] at hafter
        refine (hafter.posts hm).dismiss t ?_
        rw [ending_posts]
        exact nofun
    · exact h
  | reconnected link =>
    rw [Session.move]
    split
    · refine ⟨h.topics_eq, h.mailbox, rfl, ?_, nofun, .unasked (List.forall_mem_nil _) rfl nofun⟩
      show ∀ frame ∈ sentFrames ((s.past ++ s.events) ++ []), _
      rw [List.append_nil]
      exact h.parked
    · exact h

theorem Orderly.run (t : Transport σ) (h : Orderly topics s) (hnodup : topics.Nodup)
    (hne : topics ≠ []) {ms : List (SessionMove σ)}
    (hms : ∀ m ∈ ms, ∀ frame ∈ m.posted, frame.method = .unsubscribe) :
    Orderly topics (s.run t ms) := by
  induction ms generalizing s with
  | nil => exact h
  | cons m ms ih =>
    obtain ⟨hm, hms⟩ := List.forall_mem_cons.mp hms
    exact ih (h.move t hnodup hne hm) hms

theorem orderly_start (product : ProductCode) (handler : Handler) (config : ConnectionConfig)
    (link : σ) : Orderly (handler.topics product) (start product handler config link) :=
  ⟨rfl, List.forall_mem_nil _, rfl, List.forall_mem_nil _, nofun,
    .unasked (List.forall_mem_nil _) rfl nofun⟩

/-- Between two steps a subscriber is parked, or holds nothing, or holds all of its topics. -/
theorem Orderly.allOrNone (h : Orderly topics s) (hending : s.ending ≠ some .stopped) :
    s.subscriber.parked = true ∨ s.subscriber.held = [] ∨
      ∀ x, x ∈ s.subscriber.held ↔ x ∈ topics := by
  cases h.stage with
  | unasked _ hnone _ => exact .inr (.inl hnone)
  | asked _ _ _ hheld =>
    cases hend : s.ending with
    | none => exact (hheld hend).imp_right .inr
    | some ending =>
      cases ending with
      | failed => exact .inr (.inl (h.disconnected hend))
      | stopped => exact absurd hend hending
  | broken _ _ _ _ _ hend =>
    exact .inr (.inl (h.disconnected (hend.resolve_left hending).1))

/-- **A subscriber asks for all of its topics or for none.**  Take a new subscriber whose mailbox
brings nothing but unsubscriptions of its own topics, and let whatever else befall it, over any
number of connections.  Between two steps it is parked, or holds nothing, or holds all of its
topics.  Of the frames that were written on the present connection, the subscriptions are those
of its topics in order, up to some topic; if that is not the last, then nothing was done on the
connection yet, or the next subscription could not be written, or a stop ended the session.
Nothing is read before all topics were asked for.  And once an unsubscription was written on an
earlier connection, nothing is asked for. -/
theorem asks_for_all_or_none (t : Transport σ) (product : ProductCode) (handler : Handler)
    (config : ConnectionConfig) (link : σ) (ms : List (SessionMove σ))
    (hms : ∀ m ∈ ms, ∀ frame ∈ m.posted,
      ∃ topic ∈ handler.topics product, frame = .unsubscribe topic) :
    let topics := handler.topics product
    let s := (start product handler config link).run t ms
    (s.ending ≠ some .stopped → s.subscriber.parked = true ∨ s.subscriber.held = [] ∨
      ∀ x, x ∈ s.subscriber.held ↔ x ∈ topics) ∧
    (∃ asked, asked <+: topics ∧ asked.Nodup ∧
      s.link.written.filter (fun frame => frame.method = .subscribe) = asked.map .subscribe ∧
      (asked ≠ topics →
        s.ending = none ∧ (∀ e ∈ s.events, e.isOffline = true) ∨
        s.ending = some .failed ∧
          (∃ front topic cause, s.events = front ++ [.unsent (.subscribe topic) cause]) ∨
        s.ending = some .stopped)) ∧
    (∀ early e late, s.events = early ++ e :: late → e.isRead = true →
      askedFrames early = topics.map .subscribe) ∧
    ((∃ frame ∈ sentFrames s.past, frame.method = .unsubscribe) →
      s.subscriber.parked = true ∧ ∀ frame ∈ s.link.written, frame.method ≠ .subscribe) := by
  intro topics s
  have hnodup : topics.Nodup := handler.topics_nodup product
  have h : Orderly topics s := by
    refine (orderly_start product handler config link).run t hnodup (handler.topics_ne_nil product)
      fun m hm frame hframe => ?_
    obtain ⟨topic, -, rfl⟩ := hms m hm frame hframe
    rfl
  have hwritten : s.link.written.filter (fun frame => frame.method = .subscribe) =
      askedFrames s.events := by
    rw [h.recorded]
    rfl
  refine ⟨h.allOrNone, ?_, ?_, ?_⟩
  · cases h.stage with
    | unasked hoffline _ hending =>
      refine ⟨[], List.nil_prefix, List.nodup_nil, ?_, fun _ => ?_⟩
      · rw [hwritten, askedFrames_of_isOffline hoffline]
        rfl
      · cases hend : s.ending with
        | none => exact .inl ⟨rfl, hoffline⟩
        | some ending =>
          cases ending with
          | failed => exact absurd hend hending
          | stopped => exact .inr (.inr rfl)
    | asked _ hasked _ _ =>
      exact ⟨topics, List.prefix_rfl, hnodup, hwritten.trans hasked, fun hne => absurd rfl hne⟩
    | broken _ asked hfront hasked _ hending =>
      refine ⟨asked, hfront, hnodup.sublist hfront.sublist, hwritten.trans hasked, fun _ => ?_⟩
      exact .inr hending.symm
  · cases h.stage with
    | unasked hoffline _ _ =>
      exact readsLast_of_unread fun e he => isRead_of_isOffline (hoffline e he)
    | asked _ _ hread _ => exact hread
    | broken _ _ _ _ hunread _ => exact readsLast_of_unread hunread
  · rintro ⟨frame, hframe, hmethod⟩
    refine ⟨?_, ?_⟩
    · refine h.parked frame ?_ hmethod
      rw [sentFrames_append]
      exact List.mem_append_left _ hframe
    · cases h.stage with
      | unasked hoffline _ _ =>
        rw [h.recorded, sentFrames_of_isOffline hoffline]
        exact nofun
      | asked hpast | broken hpast => exact absurd hmethod (hpast frame hframe)

/-- A connection that takes so many frames and no more, and on which nothing is published. -/
def rationed : Transport Nat where
  write left _ :=
    match left with
    | 0 => (.failed .connectionClosed, 0)
    | left + 1 => (.done (), left)
  read left _ := (.unfinished, left)

/-- An unsubscription comes too early and is dropped, and the first connection takes only one of
the two subscriptions of a merged board; on the second both are asked for again and held. -/
theorem merged_asks_again :
    let board := StreamKind.board.topic "BTC_JPY"
    let snapshot := StreamKind.boardSnapshot.topic "BTC_JPY"
    let s := (start "BTC_JPY" (.merged .empty) .usual 1).run rationed
      [.enqueue (.unsubscribe board), .stepped, .stepped, .reconnected 2, .stepped]
    askedFrames s.past = [.subscribe board] ∧
      s.link.written = [.subscribe board, .subscribe snapshot] ∧
      ∀ x, x ∈ s.subscriber.held ↔ x ∈ [board, snapshot] := by
  intro board snapshot s
  obtain ⟨hheld, -⟩ := asks_for_all_or_none rationed "BTC_JPY" (.merged .empty) .usual 1
    [.enqueue (.unsubscribe board), .stepped, .stepped, .reconnected 2, .stepped]
    (by simpa [SessionMove.posted] using ⟨board, List.mem_cons_self, rfl⟩)
  have hlive : s.ending = none := by decide +kernel
  have hunparked : s.subscriber.parked = false := by decide +kernel
  have hsome : s.subscriber.held = [snapshot, board] := by decide +kernel
  refine ⟨by decide +kernel, by decide +kernel, ?_⟩
  rw [hlive, hunparked, hsome] at hheld
  rw [hsome]
  exact ((hheld nofun).resolve_left nofun).resolve_left nofun

/-- The second subscription of a merged board is not yet through when both topics are declined and
the worker is stopped: the one that is held is given up. -/
example :
    let board := StreamKind.board.topic "BTC_JPY"
    let snapshot := StreamKind.boardSnapshot.topic "BTC_JPY"
    let t : Transport (List Bool) :=
      { write := fun stalls _ =>
          match stalls with
          | true :: later => (.unfinished, later)
          | false :: later => (.done (), later)
          | [] => (.done (), [])
        read := fun stalls _ => (.unfinished, stalls) }
    ((start "BTC_JPY" (.merged .empty) .usual [false, true]).run t
      [.cutShort [.unsubscribe board, .unsubscribe snapshot]]).link.written =
        [.subscribe board, .unsubscribe board] := by
  decide +kernel

end Session
end ExchangeClient
