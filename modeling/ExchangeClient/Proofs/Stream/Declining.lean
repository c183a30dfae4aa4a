import ExchangeClient.Proofs.Stream.Handling
import Mathlib.Data.List.Nodup

/-!
# Declining topics one by one

A subscriber that is being stopped finds an unsubscription for each of its topics in the
mailbox, in order, and goes on meanwhile.  Here it is followed on a connection that takes
every frame.

What becomes of an unsubscription depends on one thing only: whether the subscriber has
asked for its topics before it takes the unsubscription.  If it has, the topic is held and
the unsubscription is sent.  If it has not, nothing is held and the unsubscription is
dropped; nothing remembers that it was there, so when the mailbox is empty for a moment the
subscriber asks for all of its topics, and this one is not declined any more.

`Declining` lists the topics by what became of their unsubscriptions.  Steps keep to it
(`Declining.step`), so does the last sending of what is in the mailbox (`Declining.flush`),
and at the end of it a topic that was asked for has been declined exactly if its
unsubscription was neither dropped nor spent on an earlier connection
(`Declining.unsubscribe_mem_iff`).
-/

namespace ExchangeClient

/-- Whether every frame that is written goes through. -/
def Transport.AlwaysWrites {σ : Type} (t : Transport σ) : Prop :=
  ∀ link frame, (t.write link frame).1 = .done ()

namespace StreamEvent

/-- The frames that were dropped, in order. -/
def droppedFrames (events : List StreamEvent) : List ControlFrame :=
  events.filterMap fun
    | .dropped frame => some frame
    | _ => none

theorem sentFrames_append (events more : List StreamEvent) :
    sentFrames (events ++ more) = sentFrames events ++ sentFrames more :=
  List.filterMap_append

theorem droppedFrames_append (events more : List StreamEvent) :
    droppedFrames (events ++ more) = droppedFrames events ++ droppedFrames more :=
  List.filterMap_append

theorem sentFrames_map_subscribe (topics : List String) :
    sentFrames (topics.map fun topic => .sent (.subscribe topic)) =
      topics.map .subscribe := by
  rw [sentFrames, List.filterMap_map, ← List.filterMap_eq_map]
  rfl

theorem droppedFrames_map_subscribe (topics : List String) :
    droppedFrames (topics.map fun topic => .sent (.subscribe topic)) = [] := by
  rw [droppedFrames, List.filterMap_map]
  exact List.filterMap_eq_nil_iff.mpr fun _ _ => rfl

end StreamEvent

namespace ControlFrame

theorem subscribe_injective : Function.Injective subscribe := by
  intro topic topic' h
  exact congrArg channel h

theorem unsubscribe_injective : Function.Injective unsubscribe := by
  intro topic topic' h
  exact congrArg channel h

theorem subscribe_ne_unsubscribe (topic topic' : String) :
    subscribe topic ≠ unsubscribe topic' := by
  intro h
  have hmethod : ControlMethod.subscribe = ControlMethod.unsubscribe := congrArg method h
  cases hmethod

theorem subscribe_notMem_map_unsubscribe (topic : String) (topics : List String) :
    subscribe topic ∉ topics.map unsubscribe := by
  intro h
  obtain ⟨topic', -, heq⟩ := List.mem_map.mp h
  exact subscribe_ne_unsubscribe topic topic' heq.symm

theorem unsubscribe_notMem_map_subscribe (topic : String) (topics : List String) :
    unsubscribe topic ∉ topics.map subscribe := by
  intro h
  obtain ⟨topic', -, heq⟩ := List.mem_map.mp h
  exact subscribe_ne_unsubscribe topic' topic heq

end ControlFrame

namespace Handler

theorem topics_ne_nil (h : Handler) (product : ProductCode) : h.topics product ≠ [] := by
  cases h <;> exact List.cons_ne_nil _ _

theorem topics_nodup (h : Handler) (product : ProductCode) : (h.topics product).Nodup := by
  cases h with
  | merged book => exact List.pairwise_pair.mpr (boardTopic_ne_snapshotTopic product)
  | ticker | boardSnapshot | board | executions => exact List.nodup_singleton _

end Handler

open ControlFrame StreamEvent

namespace Subscriber

variable {σ : Type} {t : Transport σ} {s : Subscriber} {link : σ}

/-! ## Sending on a connection that takes every frame -/

/-- An unsubscription for a topic that is not held is dropped. -/
theorem send_unsubscribe_of_notMem (t : Transport σ) (link : σ) {topic : String}
    (hheld : topic ∉ s.held) :
    s.send t link (.unsubscribe topic) = ⟨s, link, [.dropped (.unsubscribe topic)], .done⟩ := by
  rw [send, if_pos ⟨rfl, hheld⟩]

/-- Every other frame goes through. -/
theorem send_of_alwaysWrites (hwrites : t.AlwaysWrites) (s : Subscriber) (link : σ)
    (frame : ControlFrame) (hworth : frame.method = .unsubscribe → frame.channel ∈ s.held) :
    ∃ link', s.send t link frame = ⟨s.noteSent frame, link', [.sent frame], .done⟩ := by
  have hcase := sendCase t s link frame
  generalize s.send t link frame = turn at hcase
  have hwritten := hwrites link frame
  cases hcase with
  | dropped hmethod hheld => exact absurd (hworth hmethod) hheld
  | sent _ link' _ => exact ⟨link', rfl⟩
  | unsent cause link' hwrite =>
    rw [hwrite] at hwritten
    cases hwritten
  | unfinished link' hwrite =>
    rw [hwrite] at hwritten
    cases hwritten

/-- A topic that is asked for is held beside the others. -/
theorem mem_held_noteSent_subscribe {topic x : String} :
    x ∈ (s.noteSent (.subscribe topic)).held ↔ x = topic ∨ x ∈ s.held :=
  List.mem_insert_iff

/-- Asking for one of some topics leaves the others to be asked for. -/
theorem fresh_noteSent {topic : String} {topics : List String} (hnew : topic ∉ topics)
    (hfresh : ∀ x ∈ topic :: topics, x ∉ s.held) :
    ∀ x ∈ topics, x ∉ (s.noteSent (.subscribe topic)).held := by
  intro x hx hmem
  rcases mem_held_noteSent_subscribe.mp hmem with rfl | hmem
  · exact hnew hx
  · exact hfresh x (List.mem_cons_of_mem topic hx) hmem

/-- Topics that are not held are asked for in order, and are held afterwards. -/
theorem subscribe_of_alwaysWrites (hwrites : t.AlwaysWrites) {topics : List String}
    (hnodup : topics.Nodup) (s : Subscriber) (link : σ) (hfresh : ∀ x ∈ topics, x ∉ s.held) :
    (subscribe t topics s link).events = topics.map (fun topic => .sent (.subscribe topic)) ∧
      ∀ x, x ∈ (subscribe t topics s link).subscriber.held ↔ x ∈ topics ∨ x ∈ s.held := by
  induction topics generalizing s link with
  | nil => exact ⟨rfl, fun x => by simp [subscribe]⟩
  | cons topic topics ih =>
    obtain ⟨hnew, hnodup⟩ := List.nodup_cons.mp hnodup
    obtain ⟨link', hsend⟩ := send_of_alwaysWrites hwrites s link (.subscribe topic)
      fun hmethod => by cases hmethod
    obtain ⟨hevents, hrest⟩ :=
      ih hnodup (s.noteSent (.subscribe topic)) link' (fresh_noteSent hnew hfresh)
    rw [subscribe, if_neg (hfresh topic List.mem_cons_self), hsend]
    dsimp only
    refine ⟨by rw [hevents]; rfl, fun x => ?_⟩
    rw [hrest, mem_held_noteSent_subscribe, List.mem_cons]
    tauto

/-! ## What became of the unsubscriptions -/

/-- How far a subscriber has come on a connection with the unsubscriptions of its topics.  Those
of `early` were taken before the connection was made and those of `pending` are still to come;
of the others, those of `gone` were dropped on the connection, those of `declined` were sent
on it, and those of `waiting` are in the mailbox. -/
inductive Declining (topics early : List String) (s : Subscriber) (pending : List String)
    (events : List StreamEvent) : Prop
  /-- Nothing was asked for yet. -/
  | unasked (gone waiting : List String)
    (htopics : topics = early ++ (gone ++ (waiting ++ pending)))
    (hheld : s.held = []) (hmailbox : s.mailbox = waiting.map .unsubscribe)
    (hsent : sentFrames events = [])
    (hdropped : droppedFrames events = gone.map .unsubscribe)
  /-- Every topic was asked for once. -/
  | asked (gone declined waiting : List String)
    (htopics : topics = early ++ (gone ++ (declined ++ (waiting ++ pending))))
    (hheld : ∀ x, x ∈ s.held ↔ x ∈ early ∨ x ∈ gone ∨ x ∈ waiting ∨ x ∈ pending)
    (hparked : declined ≠ [] → s.parked = true)
    (hmailbox : s.mailbox = waiting.map .unsubscribe)
    (hsent : sentFrames events = topics.map .subscribe ++ declined.map .unsubscribe)
    (hdropped : droppedFrames events = gone.map .unsubscribe)

namespace Declining

variable {topics early pending : List String} {events : List StreamEvent}

/-- One more topic is declined in the mailbox. -/
theorem enqueue {topic : String} (h : Declining topics early s (topic :: pending) events) :
    Declining topics early (s.enqueue (.unsubscribe topic)) pending events := by
  have hwaiting (waiting : List String) :
      waiting ++ topic :: pending = (waiting ++ [topic]) ++ pending :=
    List.append_cons waiting topic pending
  cases h with
  | unasked gone waiting htopics hheld hmailbox hsent hdropped =>
    refine .unasked gone (waiting ++ [topic]) ?_ hheld ?_ hsent hdropped
    · rw [htopics, hwaiting]
    · rw [Subscriber.enqueue, hmailbox, List.map_append]
      rfl
  | asked gone declined waiting htopics hheld hparked hmailbox hsent hdropped =>
    refine .asked gone declined (waiting ++ [topic]) ?_ (fun x => ?_) hparked ?_ hsent hdropped
    · rw [htopics, hwaiting]
    · rw [Subscriber.enqueue, hheld, List.mem_append, List.mem_singleton, List.mem_cons]
      tauto
    · rw [Subscriber.enqueue, hmailbox, List.map_append]
      rfl

/-- The oldest unsubscription is taken; it is dropped if nothing was asked for yet, and sent
otherwise. -/
theorem sendNext (hwrites : t.AlwaysWrites) (hnodup : topics.Nodup) (link : σ)
    (h : Declining topics early s pending events) {frame : ControlFrame} {rest : List ControlFrame}
    (hnext : s.mailbox = frame :: rest) :
    (s.sendNext t link frame rest).ending = .done ∧
      (s.sendNext t link frame rest).subscriber.mailbox = rest ∧
      Declining topics early (s.sendNext t link frame rest).subscriber pending
        (events ++ (s.sendNext t link frame rest).events) := by
  cases h with
  | unasked gone waiting htopics hheld hmailbox hsent hdropped =>
    rw [hnext] at hmailbox
    obtain ⟨topic, waiting, rfl, rfl, hrest⟩ := List.map_eq_cons_iff.mp hmailbox.symm
    have hnothing : topic ∉ ({ s with mailbox := rest } : Subscriber).held := by
      rw [hheld]
      exact List.not_mem_nil
    rw [Subscriber.sendNext, send_unsubscribe_of_notMem t link hnothing]
    refine ⟨rfl, rfl, .unasked (gone ++ [topic]) waiting ?_ hheld hrest.symm ?_ ?_⟩
    · rw [htopics, List.cons_append, ← List.append_cons]
    · rw [sentFrames_append, hsent]
      rfl
    · rw [droppedFrames_append, hdropped, List.map_append]
      rfl
  | asked gone declined waiting htopics hheld hparked hmailbox hsent hdropped =>
    rw [hnext] at hmailbox
    obtain ⟨topic, waiting, rfl, rfl, hrest⟩ := List.map_eq_cons_iff.mp hmailbox.symm
    have hmem : topic ∈ s.held :=
      (hheld topic).mpr (Or.inr (Or.inr (Or.inl List.mem_cons_self)))
    -- The topic stands at one place among the topics, so no other part holds it as well.
    have hother : topic ∉ early ∧ topic ∉ gone ∧ topic ∉ waiting ∧ topic ∉ pending := by
      rw [htopics] at hnodup
      obtain ⟨-, hnodup, hearly⟩ := List.nodup_append.mp hnodup
      obtain ⟨-, hnodup, hgone⟩ := List.nodup_append.mp hnodup
      obtain ⟨-, hnodup, -⟩ := List.nodup_append.mp hnodup
      rw [List.cons_append, List.nodup_cons, List.mem_append, not_or] at hnodup
      have hlater : topic ∈ declined ++ (topic :: waiting ++ pending) :=
        List.mem_append_right declined List.mem_cons_self
      exact ⟨fun hmem => hearly topic hmem topic (List.mem_append_right gone hlater) rfl,
        fun hmem => hgone topic hmem topic hlater rfl, hnodup.1⟩
    obtain ⟨link', hsend⟩ := send_of_alwaysWrites hwrites { s with mailbox := rest } link
      (.unsubscribe topic) fun _ => hmem
    rw [Subscriber.sendNext, hsend]
    refine ⟨rfl, rfl, .asked gone (declined ++ [topic]) waiting ?_ (fun x => ?_) (fun _ => rfl)
      hrest.symm ?_ ?_⟩
    · rw [htopics, List.cons_append, ← List.append_cons]
    · have hfilter : x ∈ s.held.filter (· ≠ topic) ↔ x ∈ s.held ∧ x ≠ topic := by
        rw [List.mem_filter, decide_eq_true_iff]
      refine hfilter.trans ?_
      rw [hheld, List.mem_cons]
      constructor
      · rintro ⟨hearly | hgone | (hx | hwaiting) | hpending, hne⟩
        · exact Or.inl hearly
        · exact Or.inr (Or.inl hgone)
        · exact absurd hx hne
        · exact Or.inr (Or.inr (Or.inl hwaiting))
        · exact Or.inr (Or.inr (Or.inr hpending))
      · rintro (hearly | hgone | hwaiting | hpending)
        · exact ⟨Or.inl hearly, fun hx => hother.1 (hx ▸ hearly)⟩
        · exact ⟨Or.inr (Or.inl hgone), fun hx => hother.2.1 (hx ▸ hgone)⟩
        · exact ⟨Or.inr (Or.inr (Or.inl (Or.inr hwaiting))),
            fun hx => hother.2.2.1 (hx ▸ hwaiting)⟩
        · exact ⟨Or.inr (Or.inr (Or.inr hpending)), fun hx => hother.2.2.2 (hx ▸ hpending)⟩
    · rw [sentFrames_append, hsent, List.append_assoc, List.map_append]
      rfl
    · rw [droppedFrames_append, hdropped]
      exact List.append_nil _

/-- When the mailbox is empty and nothing is held, every topic is asked for, those whose
unsubscriptions were dropped with the others. -/
theorem subscribe (hwrites : t.AlwaysWrites) (hnodup : topics.Nodup) (link : σ)
    (h : Declining topics early s pending events) (hmailbox : s.mailbox = []) (hheld : s.held = [])
    (hparked : s.parked = false) (hne : topics ≠ []) :
    Declining topics early (Subscriber.subscribe t topics s link).subscriber pending
      (events ++ (Subscriber.subscribe t topics s link).events) := by
  cases h with
  | unasked gone waiting htopics _ hwaiting hsent hdropped =>
    have hnone : waiting = [] := List.map_eq_nil_iff.mp (hwaiting.symm.trans hmailbox)
    subst hnone
    obtain ⟨hevents, hasked⟩ := subscribe_of_alwaysWrites hwrites hnodup s link fun x _ => by
      rw [hheld]
      exact List.not_mem_nil
    refine .asked gone [] [] htopics (fun x => ?_) (fun hne => absurd rfl hne) ?_ ?_ ?_
    · rw [hasked, hheld, htopics]
      simp
    · rw [subscribe_mailbox, hmailbox]
      rfl
    · rw [sentFrames_append, hsent, hevents, sentFrames_map_subscribe]
      exact (List.append_nil _).symm
    · rw [droppedFrames_append, hdropped, hevents, droppedFrames_map_subscribe]
      exact List.append_nil _
  | asked gone declined waiting htopics hstill hdeclined _ _ _ =>
    -- Nothing is held any more, so every topic was declined and the subscriber is parked.
    have hnone (x : String) : ¬ (x ∈ early ∨ x ∈ gone ∨ x ∈ waiting ∨ x ∈ pending) := by
      rw [← hstill, hheld]
      exact List.not_mem_nil
    have hall : declined ≠ [] := by
      rintro rfl
      apply hne
      rw [htopics, List.nil_append]
      refine List.eq_nil_iff_forall_not_mem.mpr fun x hx => hnone x ?_
      rwa [List.mem_append, List.mem_append, List.mem_append] at hx
    rw [hdeclined hall] at hparked
    cases hparked

/-- What neither sends nor drops anything changes nothing here. -/
theorem keep {s' : Subscriber} {more : List StreamEvent}
    (h : Declining topics early s pending events) (hheld : s'.held = s.held)
    (hparked : s'.parked = s.parked) (hmailbox : s'.mailbox = s.mailbox)
    (hsent : sentFrames more = []) (hdropped : droppedFrames more = []) :
    Declining topics early s' pending (events ++ more) := by
  have hsentAll : sentFrames (events ++ more) = sentFrames events := by
    rw [sentFrames_append, hsent, List.append_nil]
  have hdroppedAll : droppedFrames (events ++ more) = droppedFrames events := by
    rw [droppedFrames_append, hdropped, List.append_nil]
  cases h with
  | unasked gone waiting htopics hnone hwaiting hs hd =>
    exact .unasked gone waiting htopics (hheld.trans hnone) (hmailbox.trans hwaiting)
      (hsentAll.trans hs) (hdroppedAll.trans hd)
  | asked gone declined waiting htopics hstill hdeclined hwaiting hs hd =>
    refine .asked gone declined waiting htopics (fun x => ?_) (fun hne => ?_)
      (hmailbox.trans hwaiting) (hsentAll.trans hs) (hdroppedAll.trans hd)
    · rw [hheld, hstill]
    · rw [hparked, hdeclined hne]

/-- **A step that does not fail keeps to it.** -/
theorem step (hwrites : t.AlwaysWrites) (hnodup : topics.Nodup) (hne : topics ≠ [])
    (hs : s.topics = topics) (link : σ) (h : Declining topics early s pending events) :
    (∃ cause, (s.step t link).ending = .failed cause) ∨
      Declining topics early (s.step t link).subscriber pending
        (events ++ (s.step t link).events) := by
  have hcase := stepCase t s link
  generalize s.step t link = turn at hcase
  cases hcase with
  | control frame rest hmailbox => exact Or.inr (h.sendNext hwrites hnodup link hmailbox).2.2
  | subscribing hmailbox hheld hparked =>
    rw [hs]
    exact Or.inr (h.subscribe hwrites hnodup link hmailbox hheld hparked hne)
  | noticing => exact Or.inr (h.keep rfl rfl rfl rfl rfl)
  | idling => exact Or.inr (h.keep rfl rfl rfl rfl rfl)
  | reading hmailbox hheld =>
    have hread := readCase t s link
    generalize s.read t link = turn at hread
    cases hread with
    | accepted frame link' handler update =>
      refine Or.inr (h.keep rfl rfl rfl ?_ ?_)
      · cases update <;> rfl
      · cases update <;> rfl
    | refused frame link' cause => exact Or.inl ⟨.json cause, rfl⟩
    | unread cause => exact Or.inl ⟨cause, rfl⟩
    | unfinished => exact Or.inr (h.keep rfl rfl rfl rfl rfl)

/-- **The last sending empties the mailbox** and keeps to it. -/
theorem flush (hwrites : t.AlwaysWrites) (hnodup : topics.Nodup) (link : σ)
    (h : Declining topics early s pending events) :
    (s.flush t link).subscriber.mailbox = [] ∧
      Declining topics early (s.flush t link).subscriber pending
        (events ++ (s.flush t link).events) := by
  unfold Subscriber.flush
  generalize hmailbox : s.mailbox = frames
  induction frames generalizing s link events with
  | nil => exact ⟨hmailbox, h.keep rfl rfl rfl rfl rfl⟩
  | cons frame rest ih =>
    obtain ⟨hending, hrest, hnext⟩ := h.sendNext hwrites hnodup link hmailbox
    rw [sendAll, hending]
    dsimp only
    rw [← List.append_assoc]
    exact ih _ hnext hrest

/-- **Which topics are declined.**  When every unsubscription was taken, a topic that was asked
for on the connection has been declined since exactly if its unsubscription was neither taken
before the connection was made nor dropped on it. -/
theorem unsubscribe_mem_iff (hnodup : topics.Nodup) (h : Declining topics early s [] events)
    (hmailbox : s.mailbox = []) {topic : String} {before after : List ControlFrame}
    (hsubscribe : sentFrames events = before ++ .subscribe topic :: after) :
    .unsubscribe topic ∈ after ↔
      topic ∉ early ∧ .unsubscribe topic ∉ droppedFrames events := by
  cases h with
  | unasked gone waiting htopics _ _ hsent _ =>
    rw [hsent] at hsubscribe
    exact absurd hsubscribe.symm (List.append_ne_nil_of_right_ne_nil before (List.cons_ne_nil _ _))
  | asked gone declined waiting htopics _ _ hwaiting hsent hdropped =>
    have hnone : waiting = [] := List.map_eq_nil_iff.mp (hwaiting.symm.trans hmailbox)
    subst hnone
    rw [List.append_nil, List.append_nil] at htopics
    rw [hsent] at hsubscribe
    rw [hdropped, List.mem_map_of_injective unsubscribe_injective]
    -- The subscription is one of those of the topics, and every unsubscription is behind them.
    obtain ⟨others, hothers, hafter⟩ : ∃ others,
        topics.map ControlFrame.subscribe = before ++ .subscribe topic :: others ∧
          after = others ++ declined.map ControlFrame.unsubscribe := by
      rcases List.append_eq_append_iff.mp hsubscribe with ⟨more, -, hmore⟩ | ⟨more, hmore, heq⟩
      · refine absurd ?_ (subscribe_notMem_map_unsubscribe topic declined)
        rw [hmore]
        exact List.mem_append_right more List.mem_cons_self
      · cases more with
        | nil =>
          refine absurd ?_ (subscribe_notMem_map_unsubscribe topic declined)
          rw [← List.nil_append (declined.map _), ← heq]
          exact List.mem_cons_self
        | cons frame others =>
          obtain ⟨rfl, hafter⟩ := List.cons.inj heq
          exact ⟨others, hmore, hafter⟩
    have hbefore : .unsubscribe topic ∉ others := by
      intro hmem
      refine unsubscribe_notMem_map_subscribe topic topics ?_
      rw [hothers]
      exact List.mem_append_right before (List.mem_cons_of_mem _ hmem)
    have htopic : topic ∈ early ∨ topic ∈ gone ∨ topic ∈ declined := by
      have hmem : .subscribe topic ∈ topics.map ControlFrame.subscribe := by
        rw [hothers]
        exact List.mem_append_right before List.mem_cons_self
      rwa [List.mem_map_of_injective subscribe_injective, htopics, List.mem_append,
        List.mem_append] at hmem
    rw [hafter, List.mem_append, or_iff_right hbefore,
      List.mem_map_of_injective unsubscribe_injective]
    rw [htopics] at hnodup
    obtain ⟨-, hnodup, hearly⟩ := List.nodup_append.mp hnodup
    obtain ⟨-, -, hgone⟩ := List.nodup_append.mp hnodup
    constructor
    · intro hmem
      exact ⟨fun h => hearly topic h topic (List.mem_append_right gone hmem) rfl,
        fun h => hgone topic h topic hmem rfl⟩
    · rintro ⟨hnotEarly, hnotGone⟩
      exact (htopic.resolve_left hnotEarly).resolve_left hnotGone

end Declining
end Subscriber
end ExchangeClient
