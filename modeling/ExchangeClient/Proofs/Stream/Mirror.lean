import ExchangeClient.Proofs.Stream.Handling
import ExchangeClient.Stream.Course
import Mathlib.Data.List.Induction

/-!
# What is held is what was written

A subscriber cannot see what the other side knows of it; it keeps a set of topics and changes
the set as it writes.  Here the set is compared with the connection: as long as nothing fails,
a topic is held exactly if the last control frame about it that was written on the present
connection asks for it; and whatever fails, nothing is held.

What one turn writes and what it does to the set is `Tallies`.  It is said of sending a single
frame first and carried through the loops by `Tallies.trans`; a turn that fails in the middle
of a loop has written some frames and holds nothing.
-/

namespace ExchangeClient

namespace ControlFrame

/-- Some topics after a frame was written. -/
def apply (held : List String) (frame : ControlFrame) : List String :=
  match frame.method with
  | .subscribe => held.insert frame.channel
  | .unsubscribe => held.filter (· ≠ frame.channel)

/-- Some topics after some frames were written. -/
def applyAll (held : List String) (frames : List ControlFrame) : List String :=
  frames.foldl apply held

theorem applyAll_append (held : List String) (frames more : List ControlFrame) :
    applyAll held (frames ++ more) = applyAll (applyAll held frames) more :=
  List.foldl_append

theorem mem_apply {held : List String} {frame : ControlFrame} {topic : String} :
    topic ∈ apply held frame ↔
      if frame.channel = topic then frame.method = .subscribe else topic ∈ held := by
  unfold apply
  cases hmethod : frame.method with
  | subscribe =>
    rw [List.mem_insert_iff]
    split
    · next h => simp [h]
    · next h => simp [Ne.symm h]
  | unsubscribe =>
    rw [List.mem_filter, decide_eq_true_iff]
    split
    · next h => simp [h]
    · next h => simp [Ne.symm h]

theorem last?_append_singleton (topic : String) (frames : List ControlFrame)
    (frame : ControlFrame) :
    last? topic (frames ++ [frame]) =
      if frame.channel = topic then some frame else last? topic frames := by
  unfold last?
  rw [List.filter_append]
  split
  · next h => rw [List.filter_cons_of_pos (by simpa using h)]; simp
  · next h => rw [List.filter_cons_of_neg (by simpa using h)]; simp

/-- Of the topics that frames leave behind, each was asked for by the last frame about it. -/
theorem mem_applyAll_nil {topic : String} (frames : List ControlFrame) :
    topic ∈ applyAll [] frames ↔ (last? topic frames).map method = some .subscribe := by
  induction frames using List.reverseRecOn with
  | nil => simp [applyAll, last?]
  | append_singleton frames frame ih =>
    rw [applyAll_append, last?_append_singleton]
    show topic ∈ apply (applyAll [] frames) frame ↔ _
    rw [mem_apply]
    split
    · simp
    · exact ih

end ControlFrame

/-- Whether an event tells of a failure: a frame could not be written or read, or the handler
refuses what was read. -/
inductive StreamEvent.IsFailure (product : ProductCode) (h : Handler) : StreamEvent → Prop
  | unsent (frame : ControlFrame) (cause : ClientError) :
    StreamEvent.IsFailure product h (.unsent frame cause)
  | unread (cause : ClientError) : StreamEvent.IsFailure product h (.unread cause)
  | refused {frame : String} {cause : Json.DecodeError}
    (hrefuse : h.receive product frame = .error cause) :
    StreamEvent.IsFailure product h (.received frame)

namespace Subscriber

open ControlFrame StreamEvent

variable {σ : Type} {t : Transport σ} {s : Subscriber} {link : Recorded σ}

@[simp] theorem noteSent_held (frame : ControlFrame) :
    (s.noteSent frame).held = apply s.held frame := by
  unfold noteSent apply
  cases frame.method <;> rfl

/-! ## One turn -/

/-- A turn that keeps the set of topics in step with what it writes. -/
structure Tallies (s : Subscriber) (link : Recorded σ) (turn : Turn (Recorded σ))
    (frames : List ControlFrame) : Prop where
  written : turn.link.written = link.written ++ frames
  held : turn.subscriber.held =
    if turn.ending.isFailed then [] else applyAll s.held frames
  /-- A topic is declined only while it is held. -/
  worth : ∀ early frame late, frames = early ++ frame :: late → frame.method = .unsubscribe →
    frame.channel ∈ applyAll s.held early
  failed : turn.ending.isFailed = true ↔
    ∃ e ∈ turn.events, e.IsFailure s.product s.handler

/-- A turn that writes nothing. -/
theorem Tallies.of_silent {turn : Turn (Recorded σ)} (hwritten : turn.link.written = link.written)
    (hheld : turn.subscriber.held = if turn.ending.isFailed then [] else s.held)
    (hfailed : turn.ending.isFailed = true ↔
      ∃ e ∈ turn.events, e.IsFailure s.product s.handler) :
    Tallies s link turn [] where
  written := by rw [hwritten, List.append_nil]
  held := hheld
  worth early frame late h := by simp at h
  failed := hfailed

/-- A turn that does nothing. -/
theorem Tallies.of_idle {turn : Turn (Recorded σ)} (hwritten : turn.link.written = link.written)
    (hheld : turn.subscriber.held = s.held) (hevents : turn.events = [])
    (hending : turn.ending.isFailed = false) : Tallies s link turn [] := by
  refine .of_silent hwritten (by rw [hheld, hending]; rfl) ?_
  rw [hending, hevents]
  exact ⟨nofun, fun ⟨_, he, _⟩ => absurd he List.not_mem_nil⟩

/-- A turn that is done, and another after it. -/
theorem Tallies.trans {first next : Turn (Recorded σ)} {frames more : List ControlFrame}
    (hfirst : Tallies s link first frames) (hdone : first.ending = .done)
    (hproduct : first.subscriber.product = s.product)
    (hhandler : first.subscriber.handler = s.handler)
    (hnext : Tallies first.subscriber first.link next more) :
    Tallies s link { next with events := first.events ++ next.events } (frames ++ more) := by
  have hbetween : first.subscriber.held = applyAll s.held frames := by
    rw [hfirst.held, hdone]
    rfl
  refine ⟨?_, ?_, fun early frame late hsplit hmethod => ?_, ?_⟩
  · show next.link.written = _
    rw [hnext.written, hfirst.written, List.append_assoc]
  · show next.subscriber.held = _
    rw [hnext.held, hbetween, applyAll_append]
  · rcases List.append_eq_append_iff.mp hsplit with ⟨rest, rfl, hrest⟩ | ⟨rest, hrest, hlate⟩
    · rw [applyAll_append, ← hbetween]
      exact hnext.worth rest frame late hrest hmethod
    · cases rest with
      | nil =>
        obtain rfl : frames = early := by rw [hrest, List.append_nil]
        rw [← hbetween]
        exact hnext.worth [] frame late hlate.symm hmethod
      | cons frame' rest =>
        obtain ⟨rfl, -⟩ := List.cons.inj hlate
        exact hfirst.worth early frame rest hrest hmethod
  · have hnone : ¬ ∃ e ∈ first.events, e.IsFailure s.product s.handler := by
      rw [← hfirst.failed, hdone]
      exact Bool.false_ne_true
    have hfailed := hnext.failed
    rw [hproduct, hhandler] at hfailed
    rw [hfailed]
    constructor
    · rintro ⟨e, he, hfailure⟩
      exact ⟨e, List.mem_append_right _ he, hfailure⟩
    · rintro ⟨e, he, hfailure⟩
      rcases List.mem_append.mp he with he | he
      · exact absurd ⟨e, he, hfailure⟩ hnone
      · exact ⟨e, he, hfailure⟩

/-! ## Sending -/

theorem SendCase.tallies {frame : ControlFrame} {turn : Turn (Recorded σ)}
    (h : SendCase t.recorded s link frame turn) : ∃ frames, Tallies s link turn frames := by
  have hrecord := t.written_recorded_write link frame
  cases h with
  | dropped hmethod hheld =>
    refine ⟨[], .of_silent rfl rfl ⟨nofun, ?_⟩⟩
    rintro ⟨e, he, hfailure⟩
    obtain rfl := List.mem_singleton.mp he
    cases hfailure
  | sent hworth link' hwrite =>
    rw [hwrite] at hrecord
    refine ⟨[frame], hrecord, noteSent_held frame, fun early f late hsplit hmethod => ?_,
      ⟨nofun, ?_⟩⟩
    · obtain ⟨rfl, rfl⟩ : early = [] ∧ f = frame := by
        cases early with
        | nil => exact ⟨rfl, (List.cons.inj hsplit).1.symm⟩
        | cons _ early => simp at hsplit
      exact hworth hmethod
    · rintro ⟨e, he, hfailure⟩
      obtain rfl := List.mem_singleton.mp he
      cases hfailure
  | unsent cause link' hwrite =>
    rw [hwrite] at hrecord
    exact ⟨[], .of_silent hrecord rfl
      ⟨fun _ => ⟨_, List.mem_singleton_self _, .unsent frame cause⟩, fun _ => rfl⟩⟩
  | unfinished link' hwrite =>
    rw [hwrite] at hrecord
    exact ⟨[], .of_idle hrecord rfl rfl rfl⟩

theorem tallies_subscribe (t : Transport σ) (topics : List String) (s : Subscriber)
    (link : Recorded σ) :
    ∃ frames, Tallies s link (subscribe t.recorded topics s link) frames := by
  induction topics generalizing s link with
  | nil => exact ⟨[], .of_idle rfl rfl rfl rfl⟩
  | cons topic topics ih =>
    unfold subscribe
    split
    · exact ih s link
    · have hkeeps := keeps_send t.recorded s link (.subscribe topic)
      obtain ⟨frames, hfirst⟩ := (sendCase t.recorded s link (.subscribe topic)).tallies
      dsimp only
      split
      · next hdone =>
        obtain ⟨more, hnext⟩ := ih (s.send t.recorded link (.subscribe topic)).subscriber
          (s.send t.recorded link (.subscribe topic)).link
        exact ⟨_, hfirst.trans hdone hkeeps.product hkeeps.handler hnext⟩
      · exact ⟨frames, hfirst⟩

/-- Taking a frame out of the mailbox is no failure and writes nothing by itself. -/
theorem tallies_sendNext (t : Transport σ) (s : Subscriber) (link : Recorded σ)
    (frame : ControlFrame) (rest : List ControlFrame) :
    ∃ frames, Tallies s link (s.sendNext t.recorded link frame rest) frames := by
  obtain ⟨frames, h⟩ := (sendCase t.recorded { s with mailbox := rest } link frame).tallies
  refine ⟨frames, h.written, h.held, h.worth, h.failed.trans ?_⟩
  constructor
  · rintro ⟨e, he, hfailure⟩
    exact ⟨e, List.mem_cons_of_mem _ he, hfailure⟩
  · rintro ⟨e, he, hfailure⟩
    rcases List.mem_cons.mp he with rfl | he
    · cases hfailure
    · exact ⟨e, he, hfailure⟩

theorem tallies_sendAll (t : Transport σ) (frames : List ControlFrame) (s : Subscriber)
    (link : Recorded σ) : ∃ sent, Tallies s link (sendAll t.recorded frames s link) sent := by
  induction frames generalizing s link with
  | nil => exact ⟨[], .of_idle rfl rfl rfl rfl⟩
  | cons frame rest ih =>
    have hkeeps := keeps_sendNext t.recorded s link frame rest
    obtain ⟨sent, hfirst⟩ := tallies_sendNext t s link frame rest
    unfold sendAll
    dsimp only
    split
    · next hdone =>
      obtain ⟨more, hnext⟩ := ih (s.sendNext t.recorded link frame rest).subscriber
        (s.sendNext t.recorded link frame rest).link
      exact ⟨_, hfirst.trans hdone hkeeps.product hkeeps.handler hnext⟩
    · exact ⟨sent, hfirst⟩

/-! ## Steps -/

theorem ReadCase.tallies {turn : Turn (Recorded σ)} (h : ReadCase t.recorded s link turn) :
    Tallies s link turn [] := by
  have hrecord := t.written_recorded_read link s.readTimeout
  cases h with
  | accepted frame link' handler update hread haccept =>
    rw [hread] at hrecord
    refine .of_silent hrecord rfl ⟨nofun, ?_⟩
    rintro ⟨e, he, hfailure⟩
    cases hfailure with
    | refused hrefuse =>
      rcases List.mem_cons.mp he with hsame | he
      · obtain rfl := StreamEvent.received.inj hsame
        rw [haccept] at hrefuse
        cases hrefuse
      · cases update <;> simp at he
    | unsent | unread => cases update <;> simp at he
  | refused frame link' cause hread hrefuse =>
    rw [hread] at hrecord
    exact .of_silent hrecord rfl
      ⟨fun _ => ⟨_, List.mem_singleton_self _, .refused hrefuse⟩, fun _ => rfl⟩
  | unread cause link' hread =>
    rw [hread] at hrecord
    exact .of_silent hrecord rfl
      ⟨fun _ => ⟨_, List.mem_singleton_self _, .unread cause⟩, fun _ => rfl⟩
  | unfinished link' hread =>
    rw [hread] at hrecord
    exact .of_idle hrecord rfl rfl rfl

theorem StepCase.tallies {turn : Turn (Recorded σ)} (h : StepCase t.recorded s link turn) :
    ∃ frames, Tallies s link turn frames := by
  cases h with
  | control frame rest => exact tallies_sendNext t s link frame rest
  | subscribing => exact tallies_subscribe t s.topics s link
  | noticing => exact ⟨[], .of_idle rfl rfl rfl rfl⟩
  | reading => exact ⟨[], (readCase t.recorded s link).tallies⟩
  | idling => exact ⟨[], .of_idle rfl rfl rfl rfl⟩

end Subscriber

namespace Course

open ControlFrame

variable {σ : Type}

/-- Every move on a connection keeps the set of topics in step with what it writes. -/
theorem tallies_turn (t : Transport σ) (c : Course σ) {m : SubscriberMove σ}
    (hm : m.isReplaced = false) :
    ∃ frames, Subscriber.Tallies c.subscriber c.link (c.turn t m) frames := by
  cases m with
  | enqueue frame =>
    rw [turn]
    refine ⟨[], .of_idle rfl ?_ rfl rfl⟩
    dsimp only
    split <;> rfl
  | orphan =>
    rw [turn]
    exact ⟨[], .of_idle rfl rfl rfl rfl⟩
  | stirred change =>
    rw [turn]
    exact ⟨[], .of_idle rfl rfl rfl rfl⟩
  | stepped =>
    rw [turn]
    exact (Subscriber.stepCase t.recorded c.subscriber c.link).tallies
  | flushed =>
    rw [turn, Subscriber.flush]
    exact Subscriber.tallies_sendAll t _ c.subscriber c.link
  | replaced link => cases hm

/-- The topics that are held are those that the frames written on the connection leave behind,
unless something has failed on it. -/
def Mirrors (c : Course σ) : Prop :=
  c.hasFailed = false → c.subscriber.held = applyAll [] c.link.written

theorem Mirrors.move {c : Course σ} (t : Transport σ) (h : c.Mirrors) (m : SubscriberMove σ) :
    (c.move t m).Mirrors := by
  intro hfailed
  cases hm : m.isReplaced with
  | true =>
    cases m with
    | replaced link => rfl
    | enqueue | orphan | stirred | stepped | flushed => cases hm
  | false =>
    obtain ⟨frames, htallies⟩ := c.tallies_turn t hm
    have hsound : c.hasFailed = false ∧ (c.turn t m).ending.isFailed = false := by
      rwa [Course.move, hm, Bool.not_false, Bool.true_and, Bool.or_eq_false_iff] at hfailed
    show (c.turn t m).subscriber.held = applyAll [] (c.turn t m).link.written
    rw [htallies.held, htallies.written, hsound.2, applyAll_append, ← h hsound.1]
    rfl

theorem Mirrors.run {c : Course σ} (t : Transport σ) (h : c.Mirrors)
    (ms : List (SubscriberMove σ)) : (c.run t ms).Mirrors := by
  induction ms generalizing c with
  | nil => exact h
  | cons m ms ih => exact ih (h.move t m)

/-- **What is held is what was written.**  Whatever befalls a subscriber, over any number of
connections:

* as long as nothing has failed on the present connection, a topic is held exactly if the last
  control frame about it that was written there asks for it;
* the subscriber counts as subscribed exactly if it holds a topic;
* a move fails exactly if a frame could not be written or read or was refused, and when it fails
  or the connection is torn down, nothing is held afterwards;
* an unsubscription is written only for a topic that is held when it is written. -/
theorem held_mirrors_written (t : Transport σ) (product : ProductCode) (handler : Handler)
    (config : ConnectionConfig) (link : σ) (ms : List (SubscriberMove σ)) :
    let c := (start product handler config link).run t ms
    (c.hasFailed = false → ∀ topic, topic ∈ c.subscriber.held ↔
      (last? topic c.link.written).map method = some .subscribe) ∧
    (c.subscriber.isSubscribed = true ↔ ∃ topic, topic ∈ c.subscriber.held) ∧
    ∀ m,
      ((c.turn t m).ending.isFailed = true ↔
        ∃ e ∈ (c.turn t m).events, e.IsFailure c.subscriber.product c.subscriber.handler) ∧
      ((c.turn t m).ending.isFailed = true ∨ m.isReplaced = true →
        (c.turn t m).subscriber.held = []) ∧
      ∀ early frame late,
        (c.turn t m).link.written = c.link.written ++ (early ++ frame :: late) →
          frame.method = .unsubscribe → frame.channel ∈ applyAll c.subscriber.held early := by
  intro c
  have hmirrors : c.Mirrors := Mirrors.run t (fun _ => rfl) ms
  refine ⟨fun hsound topic => ?_, ?_, fun m => ?_⟩
  · rw [hmirrors hsound]
    exact mem_applyAll_nil c.link.written
  · rw [Subscriber.isSubscribed, Bool.not_eq_true', List.isEmpty_eq_false_iff_exists_mem]
  · cases hm : m.isReplaced with
    | true =>
      cases m with
      | replaced link' =>
        refine ⟨⟨fun hfailed => ?_, ?_⟩, fun _ => rfl, fun early frame late hwritten => ?_⟩
        · cases hfailed
        · rintro ⟨_, he, _⟩
          cases he
        have hnil : ([] : List ControlFrame) =
            c.link.written ++ (early ++ frame :: late) := hwritten
        simp at hnil
      | enqueue | orphan | stirred | stepped | flushed => cases hm
    | false =>
      obtain ⟨frames, htallies⟩ := c.tallies_turn t hm
      refine ⟨htallies.failed, fun hended => ?_, fun early frame late hwritten => ?_⟩
      · rw [htallies.held, if_pos (hended.resolve_right Bool.false_ne_true)]
      · rw [htallies.written] at hwritten
        exact htallies.worth early frame late (List.append_cancel_left hwritten)

end Course
end ExchangeClient
