import ExchangeClient.Proofs.Feed.MergedBoard
import ExchangeClient.Proofs.Stream.Receiving

/-!
# What is delivered

A subscriber hands each frame that it reads to its handler.  `DeliversExactly` lists what may come
of it: what the frame writes is delivered, once and as it is written, or the step fails and nothing
has changed, or the frame is passed over.

What is delivered for many frames follows by induction.  `Handler.shows` says what it is as long as
no frame is refused: the values that the frames write, in order, or for a merged board the book
after each of them.  A step that fails ends the session, so on one connection this goes up to the
first frame that is refused (`updates_steps_playing`); and over any number of connections nothing
is lost, delivered twice, or put in another order (`updates_eq_shows`).
-/

namespace ExchangeClient

/-- The update that a frame writes under the topic of some kind, if it writes one. -/
def StreamKind.value? (kind : StreamKind) (product : ProductCode) (frame : String) :
    Option Update :=
  match Notification.ofFrame frame with
  | .ok (some n) =>
    if n.channel = kind.topic product then (kind.decode n.message).toOption else none
  | _ => none

namespace Handler

/-- What a handler delivers for some frames, if none of them makes a step fail. -/
def shows (h : Handler) (product : ProductCode) (frames : List String) : List Update :=
  match h with
  | .merged book => (book.boards (frames.filterMap (BookChange.ofFrame? product))).map .board
  | h => frames.filterMap (h.kind.value? product)

variable {h : Handler}

/-! ## Many frames -/

/-- A handler without a book delivers what the frames write, as it is written. -/
theorem shows_of_plain (hplain : ∀ book, h ≠ .merged book) (product : ProductCode)
    (frames : List String) : h.shows product frames = frames.filterMap (h.kind.value? product) := by
  cases h with
  | merged book => exact absurd rfl (hplain book)
  | ticker | boardSnapshot | board | executions => rfl

theorem take_of_plain (hplain : ∀ book, h ≠ .merged book) (kind : StreamKind) (update : Update) :
    h.take kind update = (h, update) := by
  cases h with
  | merged book => exact absurd rfl (hplain book)
  | ticker | boardSnapshot | board | executions => rfl

theorem kinds_of_plain (hplain : ∀ book, h ≠ .merged book) : h.kinds = [h.kind] := by
  cases h with
  | merged book => exact absurd rfl (hplain book)
  | ticker | boardSnapshot | board | executions => rfl

/-- A handler without a book stays as it is and delivers the value that a frame writes. -/
theorem value?_of_plain (hplain : ∀ book, h ≠ .merged book) (product : ProductCode)
    (frame : String) :
    h.kind.value? product frame =
      match h.receive product frame with
      | .ok (_, update) => update
      | .error _ => none := by
  unfold receive StreamKind.value?
  cases Notification.ofFrame frame with
  | error cause => rfl
  | ok n? =>
    cases n? with
    | none => rfl
    | some n =>
      have hmem : h.kind ∈ h.kinds := by
        rw [kinds_of_plain hplain]
        exact List.mem_singleton_self _
      show _ = match h.accept product n with
        | .ok (_, update) => update
        | .error _ => none
      dsimp only
      split
      · next hown =>
        rw [accept_own hmem hown]
        cases h.kind.decode n.message with
        | error cause => rfl
        | ok update =>
          show some update = some (h.take h.kind update).2
          rw [take_of_plain hplain]
      · next hown =>
        rw [accept_foreign]
        rw [topics_eq_map_kinds, kinds_of_plain hplain]
        exact fun hmem => hown (List.mem_singleton.mp hmem)

theorem shows_cons_of_plain (hplain : ∀ book, h ≠ .merged book) (product : ProductCode)
    (frame : String) (frames : List String) :
    h.shows product (frame :: frames) =
      match h.receive product frame with
      | .ok (h', update) => update.toList ++ h'.shows product frames
      | .error _ => h.shows product frames := by
  have hvalue := value?_of_plain hplain product frame
  rw [shows_of_plain hplain, List.filterMap_cons, hvalue, ← shows_of_plain hplain]
  cases hreceive : h.receive product frame with
  | error cause => rfl
  | ok result =>
    obtain ⟨h', update⟩ := result
    obtain rfl : h = h' := by
      have hsame := sameButBook_receive hreceive
      cases h with
      | merged book => exact absurd rfl (hplain book)
      | ticker | boardSnapshot | board | executions => exact hsame
    cases update <;> rfl

/-- What is shown of some frames is what the first makes of the handler, and then the rest. -/
theorem shows_cons (h : Handler) (product : ProductCode) (frame : String) (frames : List String) :
    h.shows product (frame :: frames) =
      match h.receive product frame with
      | .ok (h', update) => update.toList ++ h'.shows product frames
      | .error _ => h.shows product frames := by
  cases h with
  | merged book =>
    rcases receive_merged product book frame with ⟨c, hc, hok⟩ | ⟨hnone, hok | ⟨cause, hfail⟩⟩
    · rw [hok, shows, List.filterMap_cons_some hc, OrderBook.boards_cons]
      rfl
    · rw [hok, shows, List.filterMap_cons_none hnone]
      rfl
    · rw [hfail, shows, List.filterMap_cons_none hnone]
      rfl
  | ticker | boardSnapshot | board | executions =>
    exact shows_cons_of_plain (fun _ hmerged => by cases hmerged) product frame frames

@[simp] theorem shows_nil (h : Handler) (product : ProductCode) : h.shows product [] = [] := by
  cases h <;> rfl

end Handler

open StreamEvent

theorem StreamEvent.updates_append (events more : List StreamEvent) :
    updates (events ++ more) = updates events ++ updates more :=
  List.filterMap_append

theorem StreamEvent.updates_map_subscribe (topics : List String) :
    updates (topics.map fun topic => .sent (.subscribe topic)) = [] := by
  rw [updates, List.filterMap_map]
  exact List.filterMap_eq_nil_iff.mpr fun _ _ => rfl

theorem StreamEvent.updates_received (frame : String) (update : Option Update)
    (events : List StreamEvent) :
    updates (received frame :: (update.map delivered).toList ++ events) =
      update.toList ++ updates events := by
  cases update <;> rfl

/-- **Whatever handles frames delivers what they write**, in order. -/
theorem Handled.updates_eq_shows {product : ProductCode} {h h' : Handler}
    {events : List StreamEvent} (hhandled : Handled product h events h') :
    updates events = h.shows product (receivedFrames events) := by
  induction hhandled with
  | nil => exact (Handler.shows_nil _ _).symm
  | @quiet _ _ e _ he _ ih =>
    cases e with
    | received | delivered => exact False.elim he
    | took | dropped | sent | unsent | unread => exact ih
  | @accepted h h₁ _ frame update events hframe _ ih =>
    have hreceived :
        receivedFrames (received frame :: ((update.map delivered).toList ++ events)) =
          frame :: receivedFrames events := by
      cases update <;> rfl
    rw [← List.cons_append, updates_received, List.cons_append, hreceived, Handler.shows_cons,
      hframe, ih]
  | @refused h _ frame _ events hframe _ ih =>
    show updates events = h.shows product (frame :: receivedFrames events)
    rw [Handler.shows_cons, hframe]
    exact ih

namespace Subscriber

variable {σ : Type} {s : Subscriber} {link : σ} {frame : String}

/-! ## One frame of a subscriber -/

theorem receive_of_ok {handler : Handler} {update : Option Update}
    (hok : s.handler.receive s.product frame = .ok (handler, update)) :
    s.receive link frame =
      ⟨{ s with handler }, link, .received frame :: (update.map delivered).toList, .done⟩ := by
  rw [receive, hok]

theorem receive_of_error {cause : Json.DecodeError}
    (herror : s.handler.receive s.product frame = .error cause) :
    s.receive link frame = ⟨s.disconnected, link, [.received frame], .failed (.json cause)⟩ := by
  rw [receive, herror]

/-- What a subscriber may make of a frame that it has read: it delivers exactly what the frame
writes, or it fails and nothing has changed. -/
structure DeliversExactly (s : Subscriber) (frame : String) (turn : Turn σ) : Prop where
  once : (updates turn.events).length ≤ 1
  delivers_iff : updates turn.events ≠ [] ↔ ∃ kind message update,
    s.handler.Hears s.product frame kind message ∧ kind.decode message = .ok update
  delivered : ∀ kind message update, s.handler.Hears s.product frame kind message →
    kind.decode message = .ok update →
      updates turn.events = [(s.handler.take kind update).2] ∧
        turn.subscriber.handler = (s.handler.take kind update).1
  /-- All but merged boards deliver the very value. -/
  plain : (∀ book, s.handler ≠ .merged book) → ∀ update, update ∈ updates turn.events ↔
    ∃ kind message, s.handler.Hears s.product frame kind message ∧
      kind.decode message = .ok update
  fails_iff : (∃ cause, turn.ending = .failed cause) ↔ s.handler.Refuses s.product frame
  /-- What fails or is passed over delivers nothing and leaves the book as it is. -/
  atomic : s.handler.Refuses s.product frame ∨ s.handler.PassesOver s.product frame →
    updates turn.events = [] ∧ turn.subscriber.handler = s.handler
  /-- What is passed over is no reason to fail. -/
  passes : s.handler.PassesOver s.product frame → turn.ending = .done

/-- A message under one of the handler's topics that writes a value is taken, and the outcome
delivered. -/
theorem receive_of_hears {kind : StreamKind} {message : Json} {update : Update}
    (hhears : s.handler.Hears s.product frame kind message)
    (hdecode : kind.decode message = .ok update) :
    s.receive link frame =
      ⟨{ s with handler := (s.handler.take kind update).1 }, link,
        [.received frame, .delivered (s.handler.take kind update).2], .done⟩ := by
  have hok : s.handler.receive s.product frame =
      .ok ((s.handler.take kind update).1, some (s.handler.take kind update).2) := by
    rw [Handler.receive_of_hears hhears, hdecode]
    rfl
  exact receive_of_ok hok

/-- **A frame is delivered exactly, or nothing has changed.** -/
theorem deliversExactly_receive (s : Subscriber) (link : σ) (frame : String) :
    DeliversExactly s frame (s.receive link frame) := by
  have hdelivered : updates (s.receive link frame).events = [] ∨
      ∃ kind message update, s.handler.Hears s.product frame kind message ∧
        kind.decode message = .ok update ∧
          updates (s.receive link frame).events = [(s.handler.take kind update).2] := by
    have hcase := s.handler.receiveCase s.product frame
    generalize hresult : s.handler.receive s.product frame = result at hcase
    cases hcase with
    | delivered kind message update hhears hdecode =>
      rw [receive_of_ok hresult]
      exact .inr ⟨kind, message, update, hhears, hdecode, rfl⟩
    | refused =>
      rw [receive_of_error hresult]
      exact .inl rfl
    | passedOver =>
      rw [receive_of_ok hresult]
      exact .inl rfl
  constructor
  case once =>
    rcases hdelivered with hnone | ⟨_, _, _, _, _, hone⟩
    · rw [hnone]
      exact Nat.zero_le 1
    · rw [hone]
      exact Nat.le_refl 1
  case delivers_iff =>
    constructor
    · intro hsome
      obtain ⟨kind, message, update, hhears, hdecode, -⟩ := hdelivered.resolve_left hsome
      exact ⟨kind, message, update, hhears, hdecode⟩
    · rintro ⟨kind, message, update, hhears, hdecode⟩
      rw [receive_of_hears hhears hdecode]
      exact List.cons_ne_nil _ _
  case delivered =>
    intro kind message update hhears hdecode
    rw [receive_of_hears hhears hdecode]
    exact ⟨rfl, rfl⟩
  case plain =>
    intro hplain update
    constructor
    · intro hupdate
      obtain ⟨kind, message, written, hhears, hdecode, hone⟩ :=
        hdelivered.resolve_left (List.ne_nil_of_mem hupdate)
      rw [hone, Handler.take_of_plain hplain, List.mem_singleton] at hupdate
      subst hupdate
      exact ⟨kind, message, hhears, hdecode⟩
    · rintro ⟨kind, message, hhears, hdecode⟩
      rw [receive_of_hears hhears hdecode, Handler.take_of_plain hplain]
      exact List.mem_singleton_self update
  case fails_iff =>
    constructor
    · rintro ⟨cause, hfailed⟩
      rw [← Handler.isOk_receive_iff]
      cases hresult : s.handler.receive s.product frame with
      | error => rfl
      | ok =>
        rw [receive_of_ok hresult] at hfailed
        cases hfailed
    · intro hrefuses
      obtain ⟨cause, hcause⟩ := hrefuses.receive
      rw [receive_of_error hcause]
      exact ⟨.json cause, rfl⟩
  case atomic =>
    rintro (hrefuses | hpasses)
    · obtain ⟨cause, hcause⟩ := hrefuses.receive
      rw [receive_of_error hcause]
      exact ⟨rfl, rfl⟩
    · rw [receive_of_ok (Handler.receive_of_passesOver hpasses)]
      exact ⟨rfl, rfl⟩
  case passes =>
    intro hpasses
    rw [receive_of_ok (Handler.receive_of_passesOver hpasses)]

end Subscriber

/-- A connection on which given frames are to be read, one after the other, and that takes every
frame. -/
def Transport.playing : Transport (List String) where
  write frames _ := (.done (), frames)
  read frames _ :=
    match frames with
    | [] => (.unfinished, [])
    | frame :: frames => (.done frame, frames)

namespace Subscriber

/-! ## Many frames of a subscriber -/

/-- On a connection that takes every frame, all topics are asked for. -/
theorem subscribe_playing {topics : List String} (hnodup : topics.Nodup) (s : Subscriber)
    (frames : List String) (hfresh : ∀ x ∈ topics, x ∉ s.held) :
    ∃ held parked, (∀ x, x ∈ held ↔ x ∈ topics ∨ x ∈ s.held) ∧
      subscribe .playing topics s frames = ⟨{ s with held, parked }, frames,
        topics.map fun topic => .sent (.subscribe topic), .done⟩ := by
  induction topics generalizing s with
  | nil => exact ⟨s.held, s.parked, by simp, rfl⟩
  | cons topic topics ih =>
    obtain ⟨hnew, hnodup⟩ := List.nodup_cons.mp hnodup
    have hsend : s.send .playing frames (.subscribe topic) =
        ⟨s.noteSent (.subscribe topic), frames, [.sent (.subscribe topic)], .done⟩ := by
      rw [send, if_neg fun h => by cases h.1]
      rfl
    obtain ⟨held, parked, hmem, hrest⟩ :=
      ih hnodup (s.noteSent (.subscribe topic)) (fresh_noteSent hnew hfresh)
    refine ⟨held, parked, fun x => ?_, ?_⟩
    · rw [hmem, mem_held_noteSent_subscribe, List.mem_cons]
      tauto
    · rw [subscribe, if_neg (hfresh topic List.mem_cons_self), hsend]
      dsimp only
      rw [hrest]
      rfl

/-- A subscriber that holds a topic and has nothing in its mailbox reads. -/
theorem step_of_held {σ : Type} {s : Subscriber} (t : Transport σ) (link : σ)
    (hmailbox : s.mailbox = []) (horphaned : s.orphaned = false) (hheld : s.held ≠ []) :
    s.step t link = s.read t link := by
  have hsubscribed : s.isSubscribed = true := by
    rw [isSubscribed, Bool.not_eq_true', List.isEmpty_eq_false_iff]
    exact hheld
  rw [step, hmailbox, hsubscribed, horphaned]
  rfl

end Subscriber

namespace Feed

/-- What a feed delivers in some steps is what the frames write, up to the first that is refused. -/
theorem updates_steps_playing (m : Manager) {s : Subscriber} (hmailbox : s.mailbox = [])
    (horphaned : s.orphaned = false) (hheld : s.held ≠ []) (frames : List String) (n : Nat) :
    updates ((⟨m, s, some frames⟩ : Feed (List String)).steps .playing n).2 =
      s.handler.shows s.product ((frames.take n).takeWhile fun frame =>
        (s.handler.receive s.product frame).isOk) := by
  induction n generalizing s frames with
  | zero =>
    rw [List.take_zero, List.takeWhile_nil, Handler.shows_nil]
    rfl
  | succ n ih =>
    have hstep := Subscriber.step_of_held .playing frames hmailbox horphaned hheld
    cases frames with
    | nil =>
      have hwaits : (⟨m, s, some []⟩ : Feed (List String)).step .playing =
          (⟨m, s, some []⟩, [], false) := by
        rw [step]
        dsimp only
        rw [hstep]
        rfl
      rw [steps, hwaits, List.take_nil, List.takeWhile_nil, Handler.shows_nil]
      rfl
    | cons frame frames =>
      have hread : s.read .playing (frame :: frames) = s.receive frames frame := rfl
      rw [hread] at hstep
      rw [List.take_succ_cons, List.takeWhile_cons]
      cases hresult : s.handler.receive s.product frame with
      | error cause =>
        rw [Subscriber.receive_of_error hresult] at hstep
        obtain ⟨after, hfails⟩ : ∃ after,
            (⟨m, s, some (frame :: frames)⟩ : Feed (List String)).step .playing =
              (after, [.received frame], false) := by
          rw [step]
          dsimp only
          rw [hstep]
          exact ⟨_, rfl⟩
        rw [steps, hfails]
        exact (Handler.shows_nil _ _).symm
      | ok result =>
        obtain ⟨handler, update⟩ := result
        rw [Subscriber.receive_of_ok hresult] at hstep
        have hgoes : (⟨m, s, some (frame :: frames)⟩ : Feed (List String)).step .playing =
            (⟨m, { s with handler }, some frames⟩,
              .received frame :: (update.map delivered).toList, true) := by
          rw [step]
          dsimp only
          rw [hstep]
        have hsame := Handler.sameButBook_receive hresult
        have hrest := ih (s := { s with handler }) hmailbox horphaned hheld frames
        dsimp only at hrest
        simp only [hsame.isOk_receive_eq] at hrest
        rw [steps, hgoes]
        show updates (.received frame :: (update.map delivered).toList ++ _) = _
        rw [updates_received, hrest]
        show _ = s.handler.shows s.product (frame :: _)
        rw [Handler.shows_cons, hresult]

/-- **What is delivered is what is written.**  Any frame that any subscriber has read is delivered
exactly, or nothing has changed.  So a new feed with a connection on which given frames are to be
read delivers, in its first step and as many more as may be, what those frames write up to the
first that is refused.  And in any run of any feed, on any number of connections, what is delivered
is what the frames write that were received, none lost or delivered twice, and in order. -/
theorem delivery_exact {σ : Type} (t : Transport σ) (feed : Feed σ) (ms : List (FeedMove σ))
    (s : Subscriber) (link : σ) (frame : String) (m : Manager) (config : ConnectionConfig)
    (product : ProductCode) (handler : Handler) (frames : List String) (n : Nat) :
    s.DeliversExactly frame (s.receive link frame) ∧
      updates ((⟨m, .ofHandler product handler config, some frames⟩ :
          Feed (List String)).steps .playing (n + 1)).2 =
        handler.shows product ((frames.take n).takeWhile fun frame =>
          (handler.receive product frame).isOk) ∧
      updates (feed.run t ms).2 =
        feed.subscriber.handler.shows feed.subscriber.product
          (receivedFrames (feed.run t ms).2) := by
  refine ⟨s.deliversExactly_receive link frame, ?_, (handled_run t feed ms).updates_eq_shows⟩
  obtain ⟨held, parked, hheld, hasked⟩ := Subscriber.subscribe_playing
    (handler.topics_nodup product) (.ofHandler product handler config) frames
    fun _ _ => List.not_mem_nil
  have hsome : held ≠ [] := by
    obtain ⟨x, hx⟩ := List.exists_mem_of_ne_nil _ (handler.topics_ne_nil product)
    exact List.ne_nil_of_mem ((hheld x).mpr (.inl hx))
  have hfirst : (⟨m, .ofHandler product handler config, some frames⟩ :
      Feed (List String)).step .playing =
        (⟨m, { Subscriber.ofHandler product handler config with held, parked }, some frames⟩,
          (handler.topics product).map fun topic => .sent (.subscribe topic), true) := by
    have hsubscribes : (Subscriber.ofHandler product handler config).step .playing frames =
        Subscriber.subscribe .playing (handler.topics product) _ frames := rfl
    rw [step]
    dsimp only
    rw [hsubscribes, hasked]
  rw [steps, hfirst]
  show updates (_ ++ _) = _
  rw [updates_append, updates_map_subscribe]
  exact updates_steps_playing m rfl rfl hsome frames n

end Feed
end ExchangeClient
