import ExchangeClient.Proofs.Json.Printing
import ExchangeClient.Proofs.Schema.Reading
import ExchangeClient.Proofs.Stream.Handling

/-!
# Frames that carry no message

The exchange sends more than messages: answers to subscriptions, reports of errors, and
whatever it may send some day.  Such a frame names another method than that of messages, or
none, and one would have it passed over whatever else it holds.

The envelope of a frame is decoded as a whole, though, before its method is looked at.  So
`params`, if it is there and not null, must have the form of a notification in every frame:
`Notification.IsParams`.  `skipped_iff` says that this is all that matters.  A frame that names
no message is skipped if it is so, and otherwise it is refused and takes the connection down;
its other members count for nothing, whatever stands in them.

The frame is taken as it is written, since an object with a repeated key is refused where
the last of the two would be read.
-/

namespace ExchangeClient

open Json (Mismatch writtenOfText)

/-- A value that can be decoded as the parameters of a notification: an object with one
channel, which is a string, and one message, or a list of the two. -/
inductive Notification.IsParams : Json → Prop
  | object {members : List (String × Json)} {channel : String} {message : Json}
    (hchannel : valuesOf "channel" members = [.string channel])
    (hmessage : valuesOf "message" members = [message]) : IsParams (.object members)
  | list (channel : String) (message : Json) : IsParams (.array [.string channel, message])

theorem Shape.decode_text_eq_ok_iff {j : Json} {s : String} :
    Shape.text.decode j = .ok s ↔ j = .string s := by
  cases j with
  | string s' =>
    rw [Shape.decode]
    simp
  | null | bool | number | array | object =>
    simp [Shape.decode]

theorem Notification.isParams_iff {j : Json} :
    IsParams j ↔ ∃ v, (Wire.shape Notification).decode j = .ok v := by
  constructor
  · rintro (⟨hchannel, hmessage⟩ | ⟨channel, message⟩)
    · next members channel message =>
      refine ⟨(channel, message, ()), (Shape.decode_object_iff rfl _ _ _).mpr ⟨?_, ?_, trivial⟩⟩
      · rw [hchannel]
        exact .present rfl
      · rw [valuesOf_withoutKey (by decide), hmessage]
        exact .present rfl
    · exact ⟨(channel, message, ()), rfl⟩
  · rintro ⟨⟨channel, message, _⟩, hv⟩
    cases j with
    | object ms =>
      obtain ⟨hchannel, hmessage, -⟩ := (Shape.decode_object_iff rfl _ _ _).mp hv
      rw [valuesOf_withoutKey (by decide)] at hmessage
      have hchannel' : valuesOf "channel" ms = [.string channel] := by
        generalize valuesOf "channel" ms = js at hchannel
        cases hchannel with
        | absent hlack => cases hlack
        | present hj => rw [Shape.decode_text_eq_ok_iff.mp hj]
      have hmessage' : valuesOf "message" ms = [message] := by
        generalize valuesOf "message" ms = js at hmessage
        cases hmessage with
        | absent hlack => cases hlack
        | present hj =>
          cases hj
          rfl
      exact .object hchannel' hmessage'
    | array js =>
      match js with
      | [] => cases hv
      | [.string channel, message] => exact .list channel message
      | [j] => cases j <;> cases hv
      | [.null, _] | [.bool _, _] | [.number _, _] | [.array _, _] | [.object _, _] => cases hv
      | j :: _ :: _ :: _ => cases j <;> cases hv
    | null | bool | number | string => cases hv

/-- The members of an envelope that names no message: its method is absent, null or the name
of something else. -/
def Envelope.NamesNoMessage (members : List (String × Json)) : Prop :=
  ∀ method, members.lookup "method" = some method →
    method = .null ∨ ∃ name, method = .string name ∧ name ≠ Notification.method

/-- The parameters of an envelope are absent, null or those of a notification. -/
def Envelope.HasSoundParams (members : List (String × Json)) : Prop :=
  ∀ params, members.lookup "params" = some params →
    params = .null ∨ Notification.IsParams params

/-- What an optional field takes from the one member with its key, if there is one. -/
theorem Shape.takesOne_optional_iff {inner : Shape} {j? : Option Json}
    {v : Option inner.Value} :
    (Shape.optional inner).TakesOne .defaulted j?.toList v ↔
      (∀ j, j? = some j → j = .null) ∧ v = none ∨
      ∃ j w, j? = some j ∧ j ≠ .null ∧ inner.decode j = .ok w ∧ v = some w := by
  cases j? with
  | none =>
    rw [Option.toList_none, Shape.takesOne_nil]
    show true = true ∧ some none = some v ↔ _
    simp [eq_comm]
  | some j =>
    rw [Option.toList_some, Shape.takesOne_singleton]
    by_cases hj : j = .null
    · subst hj
      show Except.ok none = Except.ok v ↔ _
      simp [eq_comm]
    · rw [Shape.decode_optional hj]
      constructor
      · intro h
        obtain ⟨w, hw, hv⟩ := Json.ok_of_map h
        exact .inr ⟨j, w, rfl, hj, hw, hv.symm⟩
      · rintro (⟨hnull, _⟩ | ⟨_, w, hsome, _, hw, rfl⟩)
        · exact absurd (hnull j rfl) hj
        · cases hsome
          rw [hw]
          rfl

namespace Envelope

variable {text : String} {members : List (String × Json)}

/-- The two fields of an envelope take their members each for itself. -/
theorem decode_eq_ok_iff (hkeys : (members.map Prod.fst).Nodup) {method : Option String}
    {params : Option (Wire.shape Notification).Value} :
    (Wire.shape Envelope).decode (.object members) = .ok (method, params, ()) ↔
      (Shape.optional .text).TakesOne .defaulted (members.lookup "method").toList method ∧
      (Shape.optional (Wire.shape Notification)).TakesOne .defaulted
        (members.lookup "params").toList params := by
  have hparams : valuesOf "params" (withoutKey "method" members) =
      (members.lookup "params").toList := by
    rw [valuesOf_withoutKey (by decide), valuesOf_of_nodup hkeys]
  rw [← valuesOf_of_nodup hkeys, ← hparams]
  refine (Shape.decode_object_iff rfl _ _ _).trans ?_
  show _ ∧ _ ∧ True ↔ _
  rw [and_true]

/-- Such a frame has a method, and it is not that of messages. -/
theorem NamesNoMessage.exists_method (h : NamesNoMessage members) :
    ∃ method, method ≠ some Notification.method ∧
      (Shape.optional .text).TakesOne .defaulted (members.lookup "method").toList method := by
  cases hlookup : members.lookup "method" with
  | none => exact ⟨none, nofun, Shape.takesOne_optional_iff.mpr (.inl ⟨nofun, rfl⟩)⟩
  | some method =>
    rcases h method hlookup with rfl | ⟨name, rfl, hname⟩
    · exact ⟨none, nofun, Shape.takesOne_singleton.mpr rfl⟩
    · exact ⟨some name, fun hsome => hname (Option.some.inj hsome),
        Shape.takesOne_singleton.mpr rfl⟩

theorem hasSoundParams_iff : HasSoundParams members ↔
    ∃ params, (Shape.optional (Wire.shape Notification)).TakesOne .defaulted
      (members.lookup "params").toList params := by
  simp only [Shape.takesOne_optional_iff]
  constructor
  · intro hsound
    cases hlookup : members.lookup "params" with
    | none => exact ⟨none, .inl ⟨nofun, rfl⟩⟩
    | some j =>
      by_cases hj : j = .null
      · subst hj
        exact ⟨none, .inl ⟨fun _ h => (Option.some.inj h).symm, rfl⟩⟩
      · obtain ⟨v, hv⟩ := Notification.isParams_iff.mp ((hsound j hlookup).resolve_left hj)
        exact ⟨some v, .inr ⟨j, v, rfl, hj, hv, rfl⟩⟩
  · rintro ⟨params, ⟨hnull, _⟩ | ⟨j, v, hj, _, hv, _⟩⟩ params' hparams
    · exact .inl (hnull params' hparams)
    · rw [hj] at hparams
      cases hparams
      exact .inr (Notification.isParams_iff.mpr ⟨v, hv⟩)

/-- **What becomes of a frame that names no message.**  It is skipped if its parameters are
sound and refused otherwise. -/
theorem ofFrame_of_namesNoMessage (hwritten : writtenOfText text = .ok (.object members))
    (hkeys : (members.map Prod.fst).Nodup) (hmethod : NamesNoMessage members) :
    (HasSoundParams members → Notification.ofFrame text = .ok none) ∧
    (¬ HasSoundParams members → ∃ cause, Notification.ofFrame text = .error cause) := by
  obtain ⟨method, hother, htakes⟩ := hmethod.exists_method
  obtain ⟨hok, herror⟩ := (Wire.shape Envelope).ofText_of_written rfl hwritten
  constructor
  · intro hsound
    obtain ⟨params, hparams⟩ := hasSoundParams_iff.mp hsound
    have hread := hok (method, params, ()) ((decode_eq_ok_iff hkeys).mpr ⟨htakes, hparams⟩)
    have hsorted : (Shape.optional .text).sorted method = method := by
      cases method <;> rfl
    rw [Notification.ofFrame, Wire.ofText, hread]
    show Except.ok (notification? ⟨(Shape.optional .text).sorted method, _⟩) = _
    rw [hsorted, notification?, if_neg hother]
  · intro hsound
    cases hdecode : (Wire.shape Envelope).decode (.object members) with
    | error cause =>
      obtain ⟨e, he⟩ := herror cause hdecode
      refine ⟨e, ?_⟩
      rw [Notification.ofFrame, Wire.ofText, he]
      rfl
    | ok v =>
      obtain ⟨method', params, _⟩ := v
      exact absurd (hasSoundParams_iff.mpr ⟨params, ((decode_eq_ok_iff hkeys).mp hdecode).2⟩) hsound

end Envelope

namespace Subscriber

variable {σ : Type} {t : Transport σ} {s : Subscriber} {link : σ} {text : String}

/-- A read that ends with a frame has handed it to the handler. -/
theorem read_of_received (h : .received text ∈ (s.read t link).events) :
    ∃ link', t.read link s.readTimeout = (.done text, link') ∧
      s.read t link = s.receive link' text := by
  have hframe (link' : σ) (frame : String) :
      .received text ∈ (s.receive link' frame).events → text = frame := by
    unfold receive
    split
    · next update _ =>
      cases update <;> simp
    · simp
  unfold read at h ⊢
  split at h
  · next frame link' hread =>
    obtain rfl := hframe link' frame h
    exact ⟨link', hread, rfl⟩
  · simp at h
  · cases h

/-- A step that reads a frame hands it to the handler and does nothing else. -/
theorem step_of_received (h : .received text ∈ (s.step t link).events) :
    ∃ link', t.read link s.readTimeout = (.done text, link') ∧
      s.step t link = s.receive link' text := by
  have hquiet {turn : Turn σ} (hkeeps : Keeps s turn) : .received text ∉ turn.events :=
    fun hmem => hkeeps.quiet _ hmem
  have hcase := stepCase t s link
  generalize s.step t link = turn at h hcase ⊢
  cases hcase with
  | control frame rest => exact absurd h (hquiet (keeps_sendNext t s link frame rest))
  | subscribing => exact absurd h (hquiet (keeps_subscribe t s.topics s link))
  | noticing | idling => cases h
  | reading => exact read_of_received h

/-- **Frames that name no message are skipped exactly if their parameters are sound.**  A step
that reads a frame that is skipped delivers nothing and leaves the subscriber as it is, with
its topics, its book and its connection; a step that reads one that is refused fails, and no
topic is held after it.  The other members of the frame are without influence. -/
theorem skipped_iff {members : List (String × Json)}
    (hwritten : writtenOfText text = .ok (.object members))
    (hkeys : (members.map Prod.fst).Nodup) (hmethod : Envelope.NamesNoMessage members) :
    (Notification.ofFrame text = .ok none ↔ Envelope.HasSoundParams members) ∧
    ∀ {σ : Type} (t : Transport σ) (s : Subscriber) (link : σ),
      .received text ∈ (s.step t link).events →
        ∃ link', t.read link s.readTimeout = (.done text, link') ∧
          (Envelope.HasSoundParams members →
            s.step t link = ⟨s, link', [.received text], .done⟩) ∧
          (¬ Envelope.HasSoundParams members → ∃ cause,
            Notification.ofFrame text = .error cause ∧
            s.step t link = ⟨s.disconnected, link', [.received text], .failed (.json cause)⟩) := by
  obtain ⟨hskipped, hrefused⟩ := Envelope.ofFrame_of_namesNoMessage hwritten hkeys hmethod
  refine ⟨⟨fun hnone => ?_, hskipped⟩, fun t s link hreceived => ?_⟩
  · refine Classical.byContradiction fun hsound => ?_
    obtain ⟨cause, hcause⟩ := hrefused hsound
    rw [hcause] at hnone
    cases hnone
  · obtain ⟨link', hread, hstep⟩ := step_of_received hreceived
    refine ⟨link', hread, fun hsound => ?_, fun hsound => ?_⟩
    · rw [hstep, receive, Handler.receive_of_ofFrame_none (hskipped hsound)]
      rfl
    · obtain ⟨cause, hcause⟩ := hrefused hsound
      have hreceive : s.handler.receive s.product text = .error cause := by
        rw [Handler.receive, hcause]
        rfl
      refine ⟨cause, hcause, ?_⟩
      rw [hstep, receive, hreceive]

/-- A connection on which one frame is read over and over. -/
def repeating (frame : String) : Transport Unit where
  write _ _ := (.done (), ())
  read _ _ := (.done frame, ())

/-- A subscriber of the ticker that holds its topic. -/
def listener : Subscriber :=
  { ofHandler "BTC_JPY" .ticker .usual with held := ["lightning_ticker_BTC_JPY"] }

theorem step_listener (frame : String) :
    listener.step (repeating frame) () = listener.receive () frame := rfl

theorem received_mem_receive (s : Subscriber) (link : σ) (frame : String) :
    .received frame ∈ (s.receive link frame).events := by
  unfold receive
  split <;> exact List.mem_cons_self

/-- The answer to a subscription. -/
def answerFrame : String := "\x7b\"jsonrpc\":\"2.0\",\"id\":1,\"result\":true\x7d"

/-- What stands in the answer. -/
def answerMembers : List (String × Json) :=
  [("jsonrpc", .string "2.0"), ("id", .number (.whole 1)), ("result", .bool true)]

/-- The answer is skipped, and the topic stays held. -/
theorem answer_skipped :
    Notification.ofFrame answerFrame = .ok none ∧
      listener.step (repeating answerFrame) () =
        ⟨listener, (), [.received answerFrame], .done⟩ := by
  have hwritten : writtenOfText answerFrame = .ok (.object answerMembers) := by
    rw [show answerFrame = Json.toText (.object answerMembers) by decide +kernel]
    exact Json.writtenOfText_toText
      (by simp [answerMembers, Json.FitsIn, Json.maxDepth, Json.IsWhole])
  have hsound : Envelope.HasSoundParams answerMembers := by
    intro params hparams
    cases hparams
  have hmethod : Envelope.NamesNoMessage answerMembers := by
    intro method hmethod
    cases hmethod
  obtain ⟨hframe, hstep⟩ := skipped_iff hwritten (by decide) hmethod
  obtain ⟨_, _, hdone, _⟩ := hstep (repeating answerFrame) listener () <| by
    rw [step_listener]
    exact received_mem_receive listener () answerFrame
  exact ⟨hframe.mpr hsound, hdone hsound⟩

/-- A call of a method that the exchange may have some day, with an object of no members for
its parameters. -/
def pingFrame : String :=
  "\x7b\"jsonrpc\":\"2.0\",\"id\":1,\"method\":\"ping\",\"params\":\x7b\x7d\x7d"

/-- Whether a text is refused because a field is missing. -/
def misses {α : Type} (field : String) : Except Json.DecodeError α → Bool
  | .error (.mismatch (.missingField name)) => name = field
  | _ => false

theorem eq_error_of_misses {α : Type} {field : String} {read : Except Json.DecodeError α}
    (h : misses field read = true) : read = .error (.mismatch (.missingField field)) := by
  unfold misses at h
  split at h
  · rw [of_decide_eq_true h]
  · cases h

/-- The call is no message, and still it takes the connection down. -/
theorem ping_refused :
    writtenOfText pingFrame = .ok (.object [("jsonrpc", .string "2.0"),
      ("id", .number (.whole 1)), ("method", .string "ping"), ("params", .object [])]) ∧
    "ping" ≠ Notification.method ∧
    Notification.ofFrame pingFrame = .error (.mismatch (.missingField "channel")) ∧
    listener.step (repeating pingFrame) () = ⟨listener.disconnected, (), [.received pingFrame],
      .failed (.json (.mismatch (.missingField "channel")))⟩ := by
  have hwritten : writtenOfText pingFrame = .ok (.object [("jsonrpc", .string "2.0"),
      ("id", .number (.whole 1)), ("method", .string "ping"), ("params", .object [])]) := by
    rw [show pingFrame = Json.toText (.object [("jsonrpc", .string "2.0"),
      ("id", .number (.whole 1)), ("method", .string "ping"), ("params", .object [])])
      by decide +kernel]
    exact Json.writtenOfText_toText (by simp [Json.FitsIn, Json.maxDepth, Json.IsWhole])
  have hframe : Notification.ofFrame pingFrame = .error (.mismatch (.missingField "channel")) :=
    eq_error_of_misses (by decide +kernel)
  have hreceive : listener.handler.receive listener.product pingFrame =
      .error (.mismatch (.missingField "channel")) := by
    rw [Handler.receive, hframe]
    rfl
  refine ⟨hwritten, by decide, hframe, ?_⟩
  rw [step_listener, receive, hreceive]

end Subscriber
end ExchangeClient
