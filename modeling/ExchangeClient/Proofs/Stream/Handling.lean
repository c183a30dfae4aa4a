import ExchangeClient.Proofs.Stream.Cases

/-!
# What reaches the handler

`Handled product h events h'` says that in the course of some events every frame that was
received was handed to the handler, in order and once, that what the handler made of it was
delivered at once, and that nothing else was delivered; the handler was `h` before and is
`h'` afterwards.  A frame that the handler refuses leaves it as it was.

Everything a subscriber does keeps to this (`handsOn_step`, `handsOn_flush`), whatever the
connection answers: sending does not come near the handler (`Keeps`), and reading takes one
frame at a time.

What a handler reads can change nothing in it but its book; so the topics and the kind of
the stream stay (`Handled.topics_eq`, `Handled.kind_eq`).
-/

namespace ExchangeClient

namespace Handler

/-- A guarded reading succeeds with what was read, or as it does unguarded. -/
theorem ok_of_guarded {ε α β : Type} {p : Prop} [Decidable p] {read : Except ε α}
    {make : α → β} {otherwise : Except ε β} {b : β}
    (h : (if p then do return make (← read) else otherwise) = .ok b) :
    (∃ a, make a = b) ∨ otherwise = .ok b := by
  split at h
  · cases hread : read with
    | error cause =>
      rw [hread] at h
      cases h
    | ok a =>
      rw [hread] at h
      exact Or.inl ⟨a, Except.ok.inj h⟩
  · exact Or.inr h

/-- Whether two handlers are the same but for the books they keep. -/
def SameButBook : Handler → Handler → Prop
  | .merged _, .merged _ => True
  | h, h' => h = h'

variable {product : ProductCode} {h h' : Handler} {update : Option Update}

theorem sameButBook_refl (h : Handler) : h.SameButBook h := by
  cases h <;> trivial

theorem SameButBook.topics_eq (hsame : h.SameButBook h') (product : ProductCode) :
    h'.topics product = h.topics product := by
  cases h <;> cases h' <;> first | rfl | cases hsame

theorem SameButBook.kind_eq (hsame : h.SameButBook h') : h'.kind = h.kind := by
  cases h <;> cases h' <;> first | rfl | cases hsame

theorem sameButBook_accept {n : Notification} (hn : h.accept product n = .ok (h', update)) :
    h.SameButBook h' := by
  cases h with
  | merged book =>
    rcases ok_of_guarded hn with ⟨_, hmade⟩ | hn
    · cases hmade
      trivial
    · rcases ok_of_guarded hn with ⟨_, hmade⟩ | hn
      · cases hmade
        trivial
      · cases hn
        trivial
  | ticker | boardSnapshot | board | executions =>
    rcases ok_of_guarded hn with ⟨_, hmade⟩ | hn
    · cases hmade
      rfl
    · cases hn
      rfl

/-- What a handler reads changes nothing in it but its book. -/
theorem sameButBook_receive {frame : String}
    (hframe : h.receive product frame = .ok (h', update)) : h.SameButBook h' := by
  unfold receive at hframe
  cases hn : Notification.ofFrame frame with
  | error cause =>
    rw [hn] at hframe
    cases hframe
  | ok n? =>
    rw [hn] at hframe
    cases n? with
    | none =>
      cases hframe
      exact sameButBook_refl h
    | some n => exact sameButBook_accept hframe

end Handler

/-- Whether an event is none of the handler's business. -/
def StreamEvent.IsQuiet : StreamEvent → Prop
  | .received _ | .delivered _ => False
  | _ => True

/-- Frames go to the handler and updates come from it, as the events tell. -/
inductive Handled (product : ProductCode) : Handler → List StreamEvent → Handler → Prop
  | nil (h : Handler) : Handled product h [] h
  | quiet {h h' : Handler} {e : StreamEvent} {events : List StreamEvent} (he : e.IsQuiet)
    (hrest : Handled product h events h') : Handled product h (e :: events) h'
  | accepted {h h₁ h' : Handler} {frame : String} {update : Option Update}
    {events : List StreamEvent} (hframe : h.receive product frame = .ok (h₁, update))
    (hrest : Handled product h₁ events h') :
    Handled product h
      (.received frame :: ((update.map StreamEvent.delivered).toList ++ events)) h'
  | refused {h h' : Handler} {frame : String} {cause : Json.DecodeError}
    {events : List StreamEvent} (hframe : h.receive product frame = .error cause)
    (hrest : Handled product h events h') : Handled product h (.received frame :: events) h'

namespace Handled

variable {product : ProductCode} {h h₁ h₂ : Handler} {events more : List StreamEvent}

theorem of_quiet (hquiet : ∀ e ∈ events, e.IsQuiet) : Handled product h events h := by
  induction events with
  | nil => exact nil h
  | cons e events ih =>
    exact quiet (hquiet e List.mem_cons_self)
      (ih fun e' he' => hquiet e' (List.mem_cons_of_mem e he'))

theorem append (hfirst : Handled product h events h₁) (hmore : Handled product h₁ more h₂) :
    Handled product h (events ++ more) h₂ := by
  induction hfirst with
  | nil => exact hmore
  | quiet he _ ih => exact quiet he (ih hmore)
  | accepted hframe _ ih =>
    rw [List.cons_append, List.append_assoc]
    exact accepted hframe (ih hmore)
  | refused hframe _ ih => exact refused hframe (ih hmore)

theorem topics_eq (h : Handled product h₁ events h₂) (p : ProductCode) :
    h₂.topics p = h₁.topics p := by
  induction h with
  | nil => rfl
  | quiet _ _ ih => exact ih
  | accepted hframe _ ih => exact ih.trans ((Handler.sameButBook_receive hframe).topics_eq p)
  | refused _ _ ih => exact ih

theorem kind_eq (h : Handled product h₁ events h₂) : h₂.kind = h₁.kind := by
  induction h with
  | nil => rfl
  | quiet _ _ ih => exact ih
  | accepted hframe _ ih => exact ih.trans (Handler.sameButBook_receive hframe).kind_eq
  | refused _ _ ih => exact ih

end Handled

namespace Subscriber

variable {σ : Type} {t : Transport σ} {s : Subscriber} {link : σ}

/-! ## Sending does not come near the handler -/

/-- A turn that leaves product and handler alone and tells nothing of frames or updates. -/
structure Keeps (s : Subscriber) (turn : Turn σ) : Prop where
  product : turn.subscriber.product = s.product
  handler : turn.subscriber.handler = s.handler
  quiet : ∀ e ∈ turn.events, e.IsQuiet

theorem Keeps.trans {first next : Turn σ} (hfirst : Keeps s first)
    (hnext : Keeps first.subscriber next) :
    Keeps s { next with events := first.events ++ next.events } where
  product := hnext.product.trans hfirst.product
  handler := hnext.handler.trans hfirst.handler
  quiet e he := (List.mem_append.mp he).elim (hfirst.quiet e) (hnext.quiet e)

@[simp] theorem noteSent_product (frame : ControlFrame) :
    (s.noteSent frame).product = s.product := by
  unfold noteSent
  split <;> rfl

@[simp] theorem noteSent_handler (frame : ControlFrame) :
    (s.noteSent frame).handler = s.handler := by
  unfold noteSent
  split <;> rfl

theorem SendCase.keeps {frame : ControlFrame} {turn : Turn σ}
    (h : SendCase t s link frame turn) : Keeps s turn := by
  cases h with
  | dropped => exact ⟨rfl, rfl, by simp [StreamEvent.IsQuiet]⟩
  | sent => exact ⟨noteSent_product frame, noteSent_handler frame, by simp [StreamEvent.IsQuiet]⟩
  | unsent => exact ⟨rfl, rfl, by simp [StreamEvent.IsQuiet]⟩
  | unfinished => exact ⟨rfl, rfl, by simp⟩

theorem keeps_send (t : Transport σ) (s : Subscriber) (link : σ) (frame : ControlFrame) :
    Keeps s (s.send t link frame) :=
  (sendCase t s link frame).keeps

theorem keeps_subscribe (t : Transport σ) (topics : List String) (s : Subscriber) (link : σ) :
    Keeps s (subscribe t topics s link) :=
  subscribe_induction (motive := fun s _ turn => Keeps s turn)
    (fun _ _ => ⟨rfl, rfl, List.forall_mem_nil _⟩)
    (fun _ _ _ _ _ hfirst hnext => hfirst.trans hnext)
    (fun s link topic => keeps_send t s link (.subscribe topic)) topics s link

/-- Taking a frame out of the mailbox and sending it. -/
theorem keeps_sendNext (t : Transport σ) (s : Subscriber) (link : σ) (frame : ControlFrame)
    (rest : List ControlFrame) : Keeps s (s.sendNext t link frame rest) := by
  have hsend := keeps_send t { s with mailbox := rest } link frame
  refine ⟨hsend.product, hsend.handler, fun e he => ?_⟩
  rcases List.mem_cons.mp he with rfl | he
  · trivial
  · exact hsend.quiet e he

theorem keeps_sendAll (t : Transport σ) (frames : List ControlFrame) (s : Subscriber)
    (link : σ) : Keeps s (sendAll t frames s link) :=
  sendAll_induction (motive := fun s _ turn => Keeps s turn)
    (fun _ _ => ⟨rfl, rfl, List.forall_mem_nil _⟩)
    (fun _ _ _ _ _ hfirst hnext => hfirst.trans hnext) (keeps_sendNext t) frames s link

/-! ## Steps hand on what they read -/

/-- A turn that hands what it reads to the handler. -/
structure HandsOn (s : Subscriber) (turn : Turn σ) : Prop where
  product : turn.subscriber.product = s.product
  handled : Handled s.product s.handler turn.events turn.subscriber.handler

theorem Keeps.handsOn {turn : Turn σ} (h : Keeps s turn) : HandsOn s turn := by
  refine ⟨h.product, ?_⟩
  rw [h.handler]
  exact Handled.of_quiet h.quiet

theorem ReadCase.handsOn {turn : Turn σ} (h : ReadCase t s link turn) : HandsOn s turn := by
  cases h with
  | accepted frame link' handler update _ haccept =>
    refine ⟨rfl, ?_⟩
    have hnil : Handled s.product handler [] handler := .nil handler
    simpa using Handled.accepted haccept hnil
  | refused frame link' cause _ hrefuse => exact ⟨rfl, .refused hrefuse (.nil _)⟩
  | unread cause => exact ⟨rfl, .quiet trivial (.nil _)⟩
  | unfinished => exact ⟨rfl, .nil _⟩

theorem StepCase.handsOn {turn : Turn σ} (h : StepCase t s link turn) : HandsOn s turn := by
  cases h with
  | control frame rest => exact (keeps_sendNext t s link frame rest).handsOn
  | subscribing => exact (keeps_subscribe t s.topics s link).handsOn
  | noticing => exact ⟨rfl, .nil _⟩
  | reading => exact (readCase t s link).handsOn
  | idling => exact ⟨rfl, .nil _⟩

theorem HandsOn.topics_eq {turn : Turn σ} (h : HandsOn s turn) :
    turn.subscriber.topics = s.topics := by
  rw [topics, topics, h.product]
  exact h.handled.topics_eq s.product

/-- **A step hands what it reads to the handler.** -/
theorem handsOn_step (t : Transport σ) (s : Subscriber) (link : σ) :
    HandsOn s (s.step t link) :=
  (stepCase t s link).handsOn

theorem handsOn_flush (t : Transport σ) (s : Subscriber) (link : σ) :
    HandsOn s (s.flush t link) :=
  (keeps_sendAll t s.mailbox s link).handsOn

end Subscriber
end ExchangeClient
