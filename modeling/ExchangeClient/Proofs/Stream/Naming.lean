import ExchangeClient.Proofs.Stream.Receiving

/-!
# Which streams share a topic

A topic is a kind's own words followed by a product code, and product codes are any text at all.
So the question whether a topic names one stream is a question about the words: of two kinds whose
words part at some letter no topics can meet, whatever follows.  The words of tickers, executions
and boards part at the same letter (`kinds_of_topic_eq`).  Those of snapshots go on where those of
boards end, and there a product code can make up for the difference: the board of `snapshot_X` and
the snapshots of `X` have one topic.  `topic_eq_iff` says that nothing else coincides.

A handler knows its topics by their text alone, and it looks at every message under one of them
(`accept_eq_self_iff`).  That is where the overlap tells.  Handlers with one topic cannot mistake
another product of their kind for their own.  A merged board can, for it listens to snapshots
besides: what is published as the board of `snapshot_X` it reads as a snapshot of `X`.
-/

namespace ExchangeClient

namespace StreamKind

/-- The words of snapshots continue those of boards. -/
theorem topicStem_boardSnapshot : boardSnapshot.topicStem = board.topicStem ++ "snapshot_" := by
  decide

/-- The letter of a topic at which the words of the kinds part. -/
theorem getElem?_topic (kind : StreamKind) (product : ProductCode) :
    (kind.topic product).toList[10]? = kind.topicStem.toList[10]? := by
  rw [topic, String.toList_append, List.getElem?_append_left]
  cases kind <;> decide

/-- Of one kind, every product has a topic of its own. -/
theorem topic_inj {kind : StreamKind} {product other : ProductCode} :
    kind.topic product = kind.topic other ↔ product = other :=
  String.append_right_inj kind.topicStem

theorem topic_board_eq_iff {product other : ProductCode} :
    board.topic other = boardSnapshot.topic product ↔ other = "snapshot_" ++ product := by
  rw [topic, topic, topicStem_boardSnapshot, String.append_assoc, String.append_right_inj]

/-- Topics coincide only within a kind, or between boards and snapshots. -/
theorem kinds_of_topic_eq {kind kind' : StreamKind} {product product' : ProductCode}
    (h : kind.topic product = kind'.topic product') :
    kind = kind' ∨ kind = .board ∧ kind' = .boardSnapshot ∨
      kind = .boardSnapshot ∧ kind' = .board := by
  have hletter : kind.topicStem.toList[10]? = kind'.topicStem.toList[10]? := by
    rw [← getElem?_topic kind product, h, getElem?_topic]
  revert hletter
  cases kind <;> cases kind' <;> decide

end StreamKind

namespace ChannelKey

/-- Whether one stream is the board of a product, and the other the snapshots of what is left of
the product's code without a `snapshot_` at its front. -/
def Overlaps (a b : ChannelKey) : Prop :=
  ∃ product : ProductCode, a = ⟨"snapshot_" ++ product, .board⟩ ∧ b = ⟨product, .boardSnapshot⟩

theorem overlaps_iff {product product' : ProductCode} {kind kind' : StreamKind} :
    Overlaps ⟨product, kind⟩ ⟨product', kind'⟩ ↔
      kind = .board ∧ kind' = .boardSnapshot ∧ product = "snapshot_" ++ product' := by
  constructor
  · rintro ⟨_, ha, hb⟩
    cases ha
    cases hb
    exact ⟨rfl, rfl, rfl⟩
  · rintro ⟨rfl, rfl, rfl⟩
    exact ⟨product', rfl, rfl⟩

theorem Overlaps.topic_eq {a b : ChannelKey} (h : a.Overlaps b) : a.topic = b.topic := by
  obtain ⟨product, rfl, rfl⟩ := h
  exact StreamKind.topic_board_eq_iff.mpr rfl

/-- **Two streams share a topic only if they overlap.** -/
theorem topic_eq_iff {a b : ChannelKey} :
    a.topic = b.topic ↔ a = b ∨ a.Overlaps b ∨ b.Overlaps a := by
  constructor
  · intro h
    obtain ⟨product, kind⟩ := a
    obtain ⟨product', kind'⟩ := b
    obtain rfl | ⟨rfl, rfl⟩ | ⟨rfl, rfl⟩ := StreamKind.kinds_of_topic_eq h
    · obtain rfl : product = product' := StreamKind.topic_inj.mp h
      exact .inl rfl
    · exact .inr (.inl (overlaps_iff.mpr ⟨rfl, rfl, StreamKind.topic_board_eq_iff.mp h⟩))
    · exact .inr (.inr (overlaps_iff.mpr ⟨rfl, rfl, StreamKind.topic_board_eq_iff.mp h.symm⟩))
  · rintro (rfl | hoverlaps | hoverlaps)
    · rfl
    · exact hoverlaps.topic_eq
    · exact hoverlaps.topic_eq.symm

end ChannelKey

namespace Handler

variable {h : Handler} {product : ProductCode}

/-- A handler passes over exactly what is published under foreign topics. -/
theorem accept_eq_self_iff {n : Notification} :
    h.accept product n = .ok (h, none) ↔ n.channel ∉ h.topics product := by
  refine ⟨fun hpassed hown => ?_, accept_foreign⟩
  rw [topics_eq_map_kinds] at hown
  obtain ⟨kind, hmem, hkind⟩ := List.mem_map.mp hown
  rw [accept_own hmem hkind.symm] at hpassed
  cases hdecode : kind.decode n.message with
  | error cause =>
    rw [hdecode] at hpassed
    cases hpassed
  | ok update =>
    rw [hdecode] at hpassed
    have hdelivered : some (h.take kind update).2 = none :=
      congrArg Prod.snd (Except.ok.inj hpassed)
    cases hdelivered

/-- Under which topics of a kind that it reads a handler finds what it takes for its own. -/
theorem topic_mem_topics_iff {kind : StreamKind} (hmem : kind ∈ h.kinds) (other : ProductCode) :
    kind.topic other ∈ h.topics product ↔
      other = product ∨ (∃ book, h = .merged book) ∧
        (ChannelKey.Overlaps ⟨other, kind⟩ ⟨product, .boardSnapshot⟩ ∨
          ChannelKey.Overlaps ⟨product, .board⟩ ⟨other, kind⟩) := by
  cases h with
  | merged book =>
    obtain rfl | rfl : kind = .board ∨ kind = .boardSnapshot := by simpa [kinds] using hmem
    · simp [topics, StreamKind.topic_inj, StreamKind.topic_board_eq_iff, ChannelKey.overlaps_iff]
    · rw [topics, List.mem_pair, eq_comm, StreamKind.topic_inj, StreamKind.topic_board_eq_iff]
      simp [ChannelKey.overlaps_iff, or_comm]
  | ticker | boardSnapshot | board | executions =>
    obtain rfl := List.mem_singleton.mp hmem
    simp [topics, StreamKind.topic_inj]

/-- **Topics tell streams apart, up to one overlap.**

* Two streams share a topic only if they are the same, or one is the board of `snapshot_X` and the
  other the snapshots of `X`.
* The two topics of a merged board differ.
* Of a kind that it reads, a handler takes the topics of no other product for its own, unless it
  is a merged board and the stream in question overlaps with one of its own: the board of
  `snapshot_X` with the snapshots that a merged board of `X` reads, or the snapshots of `X` with
  the board that a merged board of `snapshot_X` reads. -/
theorem topics_tell_streams_apart :
    (∀ a b : ChannelKey, a.topic = b.topic ↔ a = b ∨ a.Overlaps b ∨ b.Overlaps a) ∧
    (∀ (book : OrderBook) (product : ProductCode), ∃ first second,
      (merged book).topics product = [first, second] ∧ first ≠ second) ∧
    ∀ (h : Handler) (product other : ProductCode) (kind : StreamKind) (message : Json),
      kind ∈ h.kinds →
      (h.accept product ⟨kind.topic other, message⟩ ≠ .ok (h, none) ↔
        other = product ∨ (∃ book, h = .merged book) ∧
          (ChannelKey.Overlaps ⟨other, kind⟩ ⟨product, .boardSnapshot⟩ ∨
            ChannelKey.Overlaps ⟨product, .board⟩ ⟨other, kind⟩)) := by
  refine ⟨fun a b => ChannelKey.topic_eq_iff, fun book product => ?_,
    fun h product other kind message hmem => ?_⟩
  · exact ⟨_, _, rfl, boardTopic_ne_snapshotTopic product⟩
  · rw [ne_eq, accept_eq_self_iff, not_not]
    exact topic_mem_topics_iff hmem other

/-- A merged board passes over the snapshots of other products, without looking at them. -/
theorem merged_passes_over_other_snapshots :
    StreamKind.boardSnapshot ∈ (merged .empty).kinds ∧
      (merged .empty).accept "BTC_JPY" ⟨StreamKind.boardSnapshot.topic "ETH_JPY", .null⟩ =
        .ok (merged .empty, none) := by
  have hmem : StreamKind.boardSnapshot ∈ (merged .empty).kinds := by decide
  obtain ⟨-, -, hown⟩ := topics_tell_streams_apart
  refine ⟨hmem, not_not.mp fun htaken => ?_⟩
  rcases (hown _ "BTC_JPY" "ETH_JPY" _ .null hmem).mp htaken with
    hsame | ⟨-, hoverlaps | hoverlaps⟩
  · exact absurd hsame (by decide)
  · exact absurd (ChannelKey.overlaps_iff.mp hoverlaps).1 (by decide)
  · exact absurd (ChannelKey.overlaps_iff.mp hoverlaps).2.2 (by decide)

/-- A merged board is a stream of the board kind, and yet it does not pass over every board of
another product: what is published as the board of `snapshot_BTC_JPY` replaces the book of
`BTC_JPY`. -/
theorem merged_takes_other_board :
    let h : Handler := .merged .empty
    let message : Json := .object [("mid_price", .ofInt 100)]
    let after := OrderBook.empty.replace ⟨⟨false, 100, 0, by decide, by decide⟩, [], []⟩
    h.kind = .board ∧ "snapshot_BTC_JPY" ≠ "BTC_JPY" ∧
      h.accept "BTC_JPY" ⟨h.kind.topic "snapshot_BTC_JPY", message⟩ =
        .ok (.merged after, some (.board after.view)) := by
  refine ⟨rfl, by decide, ?_⟩
  rfl

end Handler
end ExchangeClient
