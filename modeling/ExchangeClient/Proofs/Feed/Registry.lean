import ExchangeClient.Feed.Client

/-!
# What is found in the registry

A stream that was entered is found under its key, where nothing was found before; a stream
that was taken out was found under its key before.  Under every other key the same is found
before and after.
-/

namespace ExchangeClient
namespace FeedClient

variable {α : Type} {c c' : FeedClient α} {key : ChannelKey} {a : α}

/-- A stream is entered only under a key that is free, and is then found there. -/
theorem find?_enter {make : Except ClientError α} (h : c.enter key make = .ok c') :
    ∃ a, make = .ok a ∧ c.find? key = none ∧ c'.find? key = some a ∧
      c'.config = c.config ∧ ∀ other, other ≠ key → c'.find? other = c.find? other := by
  unfold enter at h
  split at h
  · cases h
  · next hfree =>
    have hnone : c.find? key = none := Option.not_isSome_iff_eq_none.mp hfree
    cases hmake : make with
    | error cause =>
      rw [hmake] at h
      cases h
    | ok a =>
      rw [hmake] at h
      have hafter := Except.ok.inj h
      subst hafter
      refine ⟨a, rfl, hnone, ?_, rfl, fun other hne => ?_⟩
      · show (c.streams ++ [(key, a)]).lookup key = some a
        rw [List.lookup_append, show c.streams.lookup key = none from hnone,
          List.lookup_cons_self]
        rfl
      · show (c.streams ++ [(key, a)]).lookup other = c.streams.lookup other
        rw [List.lookup_append, List.lookup_cons, beq_false_of_ne hne, List.lookup_nil,
          Option.or_none]

theorem lookup_filter_ne (streams : List (ChannelKey × α)) {key other : ChannelKey}
    (hne : other ≠ key) :
    (streams.filter fun entry => entry.1 ≠ key).lookup other = streams.lookup other := by
  induction streams with
  | nil => rfl
  | cons entry streams ih =>
    obtain ⟨k, a⟩ := entry
    by_cases hk : k = key
    · subst hk
      rw [List.filter_cons_of_neg (by simp), List.lookup_cons, beq_false_of_ne hne]
      exact ih
    · rw [List.filter_cons_of_pos (by simpa using hk), List.lookup_cons, List.lookup_cons, ih]

/-- The stream that is taken out is the one that was found under its key. -/
theorem find?_take (h : c.take key = .ok (a, c')) :
    c.find? key = some a ∧ c'.config = c.config ∧
      ∀ other, other ≠ key → c'.find? other = c.find? other := by
  unfold take at h
  split at h
  · next stream hfind =>
    obtain ⟨rfl, rfl⟩ := Prod.mk.inj (Except.ok.inj h)
    exact ⟨hfind, rfl, fun other hne => lookup_filter_ne c.streams hne⟩
  · cases h

end FeedClient
end ExchangeClient
