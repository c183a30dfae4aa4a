import ExchangeClient.Feed.Traffic

/-!
# What calls bring about

A call of a feed client takes effect at one moment: a start when its stream is entered in the
registry, and a stop when its stream is taken out.  A start may look at the registry before and
be turned away, and a stop that has taken effect has still to bring its feed to the end.

An effect is read off what becomes of the call, not off the registry: a start has taken effect
when it returns without an error, and a stop when it goes on to close a feed.  That the effects
fit the registry is something to prove.
-/

namespace ExchangeClient

/-- What a call has brought about in the registry. -/
structure CallEffect where
  /-- The number of the call. -/
  call : Nat
  key : ChannelKey
  /-- Whether a stream was entered; otherwise one was taken out. -/
  isStart : Bool
  deriving Repr, DecidableEq

/-- The starts and stops of one stream among some effects, in order: true for each start and
false for each stop. -/
def CallEffect.turns (key : ChannelKey) (effects : List CallEffect) : List Bool :=
  (effects.filter fun e => e.key = key).map (·.isStart)

namespace ClientCall

/-- The key that a start looks for when it comes to the registry next.  Seeds are for boards
only. -/
def startKey? : ClientCall → Option ChannelKey
  | .starting spec => some spec.key
  | .seeded spec _ => some ⟨spec.productCode, .board⟩
  | .fetching _ | .stopping _ | .closing _ | .returned _ => none

/-- The key under which a start that has its handler enters its stream. -/
def launchKey? : ClientCall → Option ChannelKey
  | .starting spec => if spec.isMerged then none else some spec.key
  | .seeded spec _ => some ⟨spec.productCode, .board⟩
  | .fetching _ | .stopping _ | .closing _ | .returned _ => none

/-- Whether a call has taken effect: it has returned without an error, or it is a stop that is
bringing a feed to its end. -/
def hasTakenEffect : ClientCall → Bool
  | .closing _ | .returned (.ok ()) => true
  | .starting _ | .fetching _ | .seeded _ _ | .stopping _ | .returned (.error _) => false

/-- The key for which a call takes effect by becoming another, and whether it is a start. -/
def effect? : ClientCall → ClientCall → Option (ChannelKey × Bool)
  | .starting spec, .returned (.ok ()) => some (spec.key, true)
  | .seeded spec _, .returned (.ok ()) => some (⟨spec.productCode, .board⟩, true)
  | .stopping key, .closing _ => some (key, false)
  | _, _ => none

end ClientCall

namespace Traffic

variable {σ : Type}

/-- Whether the `i`-th call has taken effect. -/
def hasTakenEffect (tr : Traffic σ) (i : Nat) : Bool :=
  tr.calls[i]?.any ClientCall.hasTakenEffect

/-- Whether a move belongs to the `i`-th call: it makes the call, lets it do what it does next,
or answers its request. -/
def IsMoveOf (tr : Traffic σ) (i : Nat) : TrafficMove σ → Prop
  | .startCalled _ | .stopCalled _ => i = tr.calls.length
  | .advanced j | .answered j _ => i = j
  | .worked _ _ => False

/-- What the `i`-th call has brought about between two moments. -/
def effectOf (before after : Traffic σ) (i : Nat) : Option CallEffect :=
  match before.calls[i]?, after.calls[i]? with
  | some was, some is => (was.effect? is).map fun (key, isStart) => ⟨i, key, isStart⟩
  | _, _ => none

/-- What a move brings about.  Only a call that does what it does next brings about anything. -/
def effect (tr : Traffic σ) : TrafficMove σ → Option CallEffect
  | .advanced i => tr.effectOf (tr.advance i) i
  | .startCalled _ | .stopCalled _ | .answered _ _ | .worked _ _ => none

/-- What some moves bring about, in order. -/
def effects (t : Transport σ) (tr : Traffic σ) : List (TrafficMove σ) → List CallEffect
  | [] => []
  | m :: ms => (tr.effect m).toList ++ (tr.move t m).effects t ms

@[simp] theorem effects_nil (t : Transport σ) (tr : Traffic σ) : tr.effects t [] = [] := rfl

@[simp] theorem effects_cons (t : Transport σ) (tr : Traffic σ) (m : TrafficMove σ)
    (ms : List (TrafficMove σ)) :
    tr.effects t (m :: ms) = (tr.effect m).toList ++ (tr.move t m).effects t ms := rfl

theorem effects_append (t : Transport σ) (tr : Traffic σ) (ms more : List (TrafficMove σ)) :
    tr.effects t (ms ++ more) = tr.effects t ms ++ (tr.run t ms).effects t more := by
  induction ms generalizing tr with
  | nil => rfl
  | cons m ms ih =>
    rw [List.cons_append, effects_cons, effects_cons, ih, run_cons, List.append_assoc]

end Traffic
end ExchangeClient
