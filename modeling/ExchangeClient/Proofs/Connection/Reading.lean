import ExchangeClient.Connection.Reading
import ExchangeClient.Proofs.Text.Utf8

/-!
# Pings and pongs are invisible to reads

A read passes over any number of pings and pongs before it comes to data, and its deadline is set
once.  So what it returns, and when, depends on nothing but what the frames *say*, and when they
say it: `said` leaves out pings and pongs, and a text says the same as the binary frame with its
bytes.

What decides a read is the first thing that is said (`readText_eq_heard`).  This needs the frames to
come in the order of their times.  A ping behind the deadline ends the read as well as a late text
would, and that is right only because everything behind it is late too.

Two courses of frames are `Arrival.Alike` if they can be made equal by putting in and leaving out
pings and pongs, and by writing texts as binary frames.  Alike courses say the same, so they are
read alike: `readText_of_alike`, which also says what decides.
-/

namespace ExchangeClient

open Text (Utf8.encode Utf8.decode Utf8.decode_eq_ok_iff)

/-! ## What a frame says -/

/-- What a frame that is no ping and no pong says to a read. -/
inductive Incoming.Says : Incoming → Except ClientError String → Prop
  | text (frame : String) : Says (.text frame) (.ok frame)
  /-- The bytes are those of a text. -/
  | binary (frame : String) : Says (.binary (Utf8.encode frame.toList)) (.ok frame)
  /-- The bytes are those of no text. -/
  | noText (bytes : List UInt8) (fault : Text.Utf8.Malformed)
    (hbytes : ∀ frame : String, bytes ≠ Utf8.encode frame.toList) :
    Says (.binary bytes) (.error (.webSocket (.binaryFrame fault)))
  | close : Says .close (.error .connectionClosed)
  | ended : Says .ended (.error .connectionClosed)
  | broken (fault : SocketFault) : Says (.broken fault) (.error (.webSocket fault))

/-- Two frames that differ at most in that a text comes as a binary frame with its bytes. -/
inductive Incoming.Recast : Incoming → Incoming → Prop
  | same (frame : Incoming) : Recast frame frame
  | toBinary (frame : String) : Recast (.text frame) (.binary (Utf8.encode frame.toList))
  | toText (frame : String) : Recast (.binary (Utf8.encode frame.toList)) (.text frame)

namespace Incoming

variable {frame other : Incoming} {outcome : Except ClientError String}

/-- The binary frame with the bytes of a text is taken for the text. -/
theorem outcome?_binary_encode (frame : String) :
    (binary (Utf8.encode frame.toList)).outcome? = some (.ok frame) := by
  rw [outcome?, Utf8.decode_eq_ok_iff.mpr rfl]
  dsimp only
  rw [String.ofList_toList]

/-- What a read makes of a frame is what the frame says. -/
theorem says_of_outcome? (h : frame.outcome? = some outcome) : frame.Says outcome := by
  cases frame with
  | text frame =>
    cases h
    exact .text frame
  | binary bytes =>
    rw [outcome?] at h
    split at h
    · next cs hdecode =>
      cases h
      have hbytes : bytes = Utf8.encode (String.ofList cs).toList := by
        rw [String.toList_ofList]
        exact Utf8.decode_eq_ok_iff.mp hdecode
      rw [hbytes]
      exact .binary (String.ofList cs)
    · next fault hdecode =>
      cases h
      refine .noText bytes fault fun frame hbytes => ?_
      rw [Utf8.decode_eq_ok_iff.mpr hbytes] at hdecode
      cases hdecode
  | ping => cases h
  | pong => cases h
  | close =>
    cases h
    exact .close
  | ended =>
    cases h
    exact .ended
  | broken fault =>
    cases h
    exact .broken fault

theorem Recast.outcome?_eq (h : frame.Recast other) : frame.outcome? = other.outcome? := by
  cases h with
  | same => rfl
  | toBinary frame => exact (outcome?_binary_encode frame).symm
  | toText frame => exact outcome?_binary_encode frame

end Incoming

/-! ## Courses of frames -/

/-- Frames in the order of their times. -/
structure FrameCourse where
  arrivals : List Arrival
  inOrder : arrivals.Pairwise fun a b => a.after.nanos ≤ b.after.nanos

/-- Frames that become equal when pings and pongs are put in or left out, and texts are written as
binary frames. -/
inductive Arrival.Alike : List Arrival → List Arrival → Prop
  | nil : Arrival.Alike [] []
  | frame {as bs : List Arrival} (after : Duration) {a b : Incoming} (hrecast : a.Recast b)
    (h : Arrival.Alike as bs) : Arrival.Alike (⟨after, a⟩ :: as) (⟨after, b⟩ :: bs)
  | putIn {as bs : List Arrival} (b : Arrival) (hbeat : b.frame.isBeat = true)
    (h : Arrival.Alike as bs) : Arrival.Alike as (b :: bs)
  | leftOut {as bs : List Arrival} (a : Arrival) (hbeat : a.frame.isBeat = true)
    (h : Arrival.Alike as bs) : Arrival.Alike (a :: as) bs

/-- What some frames say, and when. -/
def said (arrivals : List Arrival) : List (Except ClientError String × Duration) :=
  arrivals.filterMap fun a => a.frame.outcome?.map fun outcome => (outcome, a.after)

theorem said_cons_of_none {a : Arrival} (h : a.frame.outcome? = none) (as : List Arrival) :
    said (a :: as) = said as := by
  rw [said, List.filterMap_cons_none (by rw [h]; rfl)]
  rfl

theorem said_cons_of_some {a : Arrival} {outcome : Except ClientError String}
    (h : a.frame.outcome? = some outcome) (as : List Arrival) :
    said (a :: as) = (outcome, a.after) :: said as := by
  rw [said, List.filterMap_cons_some (by rw [h]; rfl)]
  rfl

theorem Arrival.Alike.said_eq {as bs : List Arrival} (h : Arrival.Alike as bs) :
    said as = said bs := by
  induction h with
  | nil => rfl
  | frame after hrecast h ih =>
    rw [said, said, List.filterMap_cons, List.filterMap_cons, hrecast.outcome?_eq]
    simp only [← said.eq_def, ih]
  | putIn b hbeat h ih => rw [said_cons_of_none (Incoming.outcome?_eq_none.mpr hbeat), ih]
  | leftOut a hbeat h ih => rw [said_cons_of_none (Incoming.outcome?_eq_none.mpr hbeat), ih]

/-- Nothing is said before the first frame has come. -/
theorem after_le_of_mem_said {a : Arrival} {as : List Arrival}
    (hinOrder : ∀ b ∈ as, a.after.nanos ≤ b.after.nanos)
    {entry : Except ClientError String × Duration} (hentry : entry ∈ said (a :: as)) :
    a.after.nanos ≤ entry.2.nanos := by
  obtain ⟨b, hb, hsaid⟩ := List.mem_filterMap.mp hentry
  obtain ⟨outcome, -, rfl⟩ := Option.map_eq_some_iff.mp hsaid
  rcases List.mem_cons.mp hb with rfl | hb
  · exact Nat.le_refl _
  · exact hinOrder b hb

/-! ## Reads -/

/-- What a read returns, when, and what it leaves to later reads, if it hears what is said at some
times. -/
def heard (deadline : Duration) : List (Except ClientError String × Duration) →
    Except ClientError String × Duration × List (Except ClientError String × Duration)
  | (outcome, after) :: later =>
    if after.nanos ≤ deadline.nanos then (outcome, after, later)
    else (.error (.timeout "read" deadline), deadline, (outcome, after) :: later)
  | [] => (.error (.timeout "read" deadline), deadline, [])

theorem heard_of_late {deadline : Duration} {entries : List (Except ClientError String × Duration)}
    (hlate : ∀ entry ∈ entries, deadline.nanos < entry.2.nanos) :
    heard deadline entries = (.error (.timeout "read" deadline), deadline, entries) := by
  cases entries with
  | nil => rfl
  | cons entry entries =>
    have hentry : deadline.nanos < entry.2.nanos := hlate entry List.mem_cons_self
    exact if_neg (Nat.not_le_of_lt hentry)

/-- **The first thing that is said decides a read**, if it is said by the deadline; nothing else
does. -/
theorem readText_eq_heard (deadline : Duration) {as : List Arrival}
    (hinOrder : as.Pairwise fun a b => a.after.nanos ≤ b.after.nanos) :
    ((readText deadline as).outcome, (readText deadline as).after,
      said (readText deadline as).rest) = heard deadline (said as) := by
  induction as with
  | nil => rfl
  | cons a as ih =>
    obtain ⟨hfirst, hrest⟩ := List.pairwise_cons.mp hinOrder
    rw [readText]
    split
    · next htime =>
      split
      · next outcome houtcome =>
        rw [said_cons_of_some houtcome]
        exact (if_pos htime).symm
      · next hnone =>
        rw [said_cons_of_none hnone]
        exact ih hrest
    · next hlate =>
      -- Whatever is said from here on is said after the deadline.
      refine (heard_of_late fun entry hentry => ?_).symm
      exact Nat.lt_of_lt_of_le (Nat.lt_of_not_le hlate) (after_le_of_mem_said hfirst hentry)

/-- What decides a read: the first frame that is no ping and no pong, if it comes by the deadline,
and otherwise the deadline. -/
inductive Decided (deadline : Duration) (arrivals : List Arrival) :
    Except ClientError String → Duration → Prop
  | byFrame (beats rest : List Arrival) (a : Arrival) (outcome : Except ClientError String)
    (harrivals : arrivals = beats ++ a :: rest) (hbeats : ∀ b ∈ beats, b.frame.isBeat = true)
    (hsaid : a.frame.Says outcome) (htime : a.after.nanos ≤ deadline.nanos) :
    Decided deadline arrivals outcome a.after
  | byDeadline (hlate : ∀ a ∈ arrivals, a.frame.isBeat = false → deadline.nanos < a.after.nanos) :
    Decided deadline arrivals (.error (.timeout "read" deadline)) deadline

theorem Decided.cons_beat {deadline after : Duration} {a : Arrival} {as : List Arrival}
    {outcome : Except ClientError String} (h : Decided deadline as outcome after)
    (hbeat : a.frame.isBeat = true) : Decided deadline (a :: as) outcome after := by
  cases h with
  | byFrame beats rest b outcome harrivals hbeats hsaid htime =>
    refine .byFrame (a :: beats) rest b outcome (by rw [harrivals]; rfl) ?_ hsaid htime
    exact List.forall_mem_cons.mpr ⟨hbeat, hbeats⟩
  | byDeadline hlate =>
    refine .byDeadline (List.forall_mem_cons.mpr ⟨fun hdata => ?_, hlate⟩)
    rw [hbeat] at hdata
    cases hdata

theorem decided_readText (deadline : Duration) {as : List Arrival}
    (hinOrder : as.Pairwise fun a b => a.after.nanos ≤ b.after.nanos) :
    Decided deadline as (readText deadline as).outcome (readText deadline as).after := by
  induction as with
  | nil => exact .byDeadline (List.forall_mem_nil _)
  | cons a as ih =>
    obtain ⟨hfirst, hrest⟩ := List.pairwise_cons.mp hinOrder
    rw [readText]
    split
    · next htime =>
      split
      · next outcome houtcome =>
        exact .byFrame [] as a outcome rfl (List.forall_mem_nil _)
          (Incoming.says_of_outcome? houtcome) htime
      · next hnone => exact (ih hrest).cons_beat (Incoming.outcome?_eq_none.mp hnone)
    · next hlate =>
      have hlt : deadline.nanos < a.after.nanos := Nat.lt_of_not_le hlate
      exact .byDeadline (List.forall_mem_cons.mpr
        ⟨fun _ => hlt, fun b hb _ => Nat.lt_of_lt_of_le hlt (hfirst b hb)⟩)

/-- **Pings and pongs are invisible to reads.**  For every course of frames and every deadline:

* a read of any course that is alike, with pings and pongs put in or left out anywhere and texts
  written as binary frames, returns the same at the same time, and leaves to later reads what says
  the same;
* what it returns is decided by the first frame that is no ping and no pong, at the time when that
  frame comes, and if there is none by the deadline it is a timeout, at the deadline. -/
theorem readText_of_alike (deadline : Duration) (course other : FrameCourse)
    (h : Arrival.Alike course.arrivals other.arrivals) :
    let here := readText deadline course.arrivals
    let there := readText deadline other.arrivals
    (there.outcome = here.outcome ∧ there.after = here.after ∧ said there.rest = said here.rest) ∧
      Decided deadline course.arrivals here.outcome here.after := by
  intro here there
  have hends : (there.outcome, there.after, said there.rest) =
      (here.outcome, here.after, said here.rest) := by
    calc (there.outcome, there.after, said there.rest)
      _ = heard deadline (said other.arrivals) := readText_eq_heard deadline other.inOrder
      _ = heard deadline (said course.arrivals) := by rw [h.said_eq]
      _ = (here.outcome, here.after, said here.rest) :=
        (readText_eq_heard deadline course.inOrder).symm
  obtain ⟨houtcome, hmore⟩ := Prod.mk.inj hends
  obtain ⟨hafter, hrest⟩ := Prod.mk.inj hmore
  exact ⟨⟨houtcome, hafter, hrest⟩, decided_readText deadline course.inOrder⟩

/-- A text that comes after thirty milliseconds. -/
def plainCourse : FrameCourse := ⟨[⟨.ofMillis 30, .text "ok"⟩], List.pairwise_singleton _ _⟩

/-- The same text as a binary frame, between a ping and a pong. -/
def beatenCourse : FrameCourse :=
  ⟨[⟨.ofMillis 10, .ping⟩, ⟨.ofMillis 30, .binary [0x6F, 0x6B]⟩, ⟨.ofMillis 30, .pong⟩], by decide⟩

/-- At a deadline of thirty milliseconds the text is just in time, with and without the pings. -/
theorem beatenCourse_read : Arrival.Alike plainCourse.arrivals beatenCourse.arrivals ∧
    (readText (.ofMillis 30) beatenCourse.arrivals).outcome = .ok "ok" ∧
    (readText (.ofMillis 30) beatenCourse.arrivals).after = .ofMillis 30 := by
  have halike : Arrival.Alike plainCourse.arrivals beatenCourse.arrivals :=
    .putIn _ rfl (.frame _ (.toBinary "ok") (.putIn _ rfl .nil))
  obtain ⟨⟨houtcome, hafter, -⟩, -⟩ :=
    readText_of_alike (.ofMillis 30) plainCourse beatenCourse halike
  exact ⟨halike, houtcome.trans rfl, hafter.trans rfl⟩

/-- Pings do not put the deadline off. -/
example : (readText (.ofMillis 30)
    [⟨.ofMillis 10, .ping⟩, ⟨.ofMillis 29, .ping⟩, ⟨.ofMillis 31, .text "ok"⟩]).after =
      .ofMillis 30 := by
  rfl

end ExchangeClient
