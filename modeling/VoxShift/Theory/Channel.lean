import Mathlib.Data.List.Basic

/-!
# Bounded channels

A channel holds the messages sent and not yet received, oldest first, and never
more than its capacity: a send waits while it is full.

A process that sends keeps the messages it has still to send in a list, its
*outbox*; `offer` moves the first of them into the channel, if there is room.

## The rules

* `send?_eq_none`, `recv?_eq_none` — a send waits on a full channel, a receive on
  an empty one.
* `items_of_send?`, `items_of_recv?` — messages leave in the order they came.
* `not_full_of_recv?` — after a receive there is room.
* `offer_of_full`, `offer_of_room`, `offer_moves` — what an offer does.
-/

namespace VoxShift.Theory

variable {α : Type*} {cap : ℕ}

/-- A channel: the messages it holds, within its capacity. -/
structure Channel (α : Type*) (cap : ℕ) where
  /-- The messages sent and not yet received, oldest first. -/
  items : List α
  /-- There are no more of them than the capacity. -/
  bounded : items.length ≤ cap

namespace Channel

/-- The channel just made. -/
def empty : Channel α cap := ⟨[], Nat.zero_le cap⟩

/-- There is no room. -/
def Full (ch : Channel α cap) : Prop := ch.items.length = cap

instance (ch : Channel α cap) : Decidable ch.Full := inferInstanceAs (Decidable (_ = _))

/-- The channel after a send; `none` where the send has to wait. -/
def send? (ch : Channel α cap) (a : α) : Option (Channel α cap) :=
  if h : ch.items.length < cap then
    some ⟨ch.items ++ [a], by rw [List.length_append]; exact h⟩
  else none

/-- What a receive returns, and the channel after it; `none` where the receive has to wait. -/
def recv? (ch : Channel α cap) : Option (α × Channel α cap) :=
  match ch with
  | ⟨[], _⟩ => none
  | ⟨a :: items, h⟩ => some (a, ⟨items, Nat.le_of_succ_le h⟩)

/-- The first message of an outbox moves into the channel, if there is room. -/
def offer (ch : Channel α cap) : List α → List α × Channel α cap
  | [] => ([], ch)
  | a :: rest =>
    match ch.send? a with
    | some ch' => (rest, ch')
    | none => (a :: rest, ch)

theorem send?_eq_none {ch : Channel α cap} {a : α} : ch.send? a = none ↔ ch.Full := by
  have hle := ch.bounded
  unfold send? Full
  split
  · constructor
    · intro h
      cases h
    · intro h
      omega
  · exact ⟨fun _ => by omega, fun _ => rfl⟩

theorem items_of_send? {ch ch' : Channel α cap} {a : α} (h : ch.send? a = some ch') :
    ch'.items = ch.items ++ [a] := by
  unfold send? at h
  split at h
  · rw [← Option.some.inj h]
  · cases h

theorem recv?_eq_none {ch : Channel α cap} : ch.recv? = none ↔ ch.items = [] := by
  obtain ⟨items, h⟩ := ch
  cases items with
  | nil => exact ⟨fun _ => rfl, fun _ => rfl⟩
  | cons a items =>
    constructor
    · intro hnone
      cases hnone
    · intro hnil
      cases hnil

theorem items_of_recv? {ch ch' : Channel α cap} {a : α} (h : ch.recv? = some (a, ch')) :
    ch.items = a :: ch'.items := by
  obtain ⟨items, hle⟩ := ch
  cases items with
  | nil => cases h
  | cons b items =>
    obtain ⟨rfl, rfl⟩ := Prod.mk.inj (Option.some.inj h)
    rfl

theorem not_full_of_recv? {ch ch' : Channel α cap} {a : α} (h : ch.recv? = some (a, ch')) :
    ¬ch'.Full := by
  have hle := ch.bounded
  rw [items_of_recv? h, List.length_cons] at hle
  intro hfull
  unfold Full at hfull
  omega

theorem offer_of_send? {ch ch' : Channel α cap} {a : α} (h : ch.send? a = some ch')
    (rest : List α) : ch.offer (a :: rest) = (rest, ch') := by
  show (match ch.send? a with
    | some ch' => (rest, ch')
    | none => (a :: rest, ch)) = (rest, ch')
  rw [h]

theorem offer_of_full {ch : Channel α cap} (h : ch.Full) (outbox : List α) :
    ch.offer outbox = (outbox, ch) := by
  cases outbox with
  | nil => rfl
  | cons a rest =>
    show (match ch.send? a with
      | some ch' => (rest, ch')
      | none => (a :: rest, ch)) = (a :: rest, ch)
    rw [send?_eq_none.mpr h]

/-- An offer to a channel with room moves the first message to its end. -/
theorem offer_of_room {ch : Channel α cap} (h : ¬ch.Full) (a : α) (rest : List α) :
    (ch.offer (a :: rest)).1 = rest ∧ (ch.offer (a :: rest)).2.items = ch.items ++ [a] := by
  cases hs : ch.send? a with
  | none => exact absurd (send?_eq_none.mp hs) h
  | some ch' =>
    rw [offer_of_send? hs]
    exact ⟨rfl, items_of_send? hs⟩

/-- What an offer moves goes from the front of the outbox to the end of the channel. -/
theorem offer_moves (ch : Channel α cap) (outbox : List α) :
    ∃ moved, (ch.offer outbox).2.items = ch.items ++ moved ∧
      outbox = moved ++ (ch.offer outbox).1 := by
  cases outbox with
  | nil => exact ⟨[], (List.append_nil _).symm, rfl⟩
  | cons a rest =>
    by_cases h : ch.Full
    · rw [offer_of_full h]
      exact ⟨[], (List.append_nil _).symm, rfl⟩
    · obtain ⟨hrest, hitems⟩ := offer_of_room h a rest
      exact ⟨[a], hitems, by rw [hrest]; rfl⟩

theorem offer_suffix (ch : Channel α cap) (outbox : List α) : (ch.offer outbox).1 <:+ outbox := by
  cases outbox with
  | nil => exact List.suffix_refl []
  | cons a rest =>
    by_cases h : ch.Full
    · exact ⟨[], (congrArg Prod.fst (offer_of_full h (a :: rest)))⟩
    · rw [(offer_of_room h a rest).1]
      exact List.suffix_cons a rest

end Channel

end VoxShift.Theory
