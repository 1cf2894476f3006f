/-!
# Watch channels

A watch channel holds one value and a version that counts the values sent. The sender
overwrites the value; every receiver remembers the version it has seen, and waits in
`changed` for a version it has not seen or for the sender to go away.

`Watch α` is the part that sender and receivers share. A receiver is only the version it
has seen, so cloning one copies it.

## Key results

- `Receiver.changed_isSome`: `changed` completes exactly when the receiver is `ready`
- `Receiver.seen_of_changed`: a completed `changed` marks the current version as seen
-/

/-- The part of a watch channel that the sender and the receivers share. -/
structure Watch (α : Type) where
  value : α
  version : Nat
  closed : Bool
deriving DecidableEq, Repr

namespace Watch

/-- A receiver: the version of the channel it has seen. -/
structure Receiver where
  seen : Nat
deriving DecidableEq, Repr

/-- What a completed `changed` reports: an unseen version, or that the sender is gone. -/
inductive Changed where
  | unseen
  | senderGone
deriving DecidableEq, Repr

variable {α : Type}

/-- A channel that holds `v`, and the receiver it is created with. -/
def channel (v : α) : Watch α × Receiver :=
  (⟨v, 0, false⟩, ⟨0⟩)

/-- Send `v`. Nothing is stored when no receiver is left. -/
def send (c : Watch α) (receivers : Nat) (v : α) : Watch α :=
  if receivers = 0 then c else { c with value := v, version := c.version + 1 }

/-- The sender is dropped. -/
def dropSender (c : Watch α) : Watch α :=
  { c with closed := true }

/-- The last value sent. -/
def borrow (c : Watch α) : α :=
  c.value

@[simp] theorem closed_send (c : Watch α) (n : Nat) (v : α) :
    (c.send n v).closed = c.closed := by
  unfold send; split <;> rfl

theorem send_of_pos (c : Watch α) {n : Nat} (v : α) (hn : 0 < n) :
    c.send n v = { c with value := v, version := c.version + 1 } := by
  simp [send, Nat.ne_of_gt hn]

theorem version_le_send (c : Watch α) (n : Nat) (v : α) :
    c.version ≤ (c.send n v).version := by
  unfold send; split <;> simp

namespace Receiver

/-- `changed` would complete at once. -/
def ready (r : Receiver) (c : Watch α) : Bool :=
  r.seen != c.version || c.closed

/-- Poll `changed`: an unseen version is marked as seen; otherwise a missing sender is
    reported, and nothing is marked. `none` is a pending future. -/
def changed (r : Receiver) (c : Watch α) : Option (Changed × Receiver) :=
  if r.seen ≠ c.version then some (.unseen, ⟨c.version⟩)
  else if c.closed then some (.senderGone, r)
  else none

/-- `changed` completes exactly when the receiver is ready. -/
theorem changed_isSome (r : Receiver) (c : Watch α) : (r.changed c).isSome = r.ready c := by
  unfold changed ready
  by_cases hv : r.seen = c.version
  · cases hc : c.closed <;> simp [hv]
  · simp [hv]

/-- After `changed` the receiver has seen the current version. -/
theorem seen_of_changed {r r' : Receiver} {c : Watch α} {o : Changed}
    (h : r.changed c = some (o, r')) : r'.seen = c.version := by
  unfold changed at h
  split at h
  · obtain ⟨-, rfl⟩ := h; rfl
  · rename_i hv
    split at h
    · obtain ⟨-, rfl⟩ := h; exact Decidable.not_not.mp hv
    · exact nomatch h

end Receiver

end Watch
