/-
Module: Spacedrive.Channel
Purpose: A FIFO channel between tasks, as both the location watcher (tokio's unbounded `mpsc`,
  `location/manager/watcher/mod.rs`) and the mobile event listener (`futures_channel::mpsc`,
  `apps/mobile/modules/sd-core/core/src/lib.rs`) use it: the log of every message sent, oldest
  first, and how many the receiver has taken. A receive takes the oldest message not yet taken
  (`recv_eq_some`), so what a receiver has taken is always a prefix of what was sent.
Trusted boundary: the channels deliver in send order and lose nothing while the receiver lives;
  a bound on the buffer only makes a sender wait, so it removes runs and adds none.
Main exports: Channel, Channel.send, Channel.recv, Channel.taken, Channel.recv_eq_some,
  Channel.recv_bounded
-/
import Mathlib.Data.List.Basic

namespace Spacedrive

/-- A FIFO channel: every message sent, oldest first, and how many the receiver has taken. What
is buffered is `sent.drop received`. -/
structure Channel (α : Type) where
  sent : List α
  received : Nat

namespace Channel

variable {α : Type}

/-- An empty channel. -/
def empty : Channel α := ⟨[], 0⟩

/-- `Sender::send` (`UnboundedSender::send` in the watcher). -/
def send (channel : Channel α) (message : α) : Channel α :=
  { channel with sent := channel.sent ++ [message] }

/-- `Receiver::recv` (`rx.next()` in the listener) when a message is buffered. -/
def recv (channel : Channel α) : Option (α × Channel α) :=
  (channel.sent.get? channel.received).map fun message =>
    (message, { channel with received := channel.received + 1 })

/-- The messages the receiver has taken, oldest first. -/
def taken (channel : Channel α) : List α := channel.sent.take channel.received

@[simp] theorem send_taken (channel : Channel α) (message : α)
    (bounded : channel.received ≤ channel.sent.length) :
    (channel.send message).taken = channel.taken := by
  simp [send, taken, List.take_append_of_le_length bounded]

@[simp] theorem send_received (channel : Channel α) (message : α) :
    (channel.send message).received = channel.received := rfl

theorem recv_eq_some {channel next : Channel α} {message : α}
    (taking : channel.recv = some (message, next)) :
    channel.received < channel.sent.length ∧ next.received = channel.received + 1 ∧
      next.taken = channel.taken ++ [message] ∧ next.sent = channel.sent := by
  simp only [recv, Option.map_eq_some', Prod.mk.injEq] at taking
  obtain ⟨_, found, rfl, rfl⟩ := taking
  have bound := (List.get?_eq_some.mp found).1
  refine ⟨bound, rfl, ?_, rfl⟩
  rw [List.get?_eq_getElem?] at found
  simp [taken, List.take_succ, found]

/-- A receiver never takes more than was sent. -/
theorem recv_bounded {channel next : Channel α} {message : α}
    (taking : channel.recv = some (message, next)) : next.received ≤ next.sent.length := by
  obtain ⟨bound, counted, -, sent⟩ := recv_eq_some taking
  rw [counted, sent]
  omega

end Channel

end Spacedrive
