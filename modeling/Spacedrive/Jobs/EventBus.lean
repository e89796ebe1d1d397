/-
Module: Spacedrive.Jobs.EventBus
Purpose: The node's event bus as the subscriptions of the jobs router read it
  (`core/src/api/jobs.rs`): the `CoreEvent`s they match on, what `broadcast::Receiver::recv`
  returns, and the two receive loops. The `newThumbnail` subscription runs
  `while let Ok(event) = event_bus_rx.recv().await`, so the first error of either kind ends it
  (`newThumbnail_eq`, `newThumbnail_ends_at_lag`). The inner loop of the `progress` subscription
  retries on every result that is not a progress event, errors included: on a receiver whose
  senders are gone and that queues no progress event it goes round for ever
  (`receiveProgress_spins_when_closed`), where the `newThumbnail` loop yields what was queued
  before the first error and ends (`newThumbnail_ends_when_closed`).
Trusted boundary: tokio's broadcast channel is its observable behaviour: a receiver returns its
  queued results in order (a lag is a queued `Err(Lagged)`), then, once every sender is dropped,
  `Err(Closed)` at every call; until then a call on an empty queue waits.
Main exports: JobProgressEvent, CoreEvent, RecvResult, Receiver, newThumbnail, newThumbnail_eq,
  newThumbnail_ends_at_lag, newThumbnail_ends_when_closed, receiveProgress,
  receiveProgress_spins_when_closed
-/
import Mathlib.Data.List.Basic
import Spacedrive.Uuid

namespace Spacedrive.Jobs

/-- Modelled from the spec: the `JobProgress` payload (`JobProgress{id, completed_task_count,
message}`). -/
structure JobProgressEvent where
  id : Uuid
  completedTaskCount : Nat
  message : String
deriving DecidableEq

/-- `CoreEvent`: the two variants the jobs router matches on, and every other variant as one.
The `NewThumbnail` payload is modelled from the spec (a thumbnail key, a list of strings). -/
inductive CoreEvent where
  | jobProgress (event : JobProgressEvent)
  | newThumbnail (thumbKey : List String)
  | other
deriving DecidableEq

/-- What `event_bus_rx.recv().await` returns. -/
inductive RecvResult where
  | ok (event : CoreEvent)
  /-- `Err(RecvError::Lagged(_))` -/
  | lagged
  /-- `Err(RecvError::Closed)` -/
  | closed
deriving DecidableEq

/-- Whether `recv` returned `Ok(_)`. -/
def RecvResult.isOk : RecvResult → Bool
  | .ok _ => true
  | _ => false

/-- The thumbnail key of a `NewThumbnail` event. -/
def RecvResult.thumbKeyOf : RecvResult → Option (List String)
  | .ok (.newThumbnail thumbKey) => some thumbKey
  | _ => none

/-! ### The `newThumbnail` subscription -/

/-- The `newThumbnail` stream over the results of successive `recv` calls: the keys it yields,
and whether its `while let Ok(event)` loop has ended. -/
def newThumbnail : List RecvResult → List (List String) × Bool
  | [] => ([], false)
  | .ok (.newThumbnail thumbKey) :: rest => (thumbKey :: (newThumbnail rest).1, (newThumbnail rest).2)
  | .ok _ :: rest => newThumbnail rest
  | _ :: _ => ([], true)

/-- The stream yields the keys of the `NewThumbnail` events received before the first error, in
order, and it has ended exactly when an error, `Lagged` or `Closed`, was received. -/
theorem newThumbnail_eq (results : List RecvResult) :
    newThumbnail results =
      ((results.takeWhile RecvResult.isOk).filterMap RecvResult.thumbKeyOf,
        results.any fun result => !result.isOk) := by
  induction results with
  | nil => rfl
  | cons result rest ih =>
      match result with
      | .ok (.jobProgress _) | .ok .other => simpa [newThumbnail, RecvResult.isOk,
          RecvResult.thumbKeyOf] using ih
      | .ok (.newThumbnail _) => simp [newThumbnail, RecvResult.isOk, RecvResult.thumbKeyOf, ih]
      | .lagged | .closed => simp [newThumbnail, RecvResult.isOk]

/-- A `Lagged` error ends the stream: whatever the receiver returns afterwards is never
yielded. -/
theorem newThumbnail_ends_at_lag (before after : List RecvResult)
    (delivered : ∀ result ∈ before, result.isOk) :
    newThumbnail (before ++ .lagged :: after) = (before.filterMap RecvResult.thumbKeyOf, true) := by
  rw [newThumbnail_eq, List.takeWhile_append_of_pos delivered]
  simp [RecvResult.isOk]

/-- A thumbnail received before a lag is yielded; the one received after it is not. -/
theorem newThumbnail_ends_at_lag_thumbnailAfterLag :
    (∀ result ∈ [RecvResult.ok (.newThumbnail ["before"])], result.isOk) ∧
      newThumbnail ([.ok (.newThumbnail ["before"])] ++
          .lagged :: [.ok (.newThumbnail ["after"])]) = ([["before"]], true) :=
  ⟨by decide, newThumbnail_ends_at_lag _ _ (by decide)⟩

/-! ### The receiver -/

/-- A subscriber's receiver: the results its next `recv` calls return that are already decided,
and whether every sender has been dropped. -/
structure Receiver where
  queued : List RecvResult
  senderDropped : Bool

/-- `Receiver::recv().await`: the first queued result; with nothing queued, `Err(Closed)` once
the senders are gone, and otherwise the call waits (`none`). -/
def Receiver.recv (rx : Receiver) : Option (RecvResult × Receiver) :=
  match rx.queued with
  | result :: rest => some (result, { rx with queued := rest })
  | [] => if rx.senderDropped then some (.closed, rx) else none

/-- The results of at most `calls` successive `recv` calls, up to the first one that waits. -/
def Receiver.results : Nat → Receiver → List RecvResult
  | 0, _ => []
  | calls + 1, rx =>
      match rx.recv with
      | none => []
      | some (result, rx) => result :: Receiver.results calls rx

/-- A receiver whose senders are gone returns its queue and then `Err(Closed)`. -/
theorem Receiver.results_of_senderDropped (queued : List RecvResult) :
    Receiver.results (queued.length + 1) ⟨queued, true⟩ = queued ++ [.closed] := by
  induction queued with
  | nil => rfl
  | cons result rest ih =>
      rw [List.length_cons, Receiver.results, Receiver.recv]
      simpa using ih

/-- For every queue left when the senders are gone, the `newThumbnail` stream yields the keys of
the queued `NewThumbnail` events before the first queued error and then ends, at the latest at the
`recv` call after the last queued result. -/
theorem newThumbnail_ends_when_closed (queued : List RecvResult) :
    newThumbnail (Receiver.results (queued.length + 1) ⟨queued, true⟩) =
      ((queued.takeWhile RecvResult.isOk).filterMap RecvResult.thumbKeyOf, true) := by
  rw [Receiver.results_of_senderDropped, newThumbnail_eq, List.takeWhile_append]
  split
  · rename_i delivered
    simp [(List.takeWhile_prefix _).eq_of_length delivered, RecvResult.isOk]
  · simp [RecvResult.isOk]

/-! ### The inner receive loop of the `progress` subscription -/

/-- Where the inner `loop` of the `progress` subscription stands. -/
inductive InnerLoop where
  /-- `break progress_event`, with the receiver left after it -/
  | broke (event : JobProgressEvent) (rx : Receiver)
  /-- a `recv` call waits for a message -/
  | waiting (rx : Receiver)
  /-- every call so far returned something other than a progress event; the loop goes round
  again -/
  | looping (rx : Receiver)

/-- The inner `loop` of the `progress` subscription, for at most `calls` calls to `recv`:
`if let Ok(CoreEvent::JobProgress(progress_event)) = event_bus_rx.recv().await` breaks with the
event, and every other result, an error included, goes round again. -/
def receiveProgress : Nat → Receiver → InnerLoop
  | 0, rx => .looping rx
  | calls + 1, rx =>
      match rx.recv with
      | none => .waiting rx
      | some (.ok (.jobProgress event), rx) => .broke event rx
      | some (_, rx) => receiveProgress calls rx

/-- One call that returns anything but a progress event sends the loop round again. -/
theorem receiveProgress_cons_of_skip (calls : Nat) {result : RecvResult} (rest : List RecvResult)
    (senderDropped : Bool) (skipped : ∀ event, result ≠ .ok (.jobProgress event)) :
    receiveProgress (calls + 1) ⟨result :: rest, senderDropped⟩ =
      receiveProgress calls ⟨rest, senderDropped⟩ :=
  match result, skipped with
  | .ok (.jobProgress event), skipped => absurd rfl (skipped event)
  | .ok (.newThumbnail _), _ | .ok .other, _ | .lagged, _ | .closed, _ => rfl

/-- With nothing queued and the senders gone, a call returns `Err(Closed)` at once and the loop
goes round again. -/
theorem receiveProgress_closed (calls : Nat) :
    receiveProgress (calls + 1) ⟨[], true⟩ = receiveProgress calls ⟨[], true⟩ :=
  rfl

/-- On a receiver whose senders are gone and that queues no progress event, every call returns,
and none breaks the loop: after any number of calls the loop is still going round, the receiver
answering `Err(Closed)` at once. -/
theorem receiveProgress_spins_when_closed (queued : List RecvResult)
    (noProgress : ∀ result ∈ queued, ∀ event, result ≠ .ok (.jobProgress event)) (calls : Nat) :
    receiveProgress calls ⟨queued, true⟩ = .looping ⟨queued.drop calls, true⟩ := by
  induction calls generalizing queued with
  | zero => rfl
  | succ calls ih =>
      cases queued with
      | nil => simpa [receiveProgress_closed] using ih [] (by simp)
      | cons result rest =>
          rw [receiveProgress_cons_of_skip _ _ _ (noProgress result (List.mem_cons_self _ _))]
          exact ih rest fun result mem => noProgress result (List.mem_cons_of_mem _ mem)

/-- After the bus closes with a lag and another event queued, the loop is still going round after
five calls. -/
theorem receiveProgress_spins_when_closed_afterShutdown :
    (∀ result ∈ [RecvResult.lagged, .ok .other], ∀ event, result ≠ .ok (.jobProgress event)) ∧
      receiveProgress 5 ⟨[.lagged, .ok .other], true⟩ = .looping ⟨[], true⟩ :=
  have noProgress : ∀ result ∈ [RecvResult.lagged, .ok .other], ∀ event,
      result ≠ .ok (.jobProgress event) := by
    simp
  ⟨noProgress, receiveProgress_spins_when_closed _ noProgress 5⟩

end Spacedrive.Jobs
