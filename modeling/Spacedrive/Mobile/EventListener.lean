/-
Module: Spacedrive.Mobile.EventListener
Purpose: `spawn_core_event_listener` and the subscription half of `MobileSender`
  (`apps/mobile/modules/sd-core/core/src/lib.rs`, lines 30, 44-54 and 128-145) as a transition
  system. Each call creates a channel and offers its sender to the `EVENT_SENDER` cell
  (`let _ = EVENT_SENDER.set(tx)`): only the first call's sender is kept, and the sender of every
  later call is dropped at once, so that listener's `while let Some(event) = rx.next().await`
  ends without a message. Subscriptions send through clones of the kept sender. Over every
  interleaving of calls, sends and loop turns, only the first listener's callback ever runs
  (`later_listener_never_called`); it receives the serialised responses in the order they were sent,
  each once, skipping those that fail to serialise (`callbacks_prefix_sent`), and nothing sent
  is lost: turning its loop once per buffered message delivers them all (`receive_all_delivers`).
  With `handleCoreMsg`, a subscription request panics exactly while no listener has been spawned
  (`subscription_panics_iff_unspawned`).
Trusted boundary: the channel is the FIFO `Spacedrive.Channel`; the bound of
  `mpsc::channel(100)` only makes a sender wait, so every run of the bounded channel is a run
  here. `serde_json::to_string` of a response is a parameter.
Main exports: Listeners, ListenerAction, step, Reachable, Invariant, later_listener_never_called,
  callbacks_prefix_sent, receive_all_delivers, subscription_panics_iff_unspawned
-/
import Spacedrive.Channel
import Spacedrive.Mobile.CoreMsg

namespace Spacedrive.Mobile.EventListener

variable {Response : Type}

/-- The listeners of the process: the one whose sender `EVENT_SENDER` holds, how many times
`spawn_core_event_listener` has been called, and each listener's channel and callback calls
(listener `k` is the one the `k`-th call spawned). -/
structure Listeners (Response : Type) where
  eventSender : Option Nat
  spawned : Nat
  channels : Nat → Channel Response
  /-- The strings each listener passed to its callback, oldest first. -/
  callbacks : Nat → List String

/-- The process before any listener. -/
def Listeners.initial : Listeners Response :=
  { eventSender := none, spawned := 0, channels := fun _ => .empty, callbacks := fun _ => [] }

/-- What can happen next. -/
inductive ListenerAction (Response : Type) where
  /-- `spawn_core_event_listener(callback)` -/
  | spawn
  /-- a subscription sends a response through its clone of the `EVENT_SENDER` sender -/
  | send (response : Response)
  /-- one turn of a listener's loop: `rx.next()` yields a message -/
  | receive (listener : Nat)

/-- One transition; `none` when the action cannot happen: a send before `EVENT_SENDER` is set
panics in `MobileSender::subscription`, and a listener with nothing buffered waits (or, its
sender dropped, has ended). -/
def step (toString : Response → Option String) (state : Listeners Response) :
    ListenerAction Response → Option (Listeners Response)
  | .spawn =>
      some { state with
        eventSender := state.eventSender.orElse fun _ => some state.spawned
        spawned := state.spawned + 1 }
  | .send response =>
      state.eventSender.map fun listener =>
        { state with
          channels := Function.update state.channels listener
            ((state.channels listener).send response) }
  | .receive listener =>
      (state.channels listener).recv.map fun (response, channel) =>
        { state with
          channels := Function.update state.channels listener channel
          callbacks := Function.update state.callbacks listener
            (state.callbacks listener ++ (toString response).toList) }

/-- The states some interleaving reaches. -/
inductive Reachable (toString : Response → Option String) : Listeners Response → Prop where
  | initial : Reachable toString .initial
  | step {state next : Listeners Response} (action : ListenerAction Response) :
      Reachable toString state → step toString state action = some next →
        Reachable toString next

/-- What every reachable state satisfies: the cell holds the first listener's sender once there
is one; no other listener's channel ever carries a message; and each listener has called back
with the serialisable messages it has taken, in order. -/
structure Invariant (toString : Response → Option String) (state : Listeners Response) : Prop where
  eventSender_eq : state.eventSender = if state.spawned = 0 then none else some 0
  silent : ∀ listener, state.eventSender ≠ some listener →
    state.channels listener = .empty ∧ state.callbacks listener = []
  delivered : ∀ listener,
    state.callbacks listener = (state.channels listener).taken.filterMap toString
  bounded : ∀ listener, (state.channels listener).received ≤ (state.channels listener).sent.length

theorem Invariant.initial (toString : Response → Option String) :
    Invariant toString (.initial : Listeners Response) :=
  ⟨rfl, fun _ _ => ⟨rfl, rfl⟩, fun _ => rfl, fun _ => le_rfl⟩

/-- The callbacks one taken message adds. -/
theorem filterMap_singleton_eq_toList (toString : Response → Option String) (response : Response) :
    [response].filterMap toString = (toString response).toList := by
  cases serialised : toString response <;> simp [serialised]

/-- A step that changes only the channel and the callbacks of the listener whose sender
`EVENT_SENDER` holds keeps the invariant, when that listener has called back with what it has
taken. -/
theorem Invariant.set_listener {toString : Response → Option String} {state : Listeners Response}
    (holds : Invariant toString state) {listener : Nat} (held : state.eventSender = some listener)
    {channel : Channel Response} (bounded : channel.received ≤ channel.sent.length)
    {called : List String} (delivered : called = channel.taken.filterMap toString) :
    Invariant toString { state with
      channels := Function.update state.channels listener channel
      callbacks := Function.update state.callbacks listener called } := by
  refine ⟨holds.eventSender_eq, fun other apart => ?_, fun other => ?_, fun other => ?_⟩ <;>
    by_cases same : other = listener
  · exact absurd (same ▸ held) apart
  · simpa [same] using holds.silent other apart
  · subst same
    simpa using delivered
  · simpa [same] using holds.delivered other
  · subst same
    simpa using bounded
  · simpa [same] using holds.bounded other

theorem Invariant.preserved {toString : Response → Option String} {state next : Listeners Response}
    {action : ListenerAction Response} (holds : Invariant toString state)
    (stepped : step toString state action = some next) : Invariant toString next := by
  cases action with
  | spawn =>
      cases stepped
      have sender := holds.eventSender_eq
      refine ⟨?_, fun listener other => holds.silent listener fun held => other ?_,
        holds.delivered, holds.bounded⟩
      · by_cases first : state.spawned = 0 <;> simp_all
      · by_cases first : state.spawned = 0 <;> simp_all
  | send response =>
      obtain ⟨listener, held, rfl⟩ := Option.map_eq_some'.mp stepped
      have bounded := holds.bounded listener
      have grown : ((state.channels listener).send response).received ≤
          ((state.channels listener).send response).sent.length := by
        simp only [Channel.send, List.length_append]
        omega
      have kept := holds.set_listener held grown
        (by rw [Channel.send_taken _ _ bounded, ← holds.delivered listener])
      rwa [Function.update_eq_self] at kept
  | receive listener =>
      obtain ⟨⟨response, channel⟩, taking, rfl⟩ := Option.map_eq_some'.mp stepped
      have busy : state.eventSender = some listener := by
        by_contra quiet
        rw [(holds.silent listener quiet).1] at taking
        cases taking
      exact holds.set_listener busy (Channel.recv_bounded taking) (by
        rw [(Channel.recv_eq_some taking).2.2.1, List.filterMap_append, holds.delivered listener,
          filterMap_singleton_eq_toList])

theorem Reachable.invariant {toString : Response → Option String} {state : Listeners Response}
    (reachable : Reachable toString state) : Invariant toString state := by
  induction reachable with
  | initial => exact .initial toString
  | step _ _ stepped holds => exact holds.preserved stepped

/-! ### Only the first listener is ever called -/

/-- For every interleaving, the callback of every listener after the first is never called, and
its channel never carries a message: its sender was dropped when `EVENT_SENDER.set` failed. -/
theorem later_listener_never_called {toString : Response → Option String}
    {state : Listeners Response} (reachable : Reachable toString state) {listener : Nat}
    (later : listener ≠ 0) : state.channels listener = .empty ∧ state.callbacks listener = [] := by
  have holds := reachable.invariant
  refine holds.silent listener fun held => later ?_
  rw [holds.eventSender_eq] at held
  split at held
  · cases held
  · exact (Option.some.inj held).symm

/-- Two calls of `spawn_core_event_listener` and a response sent: the second listener's channel
stays empty. -/
theorem later_listener_never_called_secondSpawn :
    Reachable (fun text : String => some text)
      { eventSender := some 0, spawned := 2
        channels := Function.update (fun _ => .empty) 0 ⟨["update"], 0⟩
        callbacks := fun _ => [] } ∧ (1 : Nat) ≠ 0 ∧
      ((Function.update (fun _ => .empty) 0 ⟨["update"], 0⟩ : Nat → Channel String) 1 = .empty ∧
        ((fun _ => []) : Nat → List String) 1 = []) :=
  have reachable : Reachable (fun text : String => some text)
      { eventSender := some 0, spawned := 2
        channels := Function.update (fun _ => .empty) 0 ⟨["update"], 0⟩
        callbacks := fun _ => [] } :=
    .step (.send "update") (.step .spawn (.step .spawn .initial rfl) rfl) rfl
  ⟨reachable, by decide, @later_listener_never_called String _ _ reachable 1 (by decide)⟩

/-- For every interleaving, the first listener has called back with the serialised responses
sent through `EVENT_SENDER`, oldest first, each once, leaving out those `to_string` rejects: its
calls are a prefix of that list. -/
theorem callbacks_prefix_sent {toString : Response → Option String} {state : Listeners Response}
    (reachable : Reachable toString state) :
    (state.callbacks 0).IsPrefix ((state.channels 0).sent.filterMap toString) := by
  rw [reachable.invariant.delivered 0]
  exact (List.take_prefix _ _).filterMap toString

/-- The first listener after one response was sent and taken. -/
theorem callbacks_prefix_sent_oneUpdate :
    Reachable (fun text : String => some text)
      { eventSender := some 0, spawned := 1
        channels := Function.update (Function.update (fun _ => .empty) 0 ⟨["update"], 0⟩) 0
          ⟨["update"], 1⟩
        callbacks := Function.update (fun _ => []) 0 ["update"] } ∧
      (["update"] : List String).IsPrefix (["update"].filterMap fun text : String => some text) :=
  have reachable : Reachable (fun text : String => some text)
      { eventSender := some 0, spawned := 1
        channels := Function.update (Function.update (fun _ => .empty) 0 ⟨["update"], 0⟩) 0
          ⟨["update"], 1⟩
        callbacks := Function.update (fun _ => []) 0 ["update"] } :=
    .step (.receive 0) (.step (.send "update") (.step .spawn .initial rfl) rfl) rfl
  ⟨reachable, callbacks_prefix_sent reachable⟩

/-! ### Nothing sent is lost -/

/-- A run of actions from a state, `none` if some action could not happen. -/
def run (toString : Response → Option String) (state : Listeners Response)
    (actions : List (ListenerAction Response)) : Option (Listeners Response) :=
  actions.foldlM (step toString) state

/-- One turn of a listener's loop with a message buffered takes it and calls back with it, if it
serialises. -/
theorem receive_eq_some {toString : Response → Option String} {state : Listeners Response}
    {listener : Nat} {response : Response}
    (found : (state.channels listener).sent[(state.channels listener).received]? = some response) :
    ∃ next, step toString state (.receive listener) = some next ∧
      next.channels listener =
        ⟨(state.channels listener).sent, (state.channels listener).received + 1⟩ ∧
      next.callbacks listener = state.callbacks listener ++ (toString response).toList :=
  ⟨{ state with
      channels := Function.update state.channels listener
        ⟨(state.channels listener).sent, (state.channels listener).received + 1⟩
      callbacks := Function.update state.callbacks listener
        (state.callbacks listener ++ (toString response).toList) },
    by simp [step, Channel.recv, found], by simp, by simp⟩

/-- From every reachable state, turning the first listener's loop once per buffered message
delivers every response sent so far: the callbacks are then all the serialisable responses, in
the order they were sent. -/
theorem receive_all_delivers {toString : Response → Option String} {state : Listeners Response}
    (reachable : Reachable toString state) :
    ∃ next, run toString state (List.replicate
        ((state.channels 0).sent.length - (state.channels 0).received) (.receive 0)) = some next ∧
      next.callbacks 0 = (state.channels 0).sent.filterMap toString := by
  suffices all : ∀ (count : Nat) (state : Listeners Response),
      state.callbacks 0 = (state.channels 0).taken.filterMap toString →
      (state.channels 0).sent.length - (state.channels 0).received = count →
      ∃ next, run toString state (List.replicate count (.receive 0)) = some next ∧
        next.callbacks 0 = (state.channels 0).sent.filterMap toString from
    all _ state (reachable.invariant.delivered 0) rfl
  intro count
  induction count with
  | zero =>
      intro state delivered drained
      refine ⟨state, rfl, ?_⟩
      rw [delivered, Channel.taken, List.take_of_length_le (by omega)]
  | succ count ih =>
      intro state delivered remaining
      obtain ⟨response, found⟩ : ∃ response,
          (state.channels 0).sent[(state.channels 0).received]? = some response :=
        ⟨_, List.getElem?_eq_getElem (by omega)⟩
      obtain ⟨next, stepped, channel, called⟩ := @receive_eq_some _ toString state 0 _ found
      obtain ⟨last, ran, all⟩ := ih next
        (by simp [called, channel, delivered, Channel.taken, List.take_succ, found,
          filterMap_singleton_eq_toList])
        (by rw [channel]; dsimp only; omega)
      refine ⟨last, ?_, by rwa [channel] at all⟩
      rw [List.replicate_succ, run, List.foldlM_cons, stepped]
      exact ran

/-- One response sent to the first listener and not yet taken: one turn delivers it. -/
theorem receive_all_delivers_oneUpdate :
    Reachable (fun text : String => some text)
      { eventSender := some 0, spawned := 1
        channels := Function.update (fun _ => .empty) 0 ⟨["update"], 0⟩
        callbacks := fun _ => [] } ∧
      ∃ next, run (fun text : String => some text)
          { eventSender := some 0, spawned := 1
            channels := Function.update (fun _ => .empty) 0 ⟨["update"], 0⟩
            callbacks := fun _ => [] }
          (List.replicate (["update"].length - 0) (.receive 0)) = some next ∧
        next.callbacks 0 = ["update"].filterMap fun text : String => some text :=
  have reachable : Reachable (fun text : String => some text)
      { eventSender := some 0, spawned := 1
        channels := Function.update (fun _ => .empty) 0 ⟨["update"], 0⟩
        callbacks := fun _ => [] } :=
    .step (.send "update") (.step .spawn .initial rfl) rfl
  ⟨reachable, receive_all_delivers reachable⟩

/-! ### The listener and the request tasks -/

/-- Once the listener system has run, a task whose batch asks for a subscription panics at
`EVENT_SENDER.get().expect(..)` exactly when `spawn_core_event_listener` has not been called yet:
the cell is set by the first call and never cleared. -/
theorem subscription_panics_iff_unspawned {toString : Response → Option String}
    {state : Listeners Response} (reachable : Reachable toString state)
    {Value Request Reply : Type} (rpc : JsonRpc Value Request Reply) {node newNode : Option NodePair}
    {pair : NodePair} {query : String} {requests : List Request}
    (initialised : lockNode node newNode = some pair) (decoded : decodeRequests rpc query = some requests)
    (subscribing : requests.any rpc.callsSubscription = true) :
    (handleCoreMsg rpc node newNode state.eventSender.isSome query).panicked =
        some .eventSenderExpect ↔ state.spawned = 0 := by
  rw [handleCoreMsg, initialised]
  simp only [handleBatch, decoded, reachable.invariant.eventSender_eq]
  by_cases unspawned : state.spawned = 0 <;> simp [unspawned, subscribing]

/-- A subscription request before any listener: the task panics. -/
theorem subscription_panics_iff_unspawned_firstRequest :
    Reachable (fun text : String => some text) .initial ∧ lockNode (some ⟨0⟩) none = some ⟨0⟩ ∧
      decodeRequests subscribingRpc "subscribe" = some ["subscribe"] ∧
      ["subscribe"].any subscribingRpc.callsSubscription = true ∧
      ((handleCoreMsg subscribingRpc (some ⟨0⟩) none
          (Listeners.initial : Listeners String).eventSender.isSome "subscribe").panicked =
        some .eventSenderExpect ↔ (Listeners.initial : Listeners String).spawned = 0) :=
  have reachable : Reachable (fun text : String => some text) .initial := .initial
  have decoded : decodeRequests subscribingRpc "subscribe" = some ["subscribe"] := rfl
  have subscribing : ["subscribe"].any subscribingRpc.callsSubscription = true := by decide
  ⟨reachable, rfl, decoded, subscribing,
    subscription_panics_iff_unspawned reachable subscribingRpc rfl decoded subscribing⟩

end Spacedrive.Mobile.EventListener
