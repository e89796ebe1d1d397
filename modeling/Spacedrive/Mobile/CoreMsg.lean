/-
Module: Spacedrive.Mobile.CoreMsg
Purpose: `handle_core_msg` of the mobile embedding (`apps/mobile/modules/sd-core/core/src/lib.rs`,
  lines 35-126): one spawned task, from the `NODE` lock to the callback. The task first makes sure
  a node exists (`Node::new(..).await.unwrap()` when `NODE` is empty), then decodes the payload as
  one request or an array of requests, runs every request through `handle_json_rpc` and calls back
  with the JSON array of the responses. Two things end the task without a callback: a failing
  `Node::new`, and a subscription request while `EVENT_SENDER` is unset, where
  `MobileSender::subscription` hits its `expect`. `decodeRequests_eq_some` shows the decoder
  accepts exactly the payloads that are a request object or an array of request objects, and
  `handleCoreMsg_callback` gives the callbacks of every run with an initialised node.
Trusted boundary: serde (`from_str::<Value>`, `from_value`, `to_string`) and rspc's
  `handle_json_rpc` are parameters (`JsonRpc`); whether `Node::new` succeeds is an input.
Main exports: NodePair, JsonRpc, decodeRequests, RequestPayload, decodeRequests_eq_some,
  TaskRun, handleBatch, handleCoreMsg, handleCoreMsg_callback, subscription_before_listener_loses_callback
-/
import Mathlib.Data.List.Forall2

namespace Spacedrive.Mobile

/-- The `(Arc<Node>, Arc<Router>)` pair a successful `Node::new` returns, named by the number of
successful `Node::new` calls before it. -/
structure NodePair where
  serial : Nat
deriving DecidableEq, Repr

/-- serde and rspc as the task uses them. -/
structure JsonRpc (Value Request Response : Type) where
  /-- `serde_json::from_str::<Value>` -/
  parseValue : String → Option Value
  /-- `Value::is_array`, with the elements of an array -/
  asArray : Value → Option (List Value)
  /-- `serde_json::from_value::<Request>` -/
  requestOfValue : Value → Option Request
  /-- whether `handle_json_rpc` asks its sender for a subscription upgrade on this request -/
  callsSubscription : Request → Bool
  /-- what `handle_json_rpc` sends through `MobileSender::send`, if anything -/
  respond : NodePair → Request → Option Response
  /-- `serde_json::to_string` of the response vector -/
  encode : List Response → String

variable {Value Request Response : Type}

/-- `from_value::<Vec<Request>>` on the elements of an array: every element must decode. -/
def decodeAll (decode : Value → Option Request) : List Value → Option (List Request)
  | [] => some []
  | item :: items => do
      let request ← decode item
      let requests ← decodeAll decode items
      pure (request :: requests)

/-- The decoding of the payload: an array is a batch, any other value one request. -/
def decodeRequests (rpc : JsonRpc Value Request Response) (query : String) :
    Option (List Request) := do
  let value ← rpc.parseValue query
  match rpc.asArray value with
  | some items => decodeAll rpc.requestOfValue items
  | none => (rpc.requestOfValue value).map ([·])

/-- The payloads the spec admits: a JSON request object, or a JSON array of request objects,
together with the requests they carry. -/
inductive RequestPayload (rpc : JsonRpc Value Request Response) (query : String) :
    List Request → Prop where
  | object (value : Value) (request : Request) (parsed : rpc.parseValue query = some value)
      (notArray : rpc.asArray value = none) (decoded : rpc.requestOfValue value = some request) :
      RequestPayload rpc query [request]
  | array (value : Value) (items : List Value) (requests : List Request)
      (parsed : rpc.parseValue query = some value) (isArray : rpc.asArray value = some items)
      (decoded : List.Forall₂ (fun item request => rpc.requestOfValue item = some request)
        items requests) :
      RequestPayload rpc query requests

theorem decodeAll_eq_some (decode : Value → Option Request) :
    ∀ (items : List Value) (requests : List Request),
      decodeAll decode items = some requests ↔
        List.Forall₂ (fun item request => decode item = some request) items requests
  | [], requests => by cases requests <;> simp [decodeAll]
  | item :: items, requests => by
      cases requests with
      | nil => simp [decodeAll, Option.bind_eq_some]
      | cons request requests =>
          simp [decodeAll, Option.bind_eq_some, ← decodeAll_eq_some decode items]

/-- The decoder accepts exactly the admitted payloads, with the requests they carry. -/
theorem decodeRequests_eq_some {rpc : JsonRpc Value Request Response} {query : String}
    {requests : List Request} :
    decodeRequests rpc query = some requests ↔ RequestPayload rpc query requests := by
  constructor
  · intro decoded
    simp only [decodeRequests, Option.bind_eq_bind, Option.bind_eq_some] at decoded
    obtain ⟨value, parsed, rest⟩ := decoded
    cases isArray : rpc.asArray value with
    | some items =>
        rw [isArray] at rest
        exact .array value items requests parsed isArray ((decodeAll_eq_some _ _ _).mp rest)
    | none =>
        rw [isArray, Option.map_eq_some'] at rest
        obtain ⟨request, found, rfl⟩ := rest
        exact .object value request parsed isArray found
  · intro payload
    cases payload with
    | object value request parsed notArray found =>
        simp [decodeRequests, parsed, notArray, found]
    | array value items requests parsed isArray decoded =>
        simp [decodeRequests, parsed, isArray, (decodeAll_eq_some _ _ _).mpr decoded]

/-! ### The task -/

/-- Why a task ended without finishing. -/
inductive TaskPanic where
  /-- `Node::new(..).await.unwrap()` on an error -/
  | nodeNewUnwrap
  /-- `EVENT_SENDER.get().expect("Core was not started before making a request!")` -/
  | eventSenderExpect
deriving DecidableEq, Repr

/-- What one run of the task did: the values passed to `callback`, in order, and whether it
panicked. -/
structure TaskRun where
  callbacks : List (Except String String)
  panicked : Option TaskPanic

/-- The part of the task after the node is known: decode, handle every request, call back. -/
def handleBatch (rpc : JsonRpc Value Request Response) (eventSenderSet : Bool)
    (pair : NodePair) (query : String) : TaskRun :=
  match decodeRequests rpc query with
  | none => { callbacks := [.error query], panicked := none }
  | some requests =>
      if requests.any rpc.callsSubscription && !eventSenderSet then
        { callbacks := [], panicked := some .eventSenderExpect }
      else
        { callbacks := [.ok (rpc.encode (requests.filterMap (rpc.respond pair)))]
          panicked := none }

/-- The node the task handles its batch with, and what `NODE` holds afterwards: the node already
there, or the one `Node::new` returned (`newNode`, `none` when `Node::new` fails). -/
def lockNode (node newNode : Option NodePair) : Option NodePair :=
  match node with
  | some pair => some pair
  | none => newNode

/-- `handle_core_msg` run to its end, given `NODE`, the result `Node::new` would return, and
whether `spawn_core_event_listener` has set `EVENT_SENDER`. -/
def handleCoreMsg (rpc : JsonRpc Value Request Response) (node newNode : Option NodePair)
    (eventSenderSet : Bool) (query : String) : TaskRun :=
  match lockNode node newNode with
  | none => { callbacks := [], panicked := some .nodeNewUnwrap }
  | some pair => handleBatch rpc eventSenderSet pair query

theorem handleBatch_of_rejected {rpc : JsonRpc Value Request Response} {query : String}
    (eventSenderSet : Bool) (pair : NodePair) (rejected : decodeRequests rpc query = none) :
    (handleBatch rpc eventSenderSet pair query).callbacks = [.error query] := by
  rw [handleBatch, rejected]

theorem handleBatch_of_decoded {rpc : JsonRpc Value Request Response} {query : String}
    {requests : List Request} (eventSenderSet : Bool) (pair : NodePair)
    (decoded : decodeRequests rpc query = some requests) :
    (handleBatch rpc eventSenderSet pair query).callbacks =
      if requests.any rpc.callsSubscription && !eventSenderSet then []
      else [.ok (rpc.encode (requests.filterMap (rpc.respond pair)))] := by
  simp only [handleBatch, decoded]
  split <;> rfl

/-- A JSON-RPC layer in which the payload `subscribe` is one subscription request. -/
def subscribingRpc : JsonRpc String String String where
  parseValue := some
  asArray := fun _ => none
  requestOfValue := some
  callsSubscription := (· = "subscribe")
  respond := fun _ _ => none
  encode := fun _ => "[]"

/-- With a node in hand, the callback runs exactly once, with `Err(query)` exactly when the
payload is neither a request object nor an array of request objects and with the encoded
responses otherwise, unless a request of the batch asks for a subscription before
`EVENT_SENDER` is set: then the task panics and the callback never runs. -/
theorem handleCoreMsg_callback (rpc : JsonRpc Value Request Response)
    {node newNode : Option NodePair} {pair : NodePair} (eventSenderSet : Bool) (query : String)
    (initialised : lockNode node newNode = some pair) :
    ((handleCoreMsg rpc node newNode eventSenderSet query).callbacks = [.error query] ↔
        ∀ requests, ¬ RequestPayload rpc query requests) ∧
      ∀ requests, RequestPayload rpc query requests →
        (handleCoreMsg rpc node newNode eventSenderSet query).callbacks =
          if requests.any rpc.callsSubscription && !eventSenderSet then []
          else [.ok (rpc.encode (requests.filterMap (rpc.respond pair)))] := by
  rw [handleCoreMsg, initialised]
  refine ⟨?_, fun requests payload =>
    handleBatch_of_decoded eventSenderSet pair (decodeRequests_eq_some.mpr payload)⟩
  cases decoded : decodeRequests rpc query with
  | none =>
      rw [handleBatch_of_rejected eventSenderSet pair decoded]
      refine iff_of_true rfl fun requests payload => ?_
      rw [decodeRequests_eq_some.mpr payload] at decoded
      cases decoded
  | some requests =>
      rw [handleBatch_of_decoded eventSenderSet pair decoded]
      refine iff_of_false (by split <;> simp) fun absent => ?_
      exact absent requests (decodeRequests_eq_some.mp decoded)

/-- The callback of a status request to an initialised node, with the listener started. -/
theorem handleCoreMsg_callback_status :
    lockNode (some ⟨0⟩) none = some ⟨0⟩ ∧
      (((handleCoreMsg subscribingRpc (some ⟨0⟩) none true "status").callbacks =
          [.error "status"] ↔ ∀ requests, ¬ RequestPayload subscribingRpc "status" requests) ∧
        ∀ requests, RequestPayload subscribingRpc "status" requests →
          (handleCoreMsg subscribingRpc (some ⟨0⟩) none true "status").callbacks =
            if requests.any subscribingRpc.callsSubscription && !true then []
            else [.ok (subscribingRpc.encode (requests.filterMap (subscribingRpc.respond ⟨0⟩)))]) :=
  ⟨rfl, handleCoreMsg_callback subscribingRpc true "status" rfl⟩

/-- A subscription request sent before `spawn_core_event_listener`, to an initialised node, ends
the task without any callback. -/
theorem subscription_before_listener_loses_callback :
    handleCoreMsg subscribingRpc (some ⟨0⟩) none false "subscribe" =
      { callbacks := [], panicked := some .eventSenderExpect } :=
  rfl

end Spacedrive.Mobile
