import P2PMessenger.DhtIpResolver
import P2PMessenger.KeepAlive
import P2PMessenger.Refinement

/-!
`p2p_messenger_impl.cpp` as a whole: a node with both of its resolvers, and the tasks that
its threads run. A lookup asks the resolver of the datagrams first and the resolver of
the DHT second.

A task that does not return ends the process (`Task.fault`). The machine `work` goes on
after an exception with what was done before it. That only adds runs: what holds in every
run of it holds of processes too, and what a run can still do is said of processes whose
tasks have returned so far (`Config.Returns`).
-/
namespace P2PMessenger
open Octets Throwing Refinement

variable {L : Libraries}

/-- The members of `P2PMessengerImpl` that change. -/
structure Messenger (L : Libraries) where
  node : Node L
  dht_ip_resolver_ : DhtIpResolver L

def Messenger.initial (L : Libraries) : Messenger L := ⟨Node.initial L, ⟨.empty, []⟩⟩

namespace Messenger

/-- `P2PMessengerImpl::resolve`. -/
def resolve (m : Messenger L) (login : Bytes) (public_key_id : L.InfoHash) : Option Bytes :=
  match m.node.metadata_ip_resolver_.resolve login public_key_id with
  | some address => some address
  | none => m.dht_ip_resolver_.maps.resolve login public_key_id

/-- `P2PMessengerImpl::get_public_key_by_public_key_id`. -/
def get_public_key_by_public_key_id (m : Messenger L) (public_key_id : L.InfoHash) : Option L.PublicKey :=
  match m.node.metadata_ip_resolver_.get_public_key_by_public_key_id public_key_id with
  | some public_key => some public_key
  | none => m.dht_ip_resolver_.maps.get_public_key_by_public_key_id public_key_id

/-- What `P2PMessengerImpl::send_message` posts. The sender dereferences the key when it
    has taken the address apart; with a null key there is no result. -/
def send_message (m : Messenger L) (config : Config L) (env : Environment L) (login : Bytes) (public_key_id : L.InfoHash)
    (message : Bytes) : Option (Step L) :=
  match m.resolve login public_key_id with
  | none => some ⟨m.node, []⟩
  | some destination_address =>
    match m.get_public_key_by_public_key_id public_key_id with
    | some public_key =>
      some (after ((P2PMessenger.send_message config env destination_address login public_key message).run ⟨m.node, []⟩))
    | none =>
      match get_ip_and_port_from_address destination_address with
      | .ok _ => none
      | .error _ => some ⟨m.node, []⟩

/-- The messenger after a handler of its node. -/
def did (m : Messenger L) (s : Step L) : Messenger L × List (Effect L) := ({ m with node := s.node }, s.effects)

/-- The messenger after a callback of the DHT, whose contacts go to `listen_login_handler`. -/
def listened (m : Messenger L) (resolver : DhtIpResolver L) : Messenger L × List (Effect L) :=
  ({ m with dht_ip_resolver_ := resolver },
    (resolver.handled.drop m.dht_ip_resolver_.handled.length).map fun contact => .listen_login_handler contact.1 contact.2)

end Messenger

/-- What the workers of the io_context and the thread of the DHT run. -/
inductive Task (L : Libraries) where
  /-- The last lines of the constructor: a loop for the relay node. -/
  | start (env : Environment L)
  | receive (env : Environment L) (buffer : Bytes) (remote_endpoint : Endpoint L)
  | timer (env : Environment L) (endpoint : Endpoint L)
  | listen_callback (login : Bytes) (values : List (DhtValue L)) (expired : Bool)
  | send_message (env : Environment L) (login : Bytes) (public_key_id : L.InfoHash) (message : Bytes)

/-- The messenger and its effects after a task, also after one that does not return. -/
def work (config : Config L) : Machine (Messenger L) (Task L) (Effect L)
  | m, .start env =>
    if config.relay_node_ip_ ≠ [] then
      some (m.did (after ((start_hole_punching config env config.relay_node_ip_ config.relay_node_port_).run ⟨m.node, []⟩)))
    else none
  | m, .receive env buffer remote_endpoint =>
    some (m.did (after ((async_wait_handler config env (.whole buffer remote_endpoint)).run ⟨m.node, []⟩)))
  | m, .timer env endpoint =>
    if 0 < m.node.timers.count endpoint then
      some (m.did (after ((timer_handler config env endpoint).run ⟨m.node, []⟩)))
    else none
  | m, .listen_callback login values expired =>
    some (m.listened (after ((DhtIpResolver.listen_callback login values expired).run m.dht_ip_resolver_)))
  | m, .send_message env login public_key_id message =>
    (m.send_message config env login public_key_id message).map m.did

/-! ## Tasks that return -/

/-- The exception that a program ends with. -/
def thrown {σ α : Type} : EStateM.Result Exception σ α → Option Fault
  | .ok _ _ => none
  | .error e _ => some (.thrown e)

/-- What ends the process when a thread runs a task. -/
def Task.fault (config : Config L) (m : Messenger L) : Task L → Option Fault
  | .start env => thrown ((start_hole_punching config env config.relay_node_ip_ config.relay_node_port_).run ⟨m.node, []⟩)
  | .receive env buffer remote_endpoint =>
    match dispatch config env (.whole buffer remote_endpoint) ⟨m.node, []⟩ with
    | .ok _ => none
    | .error fault => some fault
  | .timer env endpoint => thrown ((timer_handler config env endpoint).run ⟨m.node, []⟩)
  | .listen_callback login values expired =>
    thrown ((DhtIpResolver.listen_callback login values expired).run m.dht_ip_resolver_)
  -- the whole call is in one `try`
  | .send_message _ _ _ _ => none

/-- A loop can start for the relay node; the datagram can be survived; the socket takes the
    round of a loop; every value that is not expired has a ':'. -/
def Config.Returns (config : Config L) : Task L → Prop
  | .start env => (L.make_address config.relay_node_ip_).isSome ∧ config.buffer_.length ≤ 65507 ∧ env.accepts 0 = true
  | .receive env buffer _ => Survivable config env buffer
  | .timer env _ => config.buffer_.length ≤ 65507 ∧ env.accepts 0 = true
  | .listen_callback _ values expired => expired = false → ∀ value ∈ values, colon ∈ value.data
  | .send_message _ _ _ _ => True

/-- Whether a task returns is a matter of the task alone. -/
theorem fault_eq_none_iff (config : Config L) (m : Messenger L) (task : Task L) :
    task.fault config m = none ↔ config.Returns task := by
  cases task with
  | start env =>
    rw [Task.fault, start_hole_punching_run, Config.Returns]
    unfold Config.punched
    cases L.make_address config.relay_node_ip_ with
    | none => simp [thrown]
    | some address =>
      by_cases taken : config.buffer_.length ≤ 65507 ∧ env.accepts 0 = true
      · simp [thrown, taken]
      · simp [thrown, taken]
  | receive env buffer remote_endpoint =>
    rw [Config.Returns, ← dispatch_returns_iff config env buffer remote_endpoint ⟨m.node, []⟩, Task.fault]
    cases dispatch config env (.whole buffer remote_endpoint) ⟨m.node, []⟩ <;> simp
  | timer env endpoint =>
    rw [Task.fault, timer_handler_run, Config.Returns]
    by_cases taken : config.buffer_.length ≤ 65507 ∧ env.accepts 0 = true
    · simp [thrown, taken]
    · simp [thrown, taken]
  | listen_callback login values expired =>
    cases expired with
    | true =>
      rw [Task.fault, listen_callback_expired]
      simp [thrown, Config.Returns]
    | false =>
      rw [Task.fault, DhtIpResolver.listen_callback_run, Config.Returns]
      by_cases addressed : ∀ value ∈ values, colon ∈ value.data
      · rw [if_pos addressed]
        exact ⟨fun _ _ => addressed, fun _ => rfl⟩
      · rw [if_neg addressed]
        exact ⟨fun none => absurd none (Option.some_ne_none _), fun all => absurd (all rfl) addressed⟩
  | send_message env login id message => simp [Task.fault, Config.Returns]

instance (config : Config L) (task : Task L) : Decidable (config.Returns task) :=
  decidable_of_iff _ (Option.isNone_iff_eq_none.trans (fault_eq_none_iff config (.initial L) task))

/-! ## What a call of the sender leaves alone -/

/-- What the history and the effects cannot change, a call of `send_message` keeps. -/
theorem keeps_of_send_message {γ : Type} {f : Step L → γ} (effects : ∀ s : Step L, ∀ e, f { s with effects := e } = f s)
    (history : ∀ s : Step L, ∀ h, f { s with node := { s.node with chat_history_ := h } } = f s) (config : Config L)
    (env : Environment L) (destination_address destination_login : Bytes) (public_key : L.PublicKey) (text : Bytes) :
    Keeps f (send_message config env destination_address destination_login public_key text) := by
  have emits : ∀ effect, Keeps f (emit effect) := fun effect s => effects s _
  have calls : ∀ {α : Type} (e : Exception) (result : Option α), Keeps f (library e result : Program L α) :=
    fun _ _ => Keeps.ofExcept _
  have sends : ∀ purpose buffer endpoint, Keeps f (send_to env purpose buffer endpoint) := by
    intro purpose buffer endpoint s
    rw [send_to_run]
    split
    · exact effects s _
    · rfl
  have handles : ∀ message, Keeps f (send_handler message : Program L Unit) := by
    intro message
    refine (emits _).bind fun _ => (calls _ _).bind fun _ => ?_
    refine Keeps.bind (fun s => ?_) fun _ => emits _
    exact (effects _ _).trans (history s _)
  refine Keeps.swallow ?_
  refine (Keeps.ofExcept _).bind fun _ => (Keeps.ofExcept _).bind fun _ => ?_
  refine (emits _).bind fun _ => (Keeps.ofExcept _).bind fun _ => (calls _ _).bind fun _ => ?_
  refine (sends _ _ _).bind fun _ => Keeps.bind ?_ fun _ => handles _
  exact Keeps.ite ((calls _ _).bind fun _ => sends _ _ _) (Keeps.pure ())

end P2PMessenger
