import P2PMessenger.Stores
import P2PMessenger.Serializer
import P2PMessenger.Throwing

/-!
One node: what `P2PMessengerImpl` holds, what a handler can do to it and to the
outside, and the hole puncher. A handler runs from a node to the node it leaves and
the effects it had, in their order; when it throws, what it did before stays done.
-/
namespace P2PMessenger
open Octets Memory

/-- The constructor arguments that the sender, the receiver and the hole puncher keep. -/
structure Config (L : Libraries) where
  my_login_ : Bytes
  my_ip_ : Bytes
  my_port_ : UInt16
  relay_node_ip_ : Bytes
  relay_node_port_ : UInt16
  relay_ : Bool
  /-- `identity_.first`. -/
  private_key_ : L.PrivateKey

/-- The state of a node. A timer is known by the endpoint that its loop punches. -/
structure Node (L : Libraries) where
  metadata_ip_resolver_ : MetadataIpResolver L
  chat_history_ : ChatHistory L
  timers : List (Endpoint L)

def Node.initial (L : Libraries) : Node L := ⟨.empty, .empty, []⟩

/-- The handler that appended to a history. -/
inductive Origin where
  | sent
  | received
  deriving DecidableEq, Repr

/-- What a datagram was sent for. -/
inductive Purpose where
  | message
  | relay
  | hole_punch
  deriving DecidableEq, Repr

inductive Effect (L : Libraries) where
  /-- A call of `MessageSerializer::sign`. -/
  | sign (buffer : Bytes)
  /-- A datagram that the socket took. -/
  | send_to (purpose : Purpose) (buffer : Bytes) (endpoint : Endpoint L)
  | async_wait
  /-- An invocation of the receiver's `handler_`. -/
  | receive_handler (message : Message)
  /-- An invocation of the sender's `handler_`. -/
  | send_handler (message : Message)
  | append (origin : Origin) (public_key_id : L.InfoHash) (login text : Bytes)
  | listen_login_handler (login : Bytes) (public_key_id : L.InfoHash)
  | receive_message_handler (message : Message)
  | send_message_handler (message : Message)
  deriving DecidableEq

/-- A node in the middle of a handler. -/
structure Step (L : Libraries) where
  node : Node L
  effects : List (Effect L)

/-- What a handler meets: the randomness of its encryption, which datagrams the socket
    takes (told by the number of effects before), and the memory behind the received
    datagram and behind the inner message. -/
structure Environment (L : Libraries) where
  seed : L.Seed
  accepts : Nat → Bool
  beyond : Contents
  beyond_message : Contents

variable {L : Libraries}

abbrev Program (L : Libraries) (α : Type) := EStateM Exception (Step L) α

def emit (effect : Effect L) : Program L Unit := modify fun s => { s with effects := s.effects ++ [effect] }

def onResolver (f : MetadataIpResolver L → MetadataIpResolver L) : Program L Unit :=
  modify fun s => { s with node := { s.node with metadata_ip_resolver_ := f s.node.metadata_ip_resolver_ } }

/-- The result of a library call, or the exception it throws. -/
def library {α : Type} (e : Exception) (result : Option α) : Program L α := MonadExcept.ofExcept (orThrow e result)

/-- A UDP socket takes at most 65507 octets, and may refuse those too. -/
def send_to (env : Environment L) (purpose : Purpose) (buffer : Bytes) (endpoint : Endpoint L) : Program L Unit := do
  let s ← get
  if buffer.length ≤ 65507 ∧ env.accepts s.effects.length = true then
    emit (.send_to purpose buffer endpoint)
  else
    throw .system_error

/-- `chat_history_.append`. -/
def appendHistory (origin : Origin) (public_key_id : L.InfoHash) (login text : Bytes) : Program L Unit := do
  modify fun s => { s with node := { s.node with chat_history_ := s.node.chat_history_.append public_key_id login text } }
  emit (.append origin public_key_id login text)

/-! ## The hole puncher -/

/-- The node's own public key. -/
def Config.public_key (config : Config L) : L.PublicKey := L.getSharedPublicKey config.private_key_

/-- The string of the node's own public key. -/
def Config.public_key_string (config : Config L) : Bytes := L.toString config.public_key

/-- `UdpHolePuncher::buffer_`. -/
def Config.buffer_ (config : Config L) : Bytes := metadata_to_buffer config.my_login_ config.public_key_string

def hole_punch (config : Config L) (env : Environment L) (endpoint : Endpoint L) : Program L Unit := do
  send_to env .hole_punch config.buffer_ endpoint
  modify fun s => { s with node := { s.node with timers := s.node.timers ++ [endpoint] } }

def start_hole_punching (config : Config L) (env : Environment L) (ip : Bytes) (port : UInt16) : Program L Unit := do
  let address ← library .system_error (L.make_address ip)
  hole_punch config env ⟨address, port⟩

/-- The completion handler of a timer. -/
def timer_handler (config : Config L) (env : Environment L) (endpoint : Endpoint L) : Program L Unit := do
  modify fun s => { s with node := { s.node with timers := s.node.timers.erase endpoint } }
  hole_punch config env endpoint

/-! ## The handlers of `P2PMessengerImpl` -/

def send_handler (message : Message) : Program L Unit := do
  emit (.send_handler message)
  let public_key ← library .crypto_exception (L.publicKey message.destination_public_key)
  appendHistory .sent (L.getId public_key) message.source_login message.payload.text
  emit (.send_message_handler message)

def receive_handler (config : Config L) (message : Message) : Program L Unit := do
  emit (.receive_handler message)
  let public_key ← library .crypto_exception (L.publicKey message.destination_public_key)
  if public_key = config.public_key then
    let source ← library .crypto_exception (L.publicKey message.source_public_key)
    appendHistory .received (L.getId source) message.source_login message.payload.text
    let source ← library .crypto_exception (L.publicKey message.source_public_key)
    emit (.listen_login_handler message.source_login (L.getId source))
    emit (.receive_message_handler message)

/-! ## What the pieces do -/

open Throwing

/-- What the appends among some effects make of a history. -/
def ChatHistory.replay (history : ChatHistory L) (effects : List (Effect L)) : ChatHistory L :=
  effects.foldl (fun history effect => match effect with
    | .append _ public_key_id login text => history.append public_key_id login text
    | _ => history) history

/-- A step whose effects were added to those of another, and whose history has the
    appends among them added. -/
structure Step.Follows (s t : Step L) (added : List (Effect L)) : Prop where
  effects : t.effects = s.effects ++ added
  history : t.node.chat_history_ = s.node.chat_history_.replay added

theorem ChatHistory.replay_append (history : ChatHistory L) (one two : List (Effect L)) :
    history.replay (one ++ two) = (history.replay one).replay two := List.foldl_append

theorem Step.Follows.refl (s : Step L) : s.Follows s [] := ⟨(List.append_nil _).symm, rfl⟩

theorem Step.Follows.trans {s t u : Step L} {one two : List (Effect L)} (first : s.Follows t one)
    (second : t.Follows u two) : s.Follows u (one ++ two) where
  effects := by rw [second.effects, first.effects, List.append_assoc]
  history := by rw [second.history, first.history, ChatHistory.replay_append]

theorem run_library {α : Type} (e : Exception) (result : Option α) (s : Step L) :
    (library e result : Program L α).run s =
      match result with
      | some a => .ok a s
      | none => .error e s := by
  cases result <;> rfl

theorem run_emit (effect : Effect L) (s : Step L) :
    (emit effect).run s = .ok () { s with effects := s.effects ++ [effect] } := rfl

theorem send_to_run (env : Environment L) (purpose : Purpose) (buffer : Bytes) (endpoint : Endpoint L) (s : Step L) :
    (send_to env purpose buffer endpoint).run s =
      if buffer.length ≤ 65507 ∧ env.accepts s.effects.length = true then
        .ok () { s with effects := s.effects ++ [.send_to purpose buffer endpoint] }
      else .error .system_error s := by
  unfold send_to
  rw [EStateM.run_bind, EStateM.run_get]
  simp only [run_ite]
  rfl

/-- The endpoint that `start_hole_punching` starts a loop for, when it does not throw. -/
def Config.punched (config : Config L) (env : Environment L) (sent : Nat) (ip : Bytes) (port : UInt16) :
    Option (Endpoint L) :=
  match L.make_address ip with
  | some address => if config.buffer_.length ≤ 65507 ∧ env.accepts sent = true then some ⟨address, port⟩ else none
  | none => none

/-- The step after a loop was started. -/
def Step.punch (s : Step L) (config : Config L) (endpoint : Endpoint L) : Step L where
  node := { s.node with timers := s.node.timers ++ [endpoint] }
  effects := s.effects ++ [.send_to .hole_punch config.buffer_ endpoint]

theorem hole_punch_run (config : Config L) (env : Environment L) (endpoint : Endpoint L) (s : Step L) :
    (hole_punch config env endpoint).run s =
      if config.buffer_.length ≤ 65507 ∧ env.accepts s.effects.length = true then .ok () (s.punch config endpoint)
      else .error .system_error s := by
  unfold hole_punch
  rw [EStateM.run_bind, send_to_run]
  by_cases taken : config.buffer_.length ≤ 65507 ∧ env.accepts s.effects.length = true
  · rw [if_pos taken, if_pos taken]
    rfl
  · rw [if_neg taken, if_neg taken]

theorem start_hole_punching_run (config : Config L) (env : Environment L) (ip : Bytes) (port : UInt16) (s : Step L) :
    (start_hole_punching config env ip port).run s =
      match config.punched env s.effects.length ip port with
      | some endpoint => .ok () (s.punch config endpoint)
      | none => .error .system_error s := by
  unfold start_hole_punching Config.punched
  rw [EStateM.run_bind, run_library]
  cases L.make_address ip with
  | none => rfl
  | some address =>
    simp only [hole_punch_run]
    split <;> rfl

/-- The timer that expired is taken away, and a refused datagram leaves it at that. -/
theorem timer_handler_run (config : Config L) (env : Environment L) (endpoint : Endpoint L) (s : Step L) :
    (timer_handler config env endpoint).run s =
      let expired := { s with node := { s.node with timers := s.node.timers.erase endpoint } }
      if config.buffer_.length ≤ 65507 ∧ env.accepts s.effects.length = true then .ok () (expired.punch config endpoint)
      else .error .system_error expired := by
  unfold timer_handler
  rw [EStateM.run_bind, run_modify]
  exact hole_punch_run config env endpoint _

theorem start_hole_punching_follows (config : Config L) (env : Environment L) (ip : Bytes) (port : UInt16) (s : Step L) :
    s.Follows (after ((start_hole_punching config env ip port).run s)) [] ∨
      ∃ endpoint, s.Follows (after ((start_hole_punching config env ip port).run s))
        [.send_to .hole_punch config.buffer_ endpoint] := by
  rw [start_hole_punching_run]
  cases config.punched env s.effects.length ip port with
  | none => exact .inl (Step.Follows.refl s)
  | some endpoint => exact .inr ⟨endpoint, rfl, rfl⟩

theorem timer_handler_follows (config : Config L) (env : Environment L) (endpoint : Endpoint L) (s : Step L) :
    s.Follows (after ((timer_handler config env endpoint).run s)) [] ∨
      s.Follows (after ((timer_handler config env endpoint).run s)) [.send_to .hole_punch config.buffer_ endpoint] := by
  rw [timer_handler_run]
  by_cases taken : config.buffer_.length ≤ 65507 ∧ env.accepts s.effects.length = true
  · simp only [if_pos taken]
    exact .inr ⟨rfl, rfl⟩
  · simp only [if_neg taken]
    exact .inl ⟨(List.append_nil _).symm, rfl⟩

/-- The effects of the receive handler on a message whose source key is known. -/
def Config.receiveEffects (config : Config L) (message : Message) (source : L.PublicKey) : List (Effect L) :=
  .receive_handler message ::
    if L.publicKey message.destination_public_key = some (config.public_key) then
      [.append .received (L.getId source) message.source_login message.payload.text,
        .listen_login_handler message.source_login (L.getId source), .receive_message_handler message]
    else []

/-- The step after the receive handler. -/
def Step.received (s : Step L) (config : Config L) (message : Message) (source : L.PublicKey) : Step L where
  node :=
    if L.publicKey message.destination_public_key = some (config.public_key) then
      { s.node with
        chat_history_ := s.node.chat_history_.append (L.getId source) message.source_login message.payload.text }
    else s.node
  effects := s.effects ++ config.receiveEffects message source

theorem receive_handler_after (config : Config L) {message : Message} {source : L.PublicKey}
    (parsed : L.publicKey message.source_public_key = some source) (s : Step L) :
    after ((receive_handler config message).run s) = s.received config message source := by
  unfold receive_handler Step.received Config.receiveEffects
  rw [EStateM.run_bind, run_emit]
  simp only [EStateM.run_bind, run_library]
  cases L.publicKey message.destination_public_key with
  | none => rfl
  | some public_key =>
    simp only [run_ite, Option.some.injEq]
    by_cases mine : public_key = config.public_key
    · simp only [if_pos mine, parsed, EStateM.run_bind, run_library, appendHistory, run_modify, run_emit,
        List.append_assoc]
      rfl
    · simp only [if_neg mine]
      rfl

/-- The entries that the appends among some effects make under a key id. -/
def appendedEntries (id : L.InfoHash) (effects : List (Effect L)) : List (Bytes × Bytes) :=
  effects.filterMap fun effect => match effect with
    | .append _ public_key_id login text => if id = public_key_id then some (login, text) else none
    | _ => none

theorem ChatHistory.entries_replay (history : ChatHistory L) (effects : List (Effect L)) (id : L.InfoHash) :
    (history.replay effects).entries id = history.entries id ++ appendedEntries id effects := by
  induction effects generalizing history with
  | nil => exact (List.append_nil _).symm
  | cons effect effects ih =>
    cases effect with
    | append origin public_key_id login text =>
      show ((history.append public_key_id login text).replay effects).entries id = _
      rw [ih, entries_append]
      by_cases same : id = public_key_id
      · simp [same, appendedEntries]
      · simp [same, appendedEntries]
    | _ => exact ih history

theorem mem_appendedEntries {id : L.InfoHash} {effects : List (Effect L)} {login text : Bytes} :
    (login, text) ∈ appendedEntries id effects ↔ ∃ origin, .append origin id login text ∈ effects := by
  unfold appendedEntries
  rw [List.mem_filterMap]
  constructor
  · rintro ⟨effect, member, made⟩
    cases effect with
    | append origin public_key_id otherLogin otherText =>
      simp only at made
      split_ifs at made with same
      cases made
      subst same
      exact ⟨origin, member⟩
    | _ => cases made
  · rintro ⟨origin, member⟩
    exact ⟨_, member, if_pos rfl⟩

theorem follows_punch (s : Step L) (config : Config L) (endpoint : Endpoint L) :
    s.Follows (s.punch config endpoint) [.send_to .hole_punch config.buffer_ endpoint] := ⟨rfl, rfl⟩

theorem follows_received (s : Step L) (config : Config L) (message : Message) (source : L.PublicKey) :
    s.Follows (s.received config message source) (config.receiveEffects message source) := by
  refine ⟨rfl, ?_⟩
  unfold Step.received Config.receiveEffects
  split <;> rfl

/-- The effects of the sender's handler. -/
def sendEffects (message : Message) : List (Effect L) :=
  .send_handler message ::
    match L.publicKey message.destination_public_key with
    | some public_key =>
      [.append .sent (L.getId public_key) message.source_login message.payload.text, .send_message_handler message]
    | none => []

theorem send_handler_follows (message : Message) (s : Step L) :
    s.Follows (after ((send_handler message).run s)) (sendEffects message) := by
  unfold send_handler sendEffects
  rw [EStateM.run_bind, run_emit]
  simp only [EStateM.run_bind, run_library]
  cases L.publicKey message.destination_public_key with
  | none => exact ⟨rfl, rfl⟩
  | some public_key =>
    simp only [appendHistory, EStateM.run_bind, run_modify, run_emit]
    exact ⟨by simp [after], rfl⟩

end P2PMessenger
