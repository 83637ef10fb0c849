import P2PMessenger.Receiver
import P2PMessenger.Runs
import P2PMessenger.Sample
import P2PMessenger.Sender

/-!
Any number of nodes on a network of datagrams. A node's handlers run one at a time: its
receiver has one wait outstanding, and what a send shares with the receiver is behind
locks. A datagram goes to the node that its endpoint leads to, from whatever endpoint
that node sees. The network may also drop, duplicate and make up datagrams; which of
this a run contains is said where it matters.
-/
namespace P2PMessenger
open Octets Memory Layout Throwing Runs

/-- The nodes of a network, and the node that an endpoint leads to. -/
structure Setting (ν : Type) (L : Libraries) where
  config : ν → Config L
  owner : Endpoint L → Option ν

/-- A datagram on its way, and the call of `send_message` that it comes from, if any.
    No node sees the call. -/
structure Packet (L : Libraries) where
  buffer : Bytes
  endpoint : Endpoint L
  call : Option Nat
  deriving DecidableEq

inductive Event (ν : Type) (L : Libraries) where
  /-- A call of `send_message`, numbered from 0 on. -/
  | called (n : ν) (call : Nat) (destination_address destination_login : Bytes) (public_key : L.PublicKey) (text : Bytes)
  /-- An effect at a node, and the call whose datagram it handles or makes. -/
  | did (n : ν) (call : Option Nat) (effect : Effect L)
  deriving DecidableEq

structure Network (ν : Type) (L : Libraries) where
  nodes : ν → Node L
  /-- The nodes that an exception has stopped. -/
  stopped : ν → Bool
  packets : List (Packet L)
  calls : Nat
  log : List (Event ν L)

inductive Action (ν : Type) (L : Libraries) where
  | send_message (n : ν) (env : Environment L) (destination_address destination_login : Bytes)
      (public_key : L.PublicKey) (text : Bytes)
  | receive (n : ν) (env : Environment L) (packet : Packet L) (remote_endpoint : Endpoint L)
  /-- The last lines of the constructor: a loop for the relay node. -/
  | start (n : ν) (env : Environment L)
  | timer (n : ν) (env : Environment L) (endpoint : Endpoint L)
  | drop (packet : Packet L)
  | duplicate (packet : Packet L)
  | inject (buffer : Bytes) (endpoint : Endpoint L)

variable {ν : Type} [DecidableEq ν] {L : Libraries}

def Network.initial (ν : Type) (L : Libraries) : Network ν L where
  nodes _ := Node.initial L
  stopped _ := false
  packets := []
  calls := 0
  log := []

/-- The datagrams among some effects. Those of the hole puncher belong to no call. -/
def sentPackets (call : Option Nat) (effects : List (Effect L)) : List (Packet L) :=
  effects.filterMap fun effect => match effect with
    | .send_to .hole_punch buffer endpoint => some ⟨buffer, endpoint, none⟩
    | .send_to _ buffer endpoint => some ⟨buffer, endpoint, call⟩
    | _ => none

/-- The network after a handler of a node. -/
def Network.did (s : Network ν L) (n : ν) (call : Option Nat) (result : EStateM.Result Exception (Step L) Unit) :
    Network ν L where
  nodes := Function.update s.nodes n (after result).node
  stopped := if returns result then s.stopped else Function.update s.stopped n true
  packets := s.packets ++ sentPackets call (after result).effects
  calls := s.calls
  log := s.log ++ (after result).effects.map (.did n call)

def step (setting : Setting ν L) (s : Network ν L) : Action ν L → Option (Network ν L)
  | .send_message n env destination_address destination_login public_key text =>
    if s.stopped n then none
    else
      let called : Network ν L :=
        { s with
          calls := s.calls + 1
          log := s.log ++ [.called n s.calls destination_address destination_login public_key text] }
      some (called.did n (some s.calls)
        ((send_message (setting.config n) env destination_address destination_login public_key text).run
          ⟨s.nodes n, []⟩))
  | .receive n env packet remote_endpoint =>
    if s.stopped n = false ∧ packet ∈ s.packets ∧ setting.owner packet.endpoint = some n then
      let received := { s with packets := s.packets.erase packet }
      some (received.did n packet.call
        ((async_wait_handler (setting.config n) env (.whole packet.buffer remote_endpoint)).run ⟨s.nodes n, []⟩))
    else none
  | .start n env =>
    if s.stopped n = false ∧ (setting.config n).relay_node_ip_ ≠ [] then
      some (s.did n none
        ((start_hole_punching (setting.config n) env (setting.config n).relay_node_ip_
          (setting.config n).relay_node_port_).run ⟨s.nodes n, []⟩))
    else none
  | .timer n env endpoint =>
    if s.stopped n = false ∧ endpoint ∈ (s.nodes n).timers then
      some (s.did n none ((timer_handler (setting.config n) env endpoint).run ⟨s.nodes n, []⟩))
    else none
  | .drop packet => if packet ∈ s.packets then some { s with packets := s.packets.erase packet } else none
  | .duplicate packet => if packet ∈ s.packets then some { s with packets := packet :: s.packets } else none
  | .inject buffer endpoint => some { s with packets := s.packets ++ [⟨buffer, endpoint, none⟩] }

/-! ## What a step can do -/

/-- A handler of a node ran with these effects. -/
structure Network.Ran (s t : Network ν L) (n : ν) (call : Option Nat) (added : List (Effect L)) : Prop where
  log : t.log = s.log ++ added.map (.did n call)
  packets : t.packets = s.packets ++ sentPackets call added
  calls : t.calls = s.calls
  history : (t.nodes n).chat_history_ = (s.nodes n).chat_history_.replay added
  others : ∀ m, m ≠ n → t.nodes m = s.nodes m

/-- What a taken action did. -/
inductive Takes (setting : Setting ν L) (s t : Network ν L) : Action ν L → Prop where
  | called {n : ν} {env : Environment L} {destination_address destination_login : Bytes} {public_key : L.PublicKey}
      {text : Bytes} (added : List (Effect L))
      (effects : match composed (setting.config n) env destination_address destination_login public_key text with
        | .error _ => added = []
        | .ok (message, inner) => Cut added ((setting.config n).callEffects message inner))
      (ran : Network.Ran { s with
          calls := s.calls + 1
          log := s.log ++ [.called n s.calls destination_address destination_login public_key text] }
        t n (some s.calls) added) :
      Takes setting s t (.send_message n env destination_address destination_login public_key text)
  | received {n : ν} {env : Environment L} {packet : Packet L} {remote_endpoint : Endpoint L} (added : List (Effect L))
      (there : packet ∈ s.packets) (owned : setting.owner packet.endpoint = some n)
      (handling : Handling (setting.config n) (s.nodes n).metadata_ip_resolver_ packet.buffer added)
      (ran : Network.Ran { s with packets := s.packets.erase packet } t n packet.call added) :
      Takes setting s t (.receive n env packet remote_endpoint)
  | punched {n : ν} {a : Action ν L} (added : List (Effect L))
      (punches : ∀ effect ∈ added, ∃ endpoint, effect = .send_to .hole_punch (setting.config n).buffer_ endpoint)
      (ran : s.Ran t n none added) : Takes setting s t a
  | dropped {packet : Packet L} (there : packet ∈ s.packets) (same : t = { s with packets := s.packets.erase packet }) :
      Takes setting s t (.drop packet)
  | duplicated {packet : Packet L} (there : packet ∈ s.packets) (same : t = { s with packets := packet :: s.packets }) :
      Takes setting s t (.duplicate packet)
  | injected {buffer : Bytes} {endpoint : Endpoint L}
      (same : t = { s with packets := s.packets ++ [⟨buffer, endpoint, none⟩] }) :
      Takes setting s t (.inject buffer endpoint)

theorem ran_did (s : Network ν L) {n : ν} (call : Option Nat) {result : EStateM.Result Exception (Step L) Unit}
    {added : List (Effect L)} (follows : (⟨s.nodes n, []⟩ : Step L).Follows (after result) added) :
    s.Ran (s.did n call result) n call added where
  log := by
    have effects : (after result).effects = added := follows.effects
    rw [Network.did, effects]
  packets := by
    have effects : (after result).effects = added := follows.effects
    rw [Network.did, effects]
  calls := rfl
  history := by
    show (Function.update s.nodes n (after result).node n).chat_history_ = _
    rw [Function.update_self]
    exact follows.history
  others m different := Function.update_of_ne different _ _

theorem takes_of_step {setting : Setting ν L} {s t : Network ν L} {a : Action ν L} (taken : step setting s a = some t) :
    Takes setting s t a := by
  cases a with
  | send_message n env destination_address destination_login public_key text =>
    simp only [step] at taken
    split_ifs at taken with stopped
    obtain rfl := Option.some.inj taken
    obtain ⟨u, added, run, follows, effects⟩ :=
      send_message_run (setting.config n) env destination_address destination_login public_key text ⟨s.nodes n, []⟩
    refine .called added effects (ran_did _ _ ?_)
    rw [run]
    exact follows
  | receive n env packet remote_endpoint =>
    simp only [step] at taken
    split_ifs at taken with ready
    obtain rfl := Option.some.inj taken
    obtain ⟨added, follows, handling⟩ :=
      async_wait_handler_handling (setting.config n) env packet.buffer remote_endpoint ⟨s.nodes n, []⟩
    exact .received added ready.2.1 ready.2.2 handling (ran_did _ _ follows)
  | start n env =>
    simp only [step] at taken
    split_ifs at taken with ready
    obtain rfl := Option.some.inj taken
    rcases start_hole_punching_follows (setting.config n) env (setting.config n).relay_node_ip_
      (setting.config n).relay_node_port_ ⟨s.nodes n, []⟩ with follows | ⟨endpoint, follows⟩
    · exact .punched [] (by simp) (ran_did _ _ follows)
    · exact .punched _ (by simp) (ran_did _ _ follows)
  | timer n env endpoint =>
    simp only [step] at taken
    split_ifs at taken with ready
    obtain rfl := Option.some.inj taken
    rcases timer_handler_follows (setting.config n) env endpoint ⟨s.nodes n, []⟩ with follows | follows
    · exact .punched [] (by simp) (ran_did _ _ follows)
    · exact .punched _ (by simp) (ran_did _ _ follows)
  | drop packet =>
    simp only [step] at taken
    split_ifs at taken with there
    exact .dropped there (Option.some.inj taken).symm
  | duplicate packet =>
    simp only [step] at taken
    split_ifs at taken with there
    exact .duplicated there (Option.some.inj taken).symm
  | inject buffer endpoint => exact .injected (Option.some.inj taken).symm

/-! ## Histories and the log -/

/-- The effects at a node, in the order of the log. -/
def effectsAt (n : ν) (log : List (Event ν L)) : List (Effect L) :=
  log.filterMap fun event => match event with
    | .did m _ effect => if m = n then some effect else none
    | .called .. => none

/-- Every history is what the appends in the log make of an empty one. -/
def Network.Recorded (s : Network ν L) : Prop :=
  ∀ n, (s.nodes n).chat_history_ = ChatHistory.empty.replay (effectsAt n s.log)

theorem effectsAt_append (n : ν) (one two : List (Event ν L)) :
    effectsAt n (one ++ two) = effectsAt n one ++ effectsAt n two := List.filterMap_append

theorem effectsAt_map_self (n : ν) (call : Option Nat) (effects : List (Effect L)) :
    effectsAt n (effects.map (.did n call)) = effects := by
  induction effects with
  | nil => rfl
  | cons effect effects ih =>
    unfold effectsAt at ih ⊢
    simp [ih]

theorem effectsAt_map_other {n m : ν} (different : m ≠ n) (call : Option Nat) (effects : List (Effect L)) :
    effectsAt n (effects.map (.did m call)) = [] := by
  unfold effectsAt
  simp [different]

/-- A handler whose effects are all in the log keeps the histories recorded. -/
theorem Network.Recorded.ran {s t : Network ν L} (recorded : s.Recorded) {n : ν} {call : Option Nat}
    {added : List (Effect L)} (ran : s.Ran t n call added) : t.Recorded := by
  intro m
  rw [ran.log, effectsAt_append]
  by_cases same : m = n
  · subst same
    rw [ran.history, effectsAt_map_self, recorded m, ChatHistory.replay_append]
  · rw [ran.others m same, effectsAt_map_other (Ne.symm same), List.append_nil]
    exact recorded m

theorem recorded_initial : (Network.initial ν L).Recorded := fun _ => rfl

theorem recorded_step {setting : Setting ν L} {s t : Network ν L} {a : Action ν L} (recorded : s.Recorded)
    (taken : step setting s a = some t) : t.Recorded := by
  cases takes_of_step taken with
  | called added effects ran =>
    refine Network.Recorded.ran (fun m => ?_) ran
    rw [effectsAt_append]
    exact (recorded m).trans (congrArg _ (List.append_nil _).symm)
  | received added there owned handling ran =>
    refine Network.Recorded.ran ?_ ran
    exact recorded
  | punched added punches ran => exact recorded.ran ran
  | dropped there same =>
    subst same
    exact recorded
  | duplicated there same =>
    subst same
    exact recorded
  | injected same =>
    subst same
    exact recorded

/-- What a history holds under a key id was appended at its node, in this order. -/
theorem Network.Recorded.entries {s : Network ν L} (recorded : s.Recorded) (n : ν) (id : L.InfoHash) :
    (s.nodes n).chat_history_.entries id = appendedEntries id (effectsAt n s.log) := by
  rw [recorded n, ChatHistory.entries_replay]
  rfl

theorem mem_effectsAt {n : ν} {log : List (Event ν L)} {effect : Effect L} :
    effect ∈ effectsAt n log ↔ ∃ call, .did n call effect ∈ log := by
  unfold effectsAt
  rw [List.mem_filterMap]
  constructor
  · rintro ⟨event, logged, seen⟩
    cases event with
    | called => cases seen
    | did m call other =>
      simp only at seen
      split_ifs at seen with same
      cases seen
      subst same
      exact ⟨call, logged⟩
  · rintro ⟨call, logged⟩
    exact ⟨_, logged, if_pos rfl⟩

theorem Network.Recorded.appended {s : Network ν L} (recorded : s.Recorded) {n : ν} {public_key_id : L.InfoHash}
    {login text : Bytes} (entry : (login, text) ∈ (s.nodes n).chat_history_.entries public_key_id) :
    ∃ call origin, .did n call (.append origin public_key_id login text) ∈ s.log := by
  rw [recorded.entries] at entry
  obtain ⟨origin, member⟩ := mem_appendedEntries.mp entry
  obtain ⟨call, logged⟩ := mem_effectsAt.mp member
  exact ⟨call, origin, logged⟩

/-! ## A sample network -/

namespace Sample

inductive Party where
  | sender
  | relay
  | receiver
  deriving DecidableEq, Repr

/-- The sample sender and receiver, and a relay node at 10.0.0.3:5001 for the sender. -/
def setting : Setting Party libraries where
  config
    | .sender => { sender with relay_node_ip_ := [49, 48, 46, 48, 46, 48, 46, 51], relay_node_port_ := 5001 }
    | .relay =>
      { my_login_ := [114], my_ip_ := [49, 48, 46, 48, 46, 48, 46, 51], my_port_ := 5001, relay_node_ip_ := [],
        relay_node_port_ := 0, relay_ := true, private_key_ := 8 }
    | .receiver => receiver
  owner endpoint :=
    if endpoint.port = 3001 then some .sender
    else if endpoint.port = 4001 then some .receiver
    else if endpoint.port = 5001 then some .relay
    else none

/-- The call that sends the message. -/
def call : Action Party libraries :=
  .send_message .sender environment destination_address message.destination_login receiver.public_key message.payload.text

/-- The copy for the receiver, which the relay node's copy also becomes. -/
def direct : Packet libraries := ⟨datagram, ⟨(127, 0, 0, 1), 4001⟩, some 0⟩

/-- The copy for the relay node. -/
def detour : Packet libraries := ⟨datagram, ⟨(10, 0, 0, 3), 5001⟩, some 0⟩

/-- The events of the call, and of the receiver when it handles the first copy. -/
def delivered : List (Event Party libraries) :=
  [.called .sender 0 destination_address message.destination_login receiver.public_key message.payload.text,
    .did .sender (some 0) (.sign inner),
    .did .sender (some 0) (.send_to .message datagram direct.endpoint),
    .did .sender (some 0) (.send_to .message datagram detour.endpoint),
    .did .sender (some 0) (.send_handler message),
    .did .sender (some 0) (.append .sent receiver.public_key message.source_login message.payload.text),
    .did .sender (some 0) (.send_message_handler message),
    .did .receiver (some 0) (.send_to .hole_punch receiver.buffer_ ⟨(127, 0, 0, 1), 3001⟩),
    .did .receiver (some 0) (.receive_handler message),
    .did .receiver (some 0) (.append .received sender.public_key message.source_login message.payload.text),
    .did .receiver (some 0) (.listen_login_handler message.source_login sender.public_key),
    .did .receiver (some 0) (.receive_message_handler message),
    .did .receiver (some 0) .async_wait]

end Sample

end P2PMessenger
