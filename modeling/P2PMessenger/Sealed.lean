import P2PMessenger.Messenger
import P2PMessenger.Wire

/-!
What leaves a messenger depends on its texts only through their encryptions. The sealed
messenger never sees a text: it gets a message to send as a function from keys to
ciphertexts, learns of a message to it whether the payload opens, and keeps no
conversation. It puts out the same datagrams.
-/
namespace P2PMessenger
open Octets Throwing Refinement

variable {L : Libraries}

/-- What leaves a node: a datagram, or octets for a signature. -/
inductive Outgoing (L : Libraries) where
  | sign (buffer : Bytes)
  | send_to (purpose : Purpose) (buffer : Bytes) (endpoint : Endpoint L)
  deriving DecidableEq

def Effect.outgoing : Effect L → Option (Outgoing L)
  | .sign buffer => some (.sign buffer)
  | .send_to purpose buffer endpoint => some (.send_to purpose buffer endpoint)
  | _ => none

def outgoing (effects : List (Effect L)) : List (Outgoing L) := effects.filterMap Effect.outgoing

/-- A messenger without its conversations. -/
structure Sealed (L : Libraries) where
  metadata_ip_resolver_ : MetadataIpResolver L
  dht_ip_resolver_ : DhtIpResolver L
  timers : List (Endpoint L)

def Messenger.sealed (m : Messenger L) : Sealed L := ⟨m.node.metadata_ip_resolver_, m.dht_ip_resolver_, m.node.timers⟩

/-- A messenger that has no conversation. -/
def Sealed.messenger (s : Sealed L) : Messenger L := ⟨⟨s.metadata_ip_resolver_, .empty, s.timers⟩, s.dht_ip_resolver_⟩

inductive SealedTask (L : Libraries) where
  | start (env : Environment L)
  /-- A datagram, and whether its payload opens. -/
  | receive (env : Environment L) (buffer : Bytes) (remote_endpoint : Endpoint L) (opens : Bool)
  | timer (env : Environment L) (endpoint : Endpoint L)
  | listen_callback (login : Bytes) (values : List (DhtValue L)) (expired : Bool)
  /-- A message that is known by its encryptions. -/
  | send_message (env : Environment L) (login : Bytes) (public_key_id : L.InfoHash)
      (encrypted : L.PublicKey → Option Bytes)

/-- The payload of a datagram for this node decrypts and parses. -/
def Config.opens (config : Config L) (env : Environment L) (buffer : Bytes) : Bool :=
  match signed_message_from_buffer buffer env.beyond with
  | .ok signed_message =>
    (message_from_buffer L signed_message.message env.beyond_message config.private_key_).isOk
  | .error _ => false

/-- A task without the text in it. -/
def Config.sealing (config : Config L) : Task L → SealedTask L
  | .start env => .start env
  | .receive env buffer remote_endpoint => .receive env buffer remote_endpoint (config.opens env buffer)
  | .timer env endpoint => .timer env endpoint
  | .listen_callback login values expired => .listen_callback login values expired
  | .send_message env login public_key_id message =>
    .send_message env login public_key_id fun public_key =>
      L.encrypt env.seed public_key (payload_to_buffer L ⟨1700000000, message⟩)

/-- What a datagram is read as without its payload. -/
def sealedReading (config : Config L) (env : Environment L) (buffer : Bytes) (opens : Bool) : Reading L :=
  match signed_message_from_buffer buffer env.beyond with
  | .error _ => .metadata
  | .ok signed_message =>
    let header := checked L signed_message
      (message_with_not_decrypted_payload_from_buffer signed_message.message env.beyond_message)
    if destinantion_public_key_from_buffer signed_message.message env.beyond_message = config.public_key_string then
      match header with
      | .ok (message, public_key, true) => if opens then .accepted message public_key else .dropped
      | _ => .dropped
    else
      match header with
      | .ok (message, _, true) => .transit message
      | .ok _ => .dropped
      | .error _ => .metadata

/-- A loop is started, when its endpoint is known and the socket takes its datagram. -/
def Sealed.punch (s : Sealed L) (config : Config L) : Option (Endpoint L) → Sealed L × List (Outgoing L)
  | some endpoint => ({ s with timers := s.timers ++ [endpoint] }, [.send_to .hole_punch config.buffer_ endpoint])
  | none => (s, [])

def Sealed.put (s : Sealed L) (login : Bytes) (public_key : L.PublicKey) (ip : Bytes) (port : UInt16) : Sealed L :=
  { s with metadata_ip_resolver_ := s.metadata_ip_resolver_.put login public_key ip port }

/-- A datagram of this reading. -/
def Sealed.received (s : Sealed L) (config : Config L) (env : Environment L) (buffer : Bytes) (remote_endpoint : Endpoint L) :
    Reading L → Sealed L × List (Outgoing L)
  | .accepted message public_key =>
    let port := sourcePort message remote_endpoint
    (s.put message.source_login public_key message.source_ip port).punch config
      (config.punched env 0 message.source_ip port)
  | .transit message =>
    match nextHop s.metadata_ip_resolver_ message with
    | some endpoint =>
      if config.relay_ = true ∧ buffer.length ≤ 65507 ∧ env.accepts 0 = true then (s, [.send_to .relay buffer endpoint])
      else (s, [])
    | none => (s, [])
  | .dropped => (s, [])
  | .metadata =>
    match L.publicKey (metadata_from_buffer buffer env.beyond).2 with
    | some public_key =>
      (s.put (metadata_from_buffer buffer env.beyond).1 public_key (L.to_string remote_endpoint.address)
        remote_endpoint.port, [])
    | none => (s, [])

/-- What a call sends when its payload encrypts to these octets. No text is in the message. -/
def Config.sealedCall (config : Config L) (env : Environment L) (address login : Bytes) (public_key : L.PublicKey)
    (payload_buffer : Option Bytes) : List (Outgoing L) :=
  match get_ip_and_port_from_address address, payload_buffer with
  | .ok (ip, port), some payload_buffer =>
    let message := config.message ip port login public_key []
    outgoing (performed env 0 (config.callEffects message (message_block message payload_buffer).vector))
  | _, _ => []

/-- The messenger that never sees a text. -/
def conceal (config : Config L) : Machine (Sealed L) (SealedTask L) (Outgoing L)
  | s, .start env =>
    if config.relay_node_ip_ ≠ [] then
      some (s.punch config (config.punched env 0 config.relay_node_ip_ config.relay_node_port_))
    else none
  | s, .receive env buffer remote_endpoint opens =>
    some (s.received config env buffer remote_endpoint (sealedReading config env buffer opens))
  | s, .timer env endpoint =>
    if 0 < s.timers.count endpoint then
      some (({ s with timers := s.timers.erase endpoint } : Sealed L).punch config
        (if config.buffer_.length ≤ 65507 ∧ env.accepts 0 = true then some endpoint else none))
    else none
  | s, .listen_callback login values expired =>
    some ({ s with dht_ip_resolver_ := after ((DhtIpResolver.listen_callback login values expired).run s.dht_ip_resolver_) }, [])
  | s, .send_message env login public_key_id encrypted =>
    match s.messenger.resolve login public_key_id with
    | none => some (s, [])
    | some address =>
      match s.messenger.get_public_key_by_public_key_id public_key_id with
      | some public_key => some (s, config.sealedCall env address login public_key (encrypted public_key))
      | none =>
        match get_ip_and_port_from_address address with
        | .ok _ => none
        | .error _ => some (s, [])

/-! ## Readings -/

/-- A reading without the payload of its message. -/
def Reading.header : Reading L → Reading L
  | .accepted message public_key => .accepted message.header public_key
  | reading => reading

theorem checked_header (signed_message : SignedMessage) (message : Message) :
    checked L signed_message (.ok message.header) =
      (checked L signed_message (.ok message)).map fun found => (found.1.header, found.2) := by
  unfold checked
  simp only [bind, Except.bind, Message.header]
  cases L.publicKey message.source_public_key with
  | none => rfl
  | some public_key =>
    simp only [orThrow_some]
    cases check_signature L signed_message public_key <;> rfl

/-- The payload decides only whether a message is accepted. -/
theorem sealedReading_eq (config : Config L) (env : Environment L) (buffer : Bytes) :
    sealedReading config env buffer (config.opens env buffer) = (reading config env buffer).header := by
  unfold sealedReading reading Config.opens
  cases signed_message_from_buffer buffer env.beyond with
  | error e => rfl
  | ok signed_message =>
    simp only
    by_cases mine : destinantion_public_key_from_buffer signed_message.message env.beyond_message = config.public_key_string
    · rw [if_pos mine, if_pos mine]
      obtain ⟨decoded, read⟩ : ∃ decoded,
          message_from_buffer L signed_message.message env.beyond_message config.private_key_ = decoded := ⟨_, rfl⟩
      cases decoded with
      | error e =>
        have closed : checked L signed_message (.error e : Except Exception Message) = .error e := rfl
        simp only [read, closed, Except.isOk, Except.toBool, Bool.false_eq_true, if_false]
        split <;> rfl
      | ok message =>
        obtain ⟨header, -⟩ := message_from_buffer_header read
        have same : ({ message with payload := .zero } : Message) = message.header := rfl
        simp only [read, header, same, Except.isOk, Except.toBool, if_true]
        rw [checked_header]
        cases checked L signed_message (.ok message) with
        | error e => rfl
        | ok found =>
          obtain ⟨message, public_key, verified⟩ := found
          cases verified <;> rfl
    · rw [if_neg mine, if_neg mine]
      cases checked L signed_message
          (message_with_not_decrypted_payload_from_buffer signed_message.message env.beyond_message) with
      | error e => rfl
      | ok found =>
        obtain ⟨message, public_key, verified⟩ := found
        cases verified <;> rfl

/-! ## What is seen of a task -/

theorem outgoing_append (one two : List (Effect L)) : outgoing (one ++ two) = outgoing one ++ outgoing two :=
  List.filterMap_append

theorem outgoing_receiveEffects (config : Config L) (message : Message) (public_key : L.PublicKey) :
    outgoing (config.receiveEffects message public_key) = [] := by
  unfold Config.receiveEffects
  split <;> rfl

/-- The socket refuses a datagram for its octets alone. -/
theorem refuses_eq (env : Environment L) (before : Nat) (effect : Effect L) :
    env.refuses before effect =
      match effect.outgoing with
      | some (.send_to _ buffer _) => !(decide (buffer.length ≤ 65507) && env.accepts before)
      | _ => false := by
  cases effect <;> rfl

/-- Effects that look alike are performed alike. -/
theorem performed_alike (env : Environment L) (before : Nat) {one two : List (Effect L)}
    (alike : one.map Effect.outgoing = two.map Effect.outgoing) :
    outgoing (performed env before one) = outgoing (performed env before two) := by
  induction one generalizing before two with
  | nil =>
    rw [List.map_nil] at alike
    rw [List.map_eq_nil_iff.mp alike.symm]
  | cons effect one ih =>
    cases two with
    | nil => cases alike
    | cons other two =>
      rw [List.map_cons, List.map_cons] at alike
      obtain ⟨same, rest⟩ := List.cons.inj alike
      have refused : env.refuses before effect = env.refuses before other := by rw [refuses_eq, refuses_eq, same]
      unfold performed
      rw [refused]
      by_cases refuses : env.refuses before other = true
      · rw [if_pos refuses, if_pos refuses]
      · rw [if_neg refuses, if_neg refuses]
        have later := ih (before + 1) rest
        unfold outgoing at later ⊢
        rw [List.filterMap_cons, List.filterMap_cons, same, later]

/-- A call looks the same whatever its text is, but for its octets. -/
theorem callEffects_alike (config : Config L) (ip : Bytes) (port : UInt16) (login : Bytes) (public_key : L.PublicKey)
    (one two inner : Bytes) :
    (config.callEffects (config.message ip port login public_key one) inner).map Effect.outgoing =
      (config.callEffects (config.message ip port login public_key two) inner).map Effect.outgoing := by
  have handler : ∀ text, (sendEffects (config.message ip port login public_key text) : List (Effect L)).map Effect.outgoing =
      (sendEffects (config.message ip port login public_key []) : List (Effect L)).map Effect.outgoing := by
    intro text
    unfold sendEffects Config.message
    cases L.publicKey (L.toString public_key) <;> rfl
  have relay : ∀ text buffer, (config.relayEffects (config.message ip port login public_key text) buffer).map Effect.outgoing =
      (config.relayEffects (config.message ip port login public_key []) buffer).map Effect.outgoing := by
    intro text buffer
    have same : (config.message ip port login public_key text).destination_ip =
        (config.message ip port login public_key []).destination_ip := rfl
    unfold Config.relayEffects
    rw [same]
    split_ifs
    · cases L.make_address config.relay_node_ip_ with
      | none => rfl
      | some address => rw [List.map_cons, List.map_cons, handler text]
    · exact handler text
  unfold Config.callEffects
  rw [List.map_cons, List.map_cons]
  refine congrArg _ ?_
  have same : (config.message ip port login public_key one).destination_ip =
      (config.message ip port login public_key two).destination_ip := rfl
  rw [same]
  cases L.sign config.private_key_ inner with
  | none => rfl
  | some signature =>
    cases L.make_address (config.message ip port login public_key two).destination_ip with
    | none => rfl
    | some address =>
      simp only [List.map_cons]
      rw [relay one, relay two]
      rfl

/-- What a call sends is told by the ciphertext of its text. -/
theorem outgoing_send_message (config : Config L) (env : Environment L) (address login : Bytes) (public_key : L.PublicKey)
    (text : Bytes) (node : Node L) :
    outgoing (after ((send_message config env address login public_key text).run ⟨node, []⟩)).effects =
      config.sealedCall env address login public_key
        (L.encrypt env.seed public_key (payload_to_buffer L ⟨1700000000, text⟩)) := by
  obtain ⟨t, added, run, follows, same⟩ := send_message_performed config env address login public_key text ⟨node, []⟩
  have effects : t.effects = added := follows.effects
  rw [run, after_ok, effects, same]
  unfold composed Config.sealedCall message_to_buffer payload_on_wire encrypt
  cases get_ip_and_port_from_address address with
  | error e => rfl
  | ok parsed =>
    obtain ⟨ip, port⟩ := parsed
    have payload : (config.message ip port login public_key text).payload = ⟨1700000000, text⟩ := rfl
    simp only [bind, Except.bind, payload]
    cases L.encrypt env.seed public_key (payload_to_buffer L ⟨1700000000, text⟩) with
    | none => rfl
    | some payload_buffer => exact performed_alike env 0 (callEffects_alike config ip port login public_key text [] _)

theorem sealed_punch (m : Messenger L) (config : Config L) (punched : Option (Endpoint L)) {s : Step L}
    (step : s = match punched with
      | some endpoint => (⟨m.node, []⟩ : Step L).punch config endpoint
      | none => ⟨m.node, []⟩) :
    (({ m with node := s.node } : Messenger L).sealed, outgoing s.effects) = m.sealed.punch config punched := by
  subst step
  cases punched <;> rfl

/-- What is seen of a datagram's handler is told by its reading without the payload. -/
theorem sealed_received (m : Messenger L) (config : Config L) (env : Environment L) (buffer : Bytes)
    (remote_endpoint : Endpoint L) :
    let s := after ((async_wait_handler config env (.whole buffer remote_endpoint)).run ⟨m.node, []⟩)
    (({ m with node := s.node } : Messenger L).sealed, outgoing s.effects) =
      m.sealed.received config env buffer remote_endpoint (reading config env buffer).header := by
  intro s
  unfold s
  rw [async_wait_handler_run]
  cases reading config env buffer with
  | accepted message public_key =>
    have port : sourcePort message.header remote_endpoint = sourcePort message remote_endpoint := rfl
    have ip : message.header.source_ip = message.source_ip := rfl
    simp only [after_ok, Reading.header, Sealed.received, port, ip, Step.listening, Messenger.sealed, accepted_resolver,
      accepted_timers, accepted_effects, List.length_nil, outgoing_append]
    cases config.punched env 0 message.source_ip (sourcePort message remote_endpoint) with
    | none =>
      simp [Sealed.punch, Sealed.put, outgoing, Effect.outgoing, Message.header]
    | some endpoint =>
      have silent := outgoing_receiveEffects config message public_key
      unfold outgoing at silent ⊢
      simp [Sealed.punch, Sealed.put, Effect.outgoing, silent, Message.header]
  | transit message =>
    have hop : nextHop m.sealed.metadata_ip_resolver_ message = nextHop m.node.metadata_ip_resolver_ message := rfl
    simp only [after_ok, Reading.header, Sealed.received, hop]
    by_cases relay : config.relay_ = true
    · rw [if_pos relay]
      unfold Step.relayed
      simp only [relay, true_and, List.length_nil]
      cases nextHop m.node.metadata_ip_resolver_ message with
      | none => rfl
      | some endpoint =>
        simp only
        split_ifs <;> rfl
    · rw [if_neg relay]
      simp only [relay]
      cases nextHop m.node.metadata_ip_resolver_ message <;> rfl
  | dropped => rfl
  | metadata =>
    simp only [Reading.header, Sealed.received]
    cases L.publicKey (metadata_from_buffer buffer env.beyond).2 <;> rfl

/-- The contacts that a callback announces stay inside. -/
theorem outgoing_listened (m : Messenger L) (resolver : DhtIpResolver L) : outgoing (m.listened resolver).2 = [] := by
  unfold outgoing Messenger.listened
  rw [List.filterMap_map, List.filterMap_eq_nil_iff]
  intro contact _
  rfl

/-- The sealed messenger is what can be seen of the messenger. -/
theorem conceal_abstracts (config : Config L) :
    Abstracts (conceal config) (work config) Messenger.sealed config.sealing Effect.outgoing := by
  intro m task
  cases task with
  | start env =>
    simp only [Config.sealing, conceal, work]
    split_ifs
    · refine congrArg some (sealed_punch m config _ ?_).symm
      rw [start_hole_punching_run]
      simp only [List.length_nil]
      cases config.punched env 0 config.relay_node_ip_ config.relay_node_port_ <;> rfl
    · rfl
  | receive env buffer remote_endpoint =>
    simp only [Config.sealing, conceal, work, sealedReading_eq]
    exact congrArg some (sealed_received m config env buffer remote_endpoint).symm
  | timer env endpoint =>
    simp only [Config.sealing, conceal, work]
    have timers : m.sealed.timers = m.node.timers := rfl
    rw [timers]
    by_cases there : 0 < m.node.timers.count endpoint
    · rw [if_pos there, if_pos there]
      refine congrArg some ?_
      have expired : ({ m.sealed with timers := m.node.timers.erase endpoint } : Sealed L) =
          ({ m with node := { m.node with timers := m.node.timers.erase endpoint } } : Messenger L).sealed := rfl
      rw [expired]
      refine (sealed_punch _ config _ ?_).symm
      rw [timer_handler_run]
      simp only [List.length_nil]
      by_cases taken : config.buffer_.length ≤ 65507 ∧ env.accepts 0 = true
      · rw [if_pos taken, if_pos taken]
        rfl
      · rw [if_neg taken, if_neg taken]
        rfl
    · rw [if_neg there, if_neg there]
      rfl
  | listen_callback login values expired =>
    simp only [Config.sealing, conceal, work, Option.map_some]
    have silent := outgoing_listened m (after ((DhtIpResolver.listen_callback login values expired).run m.dht_ip_resolver_))
    unfold outgoing at silent
    rw [silent]
    rfl
  | send_message env login public_key_id text =>
    have resolves : m.sealed.messenger.resolve login public_key_id = m.resolve login public_key_id := rfl
    have finds : m.sealed.messenger.get_public_key_by_public_key_id public_key_id =
        m.get_public_key_by_public_key_id public_key_id := rfl
    simp only [Config.sealing, conceal, work, Messenger.send_message, resolves, finds]
    cases m.resolve login public_key_id with
    | none => rfl
    | some address =>
      simp only
      cases m.get_public_key_by_public_key_id public_key_id with
      | none =>
        simp only
        cases get_ip_and_port_from_address address <;> rfl
      | some public_key =>
        have sent := outgoing_send_message config env address login public_key text m.node
        have resolver := keeps_of_send_message (f := fun s : Step L => s.node.metadata_ip_resolver_) (fun _ _ => rfl)
          (fun _ _ => rfl) config env address login public_key text ⟨m.node, []⟩
        have timers := keeps_of_send_message (f := fun s : Step L => s.node.timers) (fun _ _ => rfl) (fun _ _ => rfl) config
          env address login public_key text ⟨m.node, []⟩
        simp only [Option.map_some, Messenger.did, Messenger.sealed, resolver, timers]
        rw [← sent]
        rfl

/-- What leaves a messenger in any run is what leaves the sealed messenger, which sees of
    every text its encryptions at most; so two runs of the same tasks but for texts with the
    same encryptions, and for what the received texts say, look alike on the network. -/
theorem only_ciphertexts_leave (config : Config L) (m : Messenger L) :
    (∀ tasks, (conceal config).run m.sealed (tasks.map config.sealing) =
      ((work config).run m tasks).map fun worked => (worked.1.sealed, outgoing worked.2)) ∧
    ∀ (other : Messenger L) (one two : List (Task L)), m.sealed = other.sealed →
      one.map config.sealing = two.map config.sealing →
      (((work config).run m one).map fun worked => outgoing worked.2) =
        ((work config).run other two).map fun worked => outgoing worked.2 :=
  ⟨fun tasks => (conceal_abstracts config).run m tasks, fun _ _ _ start alike => (conceal_abstracts config).same_view start alike⟩

end P2PMessenger
