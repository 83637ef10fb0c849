import P2PMessenger.Delivery
import P2PMessenger.Listening

/-!
The addresses that a datagram stores. A message to this node stores its source, and
metadata stores the endpoint it came from; the later of two writes stays.
-/
namespace P2PMessenger
open Octets Memory Layout Throwing

variable {L : Libraries}

/-- The node after the handler of a datagram, also of one that throws. -/
def handle (config : Config L) (env : Environment L) (buffer : Bytes) (remote_endpoint : Endpoint L) (node : Node L) :
    Node L :=
  (after ((async_wait_handler config env (.whole buffer remote_endpoint)).run ⟨node, []⟩)).node

/-- The resolver after a datagram was handled. -/
theorem handle_resolver (config : Config L) (env : Environment L) (buffer : Bytes) (remote_endpoint : Endpoint L)
    (node : Node L) :
    (handle config env buffer remote_endpoint node).metadata_ip_resolver_ =
      match reading config env buffer with
      | .accepted message public_key =>
        node.metadata_ip_resolver_.put message.source_login public_key message.source_ip
          (sourcePort message remote_endpoint)
      | .metadata =>
        match L.publicKey (metadata_from_buffer buffer env.beyond).2 with
        | some public_key =>
          node.metadata_ip_resolver_.put (metadata_from_buffer buffer env.beyond).1 public_key
            (L.to_string remote_endpoint.address) remote_endpoint.port
        | none => node.metadata_ip_resolver_
      | _ => node.metadata_ip_resolver_ := by
  unfold handle
  rw [async_wait_handler_run]
  cases reading config env buffer with
  | accepted message public_key =>
    simp only [after_ok, Step.listening, accepted_resolver]
  | transit message =>
    simp only [after_ok, Step.listening]
    by_cases relay : config.relay_ = true
    · rw [if_pos relay, relayed_node]
    · rw [if_neg relay]
  | dropped => rfl
  | metadata =>
    simp only
    cases L.publicKey (metadata_from_buffer buffer env.beyond).2 <;> rfl

/-! ## The order of two copies -/

theorem resolve_handle_accepted {config : Config L} {buffer : Bytes} {message : Message} {public_key : L.PublicKey}
    (accepts : Accepts config buffer message public_key) (env : Environment L) (remote_endpoint : Endpoint L)
    (node : Node L) :
    (handle config env buffer remote_endpoint node).metadata_ip_resolver_.resolve message.source_login
        (L.getId public_key) =
      some (MetadataIpResolver.addressOf message.source_ip (sourcePort message remote_endpoint)) := by
  have read := (reading_eq_accepted config env buffer message public_key).mpr accepts
  have resolver := handle_resolver config env buffer remote_endpoint node
  simp only [read] at resolver
  rw [resolver, MetadataIpResolver.resolve_put_self]

/-- Of a direct and a relayed copy of one message, the copy that is handled last
    decides the stored address: the direct one stores the port it was observed with,
    the relayed one the port that the message declares. -/
theorem last_copy_decides {config : Config L} {buffer : Bytes} {message : Message} {public_key : L.PublicKey}
    (accepts : Accepts config buffer message public_key) (direct relay : Endpoint L)
    (observed : L.to_string direct.address = message.source_ip)
    (other : L.to_string relay.address ≠ message.source_ip) (one two three four : Environment L) (node : Node L) :
    let resolve (node : Node L) := node.metadata_ip_resolver_.resolve message.source_login (L.getId public_key)
    let relayLast := handle config two buffer relay (handle config one buffer direct node)
    let directLast := handle config four buffer direct (handle config three buffer relay node)
    resolve relayLast = some (MetadataIpResolver.addressOf message.source_ip message.source_port) ∧
    resolve directLast = some (MetadataIpResolver.addressOf message.source_ip direct.port) ∧
    (resolve relayLast = resolve directLast ↔ direct.port = message.source_port) := by
  intro resolve relayLast directLast
  have relayed : resolve relayLast = some (MetadataIpResolver.addressOf message.source_ip message.source_port) := by
    have stored := resolve_handle_accepted accepts two relay (handle config one buffer direct node)
    rwa [sourcePort, if_neg (Ne.symm other)] at stored
  have direct : resolve directLast = some (MetadataIpResolver.addressOf message.source_ip direct.port) := by
    have stored := resolve_handle_accepted accepts four direct (handle config three buffer relay node)
    rwa [sourcePort, if_pos observed.symm] at stored
  refine ⟨relayed, direct, ?_⟩
  rw [relayed, direct, Option.some.injEq, MetadataIpResolver.addressOf_inj, eq_comm]

/-- The endpoint of the sender behind a NAT that maps its port to 50000. -/
def natEndpoint : Endpoint Sample.libraries := ⟨(127, 0, 0, 1), 50000⟩

theorem last_copy_decides_sample :
    (handle Sample.receiver Sample.environment Sample.datagram Sample.elsewhere
        (handle Sample.receiver Sample.environment Sample.datagram natEndpoint
          (Node.initial _))).metadata_ip_resolver_.resolve Sample.message.source_login Sample.sender.public_key =
      some (MetadataIpResolver.addressOf Sample.message.source_ip 3001) :=
  (last_copy_decides sample_accepts natEndpoint Sample.elsewhere (by decide) (by decide) Sample.environment
    Sample.environment Sample.environment Sample.environment (Node.initial _)).1

/-- Behind the NAT the two orders leave different addresses. -/
theorem arrival_order_matters :
    (handle Sample.receiver Sample.environment Sample.datagram Sample.elsewhere
        (handle Sample.receiver Sample.environment Sample.datagram natEndpoint
          (Node.initial _))).metadata_ip_resolver_.resolve Sample.message.source_login (7 : UInt8) ≠
      (handle Sample.receiver Sample.environment Sample.datagram natEndpoint
        (handle Sample.receiver Sample.environment Sample.datagram Sample.elsewhere
          (Node.initial _))).metadata_ip_resolver_.resolve Sample.message.source_login (7 : UInt8) := by
  decide +kernel

/-! ## What a changed address rests on -/

/-- The datagram carries a signature that verifies, under a key with this id, over a
    message with this login. -/
def Authenticates (L : Libraries) (buffer login : Bytes) (id : L.InfoHash) : Prop :=
  ∃ (signed_message : SignedMessage) (message : Message) (payload_buffer : Bytes) (public_key : L.PublicKey),
    Starts signedLayout signed_message.fields buffer ∧
    Starts messageLayout (message.fields payload_buffer) signed_message.message ∧
    message.source_login = login ∧ L.getId public_key = id ∧
    L.checkSignature public_key signed_message.message signed_message.signature = some true

theorem reading_dropped_of_mine {config : Config L} {env : Environment L} {buffer : Bytes}
    {signed_message : SignedMessage} (frame : signed_message_from_buffer buffer env.beyond = .ok signed_message)
    (mine : destinantion_public_key_from_buffer signed_message.message env.beyond_message = config.public_key_string)
    (rejected : ∀ message public_key, ¬ Accepts config buffer message public_key) :
    reading config env buffer = .dropped := by
  cases read : reading config env buffer with
  | accepted message public_key =>
    exact absurd ((reading_eq_accepted _ _ _ _ _).mp read) (rejected message public_key)
  | transit message =>
    obtain ⟨found, payload_buffer, -, starts, inner, -, other, -, -⟩ := (reading_eq_transit _ _ _ _).mp read
    rw [signed_message_from_buffer_of_starts starts] at frame
    cases frame
    rw [destinantion_public_key_from_buffer_of_starts inner] at mine
    exact absurd mine other
  | dropped => rfl
  | metadata =>
    rcases (reading_eq_metadata _ _ _).mp read with ⟨e, throws⟩ | ⟨found, ok, other, -⟩
    · rw [frame] at throws
      cases throws
    · rw [frame] at ok
      cases ok
      exact absurd mine other

theorem reading_dropped_of_unverified {config : Config L} {env : Environment L} {buffer : Bytes}
    {signed_message : SignedMessage} {message : Message} {public_key : L.PublicKey}
    (frame : signed_message_from_buffer buffer env.beyond = .ok signed_message)
    (other : destinantion_public_key_from_buffer signed_message.message env.beyond_message ≠ config.public_key_string)
    (unverified : checked L signed_message
      (message_with_not_decrypted_payload_from_buffer signed_message.message env.beyond_message) =
        .ok (message, public_key, false)) :
    reading config env buffer = .dropped := by
  unfold reading
  simp only [frame, if_neg other, unverified]

theorem resolve_handle_changed {config : Config L} {env : Environment L} {buffer : Bytes} {remote_endpoint : Endpoint L}
    {node : Node L} {login : Bytes} {id : L.InfoHash}
    (changed : (handle config env buffer remote_endpoint node).metadata_ip_resolver_.resolve login id ≠
      node.metadata_ip_resolver_.resolve login id) :
    Authenticates L buffer login id ∨
    (ReadAsMetadata config env buffer ∧ ∃ public_key,
      (metadata_from_buffer buffer env.beyond).1 = login ∧
      L.publicKey (metadata_from_buffer buffer env.beyond).2 = some public_key ∧ L.getId public_key = id ∧
      (handle config env buffer remote_endpoint node).metadata_ip_resolver_.resolve login id =
        some (MetadataIpResolver.addressOf (L.to_string remote_endpoint.address) remote_endpoint.port)) := by
  have resolver := handle_resolver config env buffer remote_endpoint node
  have same : (handle config env buffer remote_endpoint node).metadata_ip_resolver_ ≠ node.metadata_ip_resolver_ := by
    intro kept
    rw [kept] at changed
    exact changed rfl
  cases read : reading config env buffer with
  | accepted message public_key =>
    simp only [read] at resolver
    rw [resolver, MetadataIpResolver.resolve_put] at changed
    obtain ⟨signed_message, payload_buffer, frame, inner, -, -, -, verified⟩ := (reading_eq_accepted _ _ _ _ _).mp read
    by_cases written : login = message.source_login ∧ id = L.getId public_key
    · exact .inl ⟨signed_message, message, payload_buffer, public_key, frame, inner, written.1.symm, written.2.symm,
        verified⟩
    · rw [if_neg written] at changed
      exact absurd rfl changed
  | transit message =>
    simp only [read] at resolver
    exact absurd resolver same
  | dropped =>
    simp only [read] at resolver
    exact absurd resolver same
  | metadata =>
    simp only [read] at resolver
    cases parsed : L.publicKey (metadata_from_buffer buffer env.beyond).2 with
    | none =>
      simp only [parsed] at resolver
      exact absurd resolver same
    | some public_key =>
      simp only [parsed] at resolver
      rw [resolver, MetadataIpResolver.resolve_put] at changed
      rw [resolver, MetadataIpResolver.resolve_put]
      by_cases written : login = (metadata_from_buffer buffer env.beyond).1 ∧ id = L.getId public_key
      · rw [if_pos written]
        exact .inr ⟨(reading_eq_metadata _ _ _).mp read, public_key, written.1.symm, rfl, written.2.symm, rfl⟩
      · rw [if_neg written] at changed
        exact absurd rfl changed

/-- An address changes only through a message to this node whose signature verifies, or
    through a datagram that is read as metadata, and then to the endpoint it came from.
    A signed message to this node that is not accepted, and one to someone else whose
    signature does not verify, change none. -/
theorem bindings_change_by_signature_or_metadata (config : Config L) (env : Environment L) (buffer : Bytes)
    (remote_endpoint : Endpoint L) (node : Node L) :
    (∀ (login : Bytes) (id : L.InfoHash),
      (handle config env buffer remote_endpoint node).metadata_ip_resolver_.resolve login id ≠
        node.metadata_ip_resolver_.resolve login id →
      Authenticates L buffer login id ∨
      (ReadAsMetadata config env buffer ∧ ∃ public_key,
        (metadata_from_buffer buffer env.beyond).1 = login ∧
        L.publicKey (metadata_from_buffer buffer env.beyond).2 = some public_key ∧ L.getId public_key = id ∧
        (handle config env buffer remote_endpoint node).metadata_ip_resolver_.resolve login id =
          some (MetadataIpResolver.addressOf (L.to_string remote_endpoint.address) remote_endpoint.port))) ∧
    (∀ signed_message, signed_message_from_buffer buffer env.beyond = .ok signed_message →
      (destinantion_public_key_from_buffer signed_message.message env.beyond_message = config.public_key_string →
        (∀ message public_key, ¬ Accepts config buffer message public_key) →
        (handle config env buffer remote_endpoint node).metadata_ip_resolver_ = node.metadata_ip_resolver_) ∧
      (destinantion_public_key_from_buffer signed_message.message env.beyond_message ≠ config.public_key_string →
        (∃ message public_key, checked L signed_message
          (message_with_not_decrypted_payload_from_buffer signed_message.message env.beyond_message) =
            .ok (message, public_key, false)) →
        (handle config env buffer remote_endpoint node).metadata_ip_resolver_ = node.metadata_ip_resolver_)) := by
  have resolver := handle_resolver config env buffer remote_endpoint node
  refine ⟨fun login id changed => resolve_handle_changed changed, ?_⟩
  intro signed_message frame
  constructor
  · intro mine rejected
    rw [reading_dropped_of_mine frame mine rejected] at resolver
    exact resolver
  · rintro other ⟨message, public_key, unverified⟩
    rw [reading_dropped_of_unverified frame other unverified] at resolver
    exact resolver

/-- Metadata with the login "bob" and the key 7, from anyone. -/
def forgedMetadata : Bytes := [3, 0, 98, 111, 98, 1, 0, 7]

/-- The metadata changes the address of "bob" under key 7, and no signature in it
    verifies under that key. -/
theorem forged_metadata_binds :
    (handle Sample.receiver Sample.environment forgedMetadata Sample.elsewhere
      (Node.initial _)).metadata_ip_resolver_.resolve [98, 111, 98] (7 : UInt8) ≠
        (Node.initial Sample.libraries).metadata_ip_resolver_.resolve [98, 111, 98] (7 : UInt8) ∧
    ¬ Authenticates Sample.libraries forgedMetadata [98, 111, 98] (7 : UInt8) := by
  constructor
  · decide +kernel
  · rintro ⟨signed_message, message, payload_buffer, public_key, frame, -, -, id, verified⟩
    have read := (signed_message_from_buffer_ok_iff _ (fun _ => 0) _).mpr frame
    have decoded : signed_message_from_buffer forgedMetadata (fun _ => 0) = .ok ⟨[98, 111, 98], [7]⟩ := by decide +kernel
    rw [decoded] at read
    cases read
    cases id
    revert verified
    decide

end P2PMessenger
