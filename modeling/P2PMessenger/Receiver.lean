import P2PMessenger.Deserializer
import P2PMessenger.Node

/-!
`message_receiver.cpp`: the handler of a datagram. It tries the datagram as a signed
message, for this node or for someone else, and reads whatever throws on that way as
hole-punch metadata.
-/
namespace P2PMessenger
open Octets Memory Layout Throwing

variable {L : Libraries}

/-- What a completed wait finds at the socket: the error of the wait, the number of
    octets available, and the datagram with the endpoint it came from. A call that
    throws has no result. -/
structure Arrival (L : Libraries) where
  ec : Bool
  available : Option Nat
  datagram : Option (Bytes × Endpoint L)

/-- A wait without error, and a datagram that is read whole. -/
def Arrival.whole (buffer : Bytes) (remote_endpoint : Endpoint L) : Arrival L :=
  ⟨false, some buffer.length, some (buffer, remote_endpoint)⟩

/-- The first lines of the handler: the received octets and where they came from. -/
def receive_from (arrival : Arrival L) : Program L (Bytes × Endpoint L) := do
  let available ← library .system_error arrival.available
  let (datagram, remote_endpoint) ← library .system_error arrival.datagram
  let bytes_received := min available datagram.length
  if available ≠ bytes_received then
    throw (.logic_error "Bytes available is not equal bytes read")
  return (datagram.take available, remote_endpoint)

/-- The innermost block for a message to this node. -/
def accept_message (config : Config L) (env : Environment L) (message : Message) (remote_endpoint : Endpoint L) :
    Program L Unit := do
  let public_key ← library .crypto_exception (L.publicKey message.source_public_key)
  if message.source_ip = L.to_string remote_endpoint.address then
    onResolver (·.put message.source_login public_key (L.to_string remote_endpoint.address) remote_endpoint.port)
    start_hole_punching config env (L.to_string remote_endpoint.address) remote_endpoint.port
  else
    onResolver (·.put message.source_login public_key message.source_ip message.source_port)
    start_hole_punching config env message.source_ip message.source_port
  receive_handler config message

def own_message (config : Config L) (env : Environment L) (signed_message : SignedMessage)
    (remote_endpoint : Endpoint L) : Program L Unit := do
  tryCatch (do
    let message ← MonadExcept.ofExcept
      (message_from_buffer L signed_message.message env.beyond_message config.private_key_)
    let public_key ← library .crypto_exception (L.publicKey message.source_public_key)
    if (← MonadExcept.ofExcept (check_signature L signed_message public_key)) then
      accept_message config env message remote_endpoint) fun _ => pure ()

/-- The block that passes a datagram on. It spells the sender's address parser out again. -/
def relay_message (env : Environment L) (buffer : Bytes) (message : Message) : Program L Unit := do
  let public_key ← library .crypto_exception (L.publicKey message.destination_public_key)
  let s ← get
  match s.node.metadata_ip_resolver_.resolve message.destination_login (L.getId public_key) with
  | some address =>
    let (ip, port) ← MonadExcept.ofExcept (get_ip_and_port_from_address address)
    let address ← library .system_error (L.make_address ip)
    send_to env .relay buffer ⟨address, port⟩
  | none =>
    let address ← library .system_error (L.make_address message.destination_ip)
    send_to env .relay buffer ⟨address, message.destination_port⟩

def someone_elses_message (config : Config L) (env : Environment L) (buffer : Bytes) (signed_message : SignedMessage) :
    Program L Unit := do
  let message ← MonadExcept.ofExcept
    (message_with_not_decrypted_payload_from_buffer signed_message.message env.beyond_message)
  let public_key ← library .crypto_exception (L.publicKey message.source_public_key)
  if (← MonadExcept.ofExcept (check_signature L signed_message public_key)) then
    if config.relay_ then
      tryCatch (relay_message env buffer message) fun _ => pure ()

def signed_message_datagram (config : Config L) (env : Environment L) (buffer : Bytes) (remote_endpoint : Endpoint L) :
    Program L Unit := do
  let signed_message ← MonadExcept.ofExcept (signed_message_from_buffer buffer env.beyond)
  if destinantion_public_key_from_buffer signed_message.message env.beyond_message = config.public_key_string then
    own_message config env signed_message remote_endpoint
  else
    someone_elses_message config env buffer signed_message

def metadata_datagram (env : Environment L) (buffer : Bytes) (remote_endpoint : Endpoint L) : Program L Unit := do
  let (login, public_key) := metadata_from_buffer buffer env.beyond
  let public_key ← library .crypto_exception (L.publicKey public_key)
  onResolver (·.put login public_key (L.to_string remote_endpoint.address) remote_endpoint.port)

def async_wait_handler (config : Config L) (env : Environment L) (arrival : Arrival L) : Program L Unit := do
  if !arrival.ec then
    let (buffer, remote_endpoint) ← receive_from arrival
    tryCatch (signed_message_datagram config env buffer remote_endpoint) fun _ =>
      metadata_datagram env buffer remote_endpoint
  emit .async_wait

/-! ## What a datagram is read as -/

inductive Reading (L : Libraries) where
  /-- A message to this node with a signature that verifies under its source key. -/
  | accepted (message : Message) (public_key : L.PublicKey)
  /-- Someone else's message with a signature that verifies. -/
  | transit (message : Message)
  /-- A signed message that is given up without a trace. -/
  | dropped
  | metadata
  deriving DecidableEq

/-- The message, the source key and the verdict on the signature, or what throws. -/
def checked (L : Libraries) (signed_message : SignedMessage) (decoded : Except Exception Message) :
    Except Exception (Message × L.PublicKey × Bool) := do
  let message ← decoded
  let public_key ← orThrow .crypto_exception (L.publicKey message.source_public_key)
  let verified ← check_signature L signed_message public_key
  return (message, public_key, verified)

def reading (config : Config L) (env : Environment L) (buffer : Bytes) : Reading L :=
  match signed_message_from_buffer buffer env.beyond with
  | .error _ => .metadata
  | .ok signed_message =>
    if destinantion_public_key_from_buffer signed_message.message env.beyond_message = config.public_key_string then
      match checked L signed_message
          (message_from_buffer L signed_message.message env.beyond_message config.private_key_) with
      | .ok (message, public_key, true) => .accepted message public_key
      | _ => .dropped
    else
      match checked L signed_message
          (message_with_not_decrypted_payload_from_buffer signed_message.message env.beyond_message) with
      | .ok (message, _, true) => .transit message
      | .ok _ => .dropped
      | .error _ => .metadata

theorem checked_eq_ok {signed_message : SignedMessage} {decoded : Except Exception Message} {message : Message}
    {public_key : L.PublicKey} {verified : Bool} :
    checked L signed_message decoded = .ok (message, public_key, verified) ↔
      decoded = .ok message ∧ L.publicKey message.source_public_key = some public_key ∧
        L.checkSignature public_key signed_message.message signed_message.signature = some verified := by
  constructor
  · intro ok
    obtain ⟨read, decode, ok⟩ := bind_eq_ok ok
    obtain ⟨key, parse, ok⟩ := bind_eq_ok ok
    obtain ⟨verdict, check, ok⟩ := bind_eq_ok ok
    cases ok
    exact ⟨decode, orThrow_eq_ok.mp parse, orThrow_eq_ok.mp check⟩
  · rintro ⟨rfl, parse, check⟩
    simp only [checked, bind, Except.bind, parse, check_signature, check, orThrow_some, pure, Except.pure]

/-- Both blocks for a signed message begin this way: what is decoded goes on when its
    signature verifies under its source key. -/
theorem run_checked (signed_message : SignedMessage) (decoded : Except Exception Message)
    (rest : Message → L.PublicKey → Program L Unit) (s : Step L) :
    (do
      let message ← MonadExcept.ofExcept decoded
      let public_key ← library .crypto_exception (L.publicKey message.source_public_key)
      if (← MonadExcept.ofExcept (check_signature L signed_message public_key)) then
        rest message public_key : Program L Unit).run s =
      match checked L signed_message decoded with
      | .ok (message, public_key, true) => (rest message public_key).run s
      | .ok _ => .ok () s
      | .error e => .error e s := by
  unfold checked
  cases decoded with
  | error e => rfl
  | ok message =>
    simp only [EStateM.run_bind, run_ofExcept, run_library]
    simp only [bind, Except.bind]
    cases L.publicKey message.source_public_key with
    | none => rfl
    | some public_key =>
      simp only [orThrow_some]
      cases check_signature L signed_message public_key with
      | error e => rfl
      | ok verified => cases verified <;> rfl

theorem own_message_run (config : Config L) (env : Environment L) (signed_message : SignedMessage)
    (remote_endpoint : Endpoint L) (s : Step L) :
    (own_message config env signed_message remote_endpoint).run s =
      match checked L signed_message
          (message_from_buffer L signed_message.message env.beyond_message config.private_key_) with
      | .ok (message, _, true) => .ok () (after ((accept_message config env message remote_endpoint).run s))
      | _ => .ok () s := by
  unfold own_message
  rw [run_swallow, run_checked signed_message _ fun message _ => accept_message config env message remote_endpoint]
  cases checked L signed_message
      (message_from_buffer L signed_message.message env.beyond_message config.private_key_) with
  | error e => rfl
  | ok verdict =>
    obtain ⟨message, public_key, verified⟩ := verdict
    cases verified <;> rfl

theorem someone_elses_message_run (config : Config L) (env : Environment L) (buffer : Bytes)
    (signed_message : SignedMessage) (s : Step L) :
    (someone_elses_message config env buffer signed_message).run s =
      match checked L signed_message
          (message_with_not_decrypted_payload_from_buffer signed_message.message env.beyond_message) with
      | .ok (message, _, true) => .ok () (if config.relay_ then after ((relay_message env buffer message).run s) else s)
      | .ok _ => .ok () s
      | .error e => .error e s := by
  unfold someone_elses_message
  rw [run_checked signed_message _ fun message _ =>
    if config.relay_ then tryCatch (relay_message env buffer message) fun _ => pure () else pure ()]
  cases checked L signed_message
      (message_with_not_decrypted_payload_from_buffer signed_message.message env.beyond_message) with
  | error e => rfl
  | ok verdict =>
    obtain ⟨message, public_key, verified⟩ := verdict
    cases verified with
    | false => rfl
    | true =>
      simp only [run_ite, run_swallow]
      by_cases relay : config.relay_ = true
      · rw [if_pos relay, if_pos relay]
      · rw [if_neg relay, if_neg relay]
        rfl

theorem signed_message_datagram_run (config : Config L) (env : Environment L) (buffer : Bytes)
    (remote_endpoint : Endpoint L) (s : Step L) :
    ∃ e, (signed_message_datagram config env buffer remote_endpoint).run s =
      match reading config env buffer with
      | .accepted message _ => .ok () (after ((accept_message config env message remote_endpoint).run s))
      | .transit message => .ok () (if config.relay_ then after ((relay_message env buffer message).run s) else s)
      | .dropped => .ok () s
      | .metadata => .error e s := by
  unfold signed_message_datagram reading
  rw [EStateM.run_bind, run_ofExcept]
  cases signed_message_from_buffer buffer env.beyond with
  | error e => exact ⟨e, rfl⟩
  | ok signed_message =>
    simp only [run_ite]
    by_cases mine : destinantion_public_key_from_buffer signed_message.message env.beyond_message =
        config.public_key_string
    · rw [if_pos mine, if_pos mine, own_message_run]
      cases checked L signed_message
          (message_from_buffer L signed_message.message env.beyond_message config.private_key_) with
      | error e => exact ⟨e, rfl⟩
      | ok verdict =>
        obtain ⟨message, public_key, verified⟩ := verdict
        refine ⟨notEnough, ?_⟩
        cases verified <;> rfl
    · rw [if_neg mine, if_neg mine, someone_elses_message_run]
      cases checked L signed_message
          (message_with_not_decrypted_payload_from_buffer signed_message.message env.beyond_message) with
      | error e => exact ⟨e, rfl⟩
      | ok verdict =>
        obtain ⟨message, public_key, verified⟩ := verdict
        refine ⟨notEnough, ?_⟩
        cases verified <;> rfl

theorem receive_from_whole (buffer : Bytes) (remote_endpoint : Endpoint L) (s : Step L) :
    (receive_from (.whole buffer remote_endpoint)).run s = .ok (buffer, remote_endpoint) s := by
  unfold receive_from Arrival.whole
  simp [EStateM.run_bind, run_library]

/-- The datagram is a message to this node whose signature verifies under its source
    key. Nothing behind the datagram takes part. -/
def Accepts (config : Config L) (buffer : Bytes) (message : Message) (public_key : L.PublicKey) : Prop :=
  ∃ (signed_message : SignedMessage) (payload_buffer : Bytes),
    Starts signedLayout signed_message.fields buffer ∧
    Starts messageLayout (message.fields payload_buffer) signed_message.message ∧
    message.destination_public_key = config.public_key_string ∧
    openPayload L config.private_key_ message.header payload_buffer = .ok message ∧
    L.publicKey message.source_public_key = some public_key ∧
    L.checkSignature public_key signed_message.message signed_message.signature = some true

/-- The datagram is a message to someone else whose signature verifies under its source
    key; its payload stays closed. -/
def Transits (config : Config L) (buffer : Bytes) (message : Message) : Prop :=
  ∃ (signed_message : SignedMessage) (payload_buffer : Bytes) (public_key : L.PublicKey),
    Starts signedLayout signed_message.fields buffer ∧
    Starts messageLayout (message.fields payload_buffer) signed_message.message ∧
    message.payload = .zero ∧
    message.destination_public_key ≠ config.public_key_string ∧
    L.publicKey message.source_public_key = some public_key ∧
    L.checkSignature public_key signed_message.message signed_message.signature = some true

/-- The ways to a reading, one for each way through the decoders. -/
inductive Read (config : Config L) (env : Environment L) (buffer : Bytes) : Reading L → Prop where
  | unframed {e : Exception} (frame : signed_message_from_buffer buffer env.beyond = .error e) :
      Read config env buffer .metadata
  | accepted {signed_message : SignedMessage} {message : Message} {public_key : L.PublicKey}
      (frame : signed_message_from_buffer buffer env.beyond = .ok signed_message)
      (mine : destinantion_public_key_from_buffer signed_message.message env.beyond_message = config.public_key_string)
      (verdict : checked L signed_message
        (message_from_buffer L signed_message.message env.beyond_message config.private_key_) =
          .ok (message, public_key, true)) : Read config env buffer (.accepted message public_key)
  | rejected {signed_message : SignedMessage}
      (frame : signed_message_from_buffer buffer env.beyond = .ok signed_message)
      (mine : destinantion_public_key_from_buffer signed_message.message env.beyond_message = config.public_key_string) :
      Read config env buffer .dropped
  | transit {signed_message : SignedMessage} {message : Message} {public_key : L.PublicKey}
      (frame : signed_message_from_buffer buffer env.beyond = .ok signed_message)
      (other : destinantion_public_key_from_buffer signed_message.message env.beyond_message ≠ config.public_key_string)
      (verdict : checked L signed_message
        (message_with_not_decrypted_payload_from_buffer signed_message.message env.beyond_message) =
          .ok (message, public_key, true)) : Read config env buffer (.transit message)
  | unverified {signed_message : SignedMessage}
      (frame : signed_message_from_buffer buffer env.beyond = .ok signed_message)
      (other : destinantion_public_key_from_buffer signed_message.message env.beyond_message ≠ config.public_key_string) :
      Read config env buffer .dropped
  | unreadable {signed_message : SignedMessage} {e : Exception}
      (frame : signed_message_from_buffer buffer env.beyond = .ok signed_message)
      (other : destinantion_public_key_from_buffer signed_message.message env.beyond_message ≠ config.public_key_string)
      (verdict : checked L signed_message
        (message_with_not_decrypted_payload_from_buffer signed_message.message env.beyond_message) = .error e) :
      Read config env buffer .metadata

theorem read_reading (config : Config L) (env : Environment L) (buffer : Bytes) :
    Read config env buffer (reading config env buffer) := by
  unfold reading
  cases frame : signed_message_from_buffer buffer env.beyond with
  | error e => exact .unframed frame
  | ok signed_message =>
    simp only
    by_cases mine : destinantion_public_key_from_buffer signed_message.message env.beyond_message =
        config.public_key_string
    · rw [if_pos mine]
      cases verdict : checked L signed_message
          (message_from_buffer L signed_message.message env.beyond_message config.private_key_) with
      | error e => exact .rejected frame mine
      | ok found =>
        obtain ⟨message, public_key, verified⟩ := found
        cases verified with
        | false => exact .rejected frame mine
        | true => exact .accepted frame mine verdict
    · rw [if_neg mine]
      cases verdict : checked L signed_message
          (message_with_not_decrypted_payload_from_buffer signed_message.message env.beyond_message) with
      | error e => exact .unreadable frame mine verdict
      | ok found =>
        obtain ⟨message, public_key, verified⟩ := found
        cases verified with
        | false => exact .unverified frame mine
        | true => exact .transit frame mine verdict

theorem reading_eq_accepted (config : Config L) (env : Environment L) (buffer : Bytes) (message : Message)
    (public_key : L.PublicKey) :
    reading config env buffer = .accepted message public_key ↔ Accepts config buffer message public_key := by
  constructor
  · intro read
    have way := read_reading config env buffer
    rw [read] at way
    cases way with
    | @accepted signed_message _ _ frame mine verdict =>
      obtain ⟨decoded, parsed, verified⟩ := checked_eq_ok.mp verdict
      obtain ⟨payload_buffer, starts, opens⟩ := (message_from_buffer_ok_iff _ _ _ _ _).mp decoded
      refine ⟨signed_message, payload_buffer, (signed_message_from_buffer_ok_iff _ _ _).mp frame, starts, ?_, opens,
        parsed, verified⟩
      rw [← mine, destinantion_public_key_from_buffer_of_starts starts]
  · rintro ⟨signed_message, payload_buffer, frame, inner, mine, opens, parsed, verified⟩
    have decoded : message_from_buffer L signed_message.message env.beyond_message config.private_key_ = .ok message := by
      rw [message_from_buffer_of_starts L inner, opens]
    unfold reading
    simp only [signed_message_from_buffer_of_starts frame, destinantion_public_key_from_buffer_of_starts inner, mine,
      if_true]
    rw [checked_eq_ok.mpr ⟨decoded, parsed, verified⟩]

theorem reading_eq_transit (config : Config L) (env : Environment L) (buffer : Bytes) (message : Message) :
    reading config env buffer = .transit message ↔ Transits config buffer message := by
  constructor
  · intro read
    have way := read_reading config env buffer
    rw [read] at way
    cases way with
    | @transit signed_message _ public_key frame other verdict =>
      obtain ⟨decoded, parsed, verified⟩ := checked_eq_ok.mp verdict
      obtain ⟨zero, payload_buffer, starts⟩ := (message_with_not_decrypted_payload_from_buffer_ok_iff _ _ _).mp decoded
      refine ⟨signed_message, payload_buffer, public_key, (signed_message_from_buffer_ok_iff _ _ _).mp frame, starts,
        zero, ?_, parsed, verified⟩
      rw [destinantion_public_key_from_buffer_of_starts starts] at other
      exact other
  · rintro ⟨signed_message, payload_buffer, public_key, frame, inner, zero, other, parsed, verified⟩
    have decoded := (message_with_not_decrypted_payload_from_buffer_ok_iff signed_message.message env.beyond_message
      message).mpr ⟨zero, payload_buffer, inner⟩
    unfold reading
    simp only [signed_message_from_buffer_of_starts frame, destinantion_public_key_from_buffer_of_starts inner, other,
      if_false]
    rw [checked_eq_ok.mpr ⟨decoded, parsed, verified⟩]

/-! ## What a reading does -/

/-- The port that a message's source is stored with: the one it came from when the
    message names the IP it came from, and else the one it declares. -/
def sourcePort (message : Message) (remote_endpoint : Endpoint L) : UInt16 :=
  if message.source_ip = L.to_string remote_endpoint.address then remote_endpoint.port else message.source_port

/-- The step after `put`. -/
def Step.put (s : Step L) (login : Bytes) (public_key : L.PublicKey) (ip : Bytes) (port : UInt16) : Step L :=
  { s with node :=
    { s.node with metadata_ip_resolver_ := s.node.metadata_ip_resolver_.put login public_key ip port } }

/-- The step after an accepted message: the address is stored, and the message is
    delivered when the hole-punch loop was started. -/
def Step.accepted (s : Step L) (config : Config L) (env : Environment L) (message : Message) (public_key : L.PublicKey)
    (remote_endpoint : Endpoint L) : Step L :=
  let port := sourcePort message remote_endpoint
  let stored := s.put message.source_login public_key message.source_ip port
  match config.punched env s.effects.length message.source_ip port with
  | some endpoint => (stored.punch config endpoint).received config message public_key
  | none => stored

theorem accepted_of_punched {config : Config L} {env : Environment L} {message : Message} {public_key : L.PublicKey}
    {remote_endpoint endpoint : Endpoint L} {s : Step L}
    (punched : config.punched env s.effects.length message.source_ip (sourcePort message remote_endpoint) = some endpoint) :
    s.accepted config env message public_key remote_endpoint =
      ((s.put message.source_login public_key message.source_ip (sourcePort message remote_endpoint)).punch config
        endpoint).received config message public_key := by
  simp only [Step.accepted, punched]

theorem accepted_of_refused {config : Config L} {env : Environment L} {message : Message} {public_key : L.PublicKey}
    {remote_endpoint : Endpoint L} {s : Step L}
    (refused : config.punched env s.effects.length message.source_ip (sourcePort message remote_endpoint) = none) :
    s.accepted config env message public_key remote_endpoint =
      s.put message.source_login public_key message.source_ip (sourcePort message remote_endpoint) := by
  simp only [Step.accepted, refused]

section
variable (config : Config L) (env : Environment L) (message : Message) (public_key : L.PublicKey)
  (remote_endpoint : Endpoint L) (s : Step L)

/-- The source of an accepted message is stored, also when nothing follows. -/
theorem accepted_resolver :
    (s.accepted config env message public_key remote_endpoint).node.metadata_ip_resolver_ =
      s.node.metadata_ip_resolver_.put message.source_login public_key message.source_ip
        (sourcePort message remote_endpoint) := by
  cases loop : config.punched env s.effects.length message.source_ip (sourcePort message remote_endpoint) with
  | none =>
    rw [accepted_of_refused loop]
    rfl
  | some endpoint =>
    rw [accepted_of_punched loop]
    unfold Step.received
    split <;> rfl

theorem accepted_timers :
    (s.accepted config env message public_key remote_endpoint).node.timers =
      s.node.timers ++
        (config.punched env s.effects.length message.source_ip (sourcePort message remote_endpoint)).toList := by
  cases loop : config.punched env s.effects.length message.source_ip (sourcePort message remote_endpoint) with
  | none =>
    rw [accepted_of_refused loop, Option.toList_none, List.append_nil]
    rfl
  | some endpoint =>
    rw [accepted_of_punched loop, Option.toList_some]
    unfold Step.received
    split <;> rfl

/-- When its loop is started, the message goes to the receive handler. -/
theorem accepted_effects :
    (s.accepted config env message public_key remote_endpoint).effects =
      s.effects ++ (config.punched env s.effects.length message.source_ip (sourcePort message remote_endpoint)).elim []
        fun endpoint => .send_to .hole_punch config.buffer_ endpoint :: config.receiveEffects message public_key := by
  cases loop : config.punched env s.effects.length message.source_ip (sourcePort message remote_endpoint) with
  | none =>
    rw [accepted_of_refused loop, Option.elim_none, List.append_nil]
    rfl
  | some endpoint =>
    rw [accepted_of_punched loop, Option.elim_some]
    exact List.append_assoc _ _ _

end

theorem accept_message_after (config : Config L) (env : Environment L) {message : Message} {public_key : L.PublicKey}
    (parsed : L.publicKey message.source_public_key = some public_key) (remote_endpoint : Endpoint L) (s : Step L) :
    after ((accept_message config env message remote_endpoint).run s) =
      s.accepted config env message public_key remote_endpoint := by
  have started : ∀ (ip : Bytes) (port : UInt16),
      after ((do
        onResolver (·.put message.source_login public_key ip port)
        start_hole_punching config env ip port
        receive_handler config message : Program L Unit).run s) =
      match config.punched env s.effects.length ip port with
      | some endpoint =>
        ((s.put message.source_login public_key ip port).punch config endpoint).received config message public_key
      | none => s.put message.source_login public_key ip port := by
    intro ip port
    have same : (s.put message.source_login public_key ip port).effects = s.effects := rfl
    rw [EStateM.run_bind, show (onResolver (·.put message.source_login public_key ip port) : Program L Unit).run s =
      .ok () (s.put message.source_login public_key ip port) from rfl]
    simp only [EStateM.run_bind, start_hole_punching_run, same]
    cases config.punched env s.effects.length ip port with
    | none => rfl
    | some endpoint => exact receive_handler_after config parsed _
  unfold accept_message Step.accepted sourcePort
  rw [EStateM.run_bind, run_library, parsed]
  by_cases direct : message.source_ip = L.to_string remote_endpoint.address
  · simp only [if_pos direct]
    rw [direct]
    exact started _ _
  · simp only [if_neg direct]
    exact started _ _

/-- Where the relay would send a message on, when nothing throws. -/
def nextHop (resolver : MetadataIpResolver L) (message : Message) : Option (Endpoint L) :=
  match L.publicKey message.destination_public_key with
  | none => none
  | some public_key =>
    match resolver.resolve message.destination_login (L.getId public_key) with
    | some address =>
      match get_ip_and_port_from_address address with
      | .ok (ip, port) => (L.make_address ip).map fun address => ⟨address, port⟩
      | .error _ => none
    | none => (L.make_address message.destination_ip).map fun address => ⟨address, message.destination_port⟩

/-- The step after the relay's block. -/
def Step.relayed (s : Step L) (env : Environment L) (buffer : Bytes) (message : Message) : Step L :=
  match nextHop s.node.metadata_ip_resolver_ message with
  | some endpoint =>
    if buffer.length ≤ 65507 ∧ env.accepts s.effects.length = true then
      { s with effects := s.effects ++ [.send_to .relay buffer endpoint] }
    else s
  | none => s

/-- The relay's block leaves the node as it was. -/
theorem relayed_node (env : Environment L) (buffer : Bytes) (message : Message) (s : Step L) :
    (s.relayed env buffer message).node = s.node := by
  unfold Step.relayed
  cases nextHop s.node.metadata_ip_resolver_ message with
  | none => rfl
  | some endpoint =>
    simp only
    split <;> rfl

theorem relay_message_after (env : Environment L) (buffer : Bytes) (message : Message) (s : Step L) :
    after ((relay_message env buffer message).run s) = s.relayed env buffer message := by
  have sent : ∀ endpoint : Endpoint L, after ((send_to env .relay buffer endpoint).run s) =
      if buffer.length ≤ 65507 ∧ env.accepts s.effects.length = true then
        { s with effects := s.effects ++ [.send_to .relay buffer endpoint] }
      else s := by
    intro endpoint
    rw [send_to_run]
    split <;> rfl
  unfold relay_message Step.relayed nextHop
  rw [EStateM.run_bind, run_library]
  cases L.publicKey message.destination_public_key with
  | none => rfl
  | some public_key =>
    simp only [EStateM.run_bind, EStateM.run_get]
    cases s.node.metadata_ip_resolver_.resolve message.destination_login (L.getId public_key) with
    | none =>
      simp only [EStateM.run_bind, run_library]
      cases L.make_address message.destination_ip with
      | none => rfl
      | some address => exact sent _
    | some address =>
      simp only [EStateM.run_bind, run_ofExcept]
      cases get_ip_and_port_from_address address with
      | error e => rfl
      | ok found =>
        obtain ⟨ip, port⟩ := found
        simp only [run_library]
        cases L.make_address ip with
        | none => rfl
        | some address => exact sent _

/-- The step after the handler waits again. -/
def Step.listening (s : Step L) : Step L := { s with effects := s.effects ++ [.async_wait] }

theorem metadata_datagram_run (env : Environment L) (buffer : Bytes) (remote_endpoint : Endpoint L) (s : Step L) :
    (metadata_datagram env buffer remote_endpoint).run s =
      match L.publicKey (metadata_from_buffer buffer env.beyond).2 with
      | some public_key =>
        .ok () (s.put (metadata_from_buffer buffer env.beyond).1 public_key (L.to_string remote_endpoint.address)
          remote_endpoint.port)
      | none => .error .crypto_exception s := by
  unfold metadata_datagram
  simp only [EStateM.run_bind, run_library]
  cases L.publicKey (metadata_from_buffer buffer env.beyond).2 <;> rfl

/-- The handler of a datagram that was read whole does what the reading says. It throws
    only for metadata whose key does not parse. -/
theorem async_wait_handler_run (config : Config L) (env : Environment L) (buffer : Bytes)
    (remote_endpoint : Endpoint L) (s : Step L) :
    (async_wait_handler config env (.whole buffer remote_endpoint)).run s =
      match reading config env buffer with
      | .accepted message public_key => .ok () (s.accepted config env message public_key remote_endpoint).listening
      | .transit message => .ok () (if config.relay_ then s.relayed env buffer message else s).listening
      | .dropped => .ok () s.listening
      | .metadata =>
        match L.publicKey (metadata_from_buffer buffer env.beyond).2 with
        | some public_key =>
          .ok () (s.put (metadata_from_buffer buffer env.beyond).1 public_key (L.to_string remote_endpoint.address)
            remote_endpoint.port).listening
        | none => .error .crypto_exception s := by
  obtain ⟨e, signed⟩ := signed_message_datagram_run config env buffer remote_endpoint s
  have noError : (Arrival.whole buffer remote_endpoint).ec = false := rfl
  unfold async_wait_handler
  simp only [noError, Bool.not_false, if_true, EStateM.run_bind, receive_from_whole, run_tryCatch, signed,
    metadata_datagram_run]
  cases read : reading config env buffer with
  | accepted message public_key =>
    obtain ⟨-, -, -, -, -, -, parsed, -⟩ := (reading_eq_accepted _ _ _ _ _).mp read
    simp only [accept_message_after config env parsed]
    rfl
  | transit message =>
    simp only [relay_message_after]
    rfl
  | dropped => rfl
  | metadata =>
    simp only
    cases L.publicKey (metadata_from_buffer buffer env.beyond).2 <;> rfl

/-! ## The effects of a handler -/

/-- The lists of effects that handling a datagram can have, with the resolver as it was
    before. -/
inductive Handling (config : Config L) (resolver : MetadataIpResolver L) (buffer : Bytes) : List (Effect L) → Prop where
  | delivered {message : Message} {public_key : L.PublicKey} (endpoint : Endpoint L)
      (accepts : Accepts config buffer message public_key) :
      Handling config resolver buffer
        (.send_to .hole_punch config.buffer_ endpoint :: config.receiveEffects message public_key ++ [.async_wait])
  | relayed {message : Message} {endpoint : Endpoint L} (transits : Transits config buffer message)
      (hop : nextHop resolver message = some endpoint) :
      Handling config resolver buffer [.send_to .relay buffer endpoint, .async_wait]
  | quiet : Handling config resolver buffer [.async_wait]
  | thrown : Handling config resolver buffer []

theorem follows_listening {s t : Step L} {added : List (Effect L)} (follows : s.Follows t added) :
    s.Follows t.listening (added ++ [.async_wait]) := follows.trans ⟨rfl, rfl⟩

theorem follows_put (s : Step L) (login : Bytes) (public_key : L.PublicKey) (ip : Bytes) (port : UInt16) :
    s.Follows (s.put login public_key ip port) [] := ⟨(List.append_nil _).symm, rfl⟩

theorem async_wait_handler_handling (config : Config L) (env : Environment L) (buffer : Bytes)
    (remote_endpoint : Endpoint L) (s : Step L) :
    ∃ added, s.Follows (after ((async_wait_handler config env (.whole buffer remote_endpoint)).run s)) added ∧
      Handling config s.node.metadata_ip_resolver_ buffer added := by
  rw [async_wait_handler_run]
  cases read : reading config env buffer with
  | accepted message public_key =>
    have accepts := (reading_eq_accepted _ _ _ _ _).mp read
    simp only [after_ok]
    cases loop : config.punched env s.effects.length message.source_ip (sourcePort message remote_endpoint) with
    | none =>
      rw [accepted_of_refused loop]
      exact ⟨_, follows_listening (follows_put _ _ _ _ _), .quiet⟩
    | some endpoint =>
      rw [accepted_of_punched loop]
      have steps := ((follows_put s message.source_login public_key message.source_ip
        (sourcePort message remote_endpoint)).trans (follows_punch _ config endpoint)).trans
        (follows_received _ config message public_key)
      exact ⟨_, follows_listening steps, .delivered endpoint accepts⟩
  | transit message =>
    have transits := (reading_eq_transit _ _ _ _).mp read
    simp only [after_ok]
    by_cases relay : config.relay_ = true
    · rw [if_pos relay]
      unfold Step.relayed
      cases hop : nextHop s.node.metadata_ip_resolver_ message with
      | none => exact ⟨_, follows_listening (Step.Follows.refl s), .quiet⟩
      | some endpoint =>
        by_cases taken : buffer.length ≤ 65507 ∧ env.accepts s.effects.length = true
        · simp only [if_pos taken]
          have sent : s.Follows { s with effects := s.effects ++ [.send_to .relay buffer endpoint] }
              [.send_to .relay buffer endpoint] := ⟨rfl, rfl⟩
          exact ⟨_, follows_listening sent, .relayed transits hop⟩
        · simp only [if_neg taken]
          exact ⟨_, follows_listening (Step.Follows.refl s), .quiet⟩
    · rw [if_neg relay]
      exact ⟨_, follows_listening (Step.Follows.refl s), .quiet⟩
  | dropped => exact ⟨_, follows_listening (Step.Follows.refl s), .quiet⟩
  | metadata =>
    simp only
    cases L.publicKey (metadata_from_buffer buffer env.beyond).2 with
    | none => exact ⟨_, Step.Follows.refl s, .thrown⟩
    | some public_key => exact ⟨_, follows_listening (follows_put _ _ _ _ _), .quiet⟩

theorem mem_receiveEffects {config : Config L} {message : Message} {source : L.PublicKey} {effect : Effect L}
    (member : effect ∈ config.receiveEffects message source) :
    effect = .receive_handler message ∨
      effect = .append .received (L.getId source) message.source_login message.payload.text ∨
      effect = .listen_login_handler message.source_login (L.getId source) ∨
      effect = .receive_message_handler message := by
  unfold Config.receiveEffects at member
  split_ifs at member
  · simpa using member
  · exact .inl (List.mem_singleton.mp member)

theorem Handling.not_sign {config : Config L} {resolver : MetadataIpResolver L} {buffer octets : Bytes}
    {added : List (Effect L)} (handling : Handling config resolver buffer added) : .sign octets ∉ added := by
  intro member
  cases handling with
  | delivered endpoint accepts =>
    rcases List.mem_append.mp member with member | wait
    · rcases List.mem_cons.mp member with punch | received
      · cases punch
      · rcases mem_receiveEffects received with same | same | same | same <;> cases same
    · simp at wait
  | relayed transits hop => simp at member
  | quiet => simp at member
  | thrown => simp at member

/-- What a handler appends is the source and the text of an accepted message. -/
theorem Handling.mem_append {config : Config L} {resolver : MetadataIpResolver L} {buffer login text : Bytes}
    {origin : Origin} {id : L.InfoHash} {added : List (Effect L)} (handling : Handling config resolver buffer added)
    (member : .append origin id login text ∈ added) :
    ∃ message public_key, Accepts config buffer message public_key ∧ id = L.getId public_key ∧
      login = message.source_login ∧ text = message.payload.text := by
  cases handling with
  | @delivered message public_key endpoint accepts =>
    rcases List.mem_append.mp member with member | wait
    · rcases List.mem_cons.mp member with punch | received
      · cases punch
      · rcases mem_receiveEffects received with same | same | same | same
        · cases same
        · cases same
          exact ⟨message, public_key, accepts, rfl, rfl, rfl⟩
        · cases same
        · cases same
    · simp at wait
  | relayed transits hop => simp at member
  | quiet => simp at member
  | thrown => simp at member

end P2PMessenger
