import P2PMessenger.Receiver
import P2PMessenger.Sample

/-!
Whether the receiver goes on listening. The handler catches what a signed message can
throw, but it reads the datagram as metadata in the `catch` block itself, so a key that
does not parse there ends the thread that runs the handler. And two decoders read through
the pointer of a vector without comparing its length, which is null when the vector is
empty.
-/
namespace P2PMessenger
open Octets Memory Layout Throwing

variable {L : Libraries}

/-- The datagram throws on the way of a signed message, outside the block for messages
    to this node. -/
def ReadAsMetadata (config : Config L) (env : Environment L) (buffer : Bytes) : Prop :=
  (∃ e, signed_message_from_buffer buffer env.beyond = .error e) ∨
  ∃ signed_message, signed_message_from_buffer buffer env.beyond = .ok signed_message ∧
    destinantion_public_key_from_buffer signed_message.message env.beyond_message ≠ config.public_key_string ∧
    ∃ e, checked L signed_message
      (message_with_not_decrypted_payload_from_buffer signed_message.message env.beyond_message) = .error e

theorem reading_eq_metadata (config : Config L) (env : Environment L) (buffer : Bytes) :
    reading config env buffer = .metadata ↔ ReadAsMetadata config env buffer := by
  constructor
  · intro read
    have way := read_reading config env buffer
    rw [read] at way
    cases way with
    | unframed frame => exact .inl ⟨_, frame⟩
    | unreadable frame other verdict => exact .inr ⟨_, frame, other, _, verdict⟩
  · rintro (⟨e, frame⟩ | ⟨signed_message, frame, other, e, verdict⟩)
    · simp only [reading, frame]
    · simp only [reading, frame, if_neg other, verdict]

/-! ## Null pointers -/

/-- The decoders that the handler calls on a datagram: the vector of each and its accesses. -/
def decoded (config : Config L) (env : Environment L) (buffer : Bytes) : List (Bytes × Accesses) :=
  (buffer, signed_message_reads buffer env.beyond) ::
    match signed_message_from_buffer buffer env.beyond with
    | .error _ => [(buffer, metadata_reads buffer env.beyond)]
    | .ok signed_message =>
      let message := signed_message.message
      (message, destinantion_public_key_reads message env.beyond_message) ::
        if destinantion_public_key_from_buffer message env.beyond_message = config.public_key_string then
          [(message, message_reads L message env.beyond_message config.private_key_)]
        else
          (message, message_with_not_decrypted_payload_reads message env.beyond_message) ::
            match checked L signed_message (message_with_not_decrypted_payload_from_buffer message env.beyond_message) with
            | .error _ => [(buffer, metadata_reads buffer env.beyond)]
            | .ok _ => []

/-- Some decoder reads through the null pointer of an empty vector. -/
def ReadsNull (config : Config L) (env : Environment L) (buffer : Bytes) : Prop :=
  ∃ call ∈ decoded config env buffer, ThroughNull call.1 call.2

instance (config : Config L) (env : Environment L) (buffer : Bytes) : Decidable (ReadsNull config env buffer) :=
  inferInstanceAs (Decidable (∃ call ∈ decoded config env buffer, ThroughNull call.1 call.2))

/-- Only an empty datagram and the empty message of a frame are read through null. The
    decoders that compare the length first do not come to read them; the other two do. -/
theorem readsNull_iff (config : Config L) (env : Environment L) (buffer : Bytes) :
    ReadsNull config env buffer ↔ buffer = [] ∨ ∃ signature, Starts signedLayout [[], signature] buffer := by
  constructor
  · rintro ⟨call, member, empty, -⟩
    rcases List.mem_cons.mp member with rfl | member
    · exact .inl empty
    cases frame : signed_message_from_buffer buffer env.beyond with
    | error e =>
      simp only [frame, List.mem_singleton] at member
      subst member
      exact .inl empty
    | ok signed_message =>
      have starts := (signed_message_from_buffer_ok_iff buffer env.beyond signed_message).mp frame
      have vectors : call.1 = buffer ∨ call.1 = signed_message.message := by
        simp only [frame, List.mem_cons] at member
        rcases member with rfl | member
        · exact .inr rfl
        split at member
        · rw [List.mem_singleton.mp member]
          exact .inr rfl
        · rcases List.mem_cons.mp member with rfl | member
          · exact .inr rfl
          split at member
          · rw [List.mem_singleton.mp member]
            exact .inl rfl
          · cases member
      rcases vectors with same | same
      · exact .inl (same.symm.trans empty)
      · rw [SignedMessage.fields, ← same, empty] at starts
        exact .inr ⟨_, starts⟩
  · rintro (rfl | ⟨signature, starts⟩)
    · refine ⟨([], metadata_reads [] env.beyond), ?_, rfl, (0, 2), List.mem_cons_self, by decide⟩
      exact List.mem_cons_of_mem _ List.mem_cons_self
    · have frame := signed_message_from_buffer_of_starts
        (show Starts signedLayout (SignedMessage.fields ⟨[], signature⟩) buffer from starts) env.beyond
      refine ⟨([], destinantion_public_key_reads [] env.beyond_message), ?_, rfl, (8, 1), List.mem_cons_self, by decide⟩
      rw [decoded, frame]
      exact List.mem_cons_of_mem _ List.mem_cons_self

/-! ## The loop -/

/-- The vector that a handler decodes, when it gets as far. -/
def Arrival.buffer (arrival : Arrival L) : Option Bytes :=
  if arrival.ec then none
  else
    match (receive_from arrival).run ⟨Node.initial L, []⟩ with
    | .ok (buffer, _) _ => some buffer
    | .error _ _ => none

/-- A worker runs the handler: what leaves it other than by returning ends the process. -/
def dispatch (config : Config L) (env : Environment L) (arrival : Arrival L) (s : Step L) : Except Fault (Step L) :=
  if ∃ buffer ∈ arrival.buffer, ReadsNull config env buffer then .error .null_pointer
  else
    match (async_wait_handler config env arrival).run s with
    | .ok _ t => .ok t
    | .error e _ => .error (.thrown e)

/-- The handler returns, and has asked for the next datagram once. -/
def Survives (config : Config L) (env : Environment L) (buffer : Bytes) (remote_endpoint : Endpoint L) (node : Node L) :
    Prop :=
  ∃ t, dispatch config env (.whole buffer remote_endpoint) ⟨node, []⟩ = .ok t ∧ t.effects.count .async_wait = 1

/-- One datagram of a receiver's life, and what the other handlers of the node did to it
    since the datagram before. -/
structure Received (L : Libraries) where
  meanwhile : Node L → Node L
  env : Environment L
  buffer : Bytes
  remote_endpoint : Endpoint L

/-- The receive loop on a sequence of datagrams: it ends where a handler does not return. -/
def listen (config : Config L) : List (Received L) → Node L → Except Fault (Node L)
  | [], node => .ok node
  | received :: rest, node =>
    match dispatch config received.env (.whole received.buffer received.remote_endpoint) ⟨received.meanwhile node, []⟩ with
    | .ok t => listen config rest t.node
    | .error fault => .error fault

/-- Neither the datagram nor, in a frame, its message is empty, and where the datagram is
    read as metadata, the key read from it is one. -/
structure Survivable (config : Config L) (env : Environment L) (buffer : Bytes) : Prop where
  datagram : buffer ≠ []
  message : ∀ signature, ¬ Starts signedLayout [[], signature] buffer
  metadata : ReadAsMetadata config env buffer → (L.publicKey (metadata_from_buffer buffer env.beyond).2).isSome

theorem count_received (config : Config L) (message : Message) (source : L.PublicKey) :
    (config.receiveEffects message source).count .async_wait = 0 := by
  unfold Config.receiveEffects
  split <;> simp

theorem count_accepted (config : Config L) (env : Environment L) (message : Message) (public_key : L.PublicKey)
    (remote_endpoint : Endpoint L) (s : Step L) :
    (s.accepted config env message public_key remote_endpoint).effects.count .async_wait =
      s.effects.count .async_wait := by
  rw [accepted_effects]
  cases config.punched env s.effects.length message.source_ip (sourcePort message remote_endpoint) with
  | none => simp
  | some endpoint => simp [count_received]

theorem count_relayed (env : Environment L) (buffer : Bytes) (message : Message) (s : Step L) :
    (s.relayed env buffer message).effects.count .async_wait = s.effects.count .async_wait := by
  unfold Step.relayed
  cases nextHop s.node.metadata_ip_resolver_ message with
  | none => rfl
  | some endpoint =>
    simp only
    split <;> simp

theorem count_listening (s : Step L) :
    s.listening.effects.count .async_wait = s.effects.count .async_wait + 1 := by
  simp [Step.listening]

/-- A handler that returns has asked for the next datagram exactly once. -/
theorem count_async_wait {config : Config L} {env : Environment L} {buffer : Bytes} {remote_endpoint : Endpoint L}
    {s t : Step L} (run : (async_wait_handler config env (.whole buffer remote_endpoint)).run s = .ok () t) :
    t.effects.count .async_wait = s.effects.count .async_wait + 1 := by
  rw [async_wait_handler_run] at run
  cases read : reading config env buffer with
  | accepted message public_key =>
    simp only [read] at run
    cases run
    rw [count_listening, count_accepted]
  | transit message =>
    simp only [read] at run
    cases run
    rw [count_listening]
    by_cases relay : config.relay_ = true
    · rw [if_pos relay, count_relayed]
    · rw [if_neg relay]
  | dropped =>
    simp only [read] at run
    cases run
    rw [count_listening]
  | metadata =>
    simp only [read] at run
    cases key : L.publicKey (metadata_from_buffer buffer env.beyond).2 with
    | none => simp [key] at run
    | some public_key =>
      simp only [key] at run
      cases run
      rw [count_listening]
      rfl

theorem returns_iff (config : Config L) (env : Environment L) (buffer : Bytes) (remote_endpoint : Endpoint L)
    (s : Step L) :
    (∃ t, (async_wait_handler config env (.whole buffer remote_endpoint)).run s = .ok () t) ↔
      (ReadAsMetadata config env buffer → (L.publicKey (metadata_from_buffer buffer env.beyond).2).isSome) := by
  rw [← reading_eq_metadata, async_wait_handler_run]
  cases reading config env buffer with
  | accepted message public_key => simp
  | transit message => simp
  | dropped => simp
  | metadata => cases L.publicKey (metadata_from_buffer buffer env.beyond).2 <;> simp

theorem whole_buffer (buffer : Bytes) (remote_endpoint : Endpoint L) :
    (Arrival.whole buffer remote_endpoint).buffer = some buffer := by
  rw [Arrival.buffer, receive_from_whole]
  rfl

theorem dispatch_whole (config : Config L) (env : Environment L) (buffer : Bytes) (remote_endpoint : Endpoint L)
    (s : Step L) :
    dispatch config env (.whole buffer remote_endpoint) s =
      if ReadsNull config env buffer then .error .null_pointer
      else
        match (async_wait_handler config env (.whole buffer remote_endpoint)).run s with
        | .ok _ t => .ok t
        | .error e _ => .error (.thrown e) := by
  simp only [dispatch, whole_buffer, Option.mem_some_iff, exists_eq_left']

theorem dispatch_ok_iff (config : Config L) (env : Environment L) (buffer : Bytes) (remote_endpoint : Endpoint L)
    (s t : Step L) :
    dispatch config env (.whole buffer remote_endpoint) s = .ok t ↔
      ¬ ReadsNull config env buffer ∧ (async_wait_handler config env (.whole buffer remote_endpoint)).run s = .ok () t := by
  rw [dispatch_whole]
  by_cases null : ReadsNull config env buffer
  · simp [null]
  · rw [if_neg null]
    cases (async_wait_handler config env (.whole buffer remote_endpoint)).run s <;> simp [null]

theorem dispatch_returns_iff (config : Config L) (env : Environment L) (buffer : Bytes) (remote_endpoint : Endpoint L)
    (s : Step L) :
    (∃ t, dispatch config env (.whole buffer remote_endpoint) s = .ok t) ↔ Survivable config env buffer := by
  simp only [dispatch_ok_iff, exists_and_left, returns_iff, readsNull_iff]
  constructor
  · rintro ⟨full, metadata⟩
    exact ⟨fun empty => full (.inl empty), fun signature starts => full (.inr ⟨signature, starts⟩), metadata⟩
  · rintro ⟨datagram, message, metadata⟩
    exact ⟨fun null => null.elim datagram fun ⟨signature, starts⟩ => message signature starts, metadata⟩

theorem survives_iff (config : Config L) (env : Environment L) (buffer : Bytes) (remote_endpoint : Endpoint L)
    (node : Node L) :
    Survives config env buffer remote_endpoint node ↔ Survivable config env buffer := by
  rw [← dispatch_returns_iff config env buffer remote_endpoint ⟨node, []⟩]
  constructor
  · rintro ⟨t, run, -⟩
    exact ⟨t, run⟩
  · rintro ⟨t, run⟩
    exact ⟨t, run, count_async_wait ((dispatch_ok_iff _ _ _ _ _ _).mp run).2⟩

theorem listen_ok_iff (config : Config L) (datagrams : List (Received L)) (node : Node L) :
    (∃ last, listen config datagrams node = .ok last) ↔
      ∀ received ∈ datagrams, Survivable config received.env received.buffer := by
  induction datagrams generalizing node with
  | nil => simp [listen]
  | cons received rest ih =>
    have step := dispatch_returns_iff config received.env received.buffer received.remote_endpoint
      ⟨received.meanwhile node, []⟩
    rw [List.forall_mem_cons, ← step, listen]
    cases dispatch config received.env (.whole received.buffer received.remote_endpoint)
        ⟨received.meanwhile node, []⟩ with
    | error fault => simp
    | ok t => simp [ih]

/-- The receive loop goes on exactly as long as no datagram and no message of a frame is
    empty, and every datagram that is read as metadata carries a key. -/
theorem receive_loop_survives_iff (config : Config L) :
    (∀ (env : Environment L) (buffer : Bytes) (remote_endpoint : Endpoint L) (node : Node L),
      Survives config env buffer remote_endpoint node ↔ Survivable config env buffer) ∧
    ∀ (datagrams : List (Received L)) (node : Node L),
      (∃ last, listen config datagrams node = .ok last) ↔
        ∀ received ∈ datagrams, Survivable config received.env received.buffer :=
  ⟨survives_iff config, listen_ok_iff config⟩

/-- A signed message without a source key, whose signature is the octets "BC". -/
def strayDatagram : Bytes := toLE 2 22 ++ List.replicate 22 0 ++ [2, 0, 66, 67]

/-- The stray datagram is read as metadata with the key "BC", and the exception leaves
    the handler. -/
theorem receive_loop_stops_at_stray :
    ¬ ∀ (env : Environment Sample.libraries) (buffer : Bytes) (remote_endpoint : Endpoint Sample.libraries)
      (node : Node Sample.libraries), Survives Sample.receiver env buffer remote_endpoint node := by
  intro survives
  obtain ⟨t, returned, -⟩ := survives Sample.environment strayDatagram Sample.elsewhere (Node.initial _)
  have ran := ((dispatch_ok_iff _ _ _ _ _ _).mp returned).2
  have thrown : returns ((async_wait_handler Sample.receiver Sample.environment
      (.whole strayDatagram Sample.elsewhere)).run ⟨Node.initial _, []⟩) = false := by decide +kernel
  rw [ran] at thrown
  cases thrown

end P2PMessenger
