import P2PMessenger.Kinds

/-!
What the memory behind a datagram decides. Two decoders compare no length: the one that
tells whose a message is, and the one for metadata. They read what lies behind a vector
that is too short, and that memory then names the destination or the key. An empty vector is
followed by memory here like any other; that its pointer is null is the matter of the
receive loop (`ReadsNull`).
-/
namespace P2PMessenger
open Octets Memory Layout Throwing

variable {L : Libraries}

/-! ## The decoders that compare no length -/

/-- The layout of the inner message up to its destination key. -/
def keyLayout : List Field := messageLayout.take 9

/-- The destination key among the values of that layout. -/
def keyOf (values : List Bytes) : Bytes := (values[8]?).getD []

theorem destinantion_public_key_from_buffer_scan (buffer : Bytes) (beyond : Contents) :
    destinantion_public_key_from_buffer buffer beyond = keyOf (scan keyLayout (view buffer beyond) 0).1 := rfl

/-- Where the pointer stands after so many fields. -/
def pointerAfter (fields : Nat) (memory : Contents) : Nat := (scan (keyLayout.take fields) memory 0).2

/-- The reads are the counts of the skipped fields, and the destination key with its
    count. -/
theorem destinantion_public_key_reads_eq (buffer : Bytes) (beyond : Contents) :
    destinantion_public_key_reads buffer beyond =
      [(pointerAfter 1 (view buffer beyond), 1), (pointerAfter 3 (view buffer beyond), 1),
        (pointerAfter 4 (view buffer beyond), 2), (pointerAfter 5 (view buffer beyond), 1),
        (pointerAfter 7 (view buffer beyond), 1), (pointerAfter 8 (view buffer beyond), 2),
        (pointerAfter 8 (view buffer beyond) + 2,
          ofLE (slice (view buffer beyond) (pointerAfter 8 (view buffer beyond)) 2))] := rfl

/-- The destination key is read inside the message exactly when the message holds it
    whole, and all fields before it. -/
theorem destinantion_public_key_reads_inside (buffer : Bytes) (beyond : Contents) :
    Inside buffer.length (destinantion_public_key_reads buffer beyond) ↔ ∃ values, Starts keyLayout values buffer := by
  rw [destinantion_public_key_reads_eq]
  set memory := view buffer beyond
  have last : pointerAfter 9 memory = pointerAfter 8 memory + 2 + ofLE (slice memory (pointerAfter 8 memory) 2) := rfl
  -- Every read ends before the last field does.
  have one : pointerAfter 1 memory + 12 ≤ pointerAfter 9 memory := le_scan (keyLayout.drop 1) memory _
  have three : pointerAfter 3 memory + 9 ≤ pointerAfter 9 memory := le_scan (keyLayout.drop 3) memory _
  have four : pointerAfter 4 memory + 8 ≤ pointerAfter 9 memory := le_scan (keyLayout.drop 4) memory _
  have five : pointerAfter 5 memory + 6 ≤ pointerAfter 9 memory := le_scan (keyLayout.drop 5) memory _
  have seven : pointerAfter 7 memory + 3 ≤ pointerAfter 9 memory := le_scan (keyLayout.drop 7) memory _
  simp only [Inside, List.forall_mem_cons, List.not_mem_nil, false_imp_iff, forall_const, and_true]
  constructor
  · rintro ⟨-, -, -, -, -, count, key⟩
    have inside : pointerAfter 9 memory ≤ buffer.length := by omega
    exact ⟨_, (scan_iff keyLayout _ _ beyond).mpr ⟨inside, rfl⟩⟩
  · rintro ⟨values, starts⟩
    have inside : pointerAfter 9 memory ≤ buffer.length := ((scan_iff _ _ _ beyond).mp starts).1
    refine ⟨?_, ?_, ?_, ?_, ?_, ?_, ?_⟩
    all_goals omega

/-- Metadata is read inside the datagram exactly when the datagram holds it whole. -/
theorem metadata_reads_inside (buffer : Bytes) (beyond : Contents) :
    Inside buffer.length (metadata_reads buffer beyond) ↔ ∃ values, Starts metadataLayout values buffer := by
  have wide : ∀ field ∈ metadataLayout, 0 < field.width := by decide
  rw [metadata_reads_eq]
  constructor
  · intro inside
    have ends := past_ptr_le wide (Nat.zero_le _) inside
    rw [past_ptr] at ends
    exact ⟨_, (scan_iff _ _ _ beyond).mpr ⟨ends, rfl⟩⟩
  · rintro ⟨values, starts⟩
    refine inside_past wide ?_ ?_
    · intro access member
      cases member
    · rw [past_ptr]
      exact ((scan_iff _ _ _ beyond).mp starts).1

/-! ## Two runs over the same datagram -/

/-- The environment with other memory behind the datagram and behind the inner message. -/
def Environment.over (env : Environment L) (beyond beyond_message : Contents) : Environment L :=
  { env with beyond := beyond, beyond_message := beyond_message }

/-- The handler of a datagram does the same, and throws the same, whatever the memory
    holds. -/
def SameOver (config : Config L) (env : Environment L) (buffer : Bytes) (remote_endpoint : Endpoint L) : Prop :=
  ∀ (node : Node L) (one two oneMessage twoMessage : Contents),
    (async_wait_handler config (env.over one oneMessage) (.whole buffer remote_endpoint)).run ⟨node, []⟩ =
      (async_wait_handler config (env.over two twoMessage) (.whole buffer remote_endpoint)).run ⟨node, []⟩

/-- The decoders that compare no length stay inside their vectors wherever the handler
    calls them. -/
structure ReadsInside (config : Config L) (env : Environment L) (buffer : Bytes) : Prop where
  key : ∀ signed_message, signed_message_from_buffer buffer env.beyond = .ok signed_message →
    Inside signed_message.message.length (destinantion_public_key_reads signed_message.message env.beyond_message)
  metadata : ReadAsMetadata config env buffer → Inside buffer.length (metadata_reads buffer env.beyond)

/-- The datagram is a whole signed message, whose message holds its destination key and
    all fields before it whole. -/
def Whole (buffer : Bytes) : Prop :=
  ∃ (signed_message : SignedMessage) (values : List Bytes),
    Starts signedLayout signed_message.fields buffer ∧ Starts keyLayout values signed_message.message

/-- The login and the key that metadata names, if its key is one. -/
def Libraries.named (L : Libraries) (metadata : Bytes × Bytes) : Option (Bytes × L.PublicKey) :=
  (L.publicKey metadata.2).map fun public_key => (metadata.1, public_key)

/-- However the missing octets are supplied, the message of a frame is this node's or is
    not, and a datagram that is no frame names the same login and key or none. -/
structure Settled (config : Config L) (buffer : Bytes) : Prop where
  key : ∀ signed_message : SignedMessage, Starts signedLayout signed_message.fields buffer →
    ∀ more others values valuesOther, Starts keyLayout values (signed_message.message ++ more) →
      Starts keyLayout valuesOther (signed_message.message ++ others) →
      (keyOf values = config.public_key_string ↔ keyOf valuesOther = config.public_key_string)
  metadata : (∀ values, ¬ Starts signedLayout values buffer) →
    ∀ more others login public_key loginOther public_keyOther,
      Starts metadataLayout [login, public_key] (buffer ++ more) →
      Starts metadataLayout [loginOther, public_keyOther] (buffer ++ others) →
      L.named (login, public_key) = L.named (loginOther, public_keyOther)

section
variable {config : Config L} {env : Environment L} {buffer : Bytes} {signed_message : SignedMessage}

/-- Metadata that does not name a key throws, and else stores what it names. -/
theorem metadata_run_named (env : Environment L) (read : reading config env buffer = .metadata)
    (remote_endpoint : Endpoint L) (node : Node L) :
    (async_wait_handler config env (.whole buffer remote_endpoint)).run ⟨node, []⟩ =
      match L.named (metadata_from_buffer buffer env.beyond) with
      | some (login, public_key) =>
        .ok () ((⟨node, []⟩ : Step L).put login public_key (L.to_string remote_endpoint.address)
          remote_endpoint.port).listening
      | none => .error .crypto_exception ⟨node, []⟩ := by
  rw [async_wait_handler_run, read]
  unfold Libraries.named
  cases L.publicKey (metadata_from_buffer buffer env.beyond).2 <;> rfl

/-- One reading, and in metadata the same names, make the same run. -/
theorem run_over_eq {one two oneMessage twoMessage : Contents}
    (reads : reading config (env.over one oneMessage) buffer = reading config (env.over two twoMessage) buffer)
    (names : reading config (env.over one oneMessage) buffer = .metadata →
      L.named (metadata_from_buffer buffer one) = L.named (metadata_from_buffer buffer two))
    (remote_endpoint : Endpoint L) (node : Node L) :
    (async_wait_handler config (env.over one oneMessage) (.whole buffer remote_endpoint)).run ⟨node, []⟩ =
      (async_wait_handler config (env.over two twoMessage) (.whole buffer remote_endpoint)).run ⟨node, []⟩ := by
  by_cases metadata : reading config (env.over one oneMessage) buffer = .metadata
  · have other := reads.symm.trans metadata
    have same : L.named (metadata_from_buffer buffer (env.over one oneMessage).beyond) =
        L.named (metadata_from_buffer buffer (env.over two twoMessage).beyond) := names metadata
    rw [metadata_run_named _ metadata, metadata_run_named _ other, same]
  · rw [async_wait_handler_run, async_wait_handler_run, ← reads]
    cases read : reading config (env.over one oneMessage) buffer with
    | accepted message public_key => rfl
    | transit message => rfl
    | dropped => rfl
    | metadata => exact absurd read metadata

/-- A frame is read the same over any memory that answers the same whether its message is
    this node's. -/
theorem reading_over_eq (starts : Starts signedLayout signed_message.fields buffer)
    {one two oneMessage twoMessage : Contents}
    (answers : destinantion_public_key_from_buffer signed_message.message oneMessage = config.public_key_string ↔
      destinantion_public_key_from_buffer signed_message.message twoMessage = config.public_key_string) :
    reading config (env.over one oneMessage) buffer = reading config (env.over two twoMessage) buffer := by
  have opened := message_from_buffer_beyond L signed_message.message config.private_key_ oneMessage twoMessage
  have closed := message_with_not_decrypted_payload_from_buffer_beyond signed_message.message oneMessage twoMessage
  unfold reading Environment.over
  simp only [signed_message_from_buffer_of_starts starts, opened, closed]
  exact if_congr answers rfl rfl

/-- The frame of a datagram, read as metadata, names the same over any memory. -/
theorem metadata_of_frame (starts : Starts signedLayout signed_message.fields buffer) (beyond : Contents) :
    metadata_from_buffer buffer beyond = (signed_message.message, signed_message.signature) :=
  metadata_from_buffer_of_starts starts beyond

theorem reading_unframed (none : ∀ values, ¬ Starts signedLayout values buffer) (env : Environment L) :
    reading config env buffer = .metadata := by
  rcases signed_message_from_buffer_cases buffer with ⟨found, starts, -⟩ | ⟨-, error⟩
  · exact absurd starts (none _)
  · exact (reading_eq_metadata _ _ _).mpr (.inl ⟨_, error env.beyond⟩)

end

/-! ## Where the memory decides -/

theorem sameOver_of_settled {config : Config L} {buffer : Bytes} (settled : Settled config buffer) (env : Environment L)
    (remote_endpoint : Endpoint L) : SameOver config env buffer remote_endpoint := by
  intro node one two oneMessage twoMessage
  rcases signed_message_from_buffer_cases buffer with ⟨signed_message, starts, -⟩ | ⟨none, -⟩
  · obtain ⟨more, first⟩ := (read_iff_completes keyLayout _ signed_message.message).mp ⟨oneMessage, rfl⟩
    obtain ⟨others, second⟩ := (read_iff_completes keyLayout _ signed_message.message).mp ⟨twoMessage, rfl⟩
    have answers := settled.key signed_message starts more others _ _ first second
    refine run_over_eq (reading_over_eq starts answers) ?_ remote_endpoint node
    intro _
    rw [metadata_of_frame starts, metadata_of_frame starts]
  · obtain ⟨more, first⟩ := (read_iff_completes metadataLayout _ buffer).mp ⟨one, rfl⟩
    obtain ⟨others, second⟩ := (read_iff_completes metadataLayout _ buffer).mp ⟨two, rfl⟩
    rw [← metadata_from_buffer_eq] at first second
    refine run_over_eq ?_ ?_ remote_endpoint node
    · rw [reading_unframed none, reading_unframed none]
    · intro _
      exact settled.metadata none more others _ _ _ _ first second

/-- Memory that makes the message of a frame this node's and memory that does not are told
    apart: the message is torn, so the one is given up and the other is read as metadata. -/
theorem runs_differ {config : Config L} {env : Environment L} {buffer : Bytes} {signed_message : SignedMessage}
    (starts : Starts signedLayout signed_message.fields buffer) {beyond oneMessage twoMessage : Contents}
    (mine : destinantion_public_key_from_buffer signed_message.message oneMessage = config.public_key_string)
    (other : destinantion_public_key_from_buffer signed_message.message twoMessage ≠ config.public_key_string)
    (remote_endpoint : Endpoint L) :
    (async_wait_handler config (env.over beyond oneMessage) (.whole buffer remote_endpoint)).run ⟨Node.initial L, []⟩ ≠
      (async_wait_handler config (env.over beyond twoMessage) (.whole buffer remote_endpoint)).run ⟨Node.initial L, []⟩ := by
  have frame := signed_message_from_buffer_of_starts starts beyond
  rcases message_from_buffer_cases signed_message.message with ⟨whole, payload_buffer, -, -, ok⟩ | ⟨-, torn⟩
  · refine absurd ?_ other
    rw [(ok twoMessage).2.1, ← (ok oneMessage).2.1, mine]
  have dropped : reading config (env.over beyond oneMessage) buffer = .dropped :=
    reading_dropped_of_rejected frame mine (.inl ⟨notEnough, (torn oneMessage).2 L config.private_key_⟩)
  have unread : checked L signed_message (message_with_not_decrypted_payload_from_buffer signed_message.message twoMessage) =
      .error notEnough := by
    rw [(torn twoMessage).1]
    rfl
  have metadata : reading config (env.over beyond twoMessage) buffer = .metadata :=
    (reading_eq_metadata _ _ _).mpr (.inr ⟨signed_message, frame, other, notEnough, unread⟩)
  rw [async_wait_handler_run, dropped, metadata_run_named _ metadata]
  cases L.named (metadata_from_buffer buffer (env.over beyond twoMessage).beyond) with
  | none =>
    intro same
    cases same
  | some binding =>
    obtain ⟨login, public_key⟩ := binding
    intro same
    simp only [EStateM.Result.ok.injEq, true_and] at same
    have stored := congrArg (fun step : Step L => step.node.metadata_ip_resolver_.resolve login (L.getId public_key)) same
    simp only [Step.listening, Step.put, MetadataIpResolver.resolve_put_self] at stored
    cases stored

/-- Two runs from an empty node that are the same named the same. -/
theorem named_of_same {one two : Option (Bytes × L.PublicKey)} {ip : Bytes} {port : UInt16}
    (same : (match one with
        | some (login, public_key) =>
          (.ok () ((⟨Node.initial L, []⟩ : Step L).put login public_key ip port).listening : EStateM.Result Exception _ _)
        | none => .error .crypto_exception ⟨Node.initial L, []⟩) =
      match two with
        | some (login, public_key) => .ok () ((⟨Node.initial L, []⟩ : Step L).put login public_key ip port).listening
        | none => .error .crypto_exception ⟨Node.initial L, []⟩) : one = two := by
  cases one with
  | none =>
    cases two with
    | none => rfl
    | some second => cases same
  | some first =>
    cases two with
    | none => cases same
    | some second =>
      simp only [EStateM.Result.ok.injEq, true_and] at same
      have stored := congrArg (fun step : Step L => step.node.metadata_ip_resolver_) same
      obtain ⟨login, public_key⟩ := MetadataIpResolver.put_empty_inj stored
      rw [Option.some.injEq]
      exact Prod.ext login public_key

theorem settled_of_sameOver {config : Config L} {env : Environment L} {buffer : Bytes} {remote_endpoint : Endpoint L}
    (same : SameOver config env buffer remote_endpoint) : Settled config buffer := by
  constructor
  · intro signed_message starts more others values valuesOther first second
    obtain ⟨oneMessage, one⟩ := (read_iff_completes _ _ _).mpr ⟨more, first⟩
    obtain ⟨twoMessage, two⟩ := (read_iff_completes _ _ _).mpr ⟨others, second⟩
    rw [← one, ← two, ← destinantion_public_key_from_buffer_scan, ← destinantion_public_key_from_buffer_scan]
    constructor
    · intro mine
      by_contra other
      exact runs_differ starts mine other remote_endpoint (same _ (fun _ => 0) _ _ _)
    · intro mine
      by_contra other
      exact runs_differ starts mine other remote_endpoint (same _ (fun _ => 0) _ _ _)
  · intro none more others login public_key loginOther public_keyOther first second
    obtain ⟨one, readOne⟩ := (read_iff_completes _ _ _).mpr ⟨more, first⟩
    obtain ⟨two, readTwo⟩ := (read_iff_completes _ _ _).mpr ⟨others, second⟩
    rw [← metadata_from_buffer_eq] at readOne readTwo
    simp only [List.cons.injEq, and_true] at readOne readTwo
    have runs := same (Node.initial L) one two (fun _ => 0) fun _ => 0
    rw [metadata_run_named _ (reading_unframed none _), metadata_run_named _ (reading_unframed none _)] at runs
    have names := named_of_same runs
    rw [← readOne.1, ← readOne.2, ← readTwo.1, ← readTwo.2]
    exact names

theorem settled_of_whole {config : Config L} {buffer : Bytes} (whole : Whole buffer) : Settled config buffer := by
  obtain ⟨signed_message, values, frame, key⟩ := whole
  constructor
  · intro found starts more others one two first second
    have same := starts_unique starts frame
    simp only [SignedMessage.fields, List.cons.injEq] at same
    rw [same.1] at first second
    rw [starts_unique first (key.append more), starts_unique second (key.append others)]
  · intro none
    exact absurd frame (none _)

theorem readsInside_of_whole {config : Config L} {env : Environment L} {buffer : Bytes} (whole : Whole buffer) :
    ReadsInside config env buffer := by
  obtain ⟨signed_message, values, frame, key⟩ := whole
  constructor
  · intro found ok
    rw [signed_message_from_buffer_of_starts frame] at ok
    cases ok
    exact (destinantion_public_key_reads_inside _ _).mpr ⟨values, key⟩
  · intro _
    exact (metadata_reads_inside _ _).mpr ⟨_, frame⟩

theorem whole_of_readsInside {config : Config L} {env : Environment L} {buffer : Bytes}
    (inside : ReadsInside config env buffer) : Whole buffer := by
  rcases signed_message_from_buffer_cases buffer with ⟨signed_message, starts, ok⟩ | ⟨none, error⟩
  · obtain ⟨values, key⟩ := (destinantion_public_key_reads_inside _ _).mp (inside.key signed_message (ok env.beyond))
    exact ⟨signed_message, values, starts, key⟩
  · obtain ⟨values, starts⟩ := (metadata_reads_inside _ _).mp (inside.metadata (.inl ⟨_, error env.beyond⟩))
    exact absurd starts (none values)

/-- What the handler does depends on the datagram alone, and its decoders read nothing
    else, exactly when the datagram is a whole signed message that holds its destination
    key whole. What it does depends on the datagram alone exactly when all completions of
    the datagram agree on whose message it is, or on what it names. -/
theorem memory_matters_iff (config : Config L) (env : Environment L) (buffer : Bytes) (remote_endpoint : Endpoint L) :
    ((SameOver config env buffer remote_endpoint ∧
        ∀ beyond beyond_message, ReadsInside config (env.over beyond beyond_message) buffer) ↔ Whole buffer) ∧
    (SameOver config env buffer remote_endpoint ↔ Settled config buffer) := by
  refine ⟨⟨?_, ?_⟩, settled_of_sameOver, fun settled => sameOver_of_settled settled env remote_endpoint⟩
  · rintro ⟨-, inside⟩
    exact whole_of_readsInside (inside (fun _ => 0) fun _ => 0)
  · intro whole
    exact ⟨sameOver_of_settled (settled_of_whole whole) env remote_endpoint, fun _ _ => readsInside_of_whole whole⟩

/-- Metadata that names the login "bob" and ends before the count of its key. -/
def cutMetadata : Bytes := [3, 0, 98, 111, 98]

/-- The metadata without a key: over one memory it stops the receiver, and over another it
    stores an address under key 7. -/
theorem cut_metadata_depends_on_memory :
    ¬ SameOver Sample.receiver Sample.environment cutMetadata Sample.elsewhere ∧
    ¬ ReadsInside Sample.receiver Sample.environment cutMetadata := by
  constructor
  · intro same
    have runs := same (Node.initial _) (fun _ => 0) (view [1, 0, 7] fun _ => 0) (fun _ => 0) fun _ => 0
    have thrown : returns ((async_wait_handler Sample.receiver (Sample.environment.over (fun _ => 0) fun _ => 0)
        (.whole cutMetadata Sample.elsewhere)).run ⟨Node.initial _, []⟩) = false := by decide +kernel
    have returned : returns ((async_wait_handler Sample.receiver
        (Sample.environment.over (view [1, 0, 7] fun _ => 0) fun _ => 0)
        (.whole cutMetadata Sample.elsewhere)).run ⟨Node.initial _, []⟩) = true := by decide +kernel
    rw [runs, returned] at thrown
    cases thrown
  · intro inside
    have read : ReadAsMetadata Sample.receiver Sample.environment cutMetadata := .inl ⟨notEnough, by decide +kernel⟩
    have reads := inside.metadata read
    revert reads
    decide +kernel

end P2PMessenger
