import P2PMessenger.Node

/-!
`message_sender.cpp`: one call builds a message, signs it and sends it to its
destination and to the relay node. An exception ends the call where it is thrown, so
the effects of a call are always the first of a fixed list.
-/
namespace P2PMessenger
open Octets Memory Throwing

variable {L : Libraries}

/-- The message that a call builds. -/
def Config.message (config : Config L) (destination_ip : Bytes) (destination_port : UInt16) (destination_login : Bytes)
    (public_key : L.PublicKey) (text : Bytes) : Message where
  id := 1
  source_ip := config.my_ip_
  source_port := config.my_port_
  source_login := config.my_login_
  source_public_key := config.public_key_string
  destination_ip := destination_ip
  destination_port := destination_port
  destination_login := destination_login
  destination_public_key := L.toString public_key
  payload := ⟨1700000000, text⟩

/-- The copy for the relay node, unless it is the destination. -/
def send_relay_copy (config : Config L) (env : Environment L) (destination_ip buffer : Bytes) : Program L Unit := do
  if config.relay_node_ip_ ≠ [] ∧ destination_ip ≠ config.relay_node_ip_ then
    let relay_address ← library .system_error (L.make_address config.relay_node_ip_)
    send_to env .message buffer ⟨relay_address, config.relay_node_port_⟩

/-- What `send_message` does from the signature on. -/
def sign_and_send (config : Config L) (env : Environment L) (message : Message) (buffer : Bytes) : Program L Unit := do
  emit (.sign buffer)
  let signature ← MonadExcept.ofExcept (sign L buffer config.private_key_)
  let buffer := signed_message_to_buffer ⟨buffer, signature⟩
  let address ← library .system_error (L.make_address message.destination_ip)
  send_to env .message buffer ⟨address, message.destination_port⟩
  send_relay_copy config env message.destination_ip buffer
  send_handler message

def send_message (config : Config L) (env : Environment L) (destination_address destination_login : Bytes)
    (public_key : L.PublicKey) (text : Bytes) : Program L Unit := do
  tryCatch (do
    let (destination_ip, destination_port) ← MonadExcept.ofExcept (get_ip_and_port_from_address destination_address)
    let message := config.message destination_ip destination_port destination_login public_key text
    let buffer ← MonadExcept.ofExcept (message_to_buffer L env.seed message (some public_key))
    sign_and_send config env message buffer) fun _ => pure ()

/-- The message that a call builds and its octets, when nothing throws before it is signed. -/
def composed (config : Config L) (env : Environment L) (destination_address destination_login : Bytes)
    (public_key : L.PublicKey) (text : Bytes) : Except Exception (Message × Bytes) := do
  let (destination_ip, destination_port) ← get_ip_and_port_from_address destination_address
  let message := config.message destination_ip destination_port destination_login public_key text
  let buffer ← message_to_buffer L env.seed message (some public_key)
  return (message, buffer)

/-- The effects of a call after the direct copy, when the socket takes every datagram. -/
def Config.relayEffects (config : Config L) (message : Message) (buffer : Bytes) : List (Effect L) :=
  if config.relay_node_ip_ ≠ [] ∧ message.destination_ip ≠ config.relay_node_ip_ then
    match L.make_address config.relay_node_ip_ with
    | some relay_address => .send_to .message buffer ⟨relay_address, config.relay_node_port_⟩ :: sendEffects message
    | none => []
  else sendEffects message

/-- The effects of a call on a message with these octets, when the socket takes every
    datagram. -/
def Config.callEffects (config : Config L) (message : Message) (inner : Bytes) : List (Effect L) :=
  .sign inner ::
    match L.sign config.private_key_ inner, L.make_address message.destination_ip with
    | some signature, some address =>
      let buffer := signed_message_to_buffer ⟨inner, signature⟩
      .send_to .message buffer ⟨address, message.destination_port⟩ :: config.relayEffects message buffer
    | _, _ => []

/-- Some effects are the first of a list, and every datagram among them fits into UDP. -/
structure Cut (added full : List (Effect L)) : Prop where
  first : added <+: full
  fits : ∀ purpose buffer endpoint, .send_to purpose buffer endpoint ∈ added → buffer.length ≤ 65507

theorem Cut.nil (full : List (Effect L)) : Cut [] full := ⟨List.nil_prefix, by simp⟩

theorem Cut.cons {added full : List (Effect L)} (cut : Cut added full) {effect : Effect L}
    (fits : ∀ purpose buffer endpoint, effect = .send_to purpose buffer endpoint → buffer.length ≤ 65507) :
    Cut (effect :: added) (effect :: full) := by
  refine ⟨List.prefix_cons_inj effect |>.mpr cut.first, ?_⟩
  intro purpose buffer endpoint member
  rcases List.mem_cons.mp member with same | later
  · exact fits purpose buffer endpoint same.symm
  · exact cut.fits purpose buffer endpoint later

/-- The socket refuses this effect when so many effects came before. -/
def Environment.refuses (env : Environment L) (before : Nat) : Effect L → Bool
  | .send_to _ buffer _ => !(decide (buffer.length ≤ 65507) && env.accepts before)
  | _ => false

/-- What is done of some effects: all up to the first that the socket refuses. -/
def performed (env : Environment L) : Nat → List (Effect L) → List (Effect L)
  | _, [] => []
  | before, effect :: rest => if env.refuses before effect then [] else effect :: performed env (before + 1) rest

theorem refuses_send_to (env : Environment L) (before : Nat) (purpose : Purpose) (buffer : Bytes) (endpoint : Endpoint L) :
    env.refuses before (.send_to purpose buffer endpoint) = true ↔
      ¬ (buffer.length ≤ 65507 ∧ env.accepts before = true) := by
  rw [Environment.refuses, Bool.not_eq_true', ← Bool.not_eq_true, Bool.and_eq_true, decide_eq_true_eq]

theorem performed_cons_of_quiet (env : Environment L) (before : Nat) {effect : Effect L} (rest : List (Effect L))
    (quiet : env.refuses before effect = false) :
    performed env before (effect :: rest) = effect :: performed env (before + 1) rest := by
  simp [performed, quiet]

theorem cut_performed (env : Environment L) (before : Nat) (full : List (Effect L)) :
    Cut (performed env before full) full := by
  induction full generalizing before with
  | nil => exact Cut.nil _
  | cons effect rest ih =>
    unfold performed
    by_cases refused : env.refuses before effect = true
    · rw [if_pos refused]
      exact Cut.nil _
    · rw [if_neg refused]
      refine (ih (before + 1)).cons ?_
      rintro purpose buffer endpoint rfl
      rw [refuses_send_to, not_not] at refused
      exact refused.1

theorem performed_sendEffects (env : Environment L) (before : Nat) (message : Message) :
    performed env before (sendEffects message) = sendEffects message := by
  unfold sendEffects
  cases L.publicKey message.destination_public_key <;> rfl

/-- Sending and what comes after it: cut short by a refusal, or one effect more. -/
theorem send_to_then (env : Environment L) (buffer : Bytes) (endpoint : Endpoint L) {rest : Program L Unit}
    {full : List (Effect L)}
    (later : ∀ t : Step L, t.Follows (after (rest.run t)) (performed env t.effects.length full)) (s : Step L) :
    s.Follows (after ((send_to env .message buffer endpoint >>= fun _ => rest).run s))
      (performed env s.effects.length (.send_to .message buffer endpoint :: full)) := by
  rw [EStateM.run_bind, send_to_run]
  by_cases taken : buffer.length ≤ 65507 ∧ env.accepts s.effects.length = true
  · have quiet : env.refuses s.effects.length (.send_to .message buffer endpoint) = false := by
      rw [← Bool.not_eq_true, refuses_send_to, not_not]
      exact taken
    have first : s.Follows { s with effects := s.effects ++ [.send_to .message buffer endpoint] } [.send_to .message buffer endpoint] :=
      ⟨rfl, rfl⟩
    have follows := later { s with effects := s.effects ++ [.send_to .message buffer endpoint] }
    rw [List.length_append, List.length_singleton] at follows
    simp only [if_pos taken, performed_cons_of_quiet env _ full quiet]
    exact first.trans follows
  · have refused := (refuses_send_to env s.effects.length .message buffer endpoint).mpr taken
    simp only [if_neg taken, performed, refused, if_true]
    exact Step.Follows.refl s

theorem send_handler_performed (env : Environment L) (message : Message) (s : Step L) :
    s.Follows (after ((send_handler message).run s)) (performed env s.effects.length (sendEffects message)) := by
  rw [performed_sendEffects]
  exact send_handler_follows message s

theorem relay_copy_performed (config : Config L) (env : Environment L) (message : Message) (buffer : Bytes) (s : Step L) :
    s.Follows (after ((send_relay_copy config env message.destination_ip buffer >>= fun _ => send_handler message).run s))
      (performed env s.effects.length (config.relayEffects message buffer)) := by
  unfold send_relay_copy Config.relayEffects
  by_cases copy : config.relay_node_ip_ ≠ [] ∧ message.destination_ip ≠ config.relay_node_ip_
  · simp only [if_pos copy, bind_assoc]
    rw [EStateM.run_bind, run_library]
    cases L.make_address config.relay_node_ip_ with
    | none => exact Step.Follows.refl s
    | some relay_address => exact send_to_then env _ _ (send_handler_performed env message) s
  · simp only [if_neg copy]
    exact send_handler_performed env message s

theorem sign_and_send_performed (config : Config L) (env : Environment L) (message : Message) (inner : Bytes) (s : Step L) :
    s.Follows (after ((sign_and_send config env message inner).run s))
      (performed env s.effects.length (config.callEffects message inner)) := by
  have first : s.Follows { s with effects := s.effects ++ [.sign inner] } [.sign inner] := ⟨rfl, rfl⟩
  unfold sign_and_send Config.callEffects sign
  rw [EStateM.run_bind, run_emit, performed_cons_of_quiet _ _ _ rfl]
  simp only [EStateM.run_bind, run_ofExcept]
  cases L.sign config.private_key_ inner with
  | none => exact first
  | some signature =>
    simp only [orThrow_some, run_library]
    cases L.make_address message.destination_ip with
    | none => exact first
    | some address =>
      have copies := relay_copy_performed config env message (signed_message_to_buffer ⟨inner, signature⟩)
      have follows := send_to_then env (signed_message_to_buffer ⟨inner, signature⟩) ⟨address, message.destination_port⟩ copies
        { s with effects := s.effects ++ [.sign inner] }
      rw [EStateM.run_bind, List.length_append, List.length_singleton] at follows
      exact first.trans follows

theorem composed_eq_ok {config : Config L} {env : Environment L} {destination_address destination_login text inner : Bytes}
    {public_key : L.PublicKey} {message : Message}
    (ok : composed config env destination_address destination_login public_key text = .ok (message, inner)) :
    ∃ destination_ip destination_port payload_buffer,
      get_ip_and_port_from_address destination_address = .ok (destination_ip, destination_port) ∧
      message = config.message destination_ip destination_port destination_login public_key text ∧
      encrypt L env.seed (payload_to_buffer L message.payload) public_key = .ok payload_buffer ∧
      inner = (message_block message payload_buffer).vector := by
  obtain ⟨⟨ip, port⟩, parsed, ok⟩ := bind_eq_ok ok
  obtain ⟨buffer, written, ok⟩ := bind_eq_ok ok
  obtain ⟨payload_buffer, encrypted, written⟩ := bind_eq_ok written
  cases ok
  cases written
  exact ⟨ip, port, payload_buffer, parsed, rfl, encrypted, rfl⟩

/-- What the effects of a call can be. -/
theorem mem_callEffects {config : Config L} {message : Message} {inner : Bytes} {effect : Effect L}
    (member : effect ∈ config.callEffects message inner) :
    effect = .sign inner ∨
    (∃ signature address endpoint, L.sign config.private_key_ inner = some signature ∧
      L.make_address message.destination_ip = some address ∧
      effect = .send_to .message (signed_message_to_buffer ⟨inner, signature⟩) endpoint) ∨
    effect ∈ (sendEffects message : List (Effect L)) := by
  unfold Config.callEffects at member
  rcases List.mem_cons.mp member with first | member
  · exact .inl first
  cases signed : L.sign config.private_key_ inner with
  | none => simp [signed] at member
  | some signature =>
    cases literal : L.make_address message.destination_ip with
    | none => simp [signed, literal] at member
    | some address =>
      simp only [signed, literal] at member
      rcases List.mem_cons.mp member with direct | member
      · exact .inr (.inl ⟨signature, address, _, rfl, rfl, direct⟩)
      unfold Config.relayEffects at member
      split_ifs at member with copy
      · cases node : L.make_address config.relay_node_ip_ with
        | none => simp [node] at member
        | some relay_address =>
          simp only [node] at member
          rcases List.mem_cons.mp member with relay | handler
          · exact .inr (.inl ⟨signature, address, _, rfl, rfl, relay⟩)
          · exact .inr (.inr handler)
      · exact .inr (.inr member)

theorem mem_sendEffects {message : Message} {effect : Effect L} (member : effect ∈ (sendEffects message : List (Effect L))) :
    effect = .send_handler message ∨ effect = .send_message_handler message ∨
      ∃ id, effect = .append .sent id message.source_login message.payload.text := by
  unfold sendEffects at member
  cases parsed : L.publicKey message.destination_public_key with
  | none => simp_all
  | some public_key =>
    simp only [parsed, List.mem_cons, List.not_mem_nil, or_false] at member
    rcases member with handler | append | callback
    · exact .inl handler
    · exact .inr (.inr ⟨_, append⟩)
    · exact .inr (.inl callback)

/-- Every datagram of a call is its signed message. -/
theorem mem_callEffects_send_to {config : Config L} {message : Message} {inner buffer : Bytes} {purpose : Purpose}
    {endpoint : Endpoint L} (sent : .send_to purpose buffer endpoint ∈ config.callEffects message inner) :
    ∃ signature address, L.sign config.private_key_ inner = some signature ∧
      L.make_address message.destination_ip = some address ∧ buffer = signed_message_to_buffer ⟨inner, signature⟩ := by
  rcases mem_callEffects sent with sign | ⟨signature, address, other, signed, literal, same⟩ | handler
  · cases sign
  · cases same
    exact ⟨signature, address, signed, literal, rfl⟩
  · rcases mem_sendEffects handler with same | same | ⟨id, same⟩ <;> cases same

theorem mem_callEffects_sign {config : Config L} {message : Message} {inner octets : Bytes}
    (signs : .sign octets ∈ config.callEffects message inner) : octets = inner := by
  rcases mem_callEffects signs with sign | ⟨_, _, _, -, -, same⟩ | handler
  · cases sign
    rfl
  · cases same
  · rcases mem_sendEffects handler with same | same | ⟨id, same⟩ <;> cases same

theorem mem_callEffects_append {config : Config L} {message : Message} {inner login text : Bytes} {origin : Origin}
    {id : L.InfoHash} (appends : .append origin id login text ∈ config.callEffects message inner) : origin = .sent := by
  rcases mem_callEffects appends with sign | ⟨_, _, _, -, -, same⟩ | handler
  · cases sign
  · cases same
  · rcases mem_sendEffects handler with same | same | ⟨id, same⟩
    · cases same
    · cases same
    · cases same
      rfl

/-- A call returns. It does nothing when it cannot compose its message, and else it does
    what the whole call does up to the first datagram that the socket refuses. -/
theorem send_message_performed (config : Config L) (env : Environment L) (destination_address destination_login : Bytes)
    (public_key : L.PublicKey) (text : Bytes) (s : Step L) :
    ∃ (t : Step L) (added : List (Effect L)),
      (send_message config env destination_address destination_login public_key text).run s = .ok () t ∧
      s.Follows t added ∧
      added = match composed config env destination_address destination_login public_key text with
      | .error _ => []
      | .ok (message, inner) => performed env s.effects.length (config.callEffects message inner) := by
  unfold send_message composed
  rw [run_swallow, EStateM.run_bind, run_ofExcept]
  cases get_ip_and_port_from_address destination_address with
  | error e => exact ⟨s, [], rfl, Step.Follows.refl s, rfl⟩
  | ok parsed =>
    obtain ⟨destination_ip, destination_port⟩ := parsed
    simp only [EStateM.run_bind, run_ofExcept]
    simp only [bind, Except.bind]
    cases message_to_buffer L env.seed
        (config.message destination_ip destination_port destination_login public_key text) (some public_key) with
    | error e => exact ⟨s, [], rfl, Step.Follows.refl s, rfl⟩
    | ok inner =>
      exact ⟨_, _, rfl, sign_and_send_performed config env
        (config.message destination_ip destination_port destination_login public_key text) inner s, rfl⟩

/-- The effects of a call are the first of the whole call's. -/
theorem send_message_run (config : Config L) (env : Environment L) (destination_address destination_login : Bytes)
    (public_key : L.PublicKey) (text : Bytes) (s : Step L) :
    ∃ (t : Step L) (added : List (Effect L)),
      (send_message config env destination_address destination_login public_key text).run s = .ok () t ∧
      s.Follows t added ∧
      match composed config env destination_address destination_login public_key text with
      | .error _ => added = []
      | .ok (message, inner) => Cut added (config.callEffects message inner) := by
  obtain ⟨t, added, run, follows, same⟩ :=
    send_message_performed config env destination_address destination_login public_key text s
  refine ⟨t, added, run, follows, ?_⟩
  cases built : composed config env destination_address destination_login public_key text with
  | error e => simpa only [built] using same
  | ok composition =>
    simp only [built] at same
    rw [same]
    exact cut_performed _ _ _

/-- An effect of a call is one of the whole call's, on the message that the call composed. -/
theorem mem_callEffects_of_mem {config : Config L} {env : Environment L} {destination_address destination_login text : Bytes}
    {public_key : L.PublicKey} {added : List (Effect L)} {effect : Effect L}
    (effects : match composed config env destination_address destination_login public_key text with
      | .error _ => added = []
      | .ok (message, inner) => Cut added (config.callEffects message inner)) (member : effect ∈ added) :
    ∃ message inner,
      composed config env destination_address destination_login public_key text = .ok (message, inner) ∧
      Cut added (config.callEffects message inner) ∧ effect ∈ config.callEffects message inner := by
  cases built : composed config env destination_address destination_login public_key text with
  | error e =>
    simp only [built] at effects
    rw [effects] at member
    cases member
  | ok composition =>
    obtain ⟨message, inner⟩ := composition
    simp only [built] at effects
    exact ⟨message, inner, rfl, effects, effects.first.subset member⟩

/-- A datagram that a call sends is the signed message that the call composed, and fits
    into UDP. -/
theorem datagram_of_sent {config : Config L} {env : Environment L} {destination_address destination_login text : Bytes}
    {public_key : L.PublicKey} {caller : Node L} {t : Step L} {buffer : Bytes} {endpoint : Endpoint L}
    (call : (send_message config env destination_address destination_login public_key text).run ⟨caller, []⟩ = .ok () t)
    (sent : .send_to .message buffer endpoint ∈ t.effects) :
    ∃ message inner signature address,
      composed config env destination_address destination_login public_key text = .ok (message, inner) ∧
      L.sign config.private_key_ inner = some signature ∧ L.make_address message.destination_ip = some address ∧
      buffer = signed_message_to_buffer ⟨inner, signature⟩ ∧ 4 + inner.length + signature.length ≤ 65507 := by
  obtain ⟨t', added, run, follows, cut⟩ :=
    send_message_run config env destination_address destination_login public_key text ⟨caller, []⟩
  rw [call] at run
  cases run
  have effects : t.effects = added := follows.effects
  rw [effects] at sent
  obtain ⟨message, inner, built, cut, whole⟩ := mem_callEffects_of_mem cut sent
  have fits := cut.fits .message buffer endpoint sent
  obtain ⟨signature, address, signed, literal, rfl⟩ := mem_callEffects_send_to whole
  rw [signed_message_to_buffer_length] at fits
  exact ⟨message, inner, signature, address, built, signed, literal, rfl, fits⟩

end P2PMessenger
