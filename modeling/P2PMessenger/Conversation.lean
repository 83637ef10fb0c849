import P2PMessenger.Delivery
import P2PMessenger.Discovery

/-!
Messengers on a network that carries the direct copy of every call. It loses, copies and
makes up none of them, but may keep one for as long as it likes and let others pass it.
Contacts come from the DHT and from the messages themselves, and everybody may talk to
everybody at any time. The copy that a call sends to the caller's relay node and the hole
punches are not carried; where nobody has a relay node the direct copies are all that calls
send (`Company.Direct`, `allDatagrams_calling`). A run may go on after a task that ends a
process; one that stays with processes that go on is `Company.Running`.
-/
namespace P2PMessenger
open Octets Memory Layout Throwing Refinement Runs

variable {ν : Type} {L : Libraries}

/-- Messengers that can reach each other: every one gives the literal of an IPv4 address for
    its IP, the library's functions undo each other for its keys, and keys are different. -/
structure Company (ν : Type) (L : Libraries) where
  config : ν → Config L
  address : ν → L.Address
  literal : ∀ a, L.make_address (config a).my_ip_ = some (address a)
  plain : ∀ a, colon ∉ (config a).my_ip_
  short_ip : ∀ a, (config a).my_ip_.length ≤ 255
  short_login : ∀ a, (config a).my_login_.length ≤ 255
  punches : ∀ a, (config a).buffer_.length ≤ 65507
  relay : ∀ a, (config a).relay_node_ip_ = [] ∨ (L.make_address (config a).relay_node_ip_).isSome
  keys : ∀ a, L.DecryptUndoesEncrypt (config a).public_key (config a).private_key_
  verifies : ∀ a, L.SignatureVerifies (config a).private_key_
  strings : L.PublicKeyOfToString
  ids : L.DistinctIds
  different : Function.Injective fun a => (config a).public_key

/-- A datagram on its way, the call that it comes from and the one that it is for. -/
structure Letter (ν : Type) where
  speaker : ν
  listener : ν
  text : Bytes
  buffer : Bytes
  deriving DecidableEq

inductive Talk (ν : Type) (L : Libraries) where
  /-- A contact was announced at a messenger. -/
  | announced (a : ν) (login : Bytes) (id : L.InfoHash)
  | said (a b : ν) (text : Bytes)
  | heard (a b : ν) (text : Bytes)
  deriving DecidableEq

structure Gathering (ν : Type) (L : Libraries) where
  messengers : ν → Messenger L
  flight : List (Letter ν)
  log : List (Talk ν L)

def Gathering.initial (ν : Type) (L : Libraries) : Gathering ν L := ⟨fun _ => .initial L, [], []⟩

inductive Exchange (ν : Type) (L : Libraries) where
  /-- The first of two messengers calls the second. -/
  | speak (a b : ν) (env : Environment L) (text : Bytes)
  | hear (letter : Letter ν) (env : Environment L) (remote_endpoint : Endpoint L)
  | listen (a : ν) (login : Bytes) (values : List (DhtValue L)) (expired : Bool)
  | start (a : ν) (env : Environment L)
  | timer (a : ν) (env : Environment L) (endpoint : Endpoint L)

namespace Exchange

def member : Exchange ν L → ν
  | .speak a _ _ _ => a
  | .hear letter _ _ => letter.listener
  | .listen a _ _ _ => a
  | .start a _ => a
  | .timer a _ _ => a

def task (config : ν → Config L) : Exchange ν L → Task L
  | .speak _ b env text => .send_message env (config b).my_login_ (L.getId (config b).public_key) text
  | .hear letter env remote_endpoint => .receive env letter.buffer remote_endpoint
  | .listen _ login values expired => .listen_callback login values expired
  | .start _ env => .start env
  | .timer _ env endpoint => .timer env endpoint

end Exchange

/-- What an effect at a messenger means in an exchange with another. -/
def Effect.talk (a b : ν) : Effect L → Option (Talk ν L)
  | .append .sent _ _ text => some (.said a b text)
  | .append .received _ _ text => some (.heard a b text)
  | .listen_login_handler login id => some (.announced a login id)
  | _ => none

/-- The datagram of a call for its destination. The copy for the relay node comes after it. -/
def firstDatagram (effects : List (Effect L)) : Option Bytes :=
  effects.findSome? fun effect => match effect with
    | .send_to .message buffer _ => some buffer
    | _ => none

/-- Everything that a call sends. -/
def allDatagrams (effects : List (Effect L)) : List Bytes :=
  effects.filterMap fun effect => match effect with
    | .send_to _ buffer _ => some buffer
    | _ => none

def Gathering.did [DecidableEq ν] (s : Gathering ν L) (a b : ν) (worked : Messenger L × List (Effect L)) : Gathering ν L :=
  { s with
    messengers := Function.update s.messengers a worked.1
    log := s.log ++ worked.2.filterMap (Effect.talk a b) }

/-- A call puts its direct copy on the way. -/
def gather [DecidableEq ν] (config : ν → Config L) (s : Gathering ν L) : Exchange ν L → Option (Gathering ν L)
  | .speak a b env text =>
    (work (config a) (s.messengers a)
      (.send_message env (config b).my_login_ (L.getId (config b).public_key) text)).map fun worked =>
        { s.did a b worked with
          flight := s.flight ++ (firstDatagram worked.2).toList.map fun buffer => ⟨a, b, text, buffer⟩ }
  | .hear letter env remote_endpoint =>
    if letter ∈ s.flight then
      (work (config letter.listener) (s.messengers letter.listener)
        (.receive env letter.buffer remote_endpoint)).map fun worked =>
          { s.did letter.listener letter.speaker worked with flight := s.flight.erase letter }
    else none
  | .listen a login values expired =>
    (work (config a) (s.messengers a) (.listen_callback login values expired)).map (s.did a a)
  | .start a env => (work (config a) (s.messengers a) (.start env)).map (s.did a a)
  | .timer a env endpoint => (work (config a) (s.messengers a) (.timer env endpoint)).map (s.did a a)

namespace Company

variable (company : Company ν L)

abbrev id (a : ν) : L.InfoHash := L.getId (company.config a).public_key

/-- The octets of a call for a member at this port, with this ciphertext. -/
def inner (a b : ν) (text payload_buffer : Bytes) (port : UInt16) : Bytes :=
  (message_block ((company.config a).message (company.config b).my_ip_ port (company.config b).my_login_
    (company.config b).public_key text) payload_buffer).vector

/-- Nothing stands in the way of this text: the libraries do what they are asked, the
    datagram fits into UDP at any port, and the socket takes it. -/
structure Utters (a b : ν) (env : Environment L) (text : Bytes) : Prop where
  takes : ∀ before, env.accepts before = true
  json : L.ParseUndoesSerialize ⟨1700000000, text⟩
  datagram : ∃ payload_buffer,
    L.encrypt env.seed (company.config b).public_key (payload_to_buffer L ⟨1700000000, text⟩) = some payload_buffer ∧
    ∀ port, ∃ signature, L.sign (company.config a).private_key_ (company.inner a b text payload_buffer port) = some signature ∧
      4 + (company.inner a b text payload_buffer port).length + signature.length ≤ 65507

/-- Nobody has a relay node. -/
def Direct : Prop := ∀ a, (company.config a).relay_node_ip_ = []

/-- What the network and the DHT leave alone: the socket takes the hole punch for a
    received message, and a member's value under its login has its address. -/
def Proper (_ : Gathering ν L) : Exchange ν L → Prop
  | .speak a b env text => a ≠ b ∧ company.Utters a b env text
  | .hear _ env _ => env.accepts 0 = true
  | .listen _ login values _ => ∀ value ∈ values, ∀ b, value.owner = some (company.config b).public_key →
    login = (company.config b).my_login_ → value.data = (company.config b).record.address
  | .start _ _ => True
  | .timer _ _ _ => True

/-- The line that a talk makes in the conversation of the first with the second. -/
def line [DecidableEq ν] (a b : ν) : Talk ν L → Option (Bytes × Bytes)
  | .said one other text => if one = a ∧ other = b then some ((company.config a).my_login_, text) else none
  | .heard one other text => if one = a ∧ other = b then some ((company.config b).my_login_, text) else none
  | .announced _ _ _ => none

end Company

/-- What the first has said to the second. -/
def saidTo [DecidableEq ν] (a b : ν) (log : List (Talk ν L)) : List Bytes :=
  log.filterMap fun talk => match talk with
    | .said one other text => if one = a ∧ other = b then some text else none
    | _ => none

/-- What the first has heard from the second. -/
def heardFrom [DecidableEq ν] (a b : ν) (log : List (Talk ν L)) : List Bytes :=
  log.filterMap fun talk => match talk with
    | .heard one other text => if one = a ∧ other = b then some text else none
    | _ => none

/-- What is on its way from the first to the second. -/
def onTheWay [DecidableEq ν] (a b : ν) (flight : List (Letter ν)) : List Bytes :=
  (flight.filter fun letter => letter.speaker = a ∧ letter.listener = b).map (·.text)

theorem saidTo_append [DecidableEq ν] (a b : ν) (one two : List (Talk ν L)) :
    saidTo a b (one ++ two) = saidTo a b one ++ saidTo a b two := List.filterMap_append

theorem heardFrom_append [DecidableEq ν] (a b : ν) (one two : List (Talk ν L)) :
    heardFrom a b (one ++ two) = heardFrom a b one ++ heardFrom a b two := List.filterMap_append

theorem onTheWay_append [DecidableEq ν] (a b : ν) (one two : List (Letter ν)) :
    onTheWay a b (one ++ two) = onTheWay a b one ++ onTheWay a b two := by
  rw [onTheWay, List.filter_append, List.map_append]
  rfl

/-! ## A call -/

/-- A socket that takes everything performs everything that fits. -/
theorem performed_all {env : Environment L} (takes : ∀ before, env.accepts before = true) (before : Nat)
    {effects : List (Effect L)}
    (fits : ∀ purpose buffer endpoint, .send_to purpose buffer endpoint ∈ effects → buffer.length ≤ 65507) :
    performed env before effects = effects := by
  induction effects generalizing before with
  | nil => rfl
  | cons effect effects ih =>
    have quiet : env.refuses before effect = false := by
      cases effect with
      | send_to purpose buffer endpoint =>
        have fit := fits purpose buffer endpoint List.mem_cons_self
        simp [Environment.refuses, fit, takes]
      | _ => rfl
    rw [performed_cons_of_quiet env before effects quiet,
      ih (before + 1) fun purpose buffer endpoint member => fits purpose buffer endpoint (List.mem_cons_of_mem _ member)]

section
variable (company : Company ν L)

theorem id_eq_id_iff (a b : ν) : company.id a = company.id b ↔ a = b :=
  ⟨fun same => company.different (company.ids same), fun same => by rw [same]⟩

theorem config_sendEffects (a b : ν) (port : UInt16) (text : Bytes) :
    (sendEffects ((company.config a).message (company.config b).my_ip_ port (company.config b).my_login_
      (company.config b).public_key text) : List (Effect L)) =
      let message := (company.config a).message (company.config b).my_ip_ port (company.config b).my_login_
        (company.config b).public_key text
      [.send_handler message, .append .sent (company.id b) (company.config a).my_login_ text, .send_message_handler message] := by
  have parsed : L.publicKey (L.toString (company.config b).public_key) = some (company.config b).public_key :=
    company.strings _
  simp only [sendEffects, Config.message, parsed]

/-- After the first datagram a call says its text once and announces nobody. -/
theorem relayEffects_told (a b : ν) (port : UInt16) (text buffer : Bytes) :
    let message := (company.config a).message (company.config b).my_ip_ port (company.config b).my_login_
      (company.config b).public_key text
    saidBy ((company.config a).relayEffects message buffer) =
        [.said (company.id b) (company.config a).my_login_ text] ∧
      ((company.config a).relayEffects message buffer).filterMap (Effect.talk a b) = [Talk.said a b text] := by
  intro message
  have told : saidBy (sendEffects message : List (Effect L)) = [.said (company.id b) (company.config a).my_login_ text] ∧
      (sendEffects message : List (Effect L)).filterMap (Effect.talk a b) = [Talk.said a b text] := by
    rw [config_sendEffects company a b port text]
    exact ⟨rfl, rfl⟩
  unfold Config.relayEffects
  split_ifs with copy
  · obtain ⟨node, literal⟩ := Option.isSome_iff_exists.mp ((company.relay a).resolve_left copy.1)
    rw [literal]
    exact told
  · exact told

/-- What a call does when nothing stands in its way: a datagram goes out that the other one
    accepts, and what comes after the direct copy is done too. -/
theorem calling_eq {a b : ν} {env : Environment L} {text : Bytes} (utters : company.Utters a b env text) (port : UInt16) :
    let message := (company.config a).message (company.config b).my_ip_ port (company.config b).my_login_
      (company.config b).public_key text
    ∃ inner buffer, (company.config a).calling env (MetadataIpResolver.addressOf (company.config b).my_ip_ port)
        (company.config b).my_login_ (company.config b).public_key text =
          .sign inner :: .send_to .message buffer ⟨company.address b, port⟩ :: (company.config a).relayEffects message buffer ∧
      Accepts (company.config b) buffer message (company.config a).public_key ∧ buffer.length ≤ 65507 := by
  intro message
  obtain ⟨payload_buffer, encrypted, datagram⟩ := utters.datagram
  obtain ⟨signature, signed, fits⟩ := datagram port
  let inner := company.inner a b text payload_buffer port
  let buffer := signed_message_to_buffer ⟨inner, signature⟩
  have fit : buffer.length ≤ 65507 := by
    rw [signed_message_to_buffer_length]
    exact fits
  have built : composed (company.config a) env (MetadataIpResolver.addressOf (company.config b).my_ip_ port)
      (company.config b).my_login_ (company.config b).public_key text = .ok (message, inner) := by
    have encrypts : encrypt L env.seed (payload_to_buffer L message.payload) (company.config b).public_key = .ok payload_buffer :=
      orThrow_eq_ok.mpr encrypted
    unfold composed MetadataIpResolver.addressOf message_to_buffer payload_on_wire
    rw [get_ip_and_port_from_address_eq (company.plain b)]
    simp only [bind, Except.bind]
    rw [encrypts]
    rfl
  have full : (company.config a).callEffects message inner = .sign inner ::
      .send_to .message buffer ⟨company.address b, port⟩ :: (company.config a).relayEffects message buffer := by
    have there : L.make_address message.destination_ip = some (company.address b) := company.literal b
    unfold Config.callEffects
    simp only [there, show L.sign (company.config a).private_key_ inner = some signature from signed]
    rfl
  refine ⟨inner, buffer, ?_, ?_, fit⟩
  · unfold Config.calling
    simp only [built]
    rw [← full]
    refine performed_all utters.takes 0 fun purpose other endpoint member => ?_
    obtain ⟨signature', -, signed', -, rfl⟩ := mem_callEffects_send_to member
    obtain rfl := Option.some.inj (signed'.symm.trans signed)
    exact fit
  · exact accepts_datagram (company.keys b) company.strings (company.verifies a) utters.json built signed (company.short_ip a)
      (company.short_login a) (company.short_ip b) (company.short_login b) fit

/-- The text of the call is in the caller's conversation. -/
theorem calling_told {a b : ν} {env : Environment L} {text : Bytes} (utters : company.Utters a b env text) (port : UInt16) :
    let effects := (company.config a).calling env (MetadataIpResolver.addressOf (company.config b).my_ip_ port)
      (company.config b).my_login_ (company.config b).public_key text
    (∃ buffer message, firstDatagram effects = some buffer ∧
      Accepts (company.config b) buffer message (company.config a).public_key ∧
      message.source_login = (company.config a).my_login_ ∧ message.source_ip = (company.config a).my_ip_ ∧
      message.payload.text = text) ∧
    saidBy effects = [.said (company.id b) (company.config a).my_login_ text] ∧
    effects.filterMap (Effect.talk a b) = [Talk.said a b text] := by
  intro effects
  obtain ⟨inner, buffer, whole, accepts, -⟩ := calling_eq company utters port
  obtain ⟨spoken, talks⟩ := relayEffects_told company a b port text buffer
  unfold effects
  rw [whole]
  exact ⟨⟨buffer, _, rfl, accepts, rfl, rfl, rfl⟩, spoken, talks⟩

/-- Only the direct copy of a call comes before its handler when there is no relay node. -/
theorem allDatagrams_callEffects {config : Config L} (direct : config.relay_node_ip_ = []) (message : Message) (inner : Bytes) :
    (allDatagrams (config.callEffects message inner)).length ≤ 1 := by
  have silent : allDatagrams (sendEffects message : List (Effect L)) = [] := by
    refine List.filterMap_eq_nil_iff.mpr fun effect member => ?_
    rcases mem_sendEffects member with rfl | rfl | ⟨id, rfl⟩ <;> rfl
  have last : ∀ buffer, config.relayEffects message buffer = sendEffects message := fun buffer => by
    rw [Config.relayEffects, if_neg fun copy => copy.1 direct]
  unfold Config.callEffects
  cases L.sign config.private_key_ inner with
  | none => exact Nat.zero_le 1
  | some signature =>
    cases L.make_address message.destination_ip with
    | none => exact Nat.zero_le 1
    | some address =>
      show (allDatagrams (_ :: _ :: config.relayEffects message _)).length ≤ 1
      rw [last]
      show (_ :: allDatagrams (sendEffects message)).length ≤ 1
      rw [silent]
      exact Nat.le_refl 1

/-- Where all datagrams are for messages, the first is the direct one. -/
theorem firstDatagram_eq {effects : List (Effect L)}
    (messages : ∀ purpose buffer endpoint, .send_to purpose buffer endpoint ∈ effects → purpose = .message) :
    firstDatagram effects = (allDatagrams effects).head? := by
  unfold firstDatagram allDatagrams
  rw [List.head?_filterMap]
  induction effects with
  | nil => rfl
  | cons effect effects ih =>
    have rest := ih fun purpose buffer endpoint member => messages purpose buffer endpoint (List.mem_cons_of_mem _ member)
    cases effect with
    | send_to purpose buffer endpoint =>
      obtain rfl := messages purpose buffer endpoint List.mem_cons_self
      rfl
    | _ => exact rest

/-- Without a relay node a call sends its direct copy and nothing else. -/
theorem allDatagrams_calling {config : Config L} (direct : config.relay_node_ip_ = []) (env : Environment L)
    (address login : Bytes) (public_key : L.PublicKey) (text : Bytes) :
    allDatagrams (config.calling env address login public_key text) =
      (firstDatagram (config.calling env address login public_key text)).toList := by
  unfold Config.calling
  cases composed config env address login public_key text with
  | error e => rfl
  | ok composition =>
    obtain ⟨message, inner⟩ := composition
    have first := (cut_performed env 0 (config.callEffects message inner)).first
    have one := ((first.sublist.filterMap _).length_le).trans (allDatagrams_callEffects direct message inner)
    rw [firstDatagram_eq fun purpose buffer endpoint member => ?_]
    · cases all : allDatagrams (performed env 0 (config.callEffects message inner)) with
      | nil => rfl
      | cons buffer rest =>
        have short : (buffer :: rest).length ≤ 1 := by
          rw [← all]
          exact one
        rw [List.eq_nil_of_length_eq_zero (show rest.length = 0 by simpa using short)]
        rfl
    · rcases mem_callEffects (first.subset member) with same | ⟨_, _, _, -, -, same⟩ | handler
      · cases same
      · cases same
        rfl
      · rcases mem_sendEffects handler with same | same | ⟨id, same⟩ <;> cases same

/-! ## A datagram -/

/-- The datagram brings this text from the first to the second. -/
def Company.Brings (a b : ν) (text buffer : Bytes) : Prop :=
  ∃ message, Accepts (company.config b) buffer message (company.config a).public_key ∧
    message.source_login = (company.config a).my_login_ ∧ message.source_ip = (company.config a).my_ip_ ∧
    message.payload.text = text

/-- The datagram is heard: the speaker's address is stored, a loop starts, and the text is in
    the listener's conversation. -/
theorem received_told {a b : ν} {text buffer : Bytes} (brings : company.Brings a b text buffer) {env : Environment L}
    (takes : env.accepts 0 = true) (ledger : Ledger L) (remote_endpoint : Endpoint L) :
    let received := ledger.received (company.config b) env buffer remote_endpoint
    (∃ port endpoint, received.1 =
      [.stored .metadata_ip_resolver_ (company.config a).my_login_ (company.config a).public_key
          (MetadataIpResolver.addressOf (company.config a).my_ip_ port),
        .armed endpoint, .said (company.id a) (company.config a).my_login_ text]) ∧
    received.2.filterMap (Effect.talk b a) =
      [Talk.heard b a text, .announced b (company.config a).my_login_ (company.id a)] := by
  intro received
  obtain ⟨message, accepts, login, ip, same⟩ := brings
  have read := (reading_eq_accepted (company.config b) env buffer message _).mpr accepts
  obtain ⟨_, _, _, _, mine, _, _, _⟩ := accepts
  have parsed : L.publicKey message.destination_public_key = some (company.config b).public_key := by
    rw [mine]
    exact company.strings _
  have punched : (company.config b).punched env 0 (company.config a).my_ip_ (sourcePort message remote_endpoint) =
      some ⟨company.address a, sourcePort message remote_endpoint⟩ := by
    simp only [Config.punched, company.literal a, company.punches b, takes, and_self, if_true]
  have effects : (company.config b).receiveEffects message (company.config a).public_key =
      [.receive_handler message, .append .received (company.id a) (company.config a).my_login_ text,
        .listen_login_handler (company.config a).my_login_ (company.id a), .receive_message_handler message] := by
    simp only [Config.receiveEffects, parsed, if_true, login, same]
  unfold received Ledger.received
  simp only [read, punched, effects, login, ip]
  exact ⟨⟨_, _, rfl⟩, rfl⟩

end

/-! ## The invariant -/

/-- The ledger of a member: the addresses of members are where they are, its conversations
    are what the log has of them, and who was announced is in it. -/
structure Company.Keeps [DecidableEq ν] (company : Company ν L) (log : List (Talk ν L)) (a : ν) (ledger : Ledger L) : Prop where
  addresses : ∀ source b address, .stored source (company.config b).my_login_ (company.config b).public_key address ∈ ledger →
    ∃ port, address = MetadataIpResolver.addressOf (company.config b).my_ip_ port
  entries : ∀ b, ledger.entries (company.id b) = log.filterMap (company.line a b)
  announced : ∀ login id, .announced a login id ∈ log →
    ∃ source public_key address, .stored source login public_key address ∈ ledger ∧ id = L.getId public_key

structure Gathering.Sound [DecidableEq ν] (company : Company ν L) (s : Gathering ν L) : Prop where
  ledgers : ∀ a, ∃ ledger : Ledger L, ledger.Describes (s.messengers a) ∧ company.Keeps s.log a ledger
  flight : ∀ letter ∈ s.flight, letter.speaker ≠ letter.listener ∧
    company.Brings letter.speaker letter.listener letter.text letter.buffer
  delivered : ∀ a b, (saidTo a b s.log).Perm (heardFrom b a s.log ++ onTheWay a b s.flight)

variable [DecidableEq ν] {company : Company ν L}

theorem gathering_sound_initial : (Gathering.initial ν L).Sound company where
  ledgers _ := by
    refine ⟨[], describes_initial, ?_, fun _ => rfl, ?_⟩
    · intro _ _ _ member
      cases member
    · intro _ _ member
      cases member
  flight letter member := by cases member
  delivered _ _ := .refl _

/-! ## What a task adds -/

/-- What an effect at one messenger means is nothing to another. -/
theorem talk_elsewhere {a b n : ν} (different : n ≠ a) {effects : List (Effect L)} {talk : Talk ν L}
    (member : talk ∈ effects.filterMap (Effect.talk a b)) :
    (∀ (company : Company ν L) (c : ν), company.line n c talk = none) ∧ ∀ login id, talk ≠ .announced n login id := by
  obtain ⟨effect, -, made⟩ := List.mem_filterMap.mp member
  cases effect with
  | append origin id login text =>
    cases origin <;> cases made <;> simp [Company.line, Ne.symm different]
  | listen_login_handler login id =>
    cases made
    simp [Company.line, Ne.symm different]
  | _ => cases made

theorem Company.Keeps.elsewhere {log : List (Talk ν L)} {a b n : ν} {ledger : Ledger L} (keeps : company.Keeps log n ledger)
    (different : n ≠ a) (effects : List (Effect L)) :
    company.Keeps (log ++ effects.filterMap (Effect.talk a b)) n ledger where
  addresses := keeps.addresses
  entries c := by
    have nothing : (effects.filterMap (Effect.talk a b)).filterMap (company.line n c) = [] :=
      List.filterMap_eq_nil_iff.mpr fun talk member => (talk_elsewhere different member).1 company c
    rw [List.filterMap_append, nothing, List.append_nil]
    exact keeps.entries c
  announced login id member := by
    rcases List.mem_append.mp member with old | new
    · exact keeps.announced login id old
    · exact absurd rfl ((talk_elsewhere different new).2 login id)

/-- What a task of a member with these effects has to add to its ledger. -/
structure Company.Learns (company : Company ν L) (a b : ν) (effects : List (Effect L)) (facts : List (Fact L)) : Prop where
  addresses : ∀ source c address, .stored source (company.config c).my_login_ (company.config c).public_key address ∈ facts →
    ∃ port, address = MetadataIpResolver.addressOf (company.config c).my_ip_ port
  entries : ∀ c, Ledger.entries facts (company.id c) = (effects.filterMap (Effect.talk a b)).filterMap (company.line a c)
  announced : ∀ login id, .announced a login id ∈ effects.filterMap (Effect.talk a b) →
    ∃ source public_key address, .stored source login public_key address ∈ facts ∧ id = L.getId public_key

theorem Company.Keeps.adds {log : List (Talk ν L)} {a b : ν} {ledger : Ledger L} {effects : List (Effect L)}
    {facts : List (Fact L)} (keeps : company.Keeps log a ledger) (learns : company.Learns a b effects facts) :
    company.Keeps (log ++ effects.filterMap (Effect.talk a b)) a (ledger ++ facts) where
  addresses source c address member := by
    rcases List.mem_append.mp member with old | new
    · exact keeps.addresses source c address old
    · exact learns.addresses source c address new
  entries c := by rw [entries_append, keeps.entries, learns.entries, List.filterMap_append]
  announced login id member := by
    rcases List.mem_append.mp member with old | new
    · obtain ⟨source, public_key, address, stored, same⟩ := keeps.announced login id old
      exact ⟨source, public_key, address, List.mem_append_left _ stored, same⟩
    · obtain ⟨source, public_key, address, stored, same⟩ := learns.announced login id new
      exact ⟨source, public_key, address, List.mem_append_right _ stored, same⟩

/-- A member did a task and its ledger took it down. -/
theorem ledgers_did {s : Gathering ν L}
    (ledgers : ∀ a, ∃ ledger : Ledger L, ledger.Describes (s.messengers a) ∧ company.Keeps s.log a ledger) (a b : ν)
    {later : Messenger L} {ledger : Ledger L} {effects : List (Effect L)} {facts : List (Fact L)}
    (keeps : company.Keeps s.log a ledger) (describes : Ledger.Describes (ledger ++ facts) later)
    (learns : company.Learns a b effects facts) (n : ν) :
    ∃ ledger : Ledger L, ledger.Describes ((s.did a b (later, effects)).messengers n) ∧
      company.Keeps (s.did a b (later, effects)).log n ledger := by
  by_cases same : n = a
  · subst same
    refine ⟨ledger ++ facts, ?_, keeps.adds learns⟩
    simpa [Gathering.did] using describes
  · obtain ⟨other, described, kept⟩ := ledgers n
    refine ⟨other, ?_, kept.elsewhere same effects⟩
    simpa [Gathering.did, Function.update_of_ne same] using described

/-- A task that says and hears nothing. -/
theorem Gathering.Sound.quiet {s : Gathering ν L} (sound : s.Sound company) (a : ν) {later : Messenger L}
    {ledger : Ledger L} {effects : List (Effect L)} {facts : List (Fact L)} (keeps : company.Keeps s.log a ledger)
    (describes : Ledger.Describes (ledger ++ facts) later) (learns : company.Learns a a effects facts)
    (silent : ∀ effect ∈ effects, ∀ origin id login text, effect ≠ .append origin id login text) :
    (s.did a a (later, effects)).Sound company where
  ledgers := ledgers_did sound.ledgers a a keeps describes learns
  flight := sound.flight
  delivered b c := by
    have nothing : ∀ talk ∈ effects.filterMap (Effect.talk a a), ∃ login id, talk = Talk.announced a login id := by
      intro talk member
      obtain ⟨effect, inside, made⟩ := List.mem_filterMap.mp member
      cases effect with
      | append origin id login text => exact absurd rfl (silent _ inside origin id login text)
      | listen_login_handler login id =>
        cases made
        exact ⟨login, id, rfl⟩
      | _ => cases made
    have unsaid : saidTo b c (effects.filterMap (Effect.talk a a)) = [] := by
      refine List.filterMap_eq_nil_iff.mpr fun talk member => ?_
      obtain ⟨login, id, rfl⟩ := nothing talk member
      rfl
    have unheard : heardFrom c b (effects.filterMap (Effect.talk a a)) = [] := by
      refine List.filterMap_eq_nil_iff.mpr fun talk member => ?_
      obtain ⟨login, id, rfl⟩ := nothing talk member
      rfl
    have said : saidTo b c (s.log ++ effects.filterMap (Effect.talk a a)) = saidTo b c s.log := by
      rw [saidTo_append, unsaid, List.append_nil]
    have heard : heardFrom c b (s.log ++ effects.filterMap (Effect.talk a a)) = heardFrom c b s.log := by
      rw [heardFrom_append, unheard, List.append_nil]
    show (saidTo b c (s.log ++ _)).Perm (heardFrom c b (s.log ++ _) ++ _)
    rw [said, heard]
    exact sound.delivered b c

/-! ## The exchanges -/

/-- A call for a member by another: it goes nowhere as long as no address is known, and else
    to where the other one is. -/
theorem Gathering.Sound.call {s : Gathering ν L} (sound : s.Sound company) (a b : ν) (env : Environment L) (text : Bytes) :
    ∃ ledger later effects,
      work (company.config a) (s.messengers a) (.send_message env (company.config b).my_login_ (company.id b) text) =
        some (later, effects) ∧
      company.Keeps s.log a ledger ∧ Ledger.Describes (ledger ++ saidBy effects) later ∧
      ((s.messengers a).resolve (company.config b).my_login_ (company.id b) = none ∧ effects = [] ∨
        ∃ port, effects = (company.config a).calling env (MetadataIpResolver.addressOf (company.config b).my_ip_ port)
          (company.config b).my_login_ (company.config b).public_key text) := by
  obtain ⟨ledger, describes, keeps⟩ := sound.ledgers a
  obtain ⟨effects, recorded, call⟩ :=
    record_send_message (company.config a) ledger env (company.config b).my_login_ (company.id b) text
  obtain ⟨later, taken, described⟩ := work_of_record describes recorded
  refine ⟨ledger, later, effects, taken, keeps, described, ?_⟩
  rw [describes.resolve]
  refine call.imp_right ?_
  rintro ⟨address, public_key, resolved, known, same⟩
  obtain rfl := company.ids (Ledger.id_of_public_key known)
  obtain ⟨source, found⟩ : ∃ source, latest (Fact.address source (company.config b).my_login_ (company.id b)) ledger =
      some address := (Option.or_eq_some_iff.mp resolved).elim (fun met => ⟨_, met⟩) fun listed => ⟨_, listed.2⟩
  obtain ⟨fact, member, told⟩ := latest_eq_some found
  obtain ⟨public_key, rfl, id⟩ := Fact.key_of_address told
  obtain rfl := company.ids id
  obtain ⟨port, rfl⟩ := keeps.addresses source b address member
  exact ⟨port, same⟩

/-- Who was announced is resolved. -/
theorem Gathering.Sound.resolves {s : Gathering ν L} (sound : s.Sound company) {a : ν} {login : Bytes} {id : L.InfoHash}
    (announced : .announced a login id ∈ s.log) : (s.messengers a).resolve login id ≠ none := by
  obtain ⟨ledger, describes, keeps⟩ := sound.ledgers a
  obtain ⟨source, public_key, address, stored, rfl⟩ := keeps.announced login id announced
  have told : (Fact.stored source login public_key address).address source login (L.getId public_key) = some address :=
    if_pos ⟨rfl, rfl, rfl⟩
  obtain ⟨known, found⟩ := latest_of_mem stored told
  rw [describes.resolve, Ledger.resolve]
  intro unknown
  obtain ⟨unmet, unlisted⟩ := Option.or_eq_none_iff.mp unknown
  cases source with
  | metadata_ip_resolver_ => exact Option.some_ne_none known (found.symm.trans unmet)
  | dht_ip_resolver_ => exact Option.some_ne_none known (found.symm.trans unlisted)

theorem learns_said {a b : ν} {text : Bytes} {effects : List (Effect L)}
    (spoken : saidBy effects = [.said (company.id b) (company.config a).my_login_ text])
    (talks : effects.filterMap (Effect.talk a b) = [Talk.said a b text]) :
    company.Learns a b effects (saidBy effects) where
  addresses source c address member := by simp [spoken] at member
  entries c := by
    rw [spoken, talks]
    by_cases same : b = c
    · subst same
      simp [Ledger.entries, Fact.entry, Company.line]
    · have other : company.id c ≠ company.id b := fun ids => same ((id_eq_id_iff company b c).mp ids.symm)
      simp [Ledger.entries, Fact.entry, Company.line, same, other]
  announced login id member := by simp [talks] at member

/-- A member that has an address for the other says its text to it, and one that has none
    says nothing. -/
theorem Gathering.Sound.speak {s : Gathering ν L} (sound : s.Sound company) {a b : ν} {env : Environment L} {text : Bytes}
    (different : a ≠ b) (utters : company.Utters a b env text) :
    ∃ t, gather company.config s (.speak a b env text) = some t ∧ t.Sound company ∧
      ((s.messengers a).resolve (company.config b).my_login_ (company.id b) = none ∧ t.log = s.log ∧ t.flight = s.flight ∨
        t.log = s.log ++ [.said a b text] ∧ ∃ buffer, t.flight = s.flight ++ [⟨a, b, text, buffer⟩]) := by
  obtain ⟨ledger, later, effects, taken, keeps, described, call⟩ := sound.call a b env text
  refine ⟨_, by rw [gather, taken]; rfl, ?_⟩
  rcases call with ⟨unknown, rfl⟩ | ⟨port, same⟩
  · have learns : company.Learns a b ([] : List (Effect L)) (saidBy []) :=
      ⟨fun _ _ _ member => (by cases member), fun _ => rfl, fun _ _ member => by cases member⟩
    have unchanged : (s.did a b (later, [])).log = s.log := List.append_nil _
    refine ⟨⟨ledgers_did sound.ledgers a b keeps described learns, ?_, ?_⟩, .inl ⟨unknown, unchanged, List.append_nil _⟩⟩
    · simpa [firstDatagram] using sound.flight
    · intro one other
      show (saidTo one other (s.did a b (later, [])).log).Perm (heardFrom other one (s.did a b (later, [])).log ++ _)
      rw [unchanged]
      simpa [firstDatagram] using sound.delivered one other
  · obtain ⟨⟨buffer, message, first, accepts, login, ip, payload⟩, spoken, talks⟩ := calling_told company utters port
    rw [← same] at first spoken talks
    have log : (s.did a b (later, effects)).log = s.log ++ [.said a b text] := congrArg (s.log ++ ·) talks
    have flight : s.flight ++ (firstDatagram effects).toList.map (fun buffer => (⟨a, b, text, buffer⟩ : Letter ν)) =
        s.flight ++ [⟨a, b, text, buffer⟩] := by rw [first]; rfl
    refine ⟨⟨ledgers_did sound.ledgers a b keeps described (learns_said spoken talks), ?_, ?_⟩,
      .inr ⟨log, buffer, flight⟩⟩
    · intro letter member
      have inside : letter ∈ s.flight ++ [⟨a, b, text, buffer⟩] := by rwa [← flight]
      rcases List.mem_append.mp inside with old | new
      · exact sound.flight letter old
      · obtain rfl := List.mem_singleton.mp new
        exact ⟨different, message, accepts, login, ip, payload⟩
    · intro one other
      show (saidTo one other (s.did a b (later, effects)).log).Perm
        (heardFrom other one (s.did a b (later, effects)).log ++ onTheWay one other (s.flight ++ _))
      rw [log, flight, saidTo_append, heardFrom_append, onTheWay_append]
      have silent : heardFrom other one [(.said a b text : Talk ν L)] = [] := rfl
      have more : onTheWay one other [(⟨a, b, text, buffer⟩ : Letter ν)] = saidTo one other [(.said a b text : Talk ν L)] := by
        unfold onTheWay saidTo
        by_cases these : a = one ∧ b = other <;> simp [these]
      rw [silent, List.append_nil, more, ← List.append_assoc]
      exact (sound.delivered one other).append_right _

theorem learns_heard {a b : ν} {text : Bytes} {effects : List (Effect L)} {port : UInt16} {endpoint : Endpoint L}
    (talks : effects.filterMap (Effect.talk b a) =
      [Talk.heard b a text, .announced b (company.config a).my_login_ (company.id a)]) :
    company.Learns b a effects
      [.stored .metadata_ip_resolver_ (company.config a).my_login_ (company.config a).public_key
          (MetadataIpResolver.addressOf (company.config a).my_ip_ port),
        .armed endpoint, .said (company.id a) (company.config a).my_login_ text] where
  addresses source c address member := by
    rcases List.mem_cons.mp member with stored | member
    · injection stored with _ _ key there
      obtain rfl := company.different key
      exact ⟨port, there⟩
    · simp at member
  entries c := by
    rw [talks]
    by_cases same : a = c
    · subst same
      simp [Ledger.entries, List.filterMap_cons, Fact.entry, Company.line]
    · have other : company.id c ≠ company.id a := fun ids => same ((id_eq_id_iff company a c).mp ids.symm)
      simp [Ledger.entries, List.filterMap_cons, Fact.entry, Company.line, same, other]
  announced login id member := by
    rw [talks] at member
    rcases List.mem_cons.mp member with other | member
    · cases other
    · injection List.mem_singleton.mp member with _ name key
      exact ⟨_, _, _, by rw [name]; exact List.mem_cons_self, key⟩

/-- What is on its way is heard when it is handed over. -/
theorem Gathering.Sound.hear {s : Gathering ν L} (sound : s.Sound company) {letter : Letter ν} (there : letter ∈ s.flight)
    {env : Environment L} (takes : env.accepts 0 = true) (remote_endpoint : Endpoint L) :
    ∃ t, gather company.config s (.hear letter env remote_endpoint) = some t ∧ t.Sound company ∧
      t.log = s.log ++ [.heard letter.listener letter.speaker letter.text,
        .announced letter.listener (company.config letter.speaker).my_login_ (company.id letter.speaker)] ∧
      t.flight = s.flight.erase letter := by
  obtain ⟨a, b, text, buffer⟩ := letter
  obtain ⟨different, brings⟩ : a ≠ b ∧ company.Brings a b text buffer := sound.flight _ there
  obtain ⟨ledger, describes, keeps⟩ := sound.ledgers b
  obtain ⟨⟨port, endpoint, facts⟩, talks⟩ := received_told company brings takes ledger remote_endpoint
  let received := ledger.received (company.config b) env buffer remote_endpoint
  have recorded : record (company.config b) ledger (.receive env buffer remote_endpoint) =
      some (ledger ++ received.1, received.2) := rfl
  obtain ⟨later, taken, described⟩ := work_of_record describes recorded
  have same : received.1 = _ := facts
  rw [same] at described
  refine ⟨_, by rw [gather, if_pos there, taken]; rfl, ?_, congrArg (s.log ++ ·) talks, rfl⟩
  refine ⟨ledgers_did sound.ledgers b a keeps described (learns_heard talks), ?_, ?_⟩
  · exact fun letter member => sound.flight letter (List.mem_of_mem_erase member)
  · intro one other
    have log : (s.did b a (later, received.2)).log =
        s.log ++ [.heard b a text, .announced b (company.config a).my_login_ (company.id a)] := congrArg (s.log ++ ·) talks
    show (saidTo one other (s.did b a (later, _)).log).Perm
      (heardFrom other one (s.did b a (later, _)).log ++ onTheWay one other (s.flight.erase ⟨a, b, text, buffer⟩))
    rw [log, saidTo_append, heardFrom_append]
    have silent : saidTo one other [(.heard b a text : Talk ν L),
        .announced b (company.config a).my_login_ (company.id a)] = [] := rfl
    have taken : onTheWay one other [(⟨a, b, text, buffer⟩ : Letter ν)] = heardFrom other one
        [(.heard b a text : Talk ν L), .announced b (company.config a).my_login_ (company.id a)] := by
      unfold onTheWay heardFrom
      by_cases these : a = one ∧ b = other <;> simp [these, and_comm]
    rw [silent, List.append_nil, ← taken, List.append_assoc, ← onTheWay_append]
    refine (sound.delivered one other).trans (List.Perm.append_left _ ?_)
    exact ((List.perm_cons_erase there).filter _).map _

theorem Gathering.Sound.listen {s t : Gathering ν L} (sound : s.Sound company) {a : ν} {login : Bytes}
    {values : List (DhtValue L)} {expired : Bool} (proper : company.Proper s (.listen a login values expired))
    (step : gather company.config s (.listen a login values expired) = some t) : t.Sound company := by
  rw [gather] at step
  obtain ⟨⟨later, effects⟩, taken, rfl⟩ := Option.map_eq_some_iff.mp step
  obtain ⟨ledger, describes, keeps⟩ := sound.ledgers a
  obtain ⟨next, recorded, described⟩ := record_of_work describes taken
  obtain ⟨facts, rfl, learnt⟩ := record_adds recorded
  let heard := if expired then [] else DhtIpResolver.contacts (DhtIpResolver.reached values)
  obtain ⟨same, rfl⟩ : ledger ++ facts = ledger ++ heard.map (fun contact => .stored .dht_ip_resolver_ login contact.1 contact.2) ∧
      effects = heard.map fun contact => .listen_login_handler login (L.getId contact.1) := by
    have both := Option.some.inj recorded
    exact ⟨(congrArg Prod.fst both).symm, (congrArg Prod.snd both).symm⟩
  obtain rfl := List.append_cancel_left same
  refine sound.quiet a keeps described ⟨?_, ?_, ?_⟩ ?_
  · intro source c address member
    obtain ⟨contact, -, made⟩ := List.mem_map.mp member
    injection made with from_dht name
    subst from_dht
    obtain ⟨values', task, brought⟩ := learnt _ _ _ member
    injection task with _ brings
    subst brings
    exact ⟨_, proper _ brought c rfl name⟩
  · intro c
    have unsaid : ∀ contacts : List (L.PublicKey × Bytes), Ledger.entries
        (contacts.map fun contact => (.stored .dht_ip_resolver_ login contact.1 contact.2 : Fact L)) (company.id c) = [] := by
      intro contacts
      simp [Ledger.entries, Fact.entry]
    have silent : ∀ contacts : List (L.PublicKey × Bytes), ((contacts.map fun contact =>
        (.listen_login_handler login (L.getId contact.1) : Effect L)).filterMap (Effect.talk a a)).filterMap
          (company.line a c) = [] := by
      intro contacts
      rw [List.filterMap_map, List.filterMap_filterMap, List.filterMap_eq_nil_iff]
      exact fun _ _ => rfl
    rw [unsaid, silent]
  · intro name id member
    obtain ⟨effect, inside, made⟩ := List.mem_filterMap.mp member
    obtain ⟨contact, there, rfl⟩ := List.mem_map.mp inside
    cases made
    exact ⟨_, _, _, List.mem_map.mpr ⟨contact, there, rfl⟩, rfl⟩
  · intro effect member origin id name text same
    obtain ⟨contact, -, rfl⟩ := List.mem_map.mp member
    cases same

/-- A loop that starts or goes on says nothing. -/
theorem Gathering.Sound.punched {s : Gathering ν L} (sound : s.Sound company) {a : ν} {later : Messenger L} {ledger : Ledger L}
    (keeps : company.Keeps s.log a ledger) (expired punched : Option (Endpoint L))
    (describes : Ledger.Describes (ledger ++ (expired.toList.map .expired ++ ((company.config a).punching punched).1)) later) :
    (s.did a a (later, ((company.config a).punching punched).2)).Sound company := by
  refine sound.quiet a keeps describes ⟨?_, ?_, ?_⟩ ?_
  all_goals cases expired <;> cases punched <;>
    simp [Config.punching, Ledger.entries, List.filterMap_cons, Fact.entry, Effect.talk]

theorem Gathering.Sound.start {s t : Gathering ν L} (sound : s.Sound company) {a : ν} {env : Environment L}
    (step : gather company.config s (.start a env) = some t) : t.Sound company := by
  obtain ⟨⟨later, effects⟩, taken, rfl⟩ := Option.map_eq_some_iff.mp step
  obtain ⟨ledger, describes, keeps⟩ := sound.ledgers a
  obtain ⟨next, recorded, described⟩ := record_of_work describes taken
  simp only [record] at recorded
  by_cases there : (company.config a).relay_node_ip_ ≠ []
  · rw [if_pos there] at recorded
    cases recorded
    exact sound.punched keeps none _ described
  · rw [if_neg there] at recorded
    cases recorded

theorem Gathering.Sound.timer {s t : Gathering ν L} (sound : s.Sound company) {a : ν} {env : Environment L}
    {endpoint : Endpoint L} (step : gather company.config s (.timer a env endpoint) = some t) : t.Sound company := by
  obtain ⟨⟨later, effects⟩, taken, rfl⟩ := Option.map_eq_some_iff.mp step
  obtain ⟨ledger, describes, keeps⟩ := sound.ledgers a
  obtain ⟨next, recorded, described⟩ := record_of_work describes taken
  simp only [record] at recorded
  by_cases there : 0 < ledger.loops endpoint
  · rw [if_pos there] at recorded
    cases recorded
    exact sound.punched keeps (some endpoint) _ described
  · rw [if_neg there] at recorded
    cases recorded

theorem gathering_sound {s : Gathering ν L}
    (reaches : Reaches (gather company.config) company.Proper (Gathering.initial ν L) s) : s.Sound company := by
  refine reaches.invariant gathering_sound_initial fun s exchange t sound proper step => ?_
  cases exchange with
  | speak a b env text =>
    obtain ⟨t', taken, next, -⟩ := sound.speak proper.1 proper.2
    obtain rfl := Option.some.inj (taken.symm.trans step)
    exact next
  | hear letter env remote_endpoint =>
    have there : letter ∈ s.flight := by
      by_contra absent
      simp [gather, absent] at step
    obtain ⟨t', taken, next, -⟩ := sound.hear there proper remote_endpoint
    obtain rfl := Option.some.inj (taken.symm.trans step)
    exact next
  | listen a login values expired => exact sound.listen proper step
  | start a env => exact sound.start step
  | timer a env endpoint => exact sound.timer step

/-- All that a call of a member without a relay node sends is its direct copy. -/
theorem Gathering.Sound.sends {s : Gathering ν L} (sound : s.Sound company) (direct : company.Direct) {a : ν}
    {env : Environment L} {login text : Bytes} {id : L.InfoHash} {later : Messenger L} {effects : List (Effect L)}
    (taken : work (company.config a) (s.messengers a) (.send_message env login id text) = some (later, effects)) :
    allDatagrams effects = (firstDatagram effects).toList := by
  obtain ⟨ledger, describes, -⟩ := sound.ledgers a
  obtain ⟨next, recorded, -⟩ := record_of_work describes taken
  obtain ⟨effects', same, call⟩ := record_send_message (company.config a) ledger env login id text
  rw [same] at recorded
  cases recorded
  rcases call with ⟨-, rfl⟩ | ⟨address, public_key, -, -, rfl⟩
  · rfl
  · exact allDatagrams_calling (direct a) env address login public_key text

end P2PMessenger
