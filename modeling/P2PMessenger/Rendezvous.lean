import P2PMessenger.Conversation
import P2PMessenger.Kinds

/-!
Messengers behind address translators. What they send to each other goes nowhere; what they
send to their relay node arrives there from an address that only the relay node can use.
A hole punch tells it that address, and the relay's copy of a message goes on to it.

What can still be done from a state (`relayed_calls_are_heard`) is said of members and a
relay node whose processes run, none of which a task has ended before (`Config.Returns`).
-/
namespace P2PMessenger
open Octets Memory Layout Throwing Refinement Runs

variable {ν : Type} {L : Libraries}

/-- Members of a company who all have one relay node, which none of them is. The string of a
    key may end in any octet, as a text does whose last octet ends its last line. -/
structure Rendezvous (ν : Type) (L : Libraries) extends Company ν L where
  relay_node : Config L
  /-- Where the relay node is. -/
  node : Endpoint L
  /-- Where a member's datagrams come from. -/
  outside : ν → Endpoint L
  serves : relay_node.relay_ = true
  configured : ∀ a, (config a).relay_node_ip_ ≠ []
  reached : ∀ a, L.make_address (config a).relay_node_ip_ = some node.address
  port : ∀ a, (config a).relay_node_port_ = node.port
  apart : ∀ a, address a ≠ node.address
  stranger : ∀ a, (config a).public_key ≠ relay_node.public_key
  read_back : ∀ a, L.make_address (L.to_string (outside a).address) = some (outside a).address
  plain_outside : ∀ a, colon ∉ L.to_string (outside a).address
  keyed : ∀ a, (config a).public_key_string ≠ []
  last_octet : ∀ a octet, L.publicKey ((config a).public_key_string.dropLast ++ [octet]) = some (config a).public_key

/-- What the relay node has done. -/
inductive Relayed (ν : Type) where
  /-- It has handled a hole punch of this member. -/
  | registered (a : ν)
  /-- It has sent this one to somewhere else than where the listener's datagrams come from. -/
  | lost (letter : Letter ν)
  deriving DecidableEq

structure Meeting (ν : Type) (L : Libraries) where
  messengers : ν → Messenger L
  log : List (Talk ν L)
  relay : Messenger L
  relayed : List (Relayed ν)
  /-- The hole punches on their way to the relay node, and who sent them. -/
  punches : List (ν × Bytes)
  /-- The messages on their way to the relay node. -/
  letters : List (Letter ν)
  /-- The messages on their way from the relay node to their listeners. -/
  passed : List (Letter ν)

def Meeting.initial (ν : Type) (L : Libraries) : Meeting ν L := ⟨fun _ => .initial L, [], .initial L, [], [], [], []⟩

inductive Encounter (ν : Type) (L : Libraries) where
  | start (a : ν) (env : Environment L)
  | timer (a : ν) (env : Environment L) (endpoint : Endpoint L)
  | listen (a : ν) (login : Bytes) (values : List (DhtValue L)) (expired : Bool)
  /-- The first of two members calls the second. -/
  | speak (a b : ν) (env : Environment L) (text : Bytes)
  /-- The relay node gets a hole punch. -/
  | register (punch : ν × Bytes) (env : Environment L)
  /-- The relay node gets a message. -/
  | pass (letter : Letter ν) (env : Environment L)
  | hear (letter : Letter ν) (env : Environment L)
  /-- The relay node does something else. -/
  | tend (task : Task L)

/-- The datagrams that were sent to an endpoint for a purpose. -/
def sentTo (purpose : Purpose) (endpoint : Endpoint L) (effects : List (Effect L)) : List Bytes :=
  effects.filterMap fun effect => match effect with
    | .send_to other buffer there => if other = purpose ∧ there = endpoint then some buffer else none
    | _ => none

def Relayed.letter : Relayed ν → Option (Letter ν)
  | lost letter => some letter
  | registered _ => none

/-- What the relay node has lost. -/
def lostLetters (relayed : List (Relayed ν)) : List (Letter ν) := relayed.filterMap Relayed.letter

section
variable [DecidableEq ν] (r : Rendezvous ν L)

def Meeting.did (s : Meeting ν L) (a b : ν) (worked : Messenger L × List (Effect L)) : Meeting ν L :=
  { s with
    messengers := Function.update s.messengers a worked.1
    log := s.log ++ worked.2.filterMap (Effect.talk a b)
    punches := s.punches ++ (sentTo .hole_punch r.node worked.2).map fun buffer => (a, buffer) }

/-- The relay node is done with a message. -/
def Meeting.relayDid (s : Meeting ν L) (letter : Letter ν) (worked : Messenger L × List (Effect L)) : Meeting ν L :=
  { s with
    relay := worked.1
    letters := s.letters.erase letter
    passed := s.passed ++ (sentTo .relay (r.outside letter.listener) worked.2).map fun buffer => { letter with buffer := buffer }
    relayed := s.relayed ++ if (sentTo .relay (r.outside letter.listener) worked.2).isEmpty then [.lost letter] else [] }

def meet (s : Meeting ν L) : Encounter ν L → Option (Meeting ν L)
  | .start a env => (work (r.config a) (s.messengers a) (.start env)).map (s.did r a a)
  | .timer a env endpoint => (work (r.config a) (s.messengers a) (.timer env endpoint)).map (s.did r a a)
  | .listen a login values expired =>
    (work (r.config a) (s.messengers a) (.listen_callback login values expired)).map (s.did r a a)
  | .speak a b env text =>
    (work (r.config a) (s.messengers a) (.send_message env (r.config b).my_login_ (r.id b) text)).map fun worked =>
      { s.did r a b worked with
        letters := s.letters ++ (sentTo .message r.node worked.2).map fun buffer => ⟨a, b, text, buffer⟩ }
  | .register punch env =>
    if s.punches.contains punch then
      (work r.relay_node s.relay (.receive env punch.2 (r.outside punch.1))).map fun worked =>
        { s with relay := worked.1, punches := s.punches.erase punch, relayed := s.relayed ++ [.registered punch.1] }
    else none
  | .pass letter env =>
    if s.letters.contains letter then
      (work r.relay_node s.relay (.receive env letter.buffer (r.outside letter.speaker))).map (s.relayDid r letter)
    else none
  | .hear letter env =>
    if s.passed.contains letter then
      (work (r.config letter.listener) (s.messengers letter.listener) (.receive env letter.buffer r.node)).map fun worked =>
        { s.did r letter.listener letter.speaker worked with passed := s.passed.erase letter }
    else none
  | .tend task => (work r.relay_node s.relay task).map fun worked => { s with relay := worked.1 }

end

namespace Rendezvous
variable (r : Rendezvous ν L)

/-- What the network, the DHT and the sockets leave alone. The relay node gets no datagrams
    but the members'. -/
def Proper (_ : Meeting ν L) : Encounter ν L → Prop
  | .listen _ login values _ => ∀ value ∈ values, ∀ b, value.owner = some (r.config b).public_key →
    login = (r.config b).my_login_ → value.data = (r.config b).record.address
  | .speak a b env text => a ≠ b ∧ r.Utters a b env text
  | .pass _ env => env.accepts 0 = true
  | .hear _ env => env.accepts 0 = true
  | .tend task => ∀ env buffer remote_endpoint, task ≠ .receive env buffer remote_endpoint
  | _ => True

/-- What the relay node stores for a member. -/
def place (a : ν) : Bytes := MetadataIpResolver.addressOf (L.to_string (r.outside a).address) (r.outside a).port

end Rendezvous

/-! ## A hole punch -/

/-- Memory that begins with one octet more. -/
theorem start_snoc (buffer : Bytes) (beyond : Contents) :
    start buffer beyond = start (buffer ++ [beyond 0]) fun i => beyond (i + 1) := by
  have first : view [beyond 0] (fun i => beyond (i + 1)) = beyond := view_slice beyond 1
  unfold start
  rw [view_append, first]

/-- A hole punch is read with its login, and with the key up to the last octet, which the
    encoder has cut off. -/
theorem metadata_from_buffer_cut {login public_key : Bytes} (loginBound : login.length ≤ 65535)
    (keyBound : public_key.length ≤ 65535) (keyed : public_key ≠ []) (beyond : Contents) :
    metadata_from_buffer (metadata_to_buffer login public_key) beyond = (login, public_key.dropLast ++ [beyond 0]) := by
  obtain ⟨last, -, cut⟩ := metadata_to_buffer_cut loginBound keyBound
  have size := metadata_block_size login public_key
  have length := congrArg List.length cut
  rw [List.length_append, metadata_to_buffer, Block.vector, slice_length] at length
  have short : last.length = [public_key.getLast keyed].length := by
    rw [List.length_singleton]
    omega
  have whole : encode metadataLayout [login, public_key] =
      encode metadataLayout [login, public_key.dropLast ++ [public_key.getLast keyed]] := by
    rw [List.dropLast_append_getLast keyed]
  have spelled : ∀ octet, encode metadataLayout [login, public_key.dropLast ++ [octet]] =
      toLE 2 login.length ++ login ++ (toLE 2 (public_key.dropLast.length + 1) ++ public_key.dropLast) ++ [octet] := by
    intro octet
    simp [encode, metadataLayout, Field.encode]
  rw [whole, spelled] at cut
  obtain ⟨begins, -⟩ := List.append_inj' cut short
  have starts : Starts metadataLayout [login, public_key.dropLast ++ [beyond 0]]
      (metadata_to_buffer login public_key ++ [beyond 0]) := by
    refine ⟨metadata_fits loginBound ?_, [], ?_⟩
    · rw [List.length_append, List.length_dropLast, List.length_singleton]
      omega
    · rw [spelled, List.append_nil, begins]
  rw [← metadata_from_buffer_of_starts starts fun i => beyond (i + 1)]
  unfold metadata_from_buffer
  rw [start_snoc]

namespace Rendezvous
variable (r : Rendezvous ν L)

/-- The relay node stores where a member's hole punch came from. -/
theorem received_punch (a : ν) (env : Environment L) (ledger : Ledger L) :
    ledger.received r.relay_node env (r.config a).buffer_ (r.outside a) =
      ([.stored .metadata_ip_resolver_ (r.config a).my_login_ (r.config a).public_key (r.place a)], [.async_wait]) := by
  have size := metadata_block_size (r.config a).my_login_ (r.config a).public_key_string
  have fits := r.punches a
  have loginBound := r.short_login a
  rw [Config.buffer_, metadata_to_buffer, Block.vector, slice_length] at fits
  simp only [encode, metadataLayout, Field.encode, List.length_append, toLE_length, List.length_nil] at size
  have frame : signed_message_from_buffer (r.config a).buffer_ env.beyond = .error notEnough :=
    signed_message_from_buffer_metadata (by omega) (by omega) env.beyond
  have read : reading r.relay_node env (r.config a).buffer_ = .metadata := (reading_eq_metadata _ _ _).mpr (.inl ⟨_, frame⟩)
  have cut : metadata_from_buffer (r.config a).buffer_ env.beyond =
      ((r.config a).my_login_, (r.config a).public_key_string.dropLast ++ [env.beyond 0]) :=
    metadata_from_buffer_cut (by omega) (by omega) (r.keyed a) env.beyond
  unfold Ledger.received
  simp only [read, cut, r.last_octet, place]

/-! ## A message -/

/-- The letter's datagram is one that its speaker made for its listener. -/
def Addressed (letter : Letter ν) : Prop :=
  letter.speaker ≠ letter.listener ∧ letter.buffer.length ≤ 65507 ∧
  ∃ message, Accepts (r.config letter.listener) letter.buffer message (r.config letter.speaker).public_key ∧
    message.source_login = (r.config letter.speaker).my_login_ ∧ message.source_ip = (r.config letter.speaker).my_ip_ ∧
    message.payload.text = letter.text ∧ message.destination_login = (r.config letter.listener).my_login_

/-- The relay node cannot open the datagram, and knows nothing more from it. If the listener is
    registered, it sends the datagram to where the listener's hole punch came from. -/
theorem received_letter {letter : Letter ν} (addressed : r.Addressed letter) {env : Environment L}
    (takes : env.accepts 0 = true) (ledger : Ledger L) (remote_endpoint : Endpoint L) :
    ∃ hop : Option (Endpoint L), ledger.received r.relay_node env letter.buffer remote_endpoint =
        ([], (hop.map fun endpoint => .send_to .relay letter.buffer endpoint).toList ++ [.async_wait]) ∧
      (latest (Fact.address .metadata_ip_resolver_ (r.config letter.listener).my_login_ (r.id letter.listener)) ledger =
        some (r.place letter.listener) → hop = some (r.outside letter.listener)) := by
  obtain ⟨-, fits, message, ⟨signed_message, payload_buffer, frame, starts, mine, -, source, verified⟩, -, -, -, login⟩ :=
    addressed
  let closed : Message := { message with payload := .zero }
  have other : closed.destination_public_key ≠ r.relay_node.public_key_string := by
    intro same
    exact r.stranger letter.listener (toString_injective r.strings (mine.symm.trans same))
  have transits : Transits r.relay_node letter.buffer closed :=
    ⟨signed_message, payload_buffer, _, frame, starts, rfl, other, source, verified⟩
  have read := (reading_eq_transit r.relay_node env letter.buffer closed).mpr transits
  refine ⟨ledger.nextHop closed, ?_, ?_⟩
  · unfold Ledger.received
    simp only [read]
    cases ledger.nextHop closed with
    | none => rfl
    | some endpoint =>
      simp only [r.serves, fits, takes, and_self, if_true]
      rfl
  · intro registered
    have parsed : L.publicKey closed.destination_public_key = some (r.config letter.listener).public_key := by
      show L.publicKey message.destination_public_key = _
      rw [mine]
      exact r.strings _
    have named : closed.destination_login = (r.config letter.listener).my_login_ := login
    unfold Ledger.nextHop
    rw [parsed, Option.bind_some, named]
    have split := get_ip_and_port_from_address_eq (r.plain_outside letter.listener) (r.outside letter.listener).port
    simp only [registered, place, MetadataIpResolver.addressOf, split, endpointOf, r.read_back, Option.map_some]

/-- The copy of a call for the relay node is the datagram of the call. -/
theorem calling_sentTo {a b : ν} {env : Environment L} {text : Bytes} (different : a ≠ b) (utters : r.Utters a b env text)
    (port : UInt16) :
    let effects := (r.config a).calling env (MetadataIpResolver.addressOf (r.config b).my_ip_ port)
      (r.config b).my_login_ (r.config b).public_key text
    ∃ buffer, firstDatagram effects = some buffer ∧ sentTo .message r.node effects = [buffer] ∧
      sentTo .hole_punch r.node effects = [] ∧ r.Addressed ⟨a, b, text, buffer⟩ := by
  intro effects
  obtain ⟨inner, buffer, whole, accepts, fits⟩ := calling_eq r.toCompany utters port
  have sends : ∀ purpose message, sentTo purpose r.node (sendEffects message : List (Effect L)) = [] := by
    intro purpose message
    unfold sendEffects
    cases L.publicKey message.destination_public_key <;> rfl
  have copy : (r.config b).my_ip_ ≠ (r.config a).relay_node_ip_ := by
    intro same
    have literal := r.literal b
    rw [same, r.reached a] at literal
    exact r.apart b (Option.some.inj literal).symm
  have elsewhere : (⟨r.address b, port⟩ : Endpoint L) ≠ r.node := fun same => r.apart b (congrArg Endpoint.address same)
  have here : (⟨r.node.address, (r.config a).relay_node_port_⟩ : Endpoint L) = r.node := by rw [r.port]
  have relays : ∀ message : Message, message.destination_ip = (r.config b).my_ip_ →
      (r.config a).relayEffects message buffer = .send_to .message buffer r.node :: sendEffects message := by
    intro message ip
    rw [Config.relayEffects, if_pos ⟨r.configured a, by rw [ip]; exact copy⟩, r.reached a]
    simp only [here]
  refine ⟨buffer, ?_, ?_, ?_, different, fits, _, accepts, rfl, rfl, rfl, rfl⟩
  · unfold effects
    rw [whole]
    rfl
  · unfold effects
    rw [whole, relays _ rfl]
    have rest := sends .message
    unfold sentTo at rest ⊢
    simp [elsewhere, rest]
  · unfold effects
    rw [whole, relays _ rfl]
    have rest := sends .hole_punch
    unfold sentTo at rest ⊢
    simp [rest]

end Rendezvous

/-! ## What any task does -/

section
variable {config : Config L} {ledger later : Ledger L} {task : Task L} {effects : List (Effect L)}

/-- Every hole punch is the same datagram. -/
theorem punch_of_record (recorded : record config ledger task = some (later, effects)) {buffer : Bytes} {endpoint : Endpoint L}
    (punch : .send_to .hole_punch buffer endpoint ∈ effects) : buffer = config.buffer_ := by
  have punching : ∀ punched : Option (Endpoint L), .send_to .hole_punch buffer endpoint ∈ (config.punching punched).2 →
      buffer = config.buffer_ := by
    intro punched member
    cases punched with
    | none => cases member
    | some other =>
      cases List.mem_singleton.mp member
      rfl
  cases task with
  | start env =>
    simp only [record] at recorded
    split_ifs at recorded
    cases recorded
    exact punching _ punch
  | timer env other =>
    simp only [record] at recorded
    by_cases there : 0 < ledger.loops other
    · rw [if_pos there] at recorded
      cases recorded
      exact punching _ punch
    · rw [if_neg there] at recorded
      cases recorded
  | receive env octets remote_endpoint =>
    cases recorded
    cases read : reading config env octets with
    | accepted message public_key =>
      simp only [read] at punch
      cases loop : config.punched env 0 message.source_ip (sourcePort message remote_endpoint) with
      | none => simp [loop] at punch
      | some other =>
        simp only [loop, List.cons_append, List.mem_cons, List.mem_append, Effect.send_to.injEq] at punch
        rcases punch with ⟨-, same, -⟩ | inside | wait
        · exact same
        · rcases mem_receiveEffects inside with same | same | same | same <;> cases same
        · simp at wait
    | transit message =>
      simp only [read] at punch
      cases hop : ledger.nextHop message with
      | none => simp [hop] at punch
      | some other =>
        simp only [hop] at punch
        split_ifs at punch
        · simp at punch
        · simp at punch
    | dropped => simp [read] at punch
    | metadata =>
      simp only [read] at punch
      cases parsed : L.publicKey (metadata_from_buffer octets env.beyond).2 <;> simp [parsed] at punch
  | listen_callback login values expired =>
    cases recorded
    obtain ⟨contact, -, made⟩ := List.mem_map.mp punch
    cases made
  | send_message env login id text =>
    obtain ⟨effects', same, call⟩ := record_send_message config ledger env login id text
    rw [same] at recorded
    cases recorded
    rcases call with ⟨-, rfl⟩ | ⟨address, public_key, -, -, rfl⟩
    · cases punch
    · unfold Config.calling at punch
      cases built : composed config env address login public_key text with
      | error e => simp [built] at punch
      | ok composition =>
        simp only [built] at punch
        rcases mem_callEffects ((cut_performed env 0 _).first.subset punch) with same | ⟨_, _, _, -, -, same⟩ | handler
        · cases same
        · cases same
        · rcases mem_sendEffects handler with same | same | ⟨id, same⟩ <;> cases same

/-- Only datagrams change where a messenger has met others. -/
theorem met_of_record (recorded : record config ledger task = some (later, effects))
    (quiet : ∀ env buffer remote_endpoint, task ≠ .receive env buffer remote_endpoint) (login : Bytes) (id : L.InfoHash) :
    latest (Fact.address .metadata_ip_resolver_ login id) later =
      latest (Fact.address .metadata_ip_resolver_ login id) ledger := by
  have punching : ∀ punched : Option (Endpoint L),
      latest (Fact.address .metadata_ip_resolver_ login id) (config.punching punched).1 = none := by
    intro punched
    cases punched <;> rfl
  cases task with
  | start env =>
    simp only [record] at recorded
    split_ifs at recorded
    cases recorded
    rw [latest_append, punching, Option.none_or]
  | timer env endpoint =>
    simp only [record] at recorded
    by_cases there : 0 < ledger.loops endpoint
    · rw [if_pos there] at recorded
      cases recorded
      have expired : latest (Fact.address .metadata_ip_resolver_ login id) [(.expired endpoint : Fact L)] = none := rfl
      rw [← List.singleton_append, ← List.append_assoc, latest_append, punching, Option.none_or, latest_append, expired,
        Option.none_or]
    · rw [if_neg there] at recorded
      cases recorded
  | receive env buffer remote_endpoint => exact absurd rfl (quiet env buffer remote_endpoint)
  | listen_callback name values expired =>
    cases recorded
    have elsewhere : ∀ contacts : List (L.PublicKey × Bytes), latest (Fact.address .metadata_ip_resolver_ login id)
        (contacts.map fun contact => (.stored .dht_ip_resolver_ name contact.1 contact.2 : Fact L)) = none := by
      intro contacts
      rw [latest, List.filterMap_map, List.filterMap_eq_nil_iff.mpr]
      · rfl
      · intro contact _
        simp [Fact.address]
    rw [latest_append, elsewhere, Option.none_or]
  | send_message env name key text =>
    obtain ⟨effects', same, -⟩ := record_send_message config ledger env name key text
    rw [same] at recorded
    cases recorded
    rw [latest_append, saidBy_stores_nothing effects fun _ _ _ => rfl, Option.none_or]

end

/-! ## Every step is one of the company's, or none -/

variable [DecidableEq ν]

/-- What the relay node's ledger has of the members. -/
def Rendezvous.Knows (r : Rendezvous ν L) (relayed : List (Relayed ν)) (ledger : Ledger L) : Prop :=
  ∀ a, .registered a ∈ relayed →
    latest (Fact.address .metadata_ip_resolver_ (r.config a).my_login_ (r.id a)) ledger = some (r.place a)

/-- The members have done the same in the gathering, where what is with the relay node, or was
    lost by it, is on its way. -/
structure Meeting.Follows (r : Rendezvous ν L) (s : Meeting ν L) (g : Gathering ν L) : Prop where
  messengers : g.messengers = s.messengers
  log : g.log = s.log
  flight : g.flight.Perm (s.letters ++ s.passed ++ lostLetters s.relayed)
  addressed : ∀ letter ∈ s.letters ++ s.passed, r.Addressed letter
  punches : ∀ punch ∈ s.punches, punch.2 = (r.config punch.1).buffer_
  relay : ∃ ledger : Ledger L, ledger.Describes s.relay ∧ r.Knows s.relayed ledger
  lost : Justified (fun before event => ∀ letter, event = .lost letter → .registered letter.listener ∉ before) s.relayed

namespace Meeting
variable {r : Rendezvous ν L} {s t : Meeting ν L} {g : Gathering ν L}

omit [DecidableEq ν] in
theorem follows_initial (r : Rendezvous ν L) : (Meeting.initial ν L).Follows r (Gathering.initial ν L) where
  messengers := rfl
  log := rfl
  flight := .refl _
  addressed _ member := by cases member
  punches _ member := by cases member
  relay := ⟨[], describes_initial, fun _ member => by cases member⟩
  lost := justified_nil _

/-- A member does a task. -/
theorem Follows.did (follows : s.Follows r g) (sound : g.Sound r.toCompany) {a : ν} (b : ν) {task : Task L}
    {worked : Messenger L × List (Effect L)} (taken : work (r.config a) (s.messengers a) task = some worked) :
    (s.did r a b worked).Follows r (g.did a b worked) where
  messengers := by
    show Function.update g.messengers a worked.1 = Function.update s.messengers a worked.1
    rw [follows.messengers]
  log := congrArg (· ++ _) follows.log
  flight := follows.flight
  addressed := follows.addressed
  punches punch member := by
    rcases List.mem_append.mp member with old | new
    · exact follows.punches punch old
    obtain ⟨buffer, sent, rfl⟩ := List.mem_map.mp new
    obtain ⟨effect, inside, told⟩ := List.mem_filterMap.mp sent
    obtain ⟨ledger, describes, -⟩ := sound.ledgers a
    rw [follows.messengers] at describes
    obtain ⟨next, recorded, -⟩ := record_of_work describes taken
    cases effect with
    | send_to purpose octets endpoint =>
      simp only [Option.ite_none_right_eq_some, Option.some.injEq] at told
      obtain ⟨⟨rfl, rfl⟩, rfl⟩ := told
      exact punch_of_record recorded inside
    | _ => cases told
  relay := follows.relay
  lost := follows.lost

/-- A call goes to the relay node, unless the caller has no address of the other one. -/
theorem Follows.speak (follows : s.Follows r g) (sound : g.Sound r.toCompany) {a b : ν} {env : Environment L} {text : Bytes}
    (different : a ≠ b) (utters : r.Utters a b env text) :
    ∃ t v, meet r s (.speak a b env text) = some t ∧ gather r.config g (.speak a b env text) = some v ∧ t.Follows r v ∧
      (t.passed = s.passed ∧ t.relayed = s.relayed) ∧
      ((s.messengers a).resolve (r.config b).my_login_ (r.id b) = none ∨
        t.log = s.log ++ [.said a b text] ∧ ∃ buffer, t.letters = s.letters ++ [⟨a, b, text, buffer⟩]) := by
  obtain ⟨ledger, later, effects, taken, -, -, call⟩ := sound.call a b env text
  have here : work (r.config a) (s.messengers a) (.send_message env (r.config b).my_login_ (r.id b) text) =
      some (later, effects) := by
    rw [← follows.messengers]
    exact taken
  have did := follows.did sound b here
  let t : Meeting ν L := { s.did r a b (later, effects) with
    letters := s.letters ++ (sentTo .message r.node effects).map fun buffer => ⟨a, b, text, buffer⟩ }
  let v : Gathering ν L := { g.did a b (later, effects) with
    flight := g.flight ++ (firstDatagram effects).toList.map fun buffer => ⟨a, b, text, buffer⟩ }
  have spoke : meet r s (.speak a b env text) = some t := by
    rw [meet, here]
    rfl
  have gathered : gather r.config g (.speak a b env text) = some v := by
    rw [gather, taken]
    rfl
  refine ⟨t, v, spoke, gathered, ?_, ⟨rfl, rfl⟩, ?_⟩
  · rcases call with ⟨-, rfl⟩ | ⟨port, same⟩
    · have letters : t.letters = s.letters := List.append_nil _
      have flight : v.flight = g.flight := List.append_nil _
      refine { did with flight := ?_, addressed := ?_ }
      · rw [letters, flight]
        exact did.flight
      · rw [letters]
        exact did.addressed
    · obtain ⟨buffer, first, copy, -, addressed⟩ := r.calling_sentTo different utters port
      rw [← same] at first copy
      refine { did with flight := ?_, addressed := ?_ }
      · simp only [t, v, first, copy, Option.toList_some, List.map_singleton, Meeting.did]
        refine (follows.flight.append_right _).trans (List.perm_iff_count.mpr fun letter => ?_)
        simp only [List.count_append]
        omega
      · intro letter member
        simp only [t, copy, List.map_singleton, Meeting.did] at member
        rcases List.mem_append.mp member with onward | back
        · rcases List.mem_append.mp onward with old | new
          · exact follows.addressed letter (List.mem_append_left _ old)
          · obtain rfl := List.mem_singleton.mp new
            exact addressed
        · exact follows.addressed letter (List.mem_append_right _ back)
  · rcases call with ⟨unknown, -⟩ | ⟨port, same⟩
    · rw [follows.messengers] at unknown
      exact .inl unknown
    · obtain ⟨buffer, -, copy, -, -⟩ := r.calling_sentTo different utters port
      obtain ⟨-, -, talks⟩ := calling_told r.toCompany utters port
      rw [← same] at copy talks
      refine .inr ⟨congrArg (s.log ++ ·) talks, buffer, ?_⟩
      simp only [t, copy, List.map_singleton]

/-- The relay node takes a hole punch down. -/
theorem Follows.register (follows : s.Follows r g) {punch : ν × Bytes} (there : punch ∈ s.punches) (env : Environment L) :
    ∃ t, meet r s (.register punch env) = some t ∧ t.Follows r g ∧ t.log = s.log ∧
      t.relayed = s.relayed ++ [.registered punch.1] := by
  obtain ⟨ledger, describes, knows⟩ := follows.relay
  have recorded : record r.relay_node ledger (.receive env punch.2 (r.outside punch.1)) =
      some (ledger ++ [.stored .metadata_ip_resolver_ (r.config punch.1).my_login_ (r.config punch.1).public_key
        (r.place punch.1)], [.async_wait]) := by
    rw [follows.punches punch there, record, r.received_punch]
  obtain ⟨later, taken, described⟩ := work_of_record describes recorded
  let t : Meeting ν L :=
    { s with relay := later, punches := s.punches.erase punch, relayed := s.relayed ++ [.registered punch.1] }
  have registered : meet r s (.register punch env) = some t := by
    rw [meet, if_pos (List.contains_iff_mem.mpr there), taken]
    rfl
  refine ⟨t, registered, ?_, rfl, rfl⟩
  have nothing : lostLetters t.relayed = lostLetters s.relayed := by
    simp [t, lostLetters, Relayed.letter]
  refine ⟨follows.messengers, follows.log, ?_, follows.addressed, ?_, ⟨_, described, ?_⟩, ?_⟩
  · rw [nothing]
    exact follows.flight
  · exact fun other member => follows.punches other (List.mem_of_mem_erase member)
  · intro a member
    rw [latest_append]
    by_cases same : a = punch.1
    · subst same
      simp [latest, Fact.address]
    · have other : ¬ r.id a = r.id punch.1 := fun ids => same ((id_eq_id_iff r.toCompany a punch.1).mp ids)
      have old : .registered a ∈ s.relayed := by
        rcases List.mem_append.mp member with old | new
        · exact old
        · injection List.mem_singleton.mp new with here
          exact absurd here same
      have silent : latest (Fact.address .metadata_ip_resolver_ (r.config a).my_login_ (r.id a))
          [.stored .metadata_ip_resolver_ (r.config punch.1).my_login_ (r.config punch.1).public_key (r.place punch.1)] = none := by
        simp [latest, Fact.address, other]
      rw [silent, Option.none_or]
      exact knows a old
  · refine follows.lost.snoc fun letter same => ?_
    cases same

/-- The relay node is done with a message: it is on its way to its listener, or else it is lost,
    and the listener was not registered. -/
theorem Follows.pass (follows : s.Follows r g) {letter : Letter ν} (there : letter ∈ s.letters) {env : Environment L}
    (takes : env.accepts 0 = true) :
    ∃ t, meet r s (.pass letter env) = some t ∧ t.Follows r g ∧ t.log = s.log ∧
      (.registered letter.listener ∈ s.relayed →
        t.letters = s.letters.erase letter ∧ t.passed = s.passed ++ [letter] ∧ t.relayed = s.relayed) := by
  obtain ⟨ledger, describes, knows⟩ := follows.relay
  have addressed := follows.addressed letter (List.mem_append_left _ there)
  obtain ⟨hop, received, known⟩ := r.received_letter addressed takes ledger (r.outside letter.speaker)
  let effects : List (Effect L) := (hop.map fun endpoint => .send_to .relay letter.buffer endpoint).toList ++ [.async_wait]
  have recorded : record r.relay_node ledger (.receive env letter.buffer (r.outside letter.speaker)) =
      some (ledger, effects) := by
    rw [record, received]
    show some (ledger ++ [], effects) = _
    rw [List.append_nil]
  obtain ⟨later, taken, described⟩ := work_of_record describes recorded
  have passed : meet r s (.pass letter env) = some (s.relayDid r letter (later, effects)) := by
    rw [meet, if_pos (List.contains_iff_mem.mpr there), taken]
    rfl
  have copy : sentTo .relay (r.outside letter.listener) effects =
      if hop = some (r.outside letter.listener) then [letter.buffer] else [] := by
    cases hop with
    | none => rfl
    | some endpoint => by_cases same : endpoint = r.outside letter.listener <;> simp [effects, sentTo, same]
  have left : ∀ other, s.letters.count other = (s.letters.erase letter).count other + [letter].count other := by
    intro other
    rw [(List.perm_cons_erase there).count_eq other, List.count_cons, List.count_singleton]
  refine ⟨_, passed, ?_, rfl, ?_⟩
  · have kept : ∀ other ∈ s.letters.erase letter ++ (s.passed ++ [letter]), r.Addressed other := by
      intro other member
      rcases List.mem_append.mp member with old | new
      · exact follows.addressed other (List.mem_append_left _ (List.mem_of_mem_erase old))
      · rcases List.mem_append.mp new with old | new
        · exact follows.addressed other (List.mem_append_right _ old)
        · obtain rfl := List.mem_singleton.mp new
          exact addressed
    by_cases hop_there : hop = some (r.outside letter.listener)
    · rw [if_pos hop_there] at copy
      have same : s.relayDid r letter (later, effects) =
          { s with relay := later, letters := s.letters.erase letter, passed := s.passed ++ [letter] } := by
        simp only [Meeting.relayDid, copy, List.map_singleton, List.isEmpty_cons, Bool.false_eq_true, if_false, List.append_nil]
      rw [same]
      refine { follows with flight := ?_, addressed := kept, relay := ⟨ledger, described, knows⟩ }
      refine follows.flight.trans (List.perm_iff_count.mpr fun other => ?_)
      simp only [List.count_append, left]
      omega
    · rw [if_neg hop_there] at copy
      have same : s.relayDid r letter (later, effects) =
          { s with relay := later, letters := s.letters.erase letter, relayed := s.relayed ++ [.lost letter] } := by
        simp only [Meeting.relayDid, copy, List.map_nil, List.isEmpty_nil, if_true, List.append_nil]
      rw [same]
      refine { follows with flight := ?_, addressed := ?_, relay := ⟨ledger, described, fun a member => ?_⟩, lost := ?_ }
      · refine follows.flight.trans (List.perm_iff_count.mpr fun other => ?_)
        have more : lostLetters (s.relayed ++ [.lost letter]) = lostLetters s.relayed ++ [letter] := by
          simp [lostLetters, Relayed.letter]
        simp only [List.count_append, left, more]
        omega
      · intro other member
        refine kept other ?_
        rcases List.mem_append.mp member with old | old
        · exact List.mem_append_left _ old
        · exact List.mem_append_right _ (List.mem_append_left _ old)
      · refine knows a ((List.mem_append.mp member).resolve_right fun new => ?_)
        cases List.mem_singleton.mp new
      · refine follows.lost.snoc fun other lost registered => ?_
        injection lost with lost
        subst lost
        exact hop_there (known (knows _ registered))
  · intro registered
    have hop_there := known (knows _ registered)
    rw [if_pos hop_there] at copy
    refine ⟨rfl, ?_, ?_⟩
    · simp only [Meeting.relayDid, copy, List.map_singleton]
    · simp only [Meeting.relayDid, copy, List.isEmpty_cons, Bool.false_eq_true, if_false, List.append_nil]

/-- What the relay node has sent on is heard when it is handed over. -/
theorem Follows.hear (follows : s.Follows r g) (sound : g.Sound r.toCompany) {letter : Letter ν} (there : letter ∈ s.passed)
    {env : Environment L} (takes : env.accepts 0 = true) :
    ∃ t v, meet r s (.hear letter env) = some t ∧ gather r.config g (.hear letter env r.node) = some v ∧ t.Follows r v ∧
      t.log = s.log ++ [.heard letter.listener letter.speaker letter.text,
        .announced letter.listener (r.config letter.speaker).my_login_ (r.id letter.speaker)] ∧
      t.letters = s.letters ∧ t.passed = s.passed.erase letter ∧ t.relayed = s.relayed := by
  have underway : letter ∈ g.flight :=
    follows.flight.mem_iff.mpr (List.mem_append_left _ (List.mem_append_right _ there))
  obtain ⟨v, gathered, -, log, -⟩ := sound.hear underway takes r.node
  have step := gathered
  rw [gather, if_pos underway, follows.messengers] at step
  obtain ⟨worked, taken, rfl⟩ := Option.map_eq_some_iff.mp step
  have did := follows.did sound letter.speaker taken
  let t : Meeting ν L := { s.did r letter.listener letter.speaker worked with passed := s.passed.erase letter }
  have heard : meet r s (.hear letter env) = some t := by
    rw [meet, if_pos (List.contains_iff_mem.mpr there), taken]
    rfl
  refine ⟨t, _, heard, gathered, { did with flight := ?_, addressed := fun other member => ?_ }, ?_, rfl, rfl, rfl⟩
  · refine List.perm_iff_count.mpr fun other => ?_
    have before := (((List.perm_cons_erase underway).symm.trans follows.flight)).count_eq other
    have passed := (List.perm_cons_erase there).count_eq other
    simp only [List.count_append, List.count_cons] at before passed
    show List.count other (g.flight.erase letter) =
      List.count other (s.letters ++ s.passed.erase letter ++ lostLetters s.relayed)
    simp only [List.count_append]
    omega
  · refine follows.addressed other ?_
    rcases List.mem_append.mp member with old | old
    · exact List.mem_append_left _ old
    · exact List.mem_append_right _ (List.mem_of_mem_erase old)
  · rw [← follows.log]
    exact (congrArg (· ++ _) follows.log).symm.trans log

theorem Follows.tend (follows : s.Follows r g) {task : Task L}
    (quiet : ∀ env buffer remote_endpoint, task ≠ .receive env buffer remote_endpoint)
    (step : meet r s (.tend task) = some t) : t.Follows r g := by
  obtain ⟨⟨later, effects⟩, taken, rfl⟩ := Option.map_eq_some_iff.mp step
  obtain ⟨ledger, describes, knows⟩ := follows.relay
  obtain ⟨next, recorded, described⟩ := record_of_work describes taken
  refine { follows with relay := ⟨next, described, fun a member => ?_⟩ }
  rw [met_of_record recorded quiet]
  exact knows a member

theorem follows_step (company : Reaches (gather r.config) r.toCompany.Proper (Gathering.initial ν L) g) (follows : s.Follows r g)
    {encounter : Encounter ν L} (proper : r.Proper s encounter) (step : meet r s encounter = some t) :
    ∃ v, Reaches (gather r.config) r.toCompany.Proper g v ∧ t.Follows r v := by
  have sound := gathering_sound company
  have one : ∀ (exchange : Exchange ν L) (v : Gathering ν L), r.toCompany.Proper g exchange →
      gather r.config g exchange = some v → Reaches (gather r.config) r.toCompany.Proper g v :=
    fun _ _ proper taken => Reaches.start.step proper taken
  cases encounter with
  | start a env =>
    rw [meet] at step
    obtain ⟨worked, taken, rfl⟩ := Option.map_eq_some_iff.mp step
    have gathered : gather r.config g (.start a env) = some (g.did a a worked) := by
      rw [gather, follows.messengers, taken]
      rfl
    exact ⟨_, one (.start a env) _ trivial gathered, follows.did sound a taken⟩
  | timer a env endpoint =>
    rw [meet] at step
    obtain ⟨worked, taken, rfl⟩ := Option.map_eq_some_iff.mp step
    have gathered : gather r.config g (.timer a env endpoint) = some (g.did a a worked) := by
      rw [gather, follows.messengers, taken]
      rfl
    exact ⟨_, one (.timer a env endpoint) _ trivial gathered, follows.did sound a taken⟩
  | listen a login values expired =>
    rw [meet] at step
    obtain ⟨worked, taken, rfl⟩ := Option.map_eq_some_iff.mp step
    have gathered : gather r.config g (.listen a login values expired) = some (g.did a a worked) := by
      rw [gather, follows.messengers, taken]
      rfl
    exact ⟨_, one (.listen a login values expired) _ proper gathered, follows.did sound a taken⟩
  | speak a b env text =>
    obtain ⟨t', v, spoke, gathered, next, -⟩ := follows.speak sound proper.1 proper.2
    obtain rfl := Option.some.inj (spoke.symm.trans step)
    exact ⟨v, one (.speak a b env text) v proper gathered, next⟩
  | register punch env =>
    have there : punch ∈ s.punches := by
      by_contra absent
      simp [meet, absent] at step
    obtain ⟨t', registered, next, -⟩ := follows.register there env
    obtain rfl := Option.some.inj (registered.symm.trans step)
    exact ⟨g, .start, next⟩
  | pass letter env =>
    have there : letter ∈ s.letters := by
      by_contra absent
      simp [meet, absent] at step
    obtain ⟨t', passed, next, -⟩ := follows.pass there proper
    obtain rfl := Option.some.inj (passed.symm.trans step)
    exact ⟨g, .start, next⟩
  | hear letter env =>
    have there : letter ∈ s.passed := by
      by_contra absent
      simp [meet, absent] at step
    obtain ⟨t', v, heard, gathered, next, -⟩ := follows.hear sound there proper
    obtain rfl := Option.some.inj (heard.symm.trans step)
    exact ⟨v, one (.hear letter env r.node) v proper gathered, next⟩
  | tend task => exact ⟨g, .start, follows.tend proper step⟩

theorem follows_of_reaches (reaches : Reaches (meet r) r.Proper (Meeting.initial ν L) s) :
    ∃ g, Reaches (gather r.config) r.toCompany.Proper (Gathering.initial ν L) g ∧ s.Follows r g :=
  Reaches.simulates (follows_initial r)
    (fun _ _ _ _ company follows proper step => follows_step company follows proper step) reaches

/-- The first hole punch of a member that starts is on its way. -/
theorem Follows.start (follows : s.Follows r g) (sound : g.Sound r.toCompany) (a : ν) {env : Environment L}
    (takes : env.accepts 0 = true) :
    ∃ t, meet r s (.start a env) = some t ∧ t.log = s.log ∧ t.relayed = s.relayed ∧ (a, (r.config a).buffer_) ∈ t.punches := by
  obtain ⟨ledger, describes, -⟩ := sound.ledgers a
  rw [follows.messengers] at describes
  have here : (⟨r.node.address, (r.config a).relay_node_port_⟩ : Endpoint L) = r.node := by rw [r.port]
  have punched : (r.config a).punched env 0 (r.config a).relay_node_ip_ (r.config a).relay_node_port_ = some r.node := by
    simp only [Config.punched, r.reached a, r.punches a, takes, and_self, if_true, here]
  have recorded : record (r.config a) ledger (.start env) =
      some (ledger ++ [.armed r.node], [.send_to .hole_punch (r.config a).buffer_ r.node]) := by
    simp only [record, if_pos (r.configured a), punched, Config.punching]
  obtain ⟨later, taken, -⟩ := work_of_record describes recorded
  let t := s.did r a a (later, [.send_to .hole_punch (r.config a).buffer_ r.node])
  have started : meet r s (.start a env) = some t := by
    rw [meet, taken]
    rfl
  refine ⟨t, started, List.append_nil _, rfl, List.mem_append_right _ (List.mem_map.mpr ⟨_, ?_, rfl⟩)⟩
  simp [sentTo]

/-- Every conversation is what the log has of it. -/
theorem Follows.entries (follows : s.Follows r g) (sound : g.Sound r.toCompany) (a b : ν) :
    (s.messengers a).node.chat_history_.entries (r.id b) = s.log.filterMap (r.line a b) := by
  obtain ⟨ledger, describes, keeps⟩ := sound.ledgers a
  rw [← follows.messengers, describes.entries, keeps.entries, follows.log]

end Meeting

/-! ## A relay node and two members -/

namespace Sample

/-- The sample libraries with keys whose strings end in a line feed. -/
@[reducible] def lineLibraries : Libraries :=
  { libraries with
    toString := fun key => [key, 10]
    publicKey := fun text => match text with
      | [key, _] => some key
      | _ => none }

/-- The relay node is at 10.0.0.1:9000. -/
def peer (b : Bool) : Config lineLibraries where
  my_login_ := if b then message.destination_login else message.source_login
  my_ip_ := message.source_ip
  my_port_ := if b then message.destination_port else message.source_port
  relay_node_ip_ := [49, 48, 46, 48, 46, 48, 46, 49]
  relay_node_port_ := 9000
  relay_ := false
  private_key_ := if b then 9 else 7

/-- Both members come from 192.0.2.1, from ports of their own. -/
def rendezvous : Rendezvous Bool lineLibraries where
  config := peer
  address _ := (127, 0, 0, 1)
  literal a := by cases a <;> decide
  plain a := by cases a <;> decide
  short_ip a := by cases a <;> decide
  short_login a := by cases a <;> decide
  punches a := by cases a <;> decide
  relay a := by cases a <;> decide
  keys _ := decryptUndoesEncrypt _
  verifies _ := signatureVerifies _
  strings _ := rfl
  ids _ _ same := same
  different := by decide
  relay_node := { peer false with my_login_ := [114], relay_node_ip_ := [], relay_ := true, private_key_ := (3 : UInt8) }
  node := ⟨(10, 0, 0, 1), 9000⟩
  outside a := ⟨(192, 0, 2, 1), if a then 2 else 1⟩
  serves := rfl
  configured a := by cases a <;> decide
  reached a := by cases a <;> decide
  port _ := rfl
  apart _ := by decide
  stranger a := by cases a <;> decide
  read_back a := by cases a <;> decide
  plain_outside a := by cases a <;> decide
  keyed a := by cases a <;> decide
  last_octet a octet := rfl

/-- The sender's text for the receiver, as octets of the message and as the datagram. -/
def letter : Letter Bool :=
  let inner := rendezvous.inner false true message.payload.text (9 :: document 1700000000 message.payload.text)
    message.destination_port
  ⟨false, true, message.payload.text, signed_message_to_buffer ⟨inner, 7 :: inner⟩⟩

theorem line_parseUndoesSerialize (payload : Payload) : lineLibraries.ParseUndoesSerialize payload := by
  have written : payload_to_buffer lineLibraries payload = document payload.time.toNat payload.text := payload_to_buffer_eq payload
  have parses : lineLibraries.parse = parse := rfl
  unfold Libraries.ParseUndoesSerialize
  rw [written, parses, parse_document, payloadObject]

theorem rendezvous_utters (a b : Bool) (env : Environment lineLibraries) (takes : ∀ before, env.accepts before = true) {text : Bytes}
    (short : text.length ≤ 60) : rendezvous.Utters a b env text where
  takes := takes
  json := line_parseUndoesSerialize _
  datagram := by
    have written : payload_to_buffer lineLibraries ⟨1700000000, text⟩ = document 1700000000 text := payload_to_buffer_eq _
    refine ⟨(peer b).private_key_ :: document 1700000000 text, ?_, fun port => ⟨(peer a).private_key_ :: _, rfl, ?_⟩⟩
    · rw [written]
      cases b <;> rfl
    · have inner : (rendezvous.inner a b text ((peer b).private_key_ :: document 1700000000 text) port).length ≤ 200 := by
        unfold Company.inner
        rw [Block.vector, slice_length, message_block_size, encode_message_length]
        have names : ∀ n, (rendezvous.config n).my_ip_.length = 9 ∧ (rendezvous.config n).my_login_.length = 5 ∧
            (lineLibraries.toString (rendezvous.config n).public_key).length = 2 := by
          intro n
          cases n <;> decide
        have words : opening.length = 8 ∧ middle.length = 9 ∧ closing.length = 2 := by decide
        have time : (to_string 1700000000).length = 10 := by decide
        simp only [Config.message, Config.public_key_string, document, List.length_cons, List.length_append, names, words, time]
        omega
      rw [List.length_cons]
      omega

def socket : Environment lineLibraries := ⟨(), fun _ => true, fun _ => 0, fun _ => 0⟩

/-- The receiver's value in the DHT. -/
def found : DhtValue lineLibraries := ⟨destination_address, some (9 : UInt8)⟩

/-- The relay node gets a text for the receiver before it gets the receiver's hole punch, and one
    after it. -/
def encounters : List (Encounter Bool lineLibraries) :=
  [.listen false message.destination_login [found] false, .speak false true socket message.payload.text, .pass letter socket,
    .start true socket, .register (true, (rendezvous.config true).buffer_) socket,
    .speak false true socket message.payload.text, .pass letter socket]

theorem encounters_proper :
    Guarded (meet rendezvous) rendezvous.Proper (Meeting.initial Bool lineLibraries) encounters := by
  refine guarded_of_free (fun encounter member u => ?_) _
  have utters := rendezvous_utters false true socket (fun _ => rfl) (show message.payload.text.length ≤ 60 by decide)
  simp only [encounters, List.mem_cons, List.not_mem_nil, or_false] at member
  rcases member with rfl | rfl | rfl | rfl | rfl | rfl | rfl
  · intro value only b signed name
    obtain rfl := List.mem_singleton.mp only
    cases b
    · cases signed
    · rfl
  · exact ⟨Bool.false_ne_true, utters⟩
  · exact rfl
  · trivial
  · trivial
  · exact ⟨Bool.false_ne_true, utters⟩
  · exact rfl

end Sample

/-- Whoever starts is registered as soon as the relay node has its hole punch. Whoever knows a
    registered member then reaches it through the relay node alone: the text is in both
    conversations, the listener knows the speaker, and everything else is on its way as before. -/
theorem relayed_calls_are_heard (r : Rendezvous ν L) {s : Meeting ν L}
    (reaches : Reaches (meet r) r.Proper (Meeting.initial ν L) s) :
    (∀ a env one, env.accepts 0 = true →
      ∃ t, run (meet r) s [.start a env, .register (a, (r.config a).buffer_) one] = some t ∧ t.log = s.log ∧
        t.relayed = s.relayed ++ [.registered a]) ∧
    ∀ a b env text one two, a ≠ b → r.Utters a b env text → .announced a (r.config b).my_login_ (r.id b) ∈ s.log →
      .registered b ∈ s.relayed → one.accepts 0 = true → two.accepts 0 = true →
      ∃ buffer t, run (meet r) s
          [.speak a b env text, .pass ⟨a, b, text, buffer⟩ one, .hear ⟨a, b, text, buffer⟩ two] = some t ∧
        t.log = s.log ++ [.said a b text, .heard b a text, .announced b (r.config a).my_login_ (r.id a)] ∧
        (t.messengers a).node.chat_history_.entries (r.id b) =
          (s.messengers a).node.chat_history_.entries (r.id b) ++ [((r.config a).my_login_, text)] ∧
        (t.messengers b).node.chat_history_.entries (r.id a) =
          (s.messengers b).node.chat_history_.entries (r.id a) ++ [((r.config a).my_login_, text)] ∧
        t.letters.Perm s.letters ∧ t.passed.Perm s.passed ∧ t.relayed = s.relayed := by
  obtain ⟨g, company, follows⟩ := Meeting.follows_of_reaches reaches
  have sound := gathering_sound company
  constructor
  · intro a env one takes
    obtain ⟨t, started, log, relayed, punched⟩ := follows.start sound a takes
    obtain ⟨v, -, next⟩ := Meeting.follows_step company follows (show r.Proper s (.start a env) from trivial) started
    obtain ⟨u, registered, -, log', relayed'⟩ := next.register punched one
    refine ⟨u, ?_, log'.trans log, ?_⟩
    · rw [run, started, Option.bind_some, run, registered]
      rfl
    · rw [relayed', relayed]
  · intro a b env text one two different utters announced registered takes_one takes_two
    obtain ⟨t, v, spoke, gathered, afterCall, ⟨passed, relayed⟩, call⟩ := follows.speak sound different utters
    have known : (s.messengers a).resolve (r.config b).my_login_ (r.id b) ≠ none := by
      rw [← follows.messengers]
      rw [← follows.log] at announced
      exact sound.resolves announced
    obtain ⟨said, buffer, letters⟩ := call.resolve_left known
    have company' := company.step (show r.toCompany.Proper g (.speak a b env text) from ⟨different, utters⟩) gathered
    let letter : Letter ν := ⟨a, b, text, buffer⟩
    have there : letter ∈ t.letters := by
      rw [letters]
      exact List.mem_append_right _ List.mem_cons_self
    obtain ⟨u, went, afterRelay, log', moved⟩ := afterCall.pass there takes_one
    obtain ⟨letters', passed', relayed'⟩ := moved (by rw [relayed]; exact registered)
    have waiting : letter ∈ u.passed := by
      rw [passed']
      exact List.mem_append_right _ List.mem_cons_self
    obtain ⟨w, x, heard, gathered', last, log'', letters'', passed'', relayed''⟩ :=
      afterRelay.hear (gathering_sound company') waiting takes_two
    have sound' := gathering_sound (company'.step (show r.toCompany.Proper v (.hear letter two r.node) from takes_two) gathered')
    have log : w.log = s.log ++ [.said a b text, .heard b a text, .announced b (r.config a).my_login_ (r.id a)] := by
      rw [log'', log', said, List.append_assoc]
      rfl
    have gone : ∀ letters : List (Letter ν), ((letters ++ [letter]).erase letter).Perm letters := by
      intro letters
      simpa using (List.perm_append_singleton letter letters).erase letter
    refine ⟨buffer, w, ?_, log, ?_, ?_, ?_, ?_, ?_⟩
    · rw [run, spoke, Option.bind_some, run, went, Option.bind_some, run, heard]
      rfl
    · rw [last.entries sound' a b, follows.entries sound a b, log, List.filterMap_append]
      simp [Company.line, different, Ne.symm different]
    · rw [last.entries sound' b a, follows.entries sound b a, log, List.filterMap_append]
      simp [Company.line, different, Ne.symm different]
    · rw [letters'', letters', letters]
      exact gone s.letters
    · rw [passed'', passed', passed]
      exact gone s.passed
    · rw [relayed'', relayed', relayed]

/-- The receiver has the text that the relay node passed on to it. -/
theorem relayed_calls_are_heard_sample :
    ∃ s buffer t, run (meet Sample.rendezvous) (Meeting.initial Bool _) Sample.encounters = some s ∧
      run (meet Sample.rendezvous) s
        [.speak false true Sample.socket [104, 105], .pass ⟨false, true, [104, 105], buffer⟩ Sample.socket,
          .hear ⟨false, true, [104, 105], buffer⟩ Sample.socket] = some t ∧
      (t.messengers true).node.chat_history_.entries (7 : UInt8) =
        (s.messengers true).node.chat_history_.entries (7 : UInt8) ++ [(Sample.message.source_login, [104, 105])] := by
  have ran : (run (meet Sample.rendezvous) (Meeting.initial Bool _) Sample.encounters).map (fun s => (s.log, s.relayed)) =
      some ([.announced false Sample.message.destination_login (9 : UInt8), .said false true Sample.message.payload.text,
        .said false true Sample.message.payload.text], [.lost Sample.letter, .registered true]) := by
    decide +kernel
  obtain ⟨s, taken, kept⟩ := Option.map_eq_some_iff.mp ran
  obtain ⟨log, relayed⟩ := Prod.mk.inj kept
  have reaches := reaches_of_guarded .start Sample.encounters_proper taken
  have utters := Sample.rendezvous_utters false true Sample.socket (fun _ => rfl) (show ([104, 105] : Bytes).length ≤ 60 by decide)
  obtain ⟨buffer, t, went, -, -, entries, -⟩ := (relayed_calls_are_heard Sample.rendezvous reaches).2 false true Sample.socket
    [104, 105] Sample.socket Sample.socket Bool.false_ne_true utters (by rw [log]; exact List.mem_cons_self)
    (by rw [relayed]; simp) rfl rfl
  exact ⟨s, buffer, t, taken, went, entries⟩

end P2PMessenger
