import P2PMessenger.Messenger

/-!
What a messenger is for, without its maps and its handlers: a ledger of what it has learnt
and said, in which every question is answered by the entries about it. An address is the
last one stored for its login and key, a conversation is everything said under its key,
and a loop runs when its timer was armed more often than it expired.
-/
namespace P2PMessenger
open Octets Throwing Refinement Runs

variable {L : Libraries}

inductive Fact (L : Libraries) where
  /-- A resolver stored an address and a key. -/
  | stored (source : Source) (login : Bytes) (public_key : L.PublicKey) (address : Bytes)
  | said (public_key_id : L.InfoHash) (login text : Bytes)
  /-- A loop armed its timer. -/
  | armed (endpoint : Endpoint L)
  /-- The timer of a loop expired. -/
  | expired (endpoint : Endpoint L)
  deriving DecidableEq

abbrev Ledger (L : Libraries) := List (Fact L)

namespace Fact

/-- The address that a fact stores for a login and an id. -/
def address (source : Source) (login : Bytes) (id : L.InfoHash) : Fact L → Option Bytes
  | stored other name public_key address =>
    if other = source ∧ login = name ∧ id = L.getId public_key then some address else none
  | _ => none

/-- The key that a fact stores for an id. -/
def key (source : Source) (id : L.InfoHash) : Fact L → Option L.PublicKey
  | stored other _ public_key _ => if other = source ∧ id = L.getId public_key then some public_key else none
  | _ => none

/-- The entry that a fact makes in a conversation. -/
def entry (id : L.InfoHash) : Fact L → Option (Bytes × Bytes)
  | said public_key_id login text => if id = public_key_id then some (login, text) else none
  | _ => none

def arms (endpoint : Endpoint L) : Fact L → Bool
  | armed other => other == endpoint
  | _ => false

def expires (endpoint : Endpoint L) : Fact L → Bool
  | expired other => other == endpoint
  | _ => false

end Fact

namespace Ledger

/-- What was learnt from datagrams comes before what the DHT told. -/
def resolve (ledger : Ledger L) (login : Bytes) (id : L.InfoHash) : Option Bytes :=
  (latest (Fact.address .metadata_ip_resolver_ login id) ledger).or (latest (Fact.address .dht_ip_resolver_ login id) ledger)

def public_key (ledger : Ledger L) (id : L.InfoHash) : Option L.PublicKey :=
  (latest (Fact.key .metadata_ip_resolver_ id) ledger).or (latest (Fact.key .dht_ip_resolver_ id) ledger)

/-- The conversation under an id. -/
def entries (ledger : Ledger L) (id : L.InfoHash) : List (Bytes × Bytes) := ledger.filterMap (Fact.entry id)

/-- The loops for an endpoint. -/
def loops (ledger : Ledger L) (endpoint : Endpoint L) : Nat :=
  ledger.countP (Fact.arms endpoint) - ledger.countP (Fact.expires endpoint)

/-- Where someone else's message is passed on to: its destination's address from a
    datagram, and else the address that it names. -/
def nextHop (ledger : Ledger L) (message : Message) : Option (Endpoint L) :=
  (L.publicKey message.destination_public_key).bind fun public_key =>
    match latest (Fact.address .metadata_ip_resolver_ message.destination_login (L.getId public_key)) ledger with
    | some address =>
      match get_ip_and_port_from_address address with
      | .ok (ip, port) => endpointOf ip port
      | .error _ => none
    | none => endpointOf message.destination_ip message.destination_port

end Ledger

/-- What an effect adds to the conversations. -/
def Effect.fact : Effect L → Option (Fact L)
  | .append _ public_key_id login text => some (.said public_key_id login text)
  | _ => none

/-- What a handler of the node says adds to the conversations. -/
def saidBy (effects : List (Effect L)) : List (Fact L) := effects.filterMap Effect.fact

/-- What a call of `send_message` for a known contact does. -/
def Config.calling (config : Config L) (env : Environment L) (address login : Bytes) (public_key : L.PublicKey)
    (text : Bytes) : List (Effect L) :=
  match composed config env address login public_key text with
  | .ok (message, inner) => performed env 0 (config.callEffects message inner)
  | .error _ => []

/-- What a started loop, or a round of it, writes down and does. -/
def Config.punching (config : Config L) (punched : Option (Endpoint L)) : List (Fact L) × List (Effect L) :=
  match punched with
  | some endpoint => ([.armed endpoint], [.send_to .hole_punch config.buffer_ endpoint])
  | none => ([], [])

/-- What a datagram of this reading adds to the ledger, and its effects. -/
def Ledger.received (ledger : Ledger L) (config : Config L) (env : Environment L) (buffer : Bytes)
    (remote_endpoint : Endpoint L) : List (Fact L) × List (Effect L) :=
  match reading config env buffer with
  | .accepted message public_key =>
    let port := sourcePort message remote_endpoint
    let source := Fact.stored .metadata_ip_resolver_ message.source_login public_key
      (MetadataIpResolver.addressOf message.source_ip port)
    match config.punched env 0 message.source_ip port with
    | some endpoint =>
      (source :: .armed endpoint :: saidBy (config.receiveEffects message public_key),
        .send_to .hole_punch config.buffer_ endpoint :: config.receiveEffects message public_key ++ [.async_wait])
    | none => ([source], [.async_wait])
  | .transit message =>
    match ledger.nextHop message with
    | some endpoint =>
      if config.relay_ = true ∧ buffer.length ≤ 65507 ∧ env.accepts 0 = true then
        ([], [.send_to .relay buffer endpoint, .async_wait])
      else ([], [.async_wait])
    | none => ([], [.async_wait])
  | .dropped => ([], [.async_wait])
  | .metadata =>
    match L.publicKey (metadata_from_buffer buffer env.beyond).2 with
    | some public_key =>
      ([.stored .metadata_ip_resolver_ (metadata_from_buffer buffer env.beyond).1 public_key
          (MetadataIpResolver.addressOf (L.to_string remote_endpoint.address) remote_endpoint.port)], [.async_wait])
    | none => ([], [])

/-- The ledger after a task, and the effects of the task. -/
def record (config : Config L) : Machine (Ledger L) (Task L) (Effect L)
  | ledger, .start env =>
    if config.relay_node_ip_ ≠ [] then
      let (facts, effects) := config.punching (config.punched env 0 config.relay_node_ip_ config.relay_node_port_)
      some (ledger ++ facts, effects)
    else none
  | ledger, .receive env buffer remote_endpoint =>
    let (facts, effects) := ledger.received config env buffer remote_endpoint
    some (ledger ++ facts, effects)
  | ledger, .timer env endpoint =>
    if 0 < ledger.loops endpoint then
      let taken := config.buffer_.length ≤ 65507 ∧ env.accepts 0 = true
      let (facts, effects) := config.punching (if taken then some endpoint else none)
      some (ledger ++ .expired endpoint :: facts, effects)
    else none
  | ledger, .listen_callback login values expired =>
    let heard := if expired then [] else DhtIpResolver.contacts (DhtIpResolver.reached values)
    some (ledger ++ heard.map fun contact => .stored .dht_ip_resolver_ login contact.1 contact.2,
      heard.map fun contact => .listen_login_handler login (L.getId contact.1))
  | ledger, .send_message env login id text =>
    match ledger.resolve login id with
    | none => some (ledger, [])
    | some address =>
      match ledger.public_key id with
      | some public_key =>
        let effects := config.calling env address login public_key text
        some (ledger ++ saidBy effects, effects)
      | none =>
        match get_ip_and_port_from_address address with
        | .ok _ => none
        | .error _ => some (ledger, [])

/-! ## What a fact changes -/

/-- The maps of a messenger's resolvers. -/
def Messenger.maps (m : Messenger L) : Resolvers L
  | .metadata_ip_resolver_ => m.node.metadata_ip_resolver_
  | .dht_ip_resolver_ => m.dht_ip_resolver_.maps

/-- Every question about the messenger is answered by its ledger. -/
structure Ledger.Describes (ledger : Ledger L) (m : Messenger L) : Prop where
  addresses : ∀ source login id, (m.maps source).resolve login id = latest (Fact.address source login id) ledger
  keys : ∀ source id, (m.maps source).get_public_key_by_public_key_id id = latest (Fact.key source id) ledger
  entries : ∀ id, m.node.chat_history_.entries id = ledger.entries id
  loops : ∀ endpoint,
    m.node.timers.count endpoint + ledger.countP (Fact.expires endpoint) = ledger.countP (Fact.arms endpoint)

/-- A messenger after some facts. -/
structure Adds (facts : List (Fact L)) (m t : Messenger L) : Prop where
  addresses : ∀ source login id,
    (t.maps source).resolve login id = (latest (Fact.address source login id) facts).or ((m.maps source).resolve login id)
  keys : ∀ source id,
    (t.maps source).get_public_key_by_public_key_id id =
      (latest (Fact.key source id) facts).or ((m.maps source).get_public_key_by_public_key_id id)
  entries : ∀ id, t.node.chat_history_.entries id = m.node.chat_history_.entries id ++ Ledger.entries facts id
  loops : ∀ endpoint,
    t.node.timers.count endpoint + facts.countP (Fact.expires endpoint) =
      m.node.timers.count endpoint + facts.countP (Fact.arms endpoint)

theorem entries_append (one two : Ledger L) (id : L.InfoHash) :
    Ledger.entries (one ++ two) id = Ledger.entries one id ++ Ledger.entries two id := List.filterMap_append

theorem Ledger.Describes.adds {ledger : Ledger L} {m t : Messenger L} {facts : List (Fact L)} (describes : ledger.Describes m)
    (adds : Adds facts m t) : Ledger.Describes (ledger ++ facts) t where
  addresses source login id := by rw [adds.addresses, describes.addresses, latest_append]
  keys source id := by rw [adds.keys, describes.keys, latest_append]
  entries id := by rw [adds.entries, describes.entries, entries_append]
  loops endpoint := by
    have before := describes.loops endpoint
    have added := adds.loops endpoint
    rw [List.countP_append, List.countP_append]
    omega

theorem Adds.refl (m : Messenger L) : Adds [] m m where
  addresses _ _ _ := rfl
  keys _ _ := rfl
  entries _ := (List.append_nil _).symm
  loops _ := rfl

theorem Adds.trans {one two : List (Fact L)} {m t u : Messenger L} (first : Adds one m t) (second : Adds two t u) :
    Adds (one ++ two) m u where
  addresses source login id := by rw [second.addresses, first.addresses, latest_append, Option.or_assoc]
  keys source id := by rw [second.keys, first.keys, latest_append, Option.or_assoc]
  entries id := by rw [second.entries, first.entries, entries_append, List.append_assoc]
  loops endpoint := by
    have one := first.loops endpoint
    have two := second.loops endpoint
    rw [List.countP_append, List.countP_append]
    omega

section
variable (m : Messenger L) (login : Bytes) (public_key : L.PublicKey)

theorem adds_put (ip : Bytes) (port : UInt16) :
    Adds [.stored .metadata_ip_resolver_ login public_key (MetadataIpResolver.addressOf ip port)] m
      { m with node := { m.node with
        metadata_ip_resolver_ := m.node.metadata_ip_resolver_.put login public_key ip port } } where
  addresses source other id := by
    cases source with
    | metadata_ip_resolver_ =>
      simp only [Messenger.maps, MetadataIpResolver.resolve_put]
      by_cases same : other = login ∧ id = L.getId public_key
      · simp [latest, Fact.address, same]
      · simp [latest, Fact.address, same]
    | dht_ip_resolver_ => simp [Messenger.maps, latest, Fact.address]
  keys source id := by
    cases source with
    | metadata_ip_resolver_ =>
      simp only [Messenger.maps, MetadataIpResolver.put, MetadataIpResolver.get_put_public_key,
        MetadataIpResolver.get_put_address]
      by_cases same : id = L.getId public_key
      · simp [latest, Fact.key, same]
      · simp [latest, Fact.key, same]
    | dht_ip_resolver_ => simp [Messenger.maps, latest, Fact.key]
  entries _ := (List.append_nil _).symm
  loops _ := rfl

/-- The DHT's resolver stores a contact and calls its handler. -/
theorem adds_store (address : Bytes) :
    Adds [.stored .dht_ip_resolver_ login public_key address] m
      { m with dht_ip_resolver_ := m.dht_ip_resolver_.store login public_key address } where
  addresses source other id := by
    cases source with
    | metadata_ip_resolver_ => simp [Messenger.maps, latest, Fact.address]
    | dht_ip_resolver_ =>
      simp only [Messenger.maps, DhtIpResolver.store, MetadataIpResolver.resolve_put_public_key,
        MetadataIpResolver.resolve_put_address]
      by_cases same : other = login ∧ id = L.getId public_key
      · simp [latest, Fact.address, same]
      · simp [latest, Fact.address, same]
  keys source id := by
    cases source with
    | metadata_ip_resolver_ => simp [Messenger.maps, latest, Fact.key]
    | dht_ip_resolver_ =>
      simp only [Messenger.maps, DhtIpResolver.store, MetadataIpResolver.get_put_public_key,
        MetadataIpResolver.get_put_address]
      by_cases same : id = L.getId public_key
      · simp [latest, Fact.key, same]
      · simp [latest, Fact.key, same]
  entries _ := (List.append_nil _).symm
  loops _ := rfl

theorem adds_armed (endpoint : Endpoint L) :
    Adds [.armed endpoint] m { m with node := { m.node with timers := m.node.timers ++ [endpoint] } } where
  addresses source _ _ := by cases source <;> rfl
  keys source _ := by cases source <;> rfl
  entries _ := (List.append_nil _).symm
  loops other := by
    rw [List.count_append, List.count_singleton]
    simp only [List.countP_singleton, Fact.arms, Fact.expires]
    simp

theorem adds_expired {endpoint : Endpoint L} (there : 0 < m.node.timers.count endpoint) :
    Adds [.expired endpoint] m { m with node := { m.node with timers := m.node.timers.erase endpoint } } where
  addresses source _ _ := by cases source <;> rfl
  keys source _ := by cases source <;> rfl
  entries _ := (List.append_nil _).symm
  loops other := by
    simp only [List.countP_singleton, Fact.arms, Fact.expires, beq_iff_eq]
    by_cases same : endpoint = other
    · subst same
      rw [List.count_erase_self, if_pos rfl]
      simp only [Bool.false_eq_true, if_false]
      omega
    · rw [List.count_erase_of_ne (Ne.symm same), if_neg same]
      simp

end

theorem entries_saidBy (effects : List (Effect L)) (id : L.InfoHash) :
    Ledger.entries (saidBy effects) id = appendedEntries id effects := by
  unfold Ledger.entries saidBy appendedEntries
  rw [List.filterMap_filterMap]
  refine List.filterMap_congr fun effect _ => ?_
  cases effect <;> rfl

theorem saidBy_stores_nothing (effects : List (Effect L)) {β : Type} {tells : Fact L → Option β}
    (silent : ∀ id login text, tells (.said id login text) = none) : latest tells (saidBy effects) = none := by
  have nothing : (saidBy effects).filterMap tells = [] := by
    unfold saidBy
    rw [List.filterMap_filterMap, List.filterMap_eq_nil_iff]
    intro effect _
    cases effect with
    | append origin id login text => exact silent id login text
    | _ => rfl
  rw [latest, nothing]
  rfl

theorem saidBy_loops_nothing (effects : List (Effect L)) {loops : Fact L → Bool}
    (silent : ∀ id login text, loops (.said id login text) = false) : (saidBy effects).countP loops = 0 := by
  rw [List.countP_eq_zero]
  intro fact member
  obtain ⟨effect, -, said⟩ := List.mem_filterMap.mp member
  cases effect with
  | append origin id login text =>
    cases said
    simp [silent]
  | _ => cases said

/-- A handler that leaves the addresses and the timers alone adds what it says. -/
theorem adds_said (m : Messenger L) {s : Step L} {effects : List (Effect L)}
    (history : s.node.chat_history_ = m.node.chat_history_.replay effects)
    (resolver : s.node.metadata_ip_resolver_ = m.node.metadata_ip_resolver_) (timers : s.node.timers = m.node.timers) :
    Adds (saidBy effects) m { m with node := s.node } where
  addresses source login id := by
    rw [saidBy_stores_nothing effects fun _ _ _ => rfl, Option.none_or]
    cases source with
    | metadata_ip_resolver_ => exact congrArg (·.resolve login id) resolver
    | dht_ip_resolver_ => rfl
  keys source id := by
    rw [saidBy_stores_nothing effects fun _ _ _ => rfl, Option.none_or]
    cases source with
    | metadata_ip_resolver_ => exact congrArg (·.get_public_key_by_public_key_id id) resolver
    | dht_ip_resolver_ => rfl
  entries id := by
    show s.node.chat_history_.entries id = _
    rw [history, ChatHistory.entries_replay, entries_saidBy]
  loops endpoint := by
    rw [saidBy_loops_nothing effects fun _ _ _ => rfl, saidBy_loops_nothing effects fun _ _ _ => rfl]
    exact congrArg (List.count endpoint) timers

/-! ## One task -/

section
variable {ledger : Ledger L} {m : Messenger L}

theorem punched_step (m : Messenger L) (config : Config L) (punched : Option (Endpoint L)) {s : Step L}
    (step : s = match punched with
      | some endpoint => (⟨m.node, []⟩ : Step L).punch config endpoint
      | none => ⟨m.node, []⟩) :
    s.effects = (config.punching punched).2 ∧ Adds (config.punching punched).1 m { m with node := s.node } := by
  subst step
  cases punched with
  | none => exact ⟨rfl, Adds.refl m⟩
  | some endpoint => exact ⟨rfl, adds_armed m endpoint⟩

theorem nextHop_eq (describes : ledger.Describes m) (message : Message) :
    nextHop m.node.metadata_ip_resolver_ message = ledger.nextHop message := by
  unfold nextHop Ledger.nextHop
  cases L.publicKey message.destination_public_key with
  | none => rfl
  | some public_key =>
    have known := describes.addresses .metadata_ip_resolver_ message.destination_login (L.getId public_key)
    rw [Option.bind_some, ← known]
    rfl

/-- An accepted message is stored, starts a loop and is heard. -/
theorem adds_accepted (m : Messenger L) (config : Config L) (message : Message) (public_key : L.PublicKey) (port : UInt16)
    (endpoint : Endpoint L) :
    Adds (.stored .metadata_ip_resolver_ message.source_login public_key (MetadataIpResolver.addressOf message.source_ip port) ::
        .armed endpoint :: saidBy (config.receiveEffects message public_key)) m
      { m with node := ((((⟨m.node, []⟩ : Step L).put message.source_login public_key message.source_ip port).punch config
        endpoint).received config message public_key).node } := by
  let put := (⟨m.node, []⟩ : Step L).put message.source_login public_key message.source_ip port
  have stored := adds_put m message.source_login public_key message.source_ip port
  have armed := adds_armed { m with node := put.node } endpoint
  have heard : Adds (saidBy (config.receiveEffects message public_key)) { m with node := (put.punch config endpoint).node }
      { m with node := ((put.punch config endpoint).received config message public_key).node } := by
    refine adds_said _ (follows_received (put.punch config endpoint) config message public_key).history ?_ ?_
    · unfold Step.received
      split <;> rfl
    · unfold Step.received
      split <;> rfl
  exact (stored.trans armed).trans heard

theorem received_step (config : Config L) (env : Environment L) (describes : ledger.Describes m) (buffer : Bytes)
    (remote_endpoint : Endpoint L) :
    let s := after ((async_wait_handler config env (.whole buffer remote_endpoint)).run ⟨m.node, []⟩)
    s.effects = (ledger.received config env buffer remote_endpoint).2 ∧
      Adds (ledger.received config env buffer remote_endpoint).1 m { m with node := s.node } := by
  intro s
  unfold s
  rw [async_wait_handler_run]
  unfold Ledger.received
  cases reading config env buffer with
  | accepted message public_key =>
    simp only [after_ok]
    cases loop : config.punched env 0 message.source_ip (sourcePort message remote_endpoint) with
    | none =>
      rw [accepted_of_refused loop]
      exact ⟨rfl, adds_put m _ _ _ _⟩
    | some endpoint =>
      rw [accepted_of_punched loop]
      exact ⟨rfl, adds_accepted m config message public_key _ endpoint⟩
  | transit message =>
    simp only [after_ok]
    have hop := nextHop_eq describes message
    by_cases relay : config.relay_ = true
    · rw [if_pos relay]
      unfold Step.relayed
      simp only [hop, relay, true_and, List.length_nil]
      cases ledger.nextHop message with
      | none => exact ⟨rfl, Adds.refl m⟩
      | some endpoint =>
        simp only
        split_ifs
        · exact ⟨rfl, Adds.refl m⟩
        · exact ⟨rfl, Adds.refl m⟩
    · rw [if_neg relay]
      simp only [relay]
      cases ledger.nextHop message with
      | none => exact ⟨rfl, Adds.refl m⟩
      | some endpoint => exact ⟨rfl, Adds.refl m⟩
  | dropped => exact ⟨rfl, Adds.refl m⟩
  | metadata =>
    simp only
    cases L.publicKey (metadata_from_buffer buffer env.beyond).2 with
    | none => exact ⟨rfl, Adds.refl m⟩
    | some public_key => exact ⟨rfl, adds_put m _ _ _ _⟩

theorem timer_step (m : Messenger L) (config : Config L) (env : Environment L) {endpoint : Endpoint L}
    (there : 0 < m.node.timers.count endpoint) :
    let s := after ((timer_handler config env endpoint).run ⟨m.node, []⟩)
    let punching := config.punching (if config.buffer_.length ≤ 65507 ∧ env.accepts 0 = true then some endpoint else none)
    s.effects = punching.2 ∧ Adds (.expired endpoint :: punching.1) m { m with node := s.node } := by
  intro s punching
  unfold s punching
  have expired := adds_expired m there
  rw [timer_handler_run]
  simp only [List.length_nil]
  by_cases taken : config.buffer_.length ≤ 65507 ∧ env.accepts 0 = true
  · rw [if_pos taken, if_pos taken]
    exact ⟨rfl, expired.trans (adds_armed _ endpoint)⟩
  · rw [if_neg taken, if_neg taken]
    exact ⟨rfl, expired⟩

theorem adds_storeAll (m : Messenger L) (login : Bytes) (contacts : List (L.PublicKey × Bytes)) :
    Adds (contacts.map fun contact => .stored .dht_ip_resolver_ login contact.1 contact.2) m
      { m with dht_ip_resolver_ := m.dht_ip_resolver_.storeAll login contacts } := by
  induction contacts generalizing m with
  | nil => exact Adds.refl m
  | cons contact contacts ih =>
    exact (adds_store m login contact.1 contact.2).trans
      (ih { m with dht_ip_resolver_ := m.dht_ip_resolver_.store login contact.1 contact.2 })

/-- A callback stores and announces what it reaches, and an expired one does nothing. -/
theorem listened_step (m : Messenger L) (login : Bytes) (values : List (DhtValue L)) (expired : Bool) :
    let heard := if expired then [] else DhtIpResolver.contacts (DhtIpResolver.reached values)
    let after := m.listened (after ((DhtIpResolver.listen_callback login values expired).run m.dht_ip_resolver_))
    after.2 = (heard.map fun contact => .listen_login_handler login (L.getId contact.1)) ∧
      Adds (heard.map fun contact => .stored .dht_ip_resolver_ login contact.1 contact.2) m after.1 := by
  intro heard after
  cases expired with
  | true =>
    have same : after = m.listened m.dht_ip_resolver_ := by
      unfold after
      rw [listen_callback_expired, after_ok]
    rw [same]
    refine ⟨?_, Adds.refl m⟩
    simp [Messenger.listened, heard]
  | false =>
    have same : after = m.listened (m.dht_ip_resolver_.storeAll login heard) := by
      unfold after
      rw [DhtIpResolver.after_listen_callback]
      rfl
    rw [same]
    refine ⟨?_, adds_storeAll m login heard⟩
    simp only [Messenger.listened, DhtIpResolver.storeAll_handled, List.drop_left, List.map_map]
    rfl

/-- A call for a known contact says what it says and leaves the rest alone. -/
theorem called_step (m : Messenger L) (config : Config L) (env : Environment L) (address login : Bytes)
    (public_key : L.PublicKey) (text : Bytes) :
    let s := after ((send_message config env address login public_key text).run ⟨m.node, []⟩)
    s.effects = config.calling env address login public_key text ∧
      Adds (saidBy (config.calling env address login public_key text)) m { m with node := s.node } := by
  intro s
  obtain ⟨t, added, run, follows, same⟩ := send_message_performed config env address login public_key text ⟨m.node, []⟩
  have told : added = config.calling env address login public_key text := by
    rw [same, Config.calling]
    cases composed config env address login public_key text <;> rfl
  have left : s = t := by
    unfold s
    rw [run, after_ok]
  have resolver := keeps_of_send_message (f := fun s : Step L => s.node.metadata_ip_resolver_) (fun _ _ => rfl)
    (fun _ _ => rfl) config env address login public_key text ⟨m.node, []⟩
  have timers := keeps_of_send_message (f := fun s : Step L => s.node.timers) (fun _ _ => rfl) (fun _ _ => rfl) config env
    address login public_key text ⟨m.node, []⟩
  rw [← left, told] at follows
  exact ⟨follows.effects, adds_said m follows.history resolver timers⟩

end

/-! ## What a ledger knows -/

theorem Fact.key_of_address {fact : Fact L} {source : Source} {login address : Bytes} {id : L.InfoHash}
    (told : fact.address source login id = some address) :
    ∃ public_key, fact = .stored source login public_key address ∧ id = L.getId public_key := by
  cases fact with
  | stored other name public_key stored =>
    simp only [Fact.address] at told
    split_ifs at told with same
    obtain ⟨rfl, rfl, rfl⟩ := same
    cases told
    exact ⟨public_key, rfl, rfl⟩
  | _ => cases told

theorem Ledger.id_of_key {ledger : Ledger L} {source : Source} {id : L.InfoHash} {public_key : L.PublicKey}
    (found : latest (Fact.key source id) ledger = some public_key) : id = L.getId public_key := by
  obtain ⟨fact, -, told⟩ := latest_eq_some found
  cases fact with
  | stored other name key address =>
    simp only [Fact.key] at told
    split_ifs at told with same
    cases told
    exact same.2
  | _ => cases told

/-- Whoever has an address has a key. -/
theorem Ledger.key_of_address {ledger : Ledger L} {source : Source} {login address : Bytes} {id : L.InfoHash}
    (found : latest (Fact.address source login id) ledger = some address) :
    ∃ public_key, latest (Fact.key source id) ledger = some public_key := by
  obtain ⟨fact, member, told⟩ := latest_eq_some found
  obtain ⟨public_key, rfl, rfl⟩ := Fact.key_of_address told
  exact latest_of_mem member (if_pos ⟨rfl, rfl⟩)

theorem Ledger.id_of_public_key {ledger : Ledger L} {id : L.InfoHash} {public_key : L.PublicKey}
    (found : ledger.public_key id = some public_key) : id = L.getId public_key := by
  unfold Ledger.public_key at found
  rcases Option.or_eq_some_iff.mp found with met | ⟨-, listed⟩
  · exact Ledger.id_of_key met
  · exact Ledger.id_of_key listed

theorem Ledger.public_key_of_resolve {ledger : Ledger L} {login address : Bytes} {id : L.InfoHash}
    (found : ledger.resolve login id = some address) : ∃ public_key, ledger.public_key id = some public_key := by
  have some_key : ∀ source, (∃ key, latest (Fact.key source id) ledger = some key) → ledger.public_key id ≠ none := by
    rintro source ⟨key, known⟩ absent
    obtain ⟨unmet, unlisted⟩ := Option.or_eq_none_iff.mp absent
    cases source with
    | metadata_ip_resolver_ => exact Option.some_ne_none key (known.symm.trans unmet)
    | dht_ip_resolver_ => exact Option.some_ne_none key (known.symm.trans unlisted)
  refine Option.ne_none_iff_exists'.mp ?_
  rcases Option.or_eq_some_iff.mp found with met | ⟨-, listed⟩
  · exact some_key _ (Ledger.key_of_address met)
  · exact some_key _ (Ledger.key_of_address listed)

/-- A call for a contact is never short of a key. -/
theorem record_send_message (config : Config L) (ledger : Ledger L) (env : Environment L) (login : Bytes) (id : L.InfoHash)
    (text : Bytes) :
    ∃ effects, record config ledger (.send_message env login id text) = some (ledger ++ saidBy effects, effects) ∧
      (ledger.resolve login id = none ∧ effects = [] ∨
        ∃ address public_key, ledger.resolve login id = some address ∧ ledger.public_key id = some public_key ∧
          effects = config.calling env address login public_key text) := by
  simp only [record]
  cases found : ledger.resolve login id with
  | none => exact ⟨[], by simp [saidBy], .inl ⟨rfl, rfl⟩⟩
  | some address =>
    obtain ⟨public_key, known⟩ := Ledger.public_key_of_resolve found
    simp only [known]
    exact ⟨_, rfl, .inr ⟨address, public_key, rfl, rfl, rfl⟩⟩

/-- What a task adds to a ledger, and that only the DHT's callback learns from the DHT. -/
theorem record_adds {config : Config L} {ledger later : Ledger L} {task : Task L} {effects : List (Effect L)}
    (taken : record config ledger task = some (later, effects)) :
    ∃ facts, later = ledger ++ facts ∧ ∀ login public_key address,
      .stored .dht_ip_resolver_ login public_key address ∈ facts →
        ∃ values, task = .listen_callback login values false ∧ (⟨address, some public_key⟩ : DhtValue L) ∈ values := by
  have silent : ∀ added : List (Effect L), ∀ login public_key address,
      (.stored .dht_ip_resolver_ login public_key address : Fact L) ∉ saidBy added := by
    intro added login public_key address member
    obtain ⟨effect, -, told⟩ := List.mem_filterMap.mp member
    cases effect <;> cases told
  have unarmed : ∀ punched : Option (Endpoint L), ∀ login public_key address,
      (.stored .dht_ip_resolver_ login public_key address : Fact L) ∉ (config.punching punched).1 := by
    intro punched login public_key address
    cases punched <;> simp [Config.punching]
  cases task with
  | start env =>
    simp only [record] at taken
    split_ifs at taken
    cases taken
    exact ⟨_, rfl, fun login public_key address member => absurd member (unarmed _ _ _ _)⟩
  | receive env buffer remote_endpoint =>
    cases taken
    refine ⟨_, rfl, fun login public_key address member => ?_⟩
    cases read : reading config env buffer with
    | accepted message source =>
      simp only [read] at member
      cases loop : config.punched env 0 message.source_ip (sourcePort message remote_endpoint) with
      | none => simp [loop] at member
      | some endpoint => simp [loop, silent] at member
    | transit message =>
      simp only [read] at member
      cases hop : ledger.nextHop message with
      | none => simp [hop] at member
      | some endpoint =>
        simp only [hop] at member
        split_ifs at member <;> cases member
    | dropped => simp [read] at member
    | metadata =>
      simp only [read] at member
      cases known : L.publicKey (metadata_from_buffer buffer env.beyond).2 with
      | none => simp [known] at member
      | some key => simp [known] at member
  | timer env endpoint =>
    simp only [record] at taken
    by_cases there : 0 < ledger.loops endpoint
    · rw [if_pos there] at taken
      cases taken
      refine ⟨_, rfl, fun login public_key address member => ?_⟩
      rcases List.mem_cons.mp member with same | armed
      · cases same
      · exact absurd armed (unarmed _ _ _ _)
    · rw [if_neg there] at taken
      cases taken
  | listen_callback name values expired =>
    cases taken
    refine ⟨_, rfl, fun login public_key address member => ?_⟩
    obtain ⟨contact, heard, same⟩ := List.mem_map.mp member
    cases same
    cases expired with
    | true => cases heard
    | false =>
      refine ⟨values, rfl, ?_⟩
      obtain ⟨value, reached, told⟩ := List.mem_filterMap.mp heard
      split_ifs at told
      obtain ⟨owner, signed, same⟩ := Option.map_eq_some_iff.mp told
      cases same
      rw [← signed]
      exact (List.takeWhile_sublist _).subset reached
  | send_message env login id text =>
    obtain ⟨effects', same, -⟩ := record_send_message config ledger env login id text
    rw [same] at taken
    cases taken
    exact ⟨_, rfl, fun login public_key address member => absurd member (silent _ _ _ _)⟩

/-! ## Lookups -/

theorem Ledger.Describes.resolve {ledger : Ledger L} {m : Messenger L} (describes : ledger.Describes m) (login : Bytes)
    (id : L.InfoHash) : m.resolve login id = ledger.resolve login id := by
  have met := describes.addresses .metadata_ip_resolver_ login id
  have listed := describes.addresses .dht_ip_resolver_ login id
  unfold Messenger.resolve Ledger.resolve
  rw [← met, ← listed]
  simp only [Messenger.maps]
  cases m.node.metadata_ip_resolver_.resolve login id <;> rfl

theorem Ledger.Describes.public_key {ledger : Ledger L} {m : Messenger L} (describes : ledger.Describes m)
    (id : L.InfoHash) : m.get_public_key_by_public_key_id id = ledger.public_key id := by
  have met := describes.keys .metadata_ip_resolver_ id
  have listed := describes.keys .dht_ip_resolver_ id
  unfold Messenger.get_public_key_by_public_key_id Ledger.public_key
  rw [← met, ← listed]
  simp only [Messenger.maps]
  cases m.node.metadata_ip_resolver_.get_public_key_by_public_key_id id <;> rfl

theorem Ledger.Describes.timers {ledger : Ledger L} {m : Messenger L} (describes : ledger.Describes m)
    (endpoint : Endpoint L) : m.node.timers.count endpoint = ledger.loops endpoint := by
  have balance := describes.loops endpoint
  unfold Ledger.loops
  omega

theorem describes_initial : Ledger.Describes [] (Messenger.initial L) where
  addresses source _ _ := by cases source <;> rfl
  keys source _ := by cases source <;> rfl
  entries _ := rfl
  loops _ := rfl

/-- A messenger and its ledger take the same tasks with the same effects. -/
theorem work_record (config : Config L) : Bisimilar (work config) (record config) fun m ledger => ledger.Describes m := by
  intro m ledger task describes
  cases task with
  | start env =>
    simp only [work, record]
    by_cases relay : config.relay_node_ip_ ≠ []
    · rw [if_pos relay, if_pos relay]
      obtain ⟨effects, adds⟩ := punched_step m config (config.punched env 0 config.relay_node_ip_ config.relay_node_port_)
        (s := after ((start_hole_punching config env config.relay_node_ip_ config.relay_node_port_).run ⟨m.node, []⟩)) (by
          rw [start_hole_punching_run]
          simp only [List.length_nil]
          cases config.punched env 0 config.relay_node_ip_ config.relay_node_port_ <;> rfl)
      exact .some ⟨effects, describes.adds adds⟩
    · rw [if_neg relay, if_neg relay]
      exact .none
  | receive env buffer remote_endpoint =>
    obtain ⟨effects, adds⟩ := received_step config env describes buffer remote_endpoint
    exact .some ⟨effects, describes.adds adds⟩
  | timer env endpoint =>
    simp only [work, record]
    rw [describes.timers]
    by_cases there : 0 < ledger.loops endpoint
    · rw [if_pos there, if_pos there]
      obtain ⟨effects, adds⟩ := timer_step m config env (by rwa [describes.timers])
      exact .some ⟨effects, describes.adds adds⟩
    · rw [if_neg there, if_neg there]
      exact .none
  | listen_callback login values expired =>
    obtain ⟨effects, adds⟩ := listened_step m login values expired
    exact .some ⟨effects, describes.adds adds⟩
  | send_message env login id text =>
    have quiet : Ledger.Describes (ledger ++ []) m := describes.adds (Adds.refl m)
    rw [List.append_nil] at quiet
    simp only [work, record, Messenger.send_message]
    rw [describes.resolve, describes.public_key]
    cases ledger.resolve login id with
    | none => exact .some ⟨rfl, quiet⟩
    | some address =>
      simp only
      cases ledger.public_key id with
      | some public_key =>
        obtain ⟨effects, adds⟩ := called_step m config env address login public_key text
        exact .some ⟨effects, describes.adds adds⟩
      | none =>
        simp only
        cases get_ip_and_port_from_address address with
        | ok read => exact .none
        | error e => exact .some ⟨rfl, quiet⟩

/-- The ledger of a messenger that did a task. -/
theorem record_of_work {config : Config L} {m later : Messenger L} {ledger : Ledger L} {task : Task L}
    {effects : List (Effect L)} (describes : ledger.Describes m) (taken : work config m task = some (later, effects)) :
    ∃ next, record config ledger task = some (next, effects) ∧ next.Describes later := by
  have both := work_record config m ledger task describes
  rw [taken] at both
  generalize recorded : record config ledger task = one at both
  cases both with
  | @some x y same =>
    obtain ⟨next, others⟩ := y
    obtain ⟨effects, described⟩ := same
    cases effects
    exact ⟨next, rfl, described⟩

/-- And a messenger can do what its ledger can. -/
theorem work_of_record {config : Config L} {m : Messenger L} {ledger next : Ledger L} {task : Task L}
    {effects : List (Effect L)} (describes : ledger.Describes m) (taken : record config ledger task = some (next, effects)) :
    ∃ later, work config m task = some (later, effects) ∧ next.Describes later := by
  have both := work_record config m ledger task describes
  rw [taken] at both
  generalize worked : work config m task = one at both
  cases both with
  | @some x y same =>
    obtain ⟨later, others⟩ := x
    obtain ⟨effects, described⟩ := same
    cases effects
    exact ⟨later, rfl, described⟩

/-- A messenger is its ledger: over any tasks both have the same effects, and whatever is
    asked at the end, the entries of the ledger about it answer. -/
theorem messenger_is_its_ledger (config : Config L) (tasks : List (Task L)) :
    Option.Rel
      (fun (worked : Messenger L × List (Effect L)) (recorded : Ledger L × List (Effect L)) =>
        worked.2 = recorded.2 ∧
        (∀ login id, worked.1.resolve login id = recorded.1.resolve login id) ∧
        (∀ id, worked.1.get_public_key_by_public_key_id id = recorded.1.public_key id) ∧
        (∀ id, worked.1.node.chat_history_.entries id = recorded.1.entries id) ∧
        ∀ endpoint, worked.1.node.timers.count endpoint = recorded.1.loops endpoint)
      ((work config).run (.initial L) tasks) ((record config).run [] tasks) := by
  have both := (work_record config).run describes_initial tasks
  generalize (work config).run (.initial L) tasks = worked, (record config).run [] tasks = recorded at both
  cases both with
  | none => exact .none
  | some same =>
    obtain ⟨effects, describes⟩ := same
    exact .some ⟨effects, describes.resolve, describes.public_key, describes.entries, describes.timers⟩

end P2PMessenger
