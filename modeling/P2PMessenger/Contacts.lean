import P2PMessenger.Bindings
import P2PMessenger.Transparency
import P2PMessenger.Runs

/-!
The two resolvers of a node under its threads. Each of their locked blocks is one step:
a receive handler or a callback of the DHT stores an address, then a key, and then
announces the contact, while `resolve` and `get_public_key_by_public_key_id` look into
one resolver and then into the other.
-/
namespace P2PMessenger
open Octets Throwing Runs

variable {L : Libraries}

/-- The resolvers in the order in which they are asked. -/
inductive Source where
  | metadata_ip_resolver_
  | dht_ip_resolver_
  deriving DecidableEq, Repr

/-- Both classes keep the same two maps under the same two locks and look them up in the
    same way; what differs is who stores into them. -/
abbrev Resolvers (L : Libraries) := Source → MetadataIpResolver L

/-- A locked block that stores, or the announcement after the blocks. -/
inductive LockedBlock (L : Libraries) where
  | put_address (source : Source) (login : Bytes) (public_key_id : L.InfoHash) (address : Bytes)
  | put_public_key (source : Source) (public_key : L.PublicKey)
  | listen_login_handler (login : Bytes) (public_key_id : L.InfoHash)

def LockedBlock.run (resolvers : Resolvers L) : LockedBlock L → Resolvers L
  | .put_address source login public_key_id address =>
    Function.update resolvers source ((resolvers source).put_address login public_key_id address)
  | .put_public_key source public_key =>
    Function.update resolvers source ((resolvers source).put_public_key public_key)
  | .listen_login_handler _ _ => resolvers

/-- The contact that a block announces. -/
def LockedBlock.contact : LockedBlock L → Option (Bytes × L.InfoHash)
  | .listen_login_handler login public_key_id => some (login, public_key_id)
  | _ => none

/-- `MetadataIpResolver::put`. -/
def putBlocks (login : Bytes) (public_key : L.PublicKey) (ip : Bytes) (port : UInt16) : List (LockedBlock L) :=
  [.put_address .metadata_ip_resolver_ login (L.getId public_key) (MetadataIpResolver.addressOf ip port),
    .put_public_key .metadata_ip_resolver_ public_key]

/-- What the receive handler does to the resolvers, and whom it announces. -/
def receiveBlocks (config : Config L) (env : Environment L) (buffer : Bytes) (remote_endpoint : Endpoint L) :
    List (LockedBlock L) :=
  match reading config env buffer with
  | .accepted message public_key =>
    let port := sourcePort message remote_endpoint
    putBlocks message.source_login public_key message.source_ip port ++
      if (config.punched env 0 message.source_ip port).isSome ∧
          L.publicKey message.destination_public_key = some config.public_key then
        [.listen_login_handler message.source_login (L.getId public_key)]
      else []
  | .metadata =>
    match L.publicKey (metadata_from_buffer buffer env.beyond).2 with
    | some public_key =>
      putBlocks (metadata_from_buffer buffer env.beyond).1 public_key (L.to_string remote_endpoint.address)
        remote_endpoint.port
    | none => []
  | _ => []

/-- `dht::Value`, as far as the callback reads it. -/
structure DhtValue (L : Libraries) where
  data : Bytes
  owner : Option L.PublicKey

/-- The callback of `DhtIpResolver::listen`. An address without ':' throws, and the
    values after it are not looked at. -/
def listenBlocks (login : Bytes) (expired : Bool) : List (DhtValue L) → List (LockedBlock L)
  | [] => []
  | value :: values =>
    if expired then listenBlocks login expired values
    else
      match value.data.findIdx? (· == colon), value.owner with
      | none, _ => []
      | some _, some owner =>
        .put_address .dht_ip_resolver_ login (L.getId owner) value.data :: .put_public_key .dht_ip_resolver_ owner ::
          .listen_login_handler login (L.getId owner) :: listenBlocks login expired values
      | some _, none => listenBlocks login expired values

/-- A call of `resolve`, by itself or as the first part of `send_message`. -/
structure Call (L : Libraries) where
  login : Bytes
  public_key_id : L.InfoHash
  /-- The number of events before the call. -/
  started : Nat
  /-- What `send_message` is to send. -/
  message : Option Bytes
  deriving DecidableEq

/-- Where a thread is. A lookup is about to look into the resolver it names. -/
inductive Thread (L : Libraries) where
  /-- A receive handler or a callback, with the blocks it has not run yet. -/
  | storing (blocks : List (LockedBlock L))
  | resolving (call : Call L) (source : Source)
  /-- `get_public_key_by_public_key_id`, by itself or for a message to an address. -/
  | finding (public_key_id : L.InfoHash) (started : Nat) (source : Source) (outgoing : Option (Call L × Bytes × Bytes))
  /-- Before the call of `message_sender_.send_message`. -/
  | sending (call : Call L) (address message : Bytes) (public_key : Option L.PublicKey)

inductive Occurrence (L : Libraries) where
  /-- `listen_login_handler` was called. -/
  | announced (login : Bytes) (public_key_id : L.InfoHash)
  /-- `resolve` returned. -/
  | resolved (call : Call L) (address : Option Bytes)
  /-- `get_public_key_by_public_key_id` returned, null or not. -/
  | found (public_key_id : L.InfoHash) (started : Nat) (public_key : Option L.PublicKey)
  /-- `message_sender_.send_message` was called. -/
  | sent (call : Call L) (address message : Bytes) (public_key : Option L.PublicKey)
  deriving DecidableEq

/-- The resolvers, the threads and what happened so far. -/
structure Contacts (L : Libraries) where
  resolvers : Resolvers L
  threads : List (Thread L)
  log : List (Occurrence L)

def Contacts.initial (L : Libraries) : Contacts L := ⟨fun _ => .empty, [], []⟩

inductive Move (L : Libraries) where
  | receive (env : Environment L) (buffer : Bytes) (remote_endpoint : Endpoint L)
  | listen_callback (login : Bytes) (values : List (DhtValue L)) (expired : Bool)
  | resolve (login : Bytes) (public_key_id : L.InfoHash)
  | get_public_key_by_public_key_id (public_key_id : L.InfoHash)
  | send_message (login : Bytes) (public_key_id : L.InfoHash) (message : Bytes)
  /-- The thread with this number takes its next step. -/
  | advance (i : Nat)

def Contacts.begin (s : Contacts L) (thread : Thread L) : Contacts L := { s with threads := s.threads ++ [thread] }

/-- `resolve` returns: by itself it is over, and in `send_message` an address leads on to
    the key. -/
def Contacts.resolved (s : Contacts L) (i : Nat) (call : Call L) (address : Option Bytes) : Contacts L where
  resolvers := s.resolvers
  threads := s.threads.set i <| match address, call.message with
    | some address, some message =>
      .finding call.public_key_id (s.log.length + 1) .metadata_ip_resolver_ (some (call, address, message))
    | _, _ => .storing []
  log := s.log ++ [.resolved call address]

/-- `get_public_key_by_public_key_id` returns. -/
def Contacts.found (s : Contacts L) (i : Nat) (public_key_id : L.InfoHash) (started : Nat)
    (outgoing : Option (Call L × Bytes × Bytes)) (public_key : Option L.PublicKey) : Contacts L where
  resolvers := s.resolvers
  threads := s.threads.set i <| match outgoing with
    | some (call, address, message) => .sending call address message public_key
    | none => .storing []
  log := s.log ++ [.found public_key_id started public_key]

/-- One step of a thread. -/
def Contacts.advance (s : Contacts L) (i : Nat) : Thread L → Option (Contacts L)
  | .storing [] => none
  | .storing (block :: blocks) =>
    some {
      resolvers := block.run s.resolvers
      threads := s.threads.set i (.storing blocks)
      log := s.log ++ block.contact.toList.map fun contact => .announced contact.1 contact.2 }
  | .resolving call source =>
    match (s.resolvers source).resolve call.login call.public_key_id, source with
    | none, .metadata_ip_resolver_ =>
      some { s with threads := s.threads.set i (.resolving call .dht_ip_resolver_) }
    | address, _ => some (s.resolved i call address)
  | .finding public_key_id started source outgoing =>
    match (s.resolvers source).get_public_key_by_public_key_id public_key_id, source with
    | none, .metadata_ip_resolver_ =>
      some { s with threads := s.threads.set i (.finding public_key_id started .dht_ip_resolver_ outgoing) }
    | public_key, _ => some (s.found i public_key_id started outgoing public_key)
  | .sending call address message public_key =>
    some {
      s with
      threads := s.threads.set i (.storing [])
      log := s.log ++ [.sent call address message public_key] }

def interleave (config : Config L) (s : Contacts L) : Move L → Option (Contacts L)
  | .receive env buffer remote_endpoint => some (s.begin (.storing (receiveBlocks config env buffer remote_endpoint)))
  | .listen_callback login values expired => some (s.begin (.storing (listenBlocks login expired values)))
  | .resolve login public_key_id =>
    some (s.begin (.resolving ⟨login, public_key_id, s.log.length, none⟩ .metadata_ip_resolver_))
  | .get_public_key_by_public_key_id public_key_id =>
    some (s.begin (.finding public_key_id s.log.length .metadata_ip_resolver_ none))
  | .send_message login public_key_id message =>
    some (s.begin (.resolving ⟨login, public_key_id, s.log.length, some message⟩ .metadata_ip_resolver_))
  | .advance i =>
    match s.threads[i]? with
    | some thread => s.advance i thread
    | none => none

/-! ## The blocks are the handlers -/

theorem run_putBlocks (resolvers : Resolvers L) (login : Bytes) (public_key : L.PublicKey) (ip : Bytes) (port : UInt16) :
    (putBlocks login public_key ip port).foldl LockedBlock.run resolvers =
      Function.update resolvers .metadata_ip_resolver_
        ((resolvers .metadata_ip_resolver_).put login public_key ip port) := by
  simp [putBlocks, LockedBlock.run, MetadataIpResolver.put]

/-- The blocks of a receive handler, run without another thread between them, leave the
    resolver that the handler leaves. -/
theorem run_receiveBlocks (config : Config L) (env : Environment L) (buffer : Bytes) (remote_endpoint : Endpoint L)
    (resolvers : Resolvers L) {node : Node L} (same : node.metadata_ip_resolver_ = resolvers .metadata_ip_resolver_) :
    (receiveBlocks config env buffer remote_endpoint).foldl LockedBlock.run resolvers =
      Function.update resolvers .metadata_ip_resolver_
        (handle config env buffer remote_endpoint node).metadata_ip_resolver_ := by
  have handled := handle_resolver config env buffer remote_endpoint node
  rw [same] at handled
  unfold receiveBlocks
  cases read : reading config env buffer with
  | accepted message public_key =>
    simp only [read] at handled ⊢
    rw [List.foldl_append, run_putBlocks, handled]
    split <;> rfl
  | metadata =>
    simp only [read] at handled ⊢
    rw [handled]
    cases L.publicKey (metadata_from_buffer buffer env.beyond).2 with
    | none => simp
    | some public_key => exact run_putBlocks _ _ _ _ _
  | transit message =>
    simp only [read] at handled ⊢
    rw [handled]
    simp
  | dropped =>
    simp only [read] at handled ⊢
    rw [handled]
    simp

/-- The contact that an effect announces. -/
def Effect.contact : Effect L → Option (Bytes × L.InfoHash)
  | .listen_login_handler login public_key_id => some (login, public_key_id)
  | _ => none

/-- The blocks of a receive handler announce the contacts that the handler announces. -/
theorem contacts_receiveBlocks (config : Config L) (env : Environment L) (buffer : Bytes)
    (remote_endpoint : Endpoint L) (node : Node L) :
    (receiveBlocks config env buffer remote_endpoint).filterMap LockedBlock.contact =
      (after ((async_wait_handler config env (.whole buffer remote_endpoint)).run ⟨node, []⟩)).effects.filterMap
        Effect.contact := by
  unfold receiveBlocks
  rw [async_wait_handler_run]
  cases reading config env buffer with
  | accepted message public_key =>
    simp only [after_ok, Step.listening, accepted_effects, List.filterMap_append]
    cases config.punched env 0 message.source_ip (sourcePort message remote_endpoint) with
    | none =>
      rw [Option.isSome_none, if_neg (by simp)]
      rfl
    | some endpoint =>
      by_cases mine : L.publicKey message.destination_public_key = some config.public_key
      · simp only [Config.receiveEffects, mine, Option.isSome_some, and_self, if_true]
        rfl
      · simp only [Config.receiveEffects, mine, and_false, if_false]
        rfl
  | metadata =>
    simp only
    cases L.publicKey (metadata_from_buffer buffer env.beyond).2 with
    | none => simp
    | some public_key => rfl
  | transit message =>
    simp only [after_ok, Step.listening, List.filterMap_append]
    by_cases relay : config.relay_ = true
    · rw [if_pos relay]
      obtain ⟨sent, step, quiet⟩ := relayed_confined env buffer message node
      rw [step]
      rcases quiet with rfl | ⟨endpoint, rfl⟩
      · rfl
      · rfl
    · rw [if_neg relay]
      rfl
  | dropped => rfl

/-! ## What a store keeps -/

/-- Whatever the resolvers know, they still know, under the same login and id. -/
structure Grows (r t : Resolvers L) : Prop where
  addresses : ∀ source login id, (r source).resolve login id ≠ none → (t source).resolve login id ≠ none
  keys : ∀ source id, (r source).get_public_key_by_public_key_id id ≠ none →
    (t source).get_public_key_by_public_key_id id ≠ none

theorem Grows.refl (r : Resolvers L) : Grows r r := ⟨fun _ _ _ => id, fun _ _ => id⟩

/-- A contact for which one of the resolvers has both the address and the key. -/
def Sendable (r : Resolvers L) (login : Bytes) (id : L.InfoHash) : Prop :=
  ∃ source, (r source).resolve login id ≠ none ∧ (r source).get_public_key_by_public_key_id id ≠ none

theorem Sendable.grows {r t : Resolvers L} {login : Bytes} {id : L.InfoHash} (grows : Grows r t)
    (sendable : Sendable r login id) : Sendable t login id := by
  obtain ⟨source, address, key⟩ := sendable
  exact ⟨source, grows.addresses source login id address, grows.keys source id key⟩

/-- Every key is stored under its own id. -/
def Keyed (r : Resolvers L) : Prop :=
  ∀ source id public_key, (r source).get_public_key_by_public_key_id id = some public_key → L.getId public_key = id

section
variable (r : Resolvers L) (source other : Source) (login otherLogin address : Bytes) (public_key_id id : L.InfoHash)
  (public_key : L.PublicKey)

@[simp] theorem resolve_run_put_address :
    (LockedBlock.run r (.put_address source login public_key_id address) other).resolve otherLogin id =
      if other = source ∧ otherLogin = login ∧ id = public_key_id then some address
      else (r other).resolve otherLogin id := by
  by_cases same : other = source
  · subst same
    simp [LockedBlock.run, MetadataIpResolver.resolve_put_address]
  · simp [LockedBlock.run, same]

@[simp] theorem get_run_put_address :
    (LockedBlock.run r (.put_address source login public_key_id address) other).get_public_key_by_public_key_id id =
      (r other).get_public_key_by_public_key_id id := by
  by_cases same : other = source
  · subst same
    simp [LockedBlock.run, MetadataIpResolver.get_put_address]
  · simp [LockedBlock.run, same]

@[simp] theorem resolve_run_put_public_key :
    (LockedBlock.run r (.put_public_key source public_key) other).resolve login id = (r other).resolve login id := by
  by_cases same : other = source
  · subst same
    simp [LockedBlock.run, MetadataIpResolver.resolve_put_public_key]
  · simp [LockedBlock.run, same]

@[simp] theorem get_run_put_public_key :
    (LockedBlock.run r (.put_public_key source public_key) other).get_public_key_by_public_key_id id =
      if other = source ∧ id = L.getId public_key then some public_key
      else (r other).get_public_key_by_public_key_id id := by
  by_cases same : other = source
  · subst same
    simp [LockedBlock.run, MetadataIpResolver.get_put_public_key]
  · simp [LockedBlock.run, same]

end

/-- A block forgets nothing. -/
theorem grows_run (block : LockedBlock L) (r : Resolvers L) : Grows r (block.run r) := by
  cases block with
  | put_address source login public_key_id address =>
    constructor
    · intro other otherLogin id known
      rw [resolve_run_put_address]
      split_ifs
      · simp
      · exact known
    · intro other id known
      rw [get_run_put_address]
      exact known
  | put_public_key source public_key =>
    constructor
    · intro other login id known
      rw [resolve_run_put_public_key]
      exact known
    · intro other id known
      rw [get_run_put_public_key]
      split_ifs
      · simp
      · exact known
  | listen_login_handler login public_key_id => exact Grows.refl r

/-- Of two resolvers, the one that knows more still does after a block. -/
theorem Grows.run {r t : Resolvers L} (grows : Grows r t) (block : LockedBlock L) :
    Grows (block.run r) (block.run t) := by
  cases block with
  | put_address source login public_key_id address =>
    constructor
    · intro other otherLogin id known
      rw [resolve_run_put_address] at known ⊢
      split_ifs at known ⊢
      · simp
      · exact grows.addresses _ _ _ known
    · intro other id known
      rw [get_run_put_address] at known ⊢
      exact grows.keys _ _ known
  | put_public_key source public_key =>
    constructor
    · intro other login id known
      rw [resolve_run_put_public_key] at known ⊢
      exact grows.addresses _ _ _ known
    · intro other id known
      rw [get_run_put_public_key] at known ⊢
      split_ifs at known ⊢
      · simp
      · exact grows.keys _ _ known
  | listen_login_handler login public_key_id => exact grows

theorem Keyed.run {r : Resolvers L} (keyed : Keyed r) (block : LockedBlock L) : Keyed (block.run r) := by
  cases block with
  | put_address source login public_key_id address =>
    intro other id public_key stored
    rw [get_run_put_address] at stored
    exact keyed _ _ _ stored
  | put_public_key source public_key =>
    intro other id otherKey stored
    rw [get_run_put_public_key] at stored
    split_ifs at stored with same
    · obtain rfl := Option.some.inj stored
      exact same.2.symm
    · exact keyed _ _ _ stored
  | listen_login_handler login public_key_id => exact keyed

/-- Every contact that the blocks announce has its address and its key by then, from
    what is stored or from the blocks before. -/
def Earned : Resolvers L → List (LockedBlock L) → Prop
  | _, [] => True
  | r, block :: blocks => (∀ contact ∈ block.contact, Sendable r contact.1 contact.2) ∧ Earned (block.run r) blocks

theorem Earned.grows {r t : Resolvers L} {blocks : List (LockedBlock L)} (grows : Grows r t) (earned : Earned r blocks) :
    Earned t blocks := by
  induction blocks generalizing r t with
  | nil => trivial
  | cons block blocks ih =>
    obtain ⟨now, later⟩ := earned
    exact ⟨fun contact announced => (now contact announced).grows grows, ih (grows.run block) later⟩

/-- A contact may be announced right after its address and its key were stored. -/
theorem earned_announcement (r : Resolvers L) (source : Source) (login address : Bytes) (public_key : L.PublicKey)
    {blocks : List (LockedBlock L)} (later : ∀ t : Resolvers L, Earned t blocks) :
    Earned r (.put_address source login (L.getId public_key) address :: .put_public_key source public_key ::
      .listen_login_handler login (L.getId public_key) :: blocks) := by
  refine ⟨by simp [LockedBlock.contact], by simp [LockedBlock.contact], ?_, later _⟩
  intro contact announced
  obtain rfl := Option.some.inj announced
  exact ⟨source, by simp, by simp⟩

theorem earned_putBlocks (r : Resolvers L) (login : Bytes) (public_key : L.PublicKey) (ip : Bytes) (port : UInt16) :
    Earned r (putBlocks login public_key ip port) :=
  ⟨by simp [LockedBlock.contact], by simp [LockedBlock.contact], trivial⟩

theorem earned_receiveBlocks (config : Config L) (env : Environment L) (buffer : Bytes) (remote_endpoint : Endpoint L)
    (r : Resolvers L) : Earned r (receiveBlocks config env buffer remote_endpoint) := by
  unfold receiveBlocks
  cases reading config env buffer with
  | accepted message public_key =>
    simp only
    split_ifs
    · exact earned_announcement r _ _ _ _ fun _ => trivial
    · rw [List.append_nil]
      exact earned_putBlocks _ _ _ _ _
  | metadata =>
    simp only
    cases L.publicKey (metadata_from_buffer buffer env.beyond).2 with
    | none => trivial
    | some public_key => exact earned_putBlocks _ _ _ _ _
  | transit message => trivial
  | dropped => trivial

theorem earned_listenBlocks (login : Bytes) (expired : Bool) (values : List (DhtValue L)) (r : Resolvers L) :
    Earned r (listenBlocks login expired values) := by
  induction values generalizing r with
  | nil => trivial
  | cons value values ih =>
    unfold listenBlocks
    by_cases late : expired = true
    · rw [if_pos late]
      exact ih r
    · rw [if_neg late]
      cases value.data.findIdx? (· == colon) with
      | none => trivial
      | some pos =>
        cases value.owner with
        | none => exact ih r
        | some owner => exact earned_announcement r _ _ _ _ ih

end P2PMessenger
