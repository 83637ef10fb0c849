import P2PMessenger.Ledger

/-!
The tasks of a messenger on several threads. Between two accesses to what the threads
share, other threads run: a contact is stored in two locked blocks, a call asks one
resolver after the other, first for the address and then for the key. All the same the
threads do what they would do one after the other.
-/
namespace P2PMessenger
open Octets Throwing Refinement Runs

variable {L : Libraries}

/-- Where a thread is in its task. -/
inductive Job (L : Libraries) where
  /-- A receive handler, before it has come to anything shared. -/
  | receiving (env : Environment L) (buffer : Bytes) (remote_endpoint : Endpoint L)
  /-- The key of an address that was just stored, the effects after it, and the contacts that
      a callback of the DHT goes on to. -/
  | acting (key : Option (Source × L.PublicKey)) (effects : List (Effect L)) (login : Bytes)
      (contacts : List (L.PublicKey × Bytes))
  /-- `resolve`, before it asks the resolver it names. -/
  | resolving (env : Environment L) (login : Bytes) (public_key_id : L.InfoHash) (message : Bytes) (source : Source)
  /-- `get_public_key_by_public_key_id`, when there is an address. -/
  | finding (env : Environment L) (address login : Bytes) (public_key_id : L.InfoHash) (message : Bytes) (source : Source)

def Job.finished : Job L → Bool
  | .acting none [] _ [] => true
  | _ => false

/-- What the threads share, the tasks so far, and what was done by whom. -/
structure Crew (L : Libraries) where
  resolvers : Resolvers L
  chat_history_ : ChatHistory L
  timers : List (Endpoint L)
  tasks : List (Task L)
  jobs : List (Job L)
  log : List (Nat × Effect L)

def Crew.initial (L : Libraries) : Crew L := ⟨fun _ => .empty, .empty, [], [], [], []⟩

inductive Order (L : Libraries) where
  | begin (task : Task L)
  /-- The thread of the task with this number takes its next step. -/
  | advance (i : Nat)

/-- The contact that a datagram tells the resolver. -/
def Config.met (config : Config L) (env : Environment L) (buffer : Bytes) (remote_endpoint : Endpoint L) :
    Option (Bytes × L.PublicKey × Bytes) :=
  match reading config env buffer with
  | .accepted message public_key =>
    some (message.source_login, public_key,
      MetadataIpResolver.addressOf message.source_ip (sourcePort message remote_endpoint))
  | .metadata =>
    (L.publicKey (metadata_from_buffer buffer env.beyond).2).map fun public_key =>
      ((metadata_from_buffer buffer env.beyond).1, public_key,
        MetadataIpResolver.addressOf (L.to_string remote_endpoint.address) remote_endpoint.port)
  | _ => none

/-- What a receive handler does apart from that, when someone else's message has this next
    hop. -/
def Config.handling (config : Config L) (env : Environment L) (buffer : Bytes) (remote_endpoint : Endpoint L)
    (hop : Message → Option (Endpoint L)) : List (Effect L) :=
  match reading config env buffer with
  | .accepted message public_key =>
    match config.punched env 0 message.source_ip (sourcePort message remote_endpoint) with
    | some endpoint =>
      .send_to .hole_punch config.buffer_ endpoint :: config.receiveEffects message public_key ++ [.async_wait]
    | none => [.async_wait]
  | .transit message =>
    match hop message with
    | some endpoint =>
      if config.relay_ = true ∧ buffer.length ≤ 65507 ∧ env.accepts 0 = true then
        [.send_to .relay buffer endpoint, .async_wait]
      else [.async_wait]
    | none => [.async_wait]
  | .dropped => [.async_wait]
  | .metadata =>
    match L.publicKey (metadata_from_buffer buffer env.beyond).2 with
    | some _ => [.async_wait]
    | none => []

namespace Crew

def resolve (s : Crew L) (login : Bytes) (public_key_id : L.InfoHash) : Option Bytes :=
  match (s.resolvers .metadata_ip_resolver_).resolve login public_key_id with
  | some address => some address
  | none => (s.resolvers .dht_ip_resolver_).resolve login public_key_id

def get_public_key_by_public_key_id (s : Crew L) (public_key_id : L.InfoHash) : Option L.PublicKey :=
  match (s.resolvers .metadata_ip_resolver_).get_public_key_by_public_key_id public_key_id with
  | some public_key => some public_key
  | none => (s.resolvers .dht_ip_resolver_).get_public_key_by_public_key_id public_key_id

def take (s : Crew L) (task : Task L) (job : Job L) : Crew L :=
  { s with tasks := s.tasks ++ [task], jobs := s.jobs ++ [job] }

def goOn (s : Crew L) (i : Nat) (job : Job L) : Crew L := { s with jobs := s.jobs.set i job }

def run (s : Crew L) (block : LockedBlock L) : Crew L := { s with resolvers := block.run s.resolvers }

/-- An effect. The history is appended to under its lock, and a datagram of the hole
    puncher is followed by the arming of its timer. -/
def does (s : Crew L) (i : Nat) (effect : Effect L) : Crew L where
  resolvers := s.resolvers
  chat_history_ := s.chat_history_.replay [effect]
  timers := match effect with
    | .send_to .hole_punch _ endpoint => s.timers ++ [endpoint]
    | _ => s.timers
  tasks := s.tasks
  jobs := s.jobs
  log := s.log ++ [(i, effect)]

/-- A thread takes a task. An expired timer is taken away by the thread that runs its
    handler. -/
def begin (config : Config L) (s : Crew L) : Task L → Option (Crew L)
  | .start env =>
    if config.relay_node_ip_ ≠ [] then
      some (s.take (.start env)
        (.acting none (config.punching (config.punched env 0 config.relay_node_ip_ config.relay_node_port_)).2 [] []))
    else none
  | .receive env buffer remote_endpoint =>
    some (s.take (.receive env buffer remote_endpoint) (.receiving env buffer remote_endpoint))
  | .timer env endpoint =>
    if 0 < s.timers.count endpoint then
      let taken := config.buffer_.length ≤ 65507 ∧ env.accepts 0 = true
      some (({ s with timers := s.timers.erase endpoint } : Crew L).take (.timer env endpoint)
        (.acting none (config.punching (if taken then some endpoint else none)).2 [] []))
    else none
  | .listen_callback login values expired =>
    some (s.take (.listen_callback login values expired)
      (.acting none [] login (if expired then [] else DhtIpResolver.contacts (DhtIpResolver.reached values))))
  | .send_message env login public_key_id message =>
    some (s.take (.send_message env login public_key_id message)
      (.resolving env login public_key_id message .metadata_ip_resolver_))

/-- One step of a thread. With a null key the sender faults, unless the address throws
    before. -/
def advance (config : Config L) (s : Crew L) (i : Nat) : Job L → Option (Crew L)
  | .receiving env buffer remote_endpoint =>
    let effects := config.handling env buffer remote_endpoint (nextHop (s.resolvers .metadata_ip_resolver_))
    match config.met env buffer remote_endpoint with
    | some (login, public_key, address) =>
      some ((s.run (.put_address .metadata_ip_resolver_ login (L.getId public_key) address)).goOn i
        (.acting (some (.metadata_ip_resolver_, public_key)) effects [] []))
    | none => some (s.goOn i (.acting none effects [] []))
  | .acting (some (source, public_key)) effects login contacts =>
    some ((s.run (.put_public_key source public_key)).goOn i (.acting none effects login contacts))
  | .acting none (effect :: effects) login contacts => some ((s.does i effect).goOn i (.acting none effects login contacts))
  | .acting none [] login (contact :: contacts) =>
    some ((s.run (.put_address .dht_ip_resolver_ login (L.getId contact.1) contact.2)).goOn i
      (.acting (some (.dht_ip_resolver_, contact.1)) [.listen_login_handler login (L.getId contact.1)] login contacts))
  | .acting none [] _ [] => none
  | .resolving env login id message source =>
    match (s.resolvers source).resolve login id, source with
    | some address, _ => some (s.goOn i (.finding env address login id message .metadata_ip_resolver_))
    | none, .metadata_ip_resolver_ => some (s.goOn i (.resolving env login id message .dht_ip_resolver_))
    | none, .dht_ip_resolver_ => some (s.goOn i (.acting none [] [] []))
  | .finding env address login id message source =>
    match (s.resolvers source).get_public_key_by_public_key_id id, source with
    | some public_key, _ => some (s.goOn i (.acting none (config.calling env address login public_key message) [] []))
    | none, .metadata_ip_resolver_ => some (s.goOn i (.finding env address login id message .dht_ip_resolver_))
    | none, .dht_ip_resolver_ =>
      match get_ip_and_port_from_address address with
      | .ok _ => none
      | .error _ => some (s.goOn i (.acting none [] [] []))

end Crew

def labor (config : Config L) (s : Crew L) : Order L → Option (Crew L)
  | .begin task => s.begin config task
  | .advance i =>
    match s.jobs[i]? with
    | some job => s.advance config i job
    | none => none

/-- Everything that was done. -/
def deeds (log : List (Nat × Effect L)) : List (Effect L) := log.map (·.2)

/-- A call is for a contact that was announced before. -/
def ForAnnounced (s : Crew L) : Order L → Prop
  | .begin (.send_message _ login public_key_id _) => .listen_login_handler login public_key_id ∈ deeds s.log
  | _ => True

instance (s : Crew L) : ∀ order, Decidable (ForAnnounced s order)
  | .begin (.send_message _ login public_key_id _) =>
    inferInstanceAs (Decidable (.listen_login_handler login public_key_id ∈ deeds s.log))
  | .begin (.start _) | .begin (.receive ..) | .begin (.timer ..) | .begin (.listen_callback ..) | .advance _ => isTrue trivial

/-- The parts of a task that others may come between: a callback of the DHT is one for each
    contact. -/
def Task.parts : Task L → List (Task L)
  | .listen_callback login values expired =>
    (if expired then [] else DhtIpResolver.contacts (DhtIpResolver.reached values)).map fun contact =>
      .listen_callback login [⟨contact.2, some contact.1⟩] false
  | task => [task]

/-! ## Contacts that were announced -/

/-- What a thread may rely on: a contact has its address and its key by the time that it is
    announced, and a call for one finds them. -/
def Job.Ready (r : Resolvers L) : Job L → Prop
  | .receiving .. => True
  | .acting key effects _ _ =>
    ∀ login id, .listen_login_handler login id ∈ effects →
      Sendable (key.elim r fun owed => (LockedBlock.put_public_key owed.1 owed.2).run r) login id
  | .resolving _ login id _ source =>
    Sendable r login id ∧ (source = .dht_ip_resolver_ → (r .dht_ip_resolver_).resolve login id ≠ none ∧
      (r .dht_ip_resolver_).get_public_key_by_public_key_id id ≠ none)
  | .finding _ _ _ id _ source =>
    (source = .metadata_ip_resolver_ → ∃ other, (r other).get_public_key_by_public_key_id id ≠ none) ∧
      (source = .dht_ip_resolver_ → (r .dht_ip_resolver_).get_public_key_by_public_key_id id ≠ none)

theorem Job.Ready.grows {r t : Resolvers L} {job : Job L} (grows : Grows r t) (ready : job.Ready r) : job.Ready t := by
  cases job with
  | receiving env buffer remote_endpoint => trivial
  | acting key effects login contacts =>
    intro name id member
    cases key with
    | none => exact (ready name id member).grows grows
    | some owed => exact (ready name id member).grows (grows.run (.put_public_key owed.1 owed.2))
  | resolving env login id message source =>
    obtain ⟨sendable, second⟩ := ready
    refine ⟨sendable.grows grows, fun here => ?_⟩
    obtain ⟨address, key⟩ := second here
    exact ⟨grows.addresses _ _ _ address, grows.keys _ _ key⟩
  | finding env address login id message source =>
    obtain ⟨first, second⟩ := ready
    refine ⟨fun here => ?_, fun here => grows.keys _ _ (second here)⟩
    obtain ⟨other, key⟩ := first here
    exact ⟨other, grows.keys _ _ key⟩

structure Crew.Ready (s : Crew L) : Prop where
  keyed : Keyed s.resolvers
  announced : ∀ login id, .listen_login_handler login id ∈ deeds s.log → Sendable s.resolvers login id
  jobs : ∀ job ∈ s.jobs, job.Ready s.resolvers

theorem ready_initial : (Crew.initial L).Ready where
  keyed := by
    intro source id public_key stored
    cases stored
  announced := by simp [Crew.initial, deeds]
  jobs := by simp [Crew.initial]

/-- A new thread, and what it may rely on. -/
theorem Crew.Ready.take {s : Crew L} (ready : s.Ready) (task : Task L) {job : Job L} (new : job.Ready s.resolvers) :
    (s.take task job).Ready where
  keyed := ready.keyed
  announced := ready.announced
  jobs := by
    intro other member
    rcases List.mem_append.mp member with old | same
    · exact ready.jobs other old
    · cases List.mem_singleton.mp same
      exact new

theorem Crew.Ready.goOn {s : Crew L} (ready : s.Ready) (i : Nat) {job : Job L} (next : job.Ready s.resolvers) :
    (s.goOn i job).Ready where
  keyed := ready.keyed
  announced := ready.announced
  jobs := by
    intro other member
    rcases List.mem_or_eq_of_mem_set member with old | rfl
    · exact ready.jobs other old
    · exact next

/-- A locked block forgets nothing. -/
theorem Crew.Ready.run {s : Crew L} (ready : s.Ready) (block : LockedBlock L) : (s.run block).Ready where
  keyed := ready.keyed.run block
  announced login id member := (ready.announced login id member).grows (grows_run block _)
  jobs job member := (ready.jobs job member).grows (grows_run block _)

theorem Crew.Ready.does {s : Crew L} (ready : s.Ready) (i : Nat) {effect : Effect L}
    (told : ∀ login id, effect = .listen_login_handler login id → Sendable s.resolvers login id) : (s.does i effect).Ready where
  keyed := ready.keyed
  announced := by
    intro login id member
    change _ ∈ deeds (s.log ++ [(i, effect)]) at member
    rw [deeds, List.map_append] at member
    rcases List.mem_append.mp member with old | new
    · exact ready.announced login id old
    · exact told login id (List.mem_singleton.mp new).symm
  jobs := ready.jobs

/-- A receive handler announces the contact that it told the resolver. -/
theorem met_of_announced {config : Config L} {env : Environment L} {buffer : Bytes} {remote_endpoint : Endpoint L}
    {hop : Message → Option (Endpoint L)} {login : Bytes} {id : L.InfoHash}
    (member : .listen_login_handler login id ∈ config.handling env buffer remote_endpoint hop) :
    ∃ public_key address, config.met env buffer remote_endpoint = some (login, public_key, address) ∧
      id = L.getId public_key := by
  unfold Config.handling at member
  unfold Config.met
  cases read : reading config env buffer with
  | accepted message public_key =>
    simp only [read] at member ⊢
    cases loop : config.punched env 0 message.source_ip (sourcePort message remote_endpoint) with
    | none => simp [loop] at member
    | some endpoint =>
      simp only [loop, Config.receiveEffects] at member
      split_ifs at member
      · simp only [List.mem_append, List.mem_cons, reduceCtorEq, false_or, or_false, List.not_mem_nil,
          Effect.listen_login_handler.injEq] at member
        obtain ⟨rfl, rfl⟩ := member
        exact ⟨_, _, rfl, rfl⟩
      · simp at member
  | transit message =>
    simp only [read] at member
    cases next : hop message with
    | none => simp [next] at member
    | some endpoint =>
      simp only [next] at member
      split_ifs at member <;> simp at member
  | dropped => simp [read] at member
  | metadata =>
    simp only [read] at member
    cases known : L.publicKey (metadata_from_buffer buffer env.beyond).2 with
    | none => simp [known] at member
    | some key => simp [known] at member

theorem punching_announces_nothing (config : Config L) (punched : Option (Endpoint L)) (login : Bytes) (id : L.InfoHash) :
    .listen_login_handler login id ∉ (config.punching punched).2 := by
  cases punched <;> simp [Config.punching]

/-- A call signs, sends its message and tells the sender's handler. -/
theorem mem_calling {config : Config L} {env : Environment L} {address login text : Bytes} {public_key : L.PublicKey}
    {effect : Effect L} (member : effect ∈ config.calling env address login public_key text) :
    (∃ buffer, effect = .sign buffer) ∨ (∃ buffer endpoint, effect = .send_to .message buffer endpoint) ∨
      ∃ message, effect ∈ (sendEffects message : List (Effect L)) := by
  unfold Config.calling at member
  cases made : composed config env address login public_key text with
  | error e => simp [made] at member
  | ok both =>
    simp only [made] at member
    rcases mem_callEffects ((cut_performed env 0 _).first.subset member) with signs | ⟨_, _, _, -, -, sends⟩ | tells
    · exact .inl ⟨_, signs⟩
    · exact .inr (.inl ⟨_, _, sends⟩)
    · exact .inr (.inr ⟨_, tells⟩)

theorem calling_announces_nothing {config : Config L} {env : Environment L} {address login text name : Bytes}
    {public_key : L.PublicKey} {id : L.InfoHash} :
    .listen_login_handler name id ∉ config.calling env address login public_key text := by
  intro member
  rcases mem_calling member with ⟨_, same⟩ | ⟨_, _, same⟩ | ⟨message, tells⟩
  · cases same
  · cases same
  · rcases mem_sendEffects tells with same | same | ⟨_, same⟩ <;> cases same

/-- Nothing that a thread does makes another one miss a contact. -/
theorem Crew.Ready.step {config : Config L} {s t : Crew L} {order : Order L} (ready : s.Ready)
    (announced : ForAnnounced s order) (step : labor config s order = some t) : t.Ready := by
  cases order with
  | begin task =>
    cases task with
    | start env =>
      simp only [labor, begin] at step
      split_ifs at step
      cases step
      exact ready.take _ fun login id member => absurd member (punching_announces_nothing _ _ _ _)
    | receive env buffer remote_endpoint =>
      cases step
      exact ready.take _ trivial
    | timer env endpoint =>
      simp only [labor, begin] at step
      split_ifs at step <;>
      · cases step
        have popped : ({ s with timers := s.timers.erase endpoint } : Crew L).Ready := ⟨ready.keyed, ready.announced, ready.jobs⟩
        exact popped.take _ fun login id member => absurd member (punching_announces_nothing _ _ _ _)
    | listen_callback login values expired =>
      cases step
      exact ready.take _ fun name id member => absurd member List.not_mem_nil
    | send_message env login id message =>
      cases step
      exact ready.take _ ⟨ready.announced login id announced, fun same => nomatch same⟩
  | advance i =>
    simp only [labor] at step
    cases there : s.jobs[i]? with
    | none => simp [there] at step
    | some job =>
      simp only [there] at step
      have mine := ready.jobs job (List.mem_of_getElem? there)
      cases job with
      | receiving env buffer remote_endpoint =>
        simp only [advance] at step
        cases met : config.met env buffer remote_endpoint with
        | none =>
          simp only [met] at step
          cases step
          refine ready.goOn i fun login id member => ?_
          obtain ⟨_, _, known, -⟩ := met_of_announced member
          cases met.symm.trans known
        | some contact =>
          obtain ⟨login, public_key, address⟩ := contact
          simp only [met] at step
          cases step
          refine (ready.run _).goOn i fun name id member => ?_
          obtain ⟨_, _, known, rfl⟩ := met_of_announced member
          cases met.symm.trans known
          exact ⟨.metadata_ip_resolver_, by simp [Crew.run], by simp⟩
      | acting key effects login contacts =>
        cases key with
        | some owed =>
          cases step
          exact (ready.run _).goOn i mine
        | none =>
          cases effects with
          | cons effect effects =>
            cases step
            refine (ready.does i fun login id same => mine login id (by rw [same]; exact List.mem_cons_self)).goOn i ?_
            exact fun login id member => mine login id (List.mem_cons_of_mem _ member)
          | nil =>
            cases contacts with
            | nil => cases step
            | cons contact contacts =>
              cases step
              refine (ready.run _).goOn i fun name id member => ?_
              cases List.mem_singleton.mp member
              exact ⟨.dht_ip_resolver_, by simp [Crew.run], by simp⟩
      | resolving env login id message source =>
        obtain ⟨⟨known, address, key⟩, second⟩ := mine
        simp only [advance] at step
        cases found : (s.resolvers source).resolve login id with
        | some address =>
          simp only [found] at step
          cases step
          exact ready.goOn i ⟨fun _ => ⟨known, key⟩, fun same => nomatch same⟩
        | none =>
          cases source with
          | metadata_ip_resolver_ =>
            simp only [found] at step
            cases step
            cases known with
            | metadata_ip_resolver_ => exact absurd found address
            | dht_ip_resolver_ => exact ready.goOn i ⟨⟨_, address, key⟩, fun _ => ⟨address, key⟩⟩
          | dht_ip_resolver_ => exact absurd found (second rfl).1
      | finding env address login id message source =>
        obtain ⟨first, second⟩ := mine
        simp only [advance] at step
        cases found : (s.resolvers source).get_public_key_by_public_key_id id with
        | some public_key =>
          simp only [found] at step
          cases step
          exact ready.goOn i fun name other member => absurd member calling_announces_nothing
        | none =>
          cases source with
          | metadata_ip_resolver_ =>
            simp only [found] at step
            cases step
            obtain ⟨other, key⟩ := first rfl
            cases other with
            | metadata_ip_resolver_ => exact absurd found key
            | dht_ip_resolver_ => exact ready.goOn i ⟨fun same => (nomatch same), fun _ => key⟩
          | dht_ip_resolver_ => exact absurd found (second rfl)

/-! ## What was done -/

/-- What an effect adds to a ledger. -/
def Effect.mark : Effect L → Option (Fact L)
  | .append _ public_key_id login text => some (.said public_key_id login text)
  | .send_to .hole_punch _ endpoint => some (.armed endpoint)
  | _ => none

def marks (effects : List (Effect L)) : List (Fact L) := effects.filterMap Effect.mark

def Effect.punches (endpoint : Endpoint L) : Effect L → Bool
  | .send_to .hole_punch _ other => other == endpoint
  | _ => false

/-- The task is the round of a loop. -/
def Task.pops (endpoint : Endpoint L) : Task L → Bool
  | .timer _ other => other == endpoint
  | _ => false

/-- The history and the timers are what was done. -/
structure Crew.Logged (s : Crew L) : Prop where
  entries : ∀ id, s.chat_history_.entries id = appendedEntries id (deeds s.log)
  timers : ∀ endpoint,
    s.timers.count endpoint + s.tasks.countP (Task.pops endpoint) = (deeds s.log).countP (Effect.punches endpoint)

theorem logged_initial : (Crew.initial L).Logged := ⟨fun _ => rfl, fun _ => rfl⟩

/-- A new thread that pops no timer. -/
theorem Crew.Logged.take {s : Crew L} (logged : s.Logged) {task : Task L} (job : Job L)
    (calm : ∀ endpoint, task.pops endpoint = false) : (s.take task job).Logged where
  entries := logged.entries
  timers endpoint := by
    have before := logged.timers endpoint
    show s.timers.count endpoint + (s.tasks ++ [task]).countP (Task.pops endpoint) = _
    rw [List.countP_append, List.countP_singleton, calm endpoint]
    exact before

theorem Crew.Logged.pop {s : Crew L} (logged : s.Logged) (env : Environment L) {endpoint : Endpoint L} (job : Job L)
    (there : 0 < s.timers.count endpoint) :
    (({ s with timers := s.timers.erase endpoint } : Crew L).take (.timer env endpoint) job).Logged where
  entries := logged.entries
  timers other := by
    have before := logged.timers other
    show (s.timers.erase endpoint).count other + (s.tasks ++ [Task.timer env endpoint]).countP (Task.pops other) = _
    rw [List.countP_append, List.countP_singleton]
    simp only [Task.pops, beq_iff_eq]
    by_cases same : endpoint = other
    · subst same
      rw [List.count_erase_self, if_pos rfl]
      show _ = (deeds s.log).countP (Effect.punches endpoint)
      omega
    · rw [List.count_erase_of_ne (Ne.symm same), if_neg same]
      exact before

theorem Crew.Logged.does {s : Crew L} (logged : s.Logged) (i : Nat) (effect : Effect L) : (s.does i effect).Logged where
  entries id := by
    show (s.chat_history_.replay [effect]).entries id = appendedEntries id (deeds (s.log ++ [(i, effect)]))
    rw [ChatHistory.entries_replay, logged.entries, deeds, deeds, List.map_append]
    exact List.filterMap_append.symm
  timers endpoint := by
    have before := logged.timers endpoint
    have added : (s.does i effect).timers.count endpoint =
        s.timers.count endpoint + if effect.punches endpoint = true then 1 else 0 := by
      unfold Crew.does
      cases effect with
      | send_to purpose buffer other =>
        cases purpose with
        | hole_punch => simp [Effect.punches, List.count_singleton, List.count_append]
        | _ => rfl
      | _ => rfl
    show _ + s.tasks.countP (Task.pops endpoint) = (deeds (s.log ++ [(i, effect)])).countP (Effect.punches endpoint)
    rw [added, deeds, List.map_append, List.countP_append, List.map_singleton, List.countP_singleton]
    unfold deeds at before
    show _ = _ + if effect.punches endpoint = true then 1 else 0
    omega

theorem Crew.Logged.step {config : Config L} {s t : Crew L} {order : Order L} (logged : s.Logged)
    (step : labor config s order = some t) : t.Logged := by
  have same : ∀ i job block, ((s.run block).goOn i job).Logged := fun i job block => ⟨logged.entries, logged.timers⟩
  have goes : ∀ i job, (s.goOn i job).Logged := fun i job => ⟨logged.entries, logged.timers⟩
  cases order with
  | begin task =>
    cases task with
    | start env =>
      simp only [labor, begin] at step
      split_ifs at step
      cases step
      exact logged.take _ fun _ => rfl
    | timer env endpoint =>
      simp only [labor, begin] at step
      by_cases there : 0 < s.timers.count endpoint
      · rw [if_pos there] at step
        cases step
        exact logged.pop env _ there
      · rw [if_neg there] at step
        cases step
    | receive | listen_callback | send_message =>
      cases step
      exact logged.take _ fun _ => rfl
  | advance i =>
    simp only [labor] at step
    cases there : s.jobs[i]? with
    | none => simp [there] at step
    | some job =>
      simp only [there] at step
      revert step
      cases job with
      | receiving env buffer remote_endpoint =>
        simp only [advance]
        split <;> rintro ⟨⟩
        · exact same _ _ _
        · exact goes _ _
      | acting key effects login contacts =>
        rcases key with - | owed
        · rcases effects with - | ⟨effect, effects⟩
          · rcases contacts with - | ⟨contact, contacts⟩
            · rintro ⟨⟩
            · rintro ⟨⟩
              exact same _ _ _
          · rintro ⟨⟩
            have done := logged.does i effect
            exact ⟨done.entries, done.timers⟩
        · rintro ⟨⟩
          exact same _ _ _
      | resolving env login id message source =>
        simp only [advance]
        split <;> rintro ⟨⟩ <;> exact goes _ _
      | finding env address login id message source =>
        simp only [advance]
        split
        · rintro ⟨⟩
          exact goes _ _
        · rintro ⟨⟩
          exact goes _ _
        · split <;> rintro ⟨⟩
          exact goes _ _

end P2PMessenger
