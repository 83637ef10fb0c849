import P2PMessenger.Contacts

/-!
Whoever was announced can be written to. The threads of a node see the two resolvers
between any two of their locked blocks; what they may rely on follows from the order in
which a contact is stored and announced, and from nothing being forgotten.
-/
namespace P2PMessenger
open Octets Throwing Runs

variable {L : Libraries}

/-! ## The invariant -/

/-- The contact was announced among the first events of the log. -/
def AnnouncedBefore (log : List (Occurrence L)) (started : Nat) (login : Bytes) (id : L.InfoHash) : Prop :=
  started ≤ log.length ∧ .announced login id ∈ log.take started

/-- What lies in a log lies in every longer one. -/
theorem past_append {log : List (Occurrence L)} {started : Nat} (past : started ≤ log.length)
    (more : List (Occurrence L)) : started ≤ (log ++ more).length := by
  rw [List.length_append]
  omega

theorem AnnouncedBefore.mem {log : List (Occurrence L)} {started : Nat} {login : Bytes} {id : L.InfoHash}
    (announced : AnnouncedBefore log started login id) : .announced login id ∈ log := List.mem_of_mem_take announced.2

/-- Later events do not change what was announced before. -/
theorem announcedBefore_append {log more : List (Occurrence L)} {started : Nat} (past : started ≤ log.length)
    (login : Bytes) (id : L.InfoHash) :
    AnnouncedBefore (log ++ more) started login id ↔ AnnouncedBefore log started login id := by
  unfold AnnouncedBefore
  rw [List.take_append_of_le_length past]
  constructor
  · rintro ⟨-, member⟩
    exact ⟨past, member⟩
  · rintro ⟨-, member⟩
    exact ⟨past_append past more, member⟩

theorem AnnouncedBefore.later {log : List (Occurrence L)} {started later : Nat} {login : Bytes} {id : L.InfoHash}
    (announced : AnnouncedBefore log started login id) (le : started ≤ later) (past : later ≤ log.length) :
    AnnouncedBefore log later login id :=
  ⟨past, (List.take_subset_take_left log le) announced.2⟩

/-- A key that a lookup may return: never null for a contact that was announced before
    it, and never a key with another id. -/
structure Right (log : List (Occurrence L)) (started : Nat) (id : L.InfoHash) (public_key : Option L.PublicKey) : Prop where
  past : started ≤ log.length
  known : ∀ login, AnnouncedBefore log started login id → public_key ≠ none
  own : ∀ key, public_key = some key → L.getId key = id

theorem Right.append {log : List (Occurrence L)} {started : Nat} {id : L.InfoHash} {public_key : Option L.PublicKey}
    (right : Right log started id public_key) (more : List (Occurrence L)) : Right (log ++ more) started id public_key where
  past := past_append right.past more
  known login announced := right.known login ((announcedBefore_append right.past login id).mp announced)
  own := right.own

/-- What a lookup in the second resolver may rely on. -/
def Thread.Sound (r : Resolvers L) (log : List (Occurrence L)) : Thread L → Prop
  | .storing blocks => Earned r blocks
  | .resolving call source =>
    call.started ≤ log.length ∧
      (source = .dht_ip_resolver_ → AnnouncedBefore log call.started call.login call.public_key_id →
        (r .dht_ip_resolver_).resolve call.login call.public_key_id ≠ none)
  | .finding id started source outgoing =>
    started ≤ log.length ∧
      (source = .dht_ip_resolver_ → ∀ login, AnnouncedBefore log started login id →
        (r .dht_ip_resolver_).get_public_key_by_public_key_id id ≠ none) ∧
      ∀ going ∈ outgoing, going.1.started ≤ started ∧ going.1.public_key_id = id
  | .sending call _ _ public_key => Right log call.started call.public_key_id public_key

theorem Thread.Sound.grows {r t : Resolvers L} {log : List (Occurrence L)} {thread : Thread L} (grows : Grows r t)
    (more : List (Occurrence L)) (sound : thread.Sound r log) : thread.Sound t (log ++ more) := by
  cases thread with
  | storing blocks => exact Earned.grows grows sound
  | resolving call source =>
    obtain ⟨past, dht⟩ := sound
    refine ⟨past_append past more, fun second announced => ?_⟩
    exact grows.addresses _ _ _ (dht second ((announcedBefore_append past _ _).mp announced))
  | finding id started source outgoing =>
    obtain ⟨past, dht, going⟩ := sound
    refine ⟨past_append past more, fun second login announced => ?_, going⟩
    exact grows.keys _ _ (dht second login ((announcedBefore_append past _ _).mp announced))
  | sending call address message public_key => exact Right.append sound more

/-- What an event says about the log before it. -/
def Occurrence.Due (before : List (Occurrence L)) : Occurrence L → Prop
  | .announced _ _ => True
  | .resolved call address =>
    call.started ≤ before.length ∧
      (AnnouncedBefore before call.started call.login call.public_key_id → address ≠ none)
  | .found id started public_key => Right before started id public_key
  | .sent call _ _ public_key => Right before call.started call.public_key_id public_key

theorem due_append (before more : List (Occurrence L)) (e : Occurrence L) (due : e.Due before) : e.Due (before ++ more) := by
  cases e with
  | announced login id => trivial
  | resolved call address =>
    exact ⟨past_append due.1 more, fun announced => due.2 ((announcedBefore_append due.1 _ _).mp announced)⟩
  | found id started public_key => exact Right.append due more
  | sent call address message public_key => exact Right.append due more

/-- What holds between any two steps of the threads. -/
structure Contacts.Sound (s : Contacts L) : Prop where
  keyed : Keyed s.resolvers
  announced : ∀ login id, .announced login id ∈ s.log → Sendable s.resolvers login id
  threads : ∀ thread ∈ s.threads, thread.Sound s.resolvers s.log
  log : Justified (fun before e => e.Due before) s.log

theorem sound_initial : (Contacts.initial L).Sound where
  keyed := by
    intro source id public_key stored
    cases stored
  announced := by simp [Contacts.initial]
  threads := by simp [Contacts.initial]
  log := justified_nil _

/-- A step that forgets nothing keeps the invariant, when what it adds is right. -/
theorem Contacts.Sound.next {s t : Contacts L} (sound : s.Sound) (grows : Grows s.resolvers t.resolvers)
    (keyed : Keyed t.resolvers) {added : List (Occurrence L)} (log : t.log = s.log ++ added)
    (announced : ∀ login id, .announced login id ∈ added → Sendable t.resolvers login id)
    (due : ∀ e ∈ added, e.Due s.log)
    (threads : ∀ thread ∈ t.threads, thread ∈ s.threads ∨ thread.Sound t.resolvers t.log) : t.Sound where
  keyed := keyed
  announced := by
    intro login id member
    rw [log] at member
    rcases List.mem_append.mp member with old | new
    · exact (sound.announced login id old).grows grows
    · exact announced login id new
  threads := by
    intro thread member
    rcases threads thread member with old | new
    · rw [log]
      exact (sound.threads thread old).grows grows added
    · exact new
  log := by
    rw [log]
    exact sound.log.append due_append due

/-- A thread that begins adds nothing else. -/
theorem Contacts.Sound.begin {s : Contacts L} (sound : s.Sound) {thread : Thread L}
    (fresh : thread.Sound s.resolvers s.log) : (s.begin thread).Sound := by
  refine sound.next (t := s.begin thread) (Grows.refl _) sound.keyed (List.append_nil _).symm (by simp) (by simp) ?_
  intro other member
  rcases List.mem_append.mp member with old | new
  · exact .inl old
  · rw [List.mem_singleton.mp new]
    exact .inr fresh

/-- A thread that only moves on. -/
theorem Contacts.Sound.move {s : Contacts L} (sound : s.Sound) (i : Nat) (thread : Thread L) (added : List (Occurrence L))
    (quiet : ∀ login id, .announced login id ∉ added) (due : ∀ e ∈ added, e.Due s.log)
    (next : thread.Sound s.resolvers (s.log ++ added)) :
    Contacts.Sound { resolvers := s.resolvers, threads := s.threads.set i thread, log := s.log ++ added } := by
  refine sound.next (t := ⟨s.resolvers, s.threads.set i thread, s.log ++ added⟩) (Grows.refl _) sound.keyed rfl
    (fun login id member => absurd member (quiet login id)) due ?_
  intro other member
  rcases List.mem_or_eq_of_mem_set member with old | rfl
  · exact .inl old
  · exact .inr next

/-- A contact that the first resolver does not know has what it needs in the second. -/
theorem Sendable.second {r : Resolvers L} {login : Bytes} {id : L.InfoHash} (sendable : Sendable r login id) :
    ((r .metadata_ip_resolver_).resolve login id = none → (r .dht_ip_resolver_).resolve login id ≠ none) ∧
      ((r .metadata_ip_resolver_).get_public_key_by_public_key_id id = none →
        (r .dht_ip_resolver_).get_public_key_by_public_key_id id ≠ none) := by
  obtain ⟨source, address, key⟩ := sendable
  cases source with
  | metadata_ip_resolver_ => exact ⟨fun unknown => absurd unknown address, fun unknown => absurd unknown key⟩
  | dht_ip_resolver_ => exact ⟨fun _ => address, fun _ => key⟩

theorem Right.earlier {log : List (Occurrence L)} {started earlier : Nat} {id : L.InfoHash} {public_key : Option L.PublicKey}
    (right : Right log started id public_key) (le : earlier ≤ started) : Right log earlier id public_key where
  past := Nat.le_trans le right.past
  known login announced := right.known login (announced.later le right.past)
  own := right.own

theorem Contacts.Sound.resolved {s : Contacts L} (sound : s.Sound) (i : Nat) {call : Call L} {address : Option Bytes}
    (past : call.started ≤ s.log.length)
    (known : AnnouncedBefore s.log call.started call.login call.public_key_id → address ≠ none) :
    (s.resolved i call address).Sound := by
  refine sound.move i _ _ (by simp) ?_ ?_
  · intro e member
    rw [List.mem_singleton.mp member]
    exact ⟨past, known⟩
  · split
    · refine ⟨by simp, by simp, ?_⟩
      intro going member
      obtain rfl := Option.some.inj member
      exact ⟨by simp only; omega, rfl⟩
    · trivial

theorem Contacts.Sound.found {s : Contacts L} (sound : s.Sound) (i : Nat) {id : L.InfoHash} {started : Nat}
    {outgoing : Option (Call L × Bytes × Bytes)} {public_key : Option L.PublicKey}
    (right : Right s.log started id public_key)
    (going : ∀ going ∈ outgoing, going.1.started ≤ started ∧ going.1.public_key_id = id) :
    (s.found i id started outgoing public_key).Sound := by
  refine sound.move i _ _ (by simp) ?_ ?_
  · intro e member
    rw [List.mem_singleton.mp member]
    exact right
  · cases outgoing with
    | none => trivial
    | some sending =>
      obtain ⟨call, address, message⟩ := sending
      obtain ⟨before, same⟩ := going _ rfl
      simp only at before same
      subst same
      exact (right.earlier before).append _

/-- A lookup returns what the second resolver has, also when that is nothing. -/
theorem advance_resolving_second (s : Contacts L) (i : Nat) (call : Call L) :
    s.advance i (.resolving call .dht_ip_resolver_) =
      some (s.resolved i call ((s.resolvers .dht_ip_resolver_).resolve call.login call.public_key_id)) := by
  simp only [Contacts.advance]
  split
  · rename_i same
    cases same
  · rfl

theorem advance_finding_second (s : Contacts L) (i : Nat) (id : L.InfoHash) (started : Nat)
    (outgoing : Option (Call L × Bytes × Bytes)) :
    s.advance i (.finding id started .dht_ip_resolver_ outgoing) =
      some (s.found i id started outgoing ((s.resolvers .dht_ip_resolver_).get_public_key_by_public_key_id id)) := by
  simp only [Contacts.advance]
  split
  · rename_i same
    cases same
  · rfl

/-- A locked block stores what it stores and announces no more than that. -/
theorem Contacts.Sound.store {s : Contacts L} (sound : s.Sound) (i : Nat) {block : LockedBlock L}
    {blocks : List (LockedBlock L)} (earned : Earned s.resolvers (block :: blocks)) :
    Contacts.Sound
      { resolvers := block.run s.resolvers
        threads := s.threads.set i (.storing blocks)
        log := s.log ++ block.contact.toList.map fun contact => .announced contact.1 contact.2 } := by
  obtain ⟨now, later⟩ := earned
  refine sound.next (t := ⟨block.run s.resolvers, s.threads.set i (.storing blocks), _⟩) (grows_run block _)
    (sound.keyed.run block) rfl ?_ ?_ ?_
  · intro login id announced
    obtain ⟨contact, made, same⟩ := List.mem_map.mp announced
    cases same
    exact (now contact (Option.mem_toList.mp made)).grows (grows_run block _)
  · intro e announced
    obtain ⟨contact, -, rfl⟩ := List.mem_map.mp announced
    trivial
  · intro other member
    rcases List.mem_or_eq_of_mem_set member with old | rfl
    · exact .inl old
    · exact .inr later

/-- A thread that goes on to the second resolver. -/
theorem Contacts.Sound.look_on {s : Contacts L} (sound : s.Sound) (i : Nat) {thread : Thread L}
    (next : thread.Sound s.resolvers s.log) :
    Contacts.Sound { resolvers := s.resolvers, threads := s.threads.set i thread, log := s.log } := by
  have moved := sound.move i thread [] (by simp) (by simp) (by rwa [List.append_nil])
  rwa [List.append_nil] at moved

theorem Contacts.Sound.resolve {s t : Contacts L} (sound : s.Sound) {i : Nat} {call : Call L} {source : Source}
    (here : (Thread.resolving call source).Sound s.resolvers s.log) (step : s.advance i (.resolving call source) = some t) :
    t.Sound := by
  obtain ⟨past, dht⟩ := here
  cases source with
  | metadata_ip_resolver_ =>
    cases look : (s.resolvers .metadata_ip_resolver_).resolve call.login call.public_key_id with
    | none =>
      simp only [Contacts.advance, look, Option.some.injEq] at step
      subst step
      exact sound.look_on i ⟨past, fun _ announced => (sound.announced _ _ announced.mem).second.1 look⟩
    | some address =>
      simp only [Contacts.advance, look, Option.some.injEq] at step
      subst step
      exact sound.resolved i past fun _ => by simp
  | dht_ip_resolver_ =>
    rw [advance_resolving_second] at step
    obtain rfl := Option.some.inj step
    exact sound.resolved i past (dht rfl)

theorem Contacts.Sound.find {s t : Contacts L} (sound : s.Sound) {i : Nat} {id : L.InfoHash} {started : Nat} {source : Source}
    {outgoing : Option (Call L × Bytes × Bytes)} (here : (Thread.finding id started source outgoing).Sound s.resolvers s.log)
    (step : s.advance i (.finding id started source outgoing) = some t) : t.Sound := by
  obtain ⟨past, dht, going⟩ := here
  cases source with
  | metadata_ip_resolver_ =>
    cases look : (s.resolvers .metadata_ip_resolver_).get_public_key_by_public_key_id id with
    | none =>
      simp only [Contacts.advance, look, Option.some.injEq] at step
      subst step
      exact sound.look_on i ⟨past, fun _ login announced => (sound.announced _ _ announced.mem).second.2 look, going⟩
    | some public_key =>
      simp only [Contacts.advance, look, Option.some.injEq] at step
      subst step
      refine sound.found i ⟨past, fun _ _ => by simp, ?_⟩ going
      intro key same
      obtain rfl := Option.some.inj same
      exact sound.keyed _ _ _ look
  | dht_ip_resolver_ =>
    rw [advance_finding_second] at step
    obtain rfl := Option.some.inj step
    exact sound.found i ⟨past, dht rfl, fun key stored => sound.keyed _ _ _ stored⟩ going

/-- One step of one thread keeps the invariant: by the place where the thread is. -/
theorem Contacts.Sound.advance {s t : Contacts L} (sound : s.Sound) {i : Nat} {thread : Thread L}
    (member : thread ∈ s.threads) (step : s.advance i thread = some t) : t.Sound := by
  have here := sound.threads thread member
  cases thread with
  | storing blocks =>
    cases blocks with
    | nil => cases step
    | cons block blocks =>
      obtain rfl := Option.some.inj step
      exact sound.store i here
  | resolving call source => exact sound.resolve here step
  | finding id started source outgoing => exact sound.find here step
  | sending call address message public_key =>
    simp only [Contacts.advance, Option.some.injEq] at step
    subst step
    refine sound.move i _ _ (by simp) ?_ trivial
    intro e member
    rw [List.mem_singleton.mp member]
    exact here

/-- One step of the node keeps the invariant. -/
theorem Contacts.Sound.interleave {config : Config L} {s t : Contacts L} {move : Move L} (sound : s.Sound)
    (step : interleave config s move = some t) : t.Sound := by
  cases move with
  | receive env buffer remote_endpoint =>
    obtain rfl := Option.some.inj step
    exact sound.begin (earned_receiveBlocks config env buffer remote_endpoint _)
  | listen_callback login values expired =>
    obtain rfl := Option.some.inj step
    exact sound.begin (earned_listenBlocks login expired values _)
  | resolve login id =>
    obtain rfl := Option.some.inj step
    exact sound.begin ⟨Nat.le_refl _, fun second => by cases second⟩
  | get_public_key_by_public_key_id id =>
    obtain rfl := Option.some.inj step
    exact sound.begin ⟨Nat.le_refl _, (fun second => by cases second), by simp⟩
  | send_message login id message =>
    obtain rfl := Option.some.inj step
    exact sound.begin ⟨Nat.le_refl _, fun second => by cases second⟩
  | advance i =>
    simp only [P2PMessenger.interleave] at step
    cases at_i : s.threads[i]? with
    | none => simp [at_i] at step
    | some thread =>
      simp only [at_i] at step
      exact sound.advance (List.mem_of_getElem? at_i) step

/-! ## Runs -/

/-- The steps that a thread has left at most. -/
def Thread.left : Thread L → Nat
  | .storing blocks => blocks.length
  | .resolving _ .metadata_ip_resolver_ => 5
  | .resolving _ .dht_ip_resolver_ => 4
  | .finding _ _ .metadata_ip_resolver_ _ => 3
  | .finding _ _ .dht_ip_resolver_ _ => 2
  | .sending _ _ _ _ => 1

/-- A thread that has steps left can always take one, whatever the others do, and then
    has fewer left. -/
theorem advance_left {s : Contacts L} {i : Nat} {thread : Thread L} (here : s.threads[i]? = some thread)
    (work : 0 < thread.left) :
    ∃ t later, s.advance i thread = some t ∧ t.threads[i]? = some later ∧ later.left < thread.left := by
  have inside : i < s.threads.length := (List.getElem?_eq_some_iff.mp here).1
  have self : ∀ later, (s.threads.set i later)[i]? = some later := fun _ => List.getElem?_set_self inside
  have resolved : ∀ call address, ∃ later, (s.resolved i call address).threads[i]? = some later ∧ later.left < 4 := by
    intro call address
    refine ⟨_, self _, ?_⟩
    split <;> simp [Thread.left]
  have found : ∀ id started outgoing public_key,
      ∃ later, (s.found i id started outgoing public_key).threads[i]? = some later ∧ later.left < 2 := by
    intro id started outgoing public_key
    refine ⟨_, self _, ?_⟩
    split <;> simp [Thread.left]
  cases thread with
  | storing blocks =>
    cases blocks with
    | nil => exact absurd work (Nat.lt_irrefl 0)
    | cons block blocks => exact ⟨_, _, rfl, self _, Nat.lt_succ_self _⟩
  | resolving call source =>
    obtain ⟨later, at_i, fewer⟩ := resolved call ((s.resolvers source).resolve call.login call.public_key_id)
    cases source with
    | metadata_ip_resolver_ =>
      cases look : (s.resolvers .metadata_ip_resolver_).resolve call.login call.public_key_id with
      | none =>
        simp only [Contacts.advance, look]
        exact ⟨_, _, rfl, self _, Nat.lt_succ_self 4⟩
      | some address =>
        simp only [Contacts.advance, look] at at_i ⊢
        exact ⟨_, _, rfl, at_i, Nat.lt_succ_of_lt fewer⟩
    | dht_ip_resolver_ =>
      rw [advance_resolving_second]
      exact ⟨_, later, rfl, at_i, fewer⟩
  | finding id started source outgoing =>
    obtain ⟨later, at_i, fewer⟩ := found id started outgoing ((s.resolvers source).get_public_key_by_public_key_id id)
    cases source with
    | metadata_ip_resolver_ =>
      cases look : (s.resolvers .metadata_ip_resolver_).get_public_key_by_public_key_id id with
      | none =>
        simp only [Contacts.advance, look]
        exact ⟨_, _, rfl, self _, Nat.lt_succ_self 2⟩
      | some public_key =>
        simp only [Contacts.advance, look] at at_i ⊢
        exact ⟨_, _, rfl, at_i, Nat.lt_succ_of_lt fewer⟩
    | dht_ip_resolver_ =>
      rw [advance_finding_second]
      exact ⟨_, later, rfl, at_i, fewer⟩
  | sending call address message public_key => exact ⟨_, _, rfl, self _, Nat.lt_succ_self 0⟩

/-- Every datagram that this call sends with some key names the key as its destination
    and carries the text encrypted under it. -/
def EncryptsUnder (address login text : Bytes) (public_key : L.PublicKey) : Prop :=
  ∀ (config : Config L) (env : Environment L) (caller : Node L) (t : Step L) (buffer : Bytes) (endpoint : Endpoint L),
    (send_message config env address login public_key text).run ⟨caller, []⟩ = .ok () t →
    .send_to .message buffer endpoint ∈ t.effects →
    ∃ message payload_buffer signature,
      buffer = signed_message_to_buffer ⟨(message_block message payload_buffer).vector, signature⟩ ∧
      message.destination_public_key = L.toString public_key ∧ message.payload.text = text ∧
      encrypt L env.seed (payload_to_buffer L message.payload) public_key = .ok payload_buffer

theorem encryptsUnder (address login text : Bytes) (public_key : L.PublicKey) : EncryptsUnder address login text public_key := by
  intro config env caller t buffer endpoint call sent
  obtain ⟨message, inner, signature, -, built, -, -, rfl, -⟩ := datagram_of_sent call sent
  obtain ⟨ip, port, payload_buffer, -, rfl, encrypted, rfl⟩ := composed_eq_ok built
  exact ⟨_, payload_buffer, signature, rfl, rfl, rfl, encrypted⟩

theorem sound_of_reaches {config : Config L} {s : Contacts L}
    (reaches : Reaches (interleave config) (fun _ _ => True) (Contacts.initial L) s) : s.Sound :=
  reaches.invariant sound_initial fun _ _ _ sound _ step => sound.interleave step

/-- However the handlers, the callbacks and the calls interleave: a lookup returns after
    at most five steps of its own; for a contact that was announced before it began it
    returns an address and a key; every key returned has the id it was asked for; and
    what is sent to an announced contact is for the key with the contact's id. -/
theorem announced_contact_is_sendable {config : Config L} {s : Contacts L}
    (reaches : Reaches (interleave config) (fun _ _ => True) (Contacts.initial L) s) :
    (∀ i thread, s.threads[i]? = some thread → 0 < thread.left →
      ∃ t later, interleave config s (.advance i) = some t ∧ t.threads[i]? = some later ∧ later.left < thread.left) ∧
    (∀ before call address later, s.log = before ++ .resolved call address :: later →
      AnnouncedBefore before call.started call.login call.public_key_id → address ≠ none) ∧
    (∀ before id started public_key later, s.log = before ++ .found id started public_key :: later →
      (∀ login, AnnouncedBefore before started login id → public_key ≠ none) ∧
        ∀ key, public_key = some key → L.getId key = id) ∧
    ∀ before call address text public_key later, s.log = before ++ .sent call address text public_key :: later →
      AnnouncedBefore before call.started call.login call.public_key_id →
      ∃ key, public_key = some key ∧ L.getId key = call.public_key_id ∧ EncryptsUnder address call.login text key := by
  have sound := sound_of_reaches reaches
  refine ⟨?_, ?_, ?_, ?_⟩
  · intro i thread here work
    obtain ⟨t, later, step, at_i, fewer⟩ := advance_left here work
    exact ⟨t, later, by simp only [interleave, here, step], at_i, fewer⟩
  · intro before call address later split
    exact (sound.log before _ later split).2
  · intro before id started public_key later split
    have right : Right before started id public_key := sound.log before _ later split
    exact ⟨right.known, right.own⟩
  · intro before call address text public_key later split announced
    have right : Right before call.started call.public_key_id public_key := sound.log before _ later split
    obtain ⟨key, same⟩ := Option.ne_none_iff_exists'.mp (right.known call.login announced)
    exact ⟨key, same, right.own key same, encryptsUnder address call.login text key⟩

/-- The DHT announces a contact while a message to it is already on its way, and then a
    second message is sent to it. -/
def announcedRun : List (Move Sample.libraries) :=
  [.send_message [98, 111, 98] (7 : UInt8) [104, 105],
    .listen_callback [98, 111, 98] [⟨Sample.destination_address, some (7 : UInt8)⟩] false,
    .advance 1, .advance 0, .advance 1, .advance 0, .advance 1, .send_message [98, 111, 98] (7 : UInt8) [104, 105],
    .advance 2, .advance 0, .advance 2, .advance 0, .advance 2, .advance 2, .advance 2]

/-- The call for the message, after so many events. -/
def callAfter (started : Nat) : Call Sample.libraries := ⟨[98, 111, 98], (7 : UInt8), started, some [104, 105]⟩

/-- What had happened when the second message was sent. -/
def announcedLog : List (Occurrence Sample.libraries) :=
  [.resolved (callAfter 0) (some Sample.destination_address), .announced [98, 111, 98] (7 : UInt8),
    .resolved (callAfter 2) (some Sample.destination_address), .found (7 : UInt8) 1 (some (7 : UInt8)),
    .found (7 : UInt8) 3 (some (7 : UInt8))]

theorem announced_contact_is_sendable_sample :
    ∃ s, run (interleave Sample.receiver) (Contacts.initial _) announcedRun = some s ∧
      s.log = announcedLog ++ [.sent (callAfter 2) Sample.destination_address [104, 105] (some Sample.sender.public_key)] ∧
      AnnouncedBefore announcedLog 2 [98, 111, 98] Sample.sender.public_key ∧
      EncryptsUnder Sample.destination_address [98, 111, 98] [104, 105] Sample.sender.public_key := by
  have logged : (run (interleave Sample.receiver) (Contacts.initial _) announcedRun).map (·.log) =
      some (announcedLog ++ [.sent (callAfter 2) Sample.destination_address [104, 105] (some Sample.sender.public_key)]) := by
    decide +kernel
  obtain ⟨s, taken, log⟩ := Option.map_eq_some_iff.mp logged
  have begins : Reaches (interleave Sample.receiver) (fun _ _ => True) (Contacts.initial _) (Contacts.initial _) := .start
  have reaches := reaches_of_run begins (fun _ _ _ => trivial) taken
  have announced : AnnouncedBefore announcedLog 2 [98, 111, 98] Sample.sender.public_key := ⟨by decide, by decide⟩
  obtain ⟨key, same, -, encrypts⟩ :=
    (announced_contact_is_sendable reaches).2.2.2 announcedLog (callAfter 2) _ _ _ [] log announced
  obtain rfl := Option.some.inj same
  exact ⟨s, taken, log, announced, encrypts⟩

end P2PMessenger
