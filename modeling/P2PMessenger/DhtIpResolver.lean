import P2PMessenger.Contacts

/-!
`dht_ip_resolver.cpp`: what is published under a login, and what the callback of `listen`
makes of the values that were found. Anyone may publish under a login. A value whose data
has no ':' throws, and the values after it are not looked at.
-/
namespace P2PMessenger
open Octets Throwing

variable {L : Libraries}

/-- What the private `put` and `put_signed` publish, and after how long again. -/
structure Record where
  signed : Bool
  login : Bytes
  address : Bytes
  interval : Int
  deriving DecidableEq, Repr

/-- The public `put`. -/
def Record.put (login ip : Bytes) (port : UInt16) (interval : Int) : Record :=
  ⟨false, login, ip ++ [colon] ++ to_string port.toNat, interval⟩

/-- The public `put_signed`. -/
def Record.put_signed (login ip : Bytes) (port : UInt16) (interval : Int) : Record :=
  ⟨true, login, ip ++ [colon] ++ to_string port.toNat, interval⟩

/-- The two maps, which are those of `MetadataIpResolver`, and the contacts that
    `handler_` was called with. -/
structure DhtIpResolver (L : Libraries) where
  maps : MetadataIpResolver L
  handled : List (Bytes × L.InfoHash)

namespace DhtIpResolver

/-- What the callback does for a signed value. -/
def store (resolver : DhtIpResolver L) (login : Bytes) (owner : L.PublicKey) (address : Bytes) : DhtIpResolver L where
  maps := (resolver.maps.put_address login (L.getId owner) address).put_public_key owner
  handled := resolver.handled ++ [(login, L.getId owner)]

/-- The body of the callback's loop. -/
def listen_value (login : Bytes) (expired : Bool) (value : DhtValue L) : EStateM Exception (DhtIpResolver L) Unit := do
  if !expired then
    if value.data.findIdx? (· == colon) = none then
      throw (.invalid_argument "Invalid address")
    match value.owner with
    | some owner => modify (·.store login owner value.data)
    | none => pure ()

/-- The callback of `listen`; true means to keep listening. -/
def listen_callback (login : Bytes) (values : List (DhtValue L)) (expired : Bool) :
    EStateM Exception (DhtIpResolver L) Bool := do
  forM values (listen_value login expired)
  return true

/-- The owners and addresses of the signed values whose data has a ':'. -/
def contacts (values : List (DhtValue L)) : List (L.PublicKey × Bytes) :=
  values.filterMap fun value => if colon ∈ value.data then value.owner.map fun owner => (owner, value.data) else none

def storeAll (resolver : DhtIpResolver L) (login : Bytes) (contacts : List (L.PublicKey × Bytes)) : DhtIpResolver L :=
  contacts.foldl (fun resolver contact => resolver.store login contact.1 contact.2) resolver

/-! ## One value -/

theorem contacts_signed {value : DhtValue L} {owner : L.PublicKey} (addressed : colon ∈ value.data)
    (signed : value.owner = some owner) : contacts [value] = [(owner, value.data)] := by
  simp [contacts, addressed, signed]

theorem contacts_unsigned {value : DhtValue L} (unsigned : value.owner = none) : contacts [value] = [] := by
  simp [contacts, unsigned]

theorem listen_value_run (login : Bytes) (value : DhtValue L) (resolver : DhtIpResolver L) :
    (listen_value login false value).run resolver =
      if colon ∈ value.data then .ok () (resolver.storeAll login (contacts [value]))
      else .error (.invalid_argument "Invalid address") resolver := by
  unfold listen_value
  simp only [Bool.not_false, if_true, findIdx?_beq_eq_none_iff, run_ite, EStateM.run_bind]
  by_cases addressed : colon ∈ value.data
  · cases owner : value.owner with
    | none => simp [addressed, contacts_unsigned owner, storeAll]
    | some key => simp [addressed, contacts_signed addressed owner, storeAll]
  · simp [addressed, run_throw]

/-! ## A callback -/

theorem contacts_append (one two : List (DhtValue L)) : contacts (one ++ two) = contacts one ++ contacts two :=
  List.filterMap_append

theorem storeAll_append (resolver : DhtIpResolver L) (login : Bytes) (one two : List (L.PublicKey × Bytes)) :
    resolver.storeAll login (one ++ two) = (resolver.storeAll login one).storeAll login two := List.foldl_append

/-- The values before the first one whose data has no ':'. -/
def reached (values : List (DhtValue L)) : List (DhtValue L) := values.takeWhile fun value => decide (colon ∈ value.data)

theorem contacts_reached_cons {value : DhtValue L} (addressed : colon ∈ value.data) (values : List (DhtValue L)) :
    contacts (reached (value :: values)) = contacts [value] ++ contacts (reached values) := by
  rw [← contacts_append, reached, List.takeWhile_cons_of_pos (by simp [addressed])]
  rfl

theorem reached_cons_of_not {value : DhtValue L} (bad : colon ∉ value.data) (values : List (DhtValue L)) :
    reached (value :: values) = [] := List.takeWhile_cons_of_neg (by simp [bad])

/-- The callback stores and announces the contacts before the first value without ':',
    and throws if there is one. -/
theorem listen_values_run (login : Bytes) (values : List (DhtValue L)) (resolver : DhtIpResolver L) :
    (forM values (listen_value login false)).run resolver =
      if ∀ value ∈ values, colon ∈ value.data then .ok () (resolver.storeAll login (contacts (reached values)))
      else .error (.invalid_argument "Invalid address") (resolver.storeAll login (contacts (reached values))) := by
  induction values generalizing resolver with
  | nil => rfl
  | cons value values ih =>
    rw [List.forM_cons, EStateM.run_bind, listen_value_run]
    by_cases addressed : colon ∈ value.data
    · rw [if_pos addressed]
      simp only [List.forall_mem_cons, addressed, true_and]
      rw [ih, contacts_reached_cons addressed, storeAll_append]
    · rw [if_neg addressed, if_neg (by simp [addressed]), reached_cons_of_not addressed]
      rfl

theorem listen_callback_run (login : Bytes) (values : List (DhtValue L)) (resolver : DhtIpResolver L) :
    (listen_callback login values false).run resolver =
      if ∀ value ∈ values, colon ∈ value.data then .ok true (resolver.storeAll login (contacts (reached values)))
      else .error (.invalid_argument "Invalid address") (resolver.storeAll login (contacts (reached values))) := by
  unfold listen_callback
  rw [EStateM.run_bind, listen_values_run]
  by_cases addressed : ∀ value ∈ values, colon ∈ value.data
  · rw [if_pos addressed, if_pos addressed]
    rfl
  · rw [if_neg addressed, if_neg addressed]

theorem after_listen_callback (login : Bytes) (values : List (DhtValue L)) (resolver : DhtIpResolver L) :
    after ((listen_callback login values false).run resolver) = resolver.storeAll login (contacts (reached values)) := by
  rw [listen_callback_run]
  split <;> rfl

/-- The last contact with this id. -/
def lastOf (id : L.InfoHash) (contacts : List (L.PublicKey × Bytes)) : Option (L.PublicKey × Bytes) :=
  (contacts.filter fun contact => L.getId contact.1 = id).getLast?

theorem lastOf_cons (id : L.InfoHash) (contact : L.PublicKey × Bytes) (contacts : List (L.PublicKey × Bytes)) :
    lastOf id (contact :: contacts) =
      ((lastOf id contacts).or (if L.getId contact.1 = id then some contact else none)) := by
  unfold lastOf
  by_cases same : L.getId contact.1 = id
  · rw [List.filter_cons_of_pos (by simp [same]), List.getLast?_cons, if_pos same]
    cases (contacts.filter fun contact => L.getId contact.1 = id).getLast? <;> rfl
  · rw [List.filter_cons_of_neg (by simp [same]), if_neg same, Option.or_none]

theorem storeAll_handled (resolver : DhtIpResolver L) (login : Bytes) (contacts : List (L.PublicKey × Bytes)) :
    (resolver.storeAll login contacts).handled =
      resolver.handled ++ contacts.map fun contact => (login, L.getId contact.1) := by
  induction contacts generalizing resolver with
  | nil => exact (List.append_nil _).symm
  | cons contact contacts ih =>
    show ((resolver.store login contact.1 contact.2).storeAll login contacts).handled = _
    rw [ih, store, List.append_assoc]
    rfl

theorem storeAll_resolve (resolver : DhtIpResolver L) (login : Bytes) (contacts : List (L.PublicKey × Bytes))
    (id : L.InfoHash) :
    (resolver.storeAll login contacts).maps.resolve login id =
      ((lastOf id contacts).map Prod.snd).or (resolver.maps.resolve login id) := by
  induction contacts generalizing resolver with
  | nil => rfl
  | cons contact contacts ih =>
    show ((resolver.store login contact.1 contact.2).storeAll login contacts).maps.resolve login id = _
    rw [ih, lastOf_cons, store, MetadataIpResolver.resolve_put_public_key, MetadataIpResolver.resolve_put_address]
    cases lastOf id contacts with
    | some last => rfl
    | none =>
      by_cases same : L.getId contact.1 = id
      · simp [same]
      · simp [same, Ne.symm same]

theorem storeAll_get (resolver : DhtIpResolver L) (login : Bytes) (contacts : List (L.PublicKey × Bytes)) (id : L.InfoHash) :
    (resolver.storeAll login contacts).maps.get_public_key_by_public_key_id id =
      ((lastOf id contacts).map Prod.fst).or (resolver.maps.get_public_key_by_public_key_id id) := by
  induction contacts generalizing resolver with
  | nil => rfl
  | cons contact contacts ih =>
    show ((resolver.store login contact.1 contact.2).storeAll login contacts).maps.get_public_key_by_public_key_id id = _
    rw [ih, lastOf_cons, store, MetadataIpResolver.get_put_public_key, MetadataIpResolver.get_put_address]
    cases lastOf id contacts with
    | some last => rfl
    | none =>
      by_cases same : L.getId contact.1 = id
      · simp [same]
      · simp [same, Ne.symm same]

/-- A resolver after a callback that let nobody be hidden: every owner of a value with ':'
    has the address and the key of the last such value, and `handler_` was called for each. -/
structure Heard (before : DhtIpResolver L) (login : Bytes) (values : List (DhtValue L)) (later : DhtIpResolver L) : Prop where
  address : ∀ id, ∀ last ∈ lastOf id (contacts values), later.maps.resolve login id = some last.2
  key : ∀ id, ∀ last ∈ lastOf id (contacts values), later.maps.get_public_key_by_public_key_id id = some last.1
  handled : later.handled = before.handled ++ (contacts values).map fun contact => (login, L.getId contact.1)

theorem contacts_reached_append (values : List (DhtValue L)) :
    contacts values = contacts (reached values) ++ contacts (values.dropWhile fun value => decide (colon ∈ value.data)) := by
  rw [← contacts_append, reached, List.takeWhile_append_dropWhile]

/-- Everybody is heard exactly when no contact comes after the first value without ':'. -/
theorem heard_iff (resolver : DhtIpResolver L) (login : Bytes) (values : List (DhtValue L)) :
    Heard resolver login values (after ((listen_callback login values false).run resolver)) ↔
      contacts (values.dropWhile fun value => decide (colon ∈ value.data)) = [] := by
  rw [after_listen_callback]
  have split := contacts_reached_append values
  constructor
  · intro heard
    have lengths := congrArg List.length heard.handled
    rw [storeAll_handled] at lengths
    simp only [List.length_append, List.length_map] at lengths
    have total := congrArg List.length split
    rw [List.length_append] at total
    exact List.eq_nil_of_length_eq_zero (by omega)
  · intro none
    rw [none, List.append_nil] at split
    rw [← split]
    refine ⟨?_, ?_, storeAll_handled resolver login _⟩
    · intro id last found
      rw [storeAll_resolve, Option.mem_def.mp found]
      rfl
    · intro id last found
      rw [storeAll_get, Option.mem_def.mp found]
      rfl

/-- A callback lets everybody be heard and no exception out exactly when every value's data
    has a ':'. What is stored and announced is complete exactly when no contact comes after
    the first value without one. -/
theorem bad_value_hides_iff (resolver : DhtIpResolver L) (login : Bytes) (values : List (DhtValue L)) :
    ((returns ((listen_callback login values false).run resolver) = true ∧
        Heard resolver login values (after ((listen_callback login values false).run resolver))) ↔
      ∀ value ∈ values, colon ∈ value.data) ∧
    (Heard resolver login values (after ((listen_callback login values false).run resolver)) ↔
      contacts (values.dropWhile fun value => decide (colon ∈ value.data)) = []) := by
  refine ⟨?_, heard_iff resolver login values⟩
  rw [heard_iff, listen_callback_run]
  constructor
  · rintro ⟨returned, -⟩
    by_contra bad
    rw [if_neg bad] at returned
    cases returned
  · intro addressed
    rw [if_pos addressed, List.dropWhile_eq_nil_iff.mpr (by simpa using addressed)]
    exact ⟨rfl, rfl⟩

/-- Whoever publishes an empty value hides the signed value of key 7 behind it. -/
def junkFirst : List (DhtValue Sample.libraries) := [⟨[], none⟩, ⟨Sample.destination_address, some (7 : UInt8)⟩]

theorem bad_value_hides :
    returns ((listen_callback [98, 111, 98] junkFirst false).run ⟨.empty, []⟩) = false ∧
      ¬ Heard ⟨.empty, []⟩ [98, 111, 98] junkFirst (after ((listen_callback [98, 111, 98] junkFirst false).run ⟨.empty, []⟩)) ∧
      (after ((listen_callback [98, 111, 98] junkFirst false).run ⟨.empty, []⟩)).maps.resolve [98, 111, 98] (7 : UInt8) = none := by
  refine ⟨by decide, ?_, by decide⟩
  rw [heard_iff]
  decide

end DhtIpResolver

/-! ## The callback in locked blocks -/

open DhtIpResolver

theorem listenBlocks_expired (login : Bytes) (values : List (DhtValue L)) : listenBlocks login true values = [] := by
  induction values with
  | nil => rfl
  | cons value values ih =>
    rw [listenBlocks, if_pos rfl]
    exact ih

theorem listen_callback_expired (login : Bytes) (values : List (DhtValue L)) (resolver : DhtIpResolver L) :
    (listen_callback login values true).run resolver = .ok true resolver := by
  unfold listen_callback
  induction values with
  | nil => rfl
  | cons value values ih =>
    rw [List.forM_cons]
    exact ih

theorem run_listenBlocks_reached (login : Bytes) (values : List (DhtValue L)) {resolvers : Resolvers L}
    {resolver : DhtIpResolver L} (same : resolver.maps = resolvers .dht_ip_resolver_) :
    (listenBlocks login false values).foldl LockedBlock.run resolvers =
        Function.update resolvers .dht_ip_resolver_ (resolver.storeAll login (contacts (reached values))).maps ∧
      (listenBlocks login false values).filterMap LockedBlock.contact =
        (contacts (reached values)).map fun contact => (login, L.getId contact.1) := by
  induction values generalizing resolvers resolver with
  | nil =>
    refine ⟨?_, rfl⟩
    show resolvers = Function.update resolvers .dht_ip_resolver_ resolver.maps
    rw [same, Function.update_eq_self]
  | cons value values ih =>
    rw [listenBlocks, if_neg Bool.false_ne_true]
    cases found : value.data.findIdx? (· == colon) with
    | none =>
      rw [reached_cons_of_not ((findIdx?_beq_eq_none_iff _ _).mp found)]
      refine ⟨?_, rfl⟩
      show resolvers = Function.update resolvers .dht_ip_resolver_ resolver.maps
      rw [same, Function.update_eq_self]
    | some pos =>
      have addressed : colon ∈ value.data := by
        by_contra absent
        rw [(findIdx?_beq_eq_none_iff _ _).mpr absent] at found
        cases found
      rw [contacts_reached_cons addressed]
      cases owner : value.owner with
      | none =>
        rw [contacts_unsigned owner, List.nil_append]
        exact ih same
      | some key =>
        have stored : (resolver.store login key value.data).maps =
            Function.update resolvers .dht_ip_resolver_ (resolver.store login key value.data).maps .dht_ip_resolver_ := by
          rw [Function.update_self]
        obtain ⟨left, announced⟩ := ih stored
        have three : [LockedBlock.put_address .dht_ip_resolver_ login (L.getId key) value.data,
            .put_public_key .dht_ip_resolver_ key, .listen_login_handler login (L.getId key)].foldl LockedBlock.run resolvers =
            Function.update resolvers .dht_ip_resolver_ (resolver.store login key value.data).maps := by
          simp [LockedBlock.run, store, same]
        rw [contacts_signed addressed owner]
        constructor
        · show (listenBlocks login false values).foldl LockedBlock.run
            ([LockedBlock.put_address .dht_ip_resolver_ login (L.getId key) value.data,
              .put_public_key .dht_ip_resolver_ key, .listen_login_handler login (L.getId key)].foldl
                LockedBlock.run resolvers) = _
          rw [three, left, Function.update_idem]
          rfl
        · exact congrArg ((login, L.getId key) :: ·) announced

/-- The blocks of a callback, run without another thread between them, are the callback. -/
theorem run_listenBlocks (login : Bytes) (expired : Bool) (values : List (DhtValue L)) {resolvers : Resolvers L}
    {resolver : DhtIpResolver L} (same : resolver.maps = resolvers .dht_ip_resolver_) :
    (listenBlocks login expired values).foldl LockedBlock.run resolvers =
        Function.update resolvers .dht_ip_resolver_ (after ((listen_callback login values expired).run resolver)).maps ∧
      (after ((listen_callback login values expired).run resolver)).handled =
        resolver.handled ++ (listenBlocks login expired values).filterMap LockedBlock.contact := by
  cases expired with
  | true =>
    rw [listenBlocks_expired, listen_callback_expired]
    refine ⟨?_, (List.append_nil _).symm⟩
    show resolvers = Function.update resolvers .dht_ip_resolver_ resolver.maps
    rw [same, Function.update_eq_self]
  | false =>
    obtain ⟨left, announced⟩ := run_listenBlocks_reached login values same
    rw [after_listen_callback, left, announced, storeAll_handled]
    exact ⟨rfl, rfl⟩

/-! ## Stored addresses read back -/

/-- The arguments of a `MetadataIpResolver::put`. -/
structure Put (L : Libraries) where
  login : Bytes
  public_key : L.PublicKey
  ip : Bytes
  port : UInt16

def MetadataIpResolver.putAll (resolver : MetadataIpResolver L) (puts : List (Put L)) : MetadataIpResolver L :=
  puts.foldl (fun resolver p => resolver.put p.login p.public_key p.ip p.port) resolver

/-- A value that some callback comes to. -/
structure Listened (L : Libraries) where
  login : Bytes
  expired : Bool
  value : DhtValue L

/-- The resolver after the callbacks came to these values, also to some that throw. -/
def DhtIpResolver.listenAll (resolver : DhtIpResolver L) (values : List (Listened L)) : DhtIpResolver L :=
  values.foldl (fun resolver v => after ((listen_value v.login v.expired v.value).run resolver)) resolver

/-- What `resolve` returned is read as this IP and port. -/
def ReadsBack (resolved : Option Bytes) (ip : Bytes) (port : UInt16) : Prop :=
  ∃ address, resolved = some address ∧ get_ip_and_port_from_address address = .ok (ip, port)

/-- The relay sends the datagram to this IP and port. -/
def relay_to (env : Environment L) (buffer ip : Bytes) (port : UInt16) : Program L Unit := do
  let address ← library .system_error (L.make_address ip)
  send_to env .relay buffer ⟨address, port⟩

/-- A `put` for another login or key leaves the address of this one. -/
theorem putAll_resolve (resolver : MetadataIpResolver L) {login : Bytes} {id : L.InfoHash} {puts : List (Put L)}
    (others : ∀ p ∈ puts, ¬ (p.login = login ∧ L.getId p.public_key = id)) :
    (resolver.putAll puts).resolve login id = resolver.resolve login id := by
  induction puts generalizing resolver with
  | nil => rfl
  | cons p puts ih =>
    obtain ⟨other, rest⟩ := List.forall_mem_cons.mp others
    show ((resolver.put p.login p.public_key p.ip p.port).putAll puts).resolve login id = _
    rw [ih _ rest, MetadataIpResolver.resolve_put, if_neg]
    rintro ⟨rfl, rfl⟩
    exact other ⟨rfl, rfl⟩

theorem listen_value_resolve (resolver : DhtIpResolver L) {login : Bytes} {id : L.InfoHash} {v : Listened L}
    (other : ∀ owner ∈ v.value.owner, ¬ (v.login = login ∧ L.getId owner = id)) :
    (after ((listen_value v.login v.expired v.value).run resolver)).maps.resolve login id =
      resolver.maps.resolve login id := by
  cases late : v.expired with
  | true => rfl
  | false =>
    rw [listen_value_run]
    by_cases addressed : colon ∈ v.value.data
    · rw [if_pos addressed, after_ok]
      cases owner : v.value.owner with
      | none =>
        rw [contacts_unsigned owner]
        rfl
      | some key =>
        have differs := other key owner
        rw [contacts_signed addressed owner]
        show (resolver.store v.login key v.value.data).maps.resolve login id = _
        rw [store, MetadataIpResolver.resolve_put_public_key, MetadataIpResolver.resolve_put_address, if_neg]
        rintro ⟨rfl, rfl⟩
        exact differs ⟨rfl, rfl⟩
    · rw [if_neg addressed, after_error]

theorem listenAll_resolve (resolver : DhtIpResolver L) {login : Bytes} {id : L.InfoHash} {values : List (Listened L)}
    (others : ∀ v ∈ values, ∀ owner ∈ v.value.owner, ¬ (v.login = login ∧ L.getId owner = id)) :
    (resolver.listenAll values).maps.resolve login id = resolver.maps.resolve login id := by
  induction values generalizing resolver with
  | nil => rfl
  | cons v values ih =>
    obtain ⟨other, rest⟩ := List.forall_mem_cons.mp others
    exact (ih _ rest).trans (listen_value_resolve resolver other)

/-- The relay takes the address that it resolves apart as the sender does. -/
theorem relay_message_resolved (env : Environment L) (buffer : Bytes) {message : Message} {s : Step L}
    {public_key : L.PublicKey} {address ip : Bytes} {port : UInt16}
    (parsed : L.publicKey message.destination_public_key = some public_key)
    (resolved : s.node.metadata_ip_resolver_.resolve message.destination_login (L.getId public_key) = some address)
    (read : get_ip_and_port_from_address address = .ok (ip, port)) :
    (relay_message env buffer message).run s = (relay_to env buffer ip port).run s := by
  unfold relay_message relay_to
  simp only [EStateM.run_bind, EStateM.run_get, run_library, parsed, resolved, run_ofExcept, read]

/-- An address put together from an IP without ':' and a port is read back as they are, by
    the sender and by the relay, whatever is stored afterwards for other logins or keys:
    one that `MetadataIpResolver::put` stores, and one that `put_signed` publishes and a
    callback stores. -/
theorem stored_address_reads_back {ip : Bytes} (plain : colon ∉ ip) (port : UInt16) :
    (∀ (resolver : MetadataIpResolver L) (login : Bytes) (public_key : L.PublicKey) (later : List (Put L)),
      (∀ p ∈ later, ¬ (p.login = login ∧ L.getId p.public_key = L.getId public_key)) →
      ReadsBack (((resolver.put login public_key ip port).putAll later).resolve login (L.getId public_key)) ip port ∧
      ∀ (env : Environment L) (buffer : Bytes) (message : Message) (s : Step L) (key : L.PublicKey),
        s.node.metadata_ip_resolver_ = (resolver.put login public_key ip port).putAll later →
        message.destination_login = login → L.publicKey message.destination_public_key = some key →
        L.getId key = L.getId public_key →
        (relay_message env buffer message).run s = (relay_to env buffer ip port).run s) ∧
    ∀ (resolver : DhtIpResolver L) (login : Bytes) (owner : L.PublicKey) (interval : Int) (later : List (Listened L)),
      (∀ v ∈ later, ∀ other ∈ v.value.owner, ¬ (v.login = login ∧ L.getId other = L.getId owner)) →
      ReadsBack (((resolver.listenAll
        (⟨login, false, ⟨(Record.put_signed login ip port interval).address, some owner⟩⟩ :: later)).maps.resolve login
          (L.getId owner))) ip port := by
  have read := get_ip_and_port_from_address_eq plain port
  constructor
  · intro resolver login public_key later others
    have resolved := putAll_resolve (resolver.put login public_key ip port) others
    rw [MetadataIpResolver.resolve_put_self] at resolved
    refine ⟨⟨_, resolved, read⟩, ?_⟩
    intro env buffer message s key same named parsed sameId
    refine relay_message_resolved env buffer parsed ?_ read
    rw [same, named, sameId, resolved]
    rfl
  · intro resolver login owner interval later others
    have addressed : colon ∈ (Record.put_signed login ip port interval).address := by simp [Record.put_signed]
    refine ⟨(Record.put_signed login ip port interval).address, ?_, read⟩
    refine (listenAll_resolve _ others).trans ?_
    show (after ((listen_value login false ⟨(Record.put_signed login ip port interval).address, some owner⟩).run
      resolver)).maps.resolve login (L.getId owner) = _
    rw [listen_value_run, if_pos addressed, after_ok, contacts_signed addressed rfl]
    simp [storeAll, store, MetadataIpResolver.resolve_put_public_key, MetadataIpResolver.resolve_put_address]

/-- The address that key 7 stored for bob, after another key and another login stored
    theirs. -/
theorem stored_address_reads_back_sample :
    ReadsBack (((MetadataIpResolver.empty.put [98, 111, 98] (7 : UInt8) Sample.message.source_ip 3001).putAll
      [⟨[98, 111, 98], (9 : UInt8), [49], 1⟩, ⟨[97, 110, 110], (7 : UInt8), [50], 2⟩] :
        MetadataIpResolver Sample.libraries).resolve [98, 111, 98] (7 : UInt8)) Sample.message.source_ip 3001 :=
  ((stored_address_reads_back (L := Sample.libraries) (show colon ∉ Sample.message.source_ip by decide) 3001).1
    .empty [98, 111, 98] (7 : UInt8) [⟨[98, 111, 98], (9 : UInt8), [49], 1⟩, ⟨[97, 110, 110], (7 : UInt8), [50], 2⟩]
    (by decide)).1

end P2PMessenger
