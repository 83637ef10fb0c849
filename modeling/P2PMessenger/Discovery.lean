import P2PMessenger.Ledger

/-!
Messengers that find each other in the DHT. Every messenger publishes its address under the
hash of its login, signed, first from its constructor and then from its timer. Anybody else
may publish what they like, but not with a messenger's key for its owner. Datagrams, calls
and timers come as they come.
-/
namespace P2PMessenger
open Octets Throwing Refinement Runs

variable {ν : Type} {L : Libraries}

/-- The nodes that run the program, and `dht::InfoHash::get`. -/
structure Directory (ν : Type) (L : Libraries) where
  config : ν → Config L
  get : Bytes → L.InfoHash

/-- The messengers, and every value that was ever published, with the key it is under. -/
structure Discovery (ν : Type) (L : Libraries) where
  messengers : ν → Messenger L
  dht : List (L.InfoHash × DhtValue L)

def Discovery.initial (ν : Type) (L : Libraries) : Discovery ν L := ⟨fun _ => .initial L, []⟩

inductive Occasion (ν : Type) (L : Libraries) where
  /-- A messenger's `node_.putSigned`. -/
  | publish (n : ν)
  /-- Somebody else publishes a value. -/
  | plant (key : L.InfoHash) (value : DhtValue L)
  | work (n : ν) (task : Task L)

/-- What the constructor of `P2PMessengerImpl` has published, and the timer after it. -/
def Config.record (config : Config L) : Record := .put_signed config.my_login_ config.my_ip_ config.my_port_ 60

/-- The signed value of a messenger. -/
def Config.value (config : Config L) : DhtValue L := ⟨config.record.address, some config.public_key⟩

def discover [DecidableEq ν] (directory : Directory ν L) (s : Discovery ν L) : Occasion ν L → Option (Discovery ν L)
  | .publish n =>
    let config := directory.config n
    some { s with dht := s.dht ++ [(directory.get config.record.login, config.value)] }
  | .plant key value => some { s with dht := s.dht ++ [(key, value)] }
  | .work n task =>
    (work (directory.config n) (s.messengers n) task).map fun worked =>
      { s with messengers := Function.update s.messengers n worked.1 }

/-- The DHT checks signatures, so a value of a messenger's key comes from a messenger. A
    callback gets values that are stored under the hash of its login. -/
def Directory.Genuine (directory : Directory ν L) (s : Discovery ν L) : Occasion ν L → Prop
  | .publish _ => True
  | .plant _ value => ∀ a, value.owner ≠ some (directory.config a).public_key
  | .work _ (.listen_callback login values _) => ∀ value ∈ values, (directory.get login, value) ∈ s.dht
  | .work _ _ => True

/-- A messenger with this key publishes this address under this hash. -/
def Directory.Publishes (directory : Directory ν L) (public_key : L.PublicKey) (key : L.InfoHash) (address : Bytes) : Prop :=
  ∃ a, (directory.config a).public_key = public_key ∧ key = directory.get (directory.config a).my_login_ ∧
    address = MetadataIpResolver.addressOf (directory.config a).my_ip_ (directory.config a).my_port_

/-- Every messenger has a ledger whose entries from the DHT were published there, and what
    was published with a messenger's key is what a messenger publishes. -/
structure Discovery.Sound (directory : Directory ν L) (s : Discovery ν L) : Prop where
  dht : ∀ key value a, (key, value) ∈ s.dht → value.owner = some (directory.config a).public_key →
    directory.Publishes (directory.config a).public_key key value.data
  ledgers : ∀ n, ∃ ledger : Ledger L, ledger.Describes (s.messengers n) ∧
    ∀ login public_key address, .stored .dht_ip_resolver_ login public_key address ∈ ledger →
      (directory.get login, (⟨address, some public_key⟩ : DhtValue L)) ∈ s.dht

/-- A value more in the DHT takes nothing from the ledgers. -/
theorem Discovery.Sound.publish {directory : Directory ν L} {s : Discovery ν L} (sound : s.Sound directory)
    {key : L.InfoHash} {value : DhtValue L}
    (genuine : ∀ a, value.owner = some (directory.config a).public_key →
      directory.Publishes (directory.config a).public_key key value.data) :
    Discovery.Sound directory { s with dht := s.dht ++ [(key, value)] } where
  dht key' value' a member owned := by
    rcases List.mem_append.mp member with old | new
    · exact sound.dht key' value' a old owned
    · cases List.mem_singleton.mp new
      exact genuine a owned
  ledgers n := by
    obtain ⟨ledger, describes, listed⟩ := sound.ledgers n
    exact ⟨ledger, describes, fun login public_key address member => List.mem_append_left _ (listed _ _ _ member)⟩

/-- What a messenger found in the DHT under a messenger's id was published by one with
    its key. -/
theorem Discovery.Sound.address {directory : Directory ν L} {s : Discovery ν L} (sound : s.Sound directory)
    (ids : L.DistinctIds) (n a : ν) {login address : Bytes}
    (found : (s.messengers n).dht_ip_resolver_.maps.resolve login (L.getId (directory.config a).public_key) = some address) :
    directory.Publishes (directory.config a).public_key (directory.get login) address := by
  obtain ⟨ledger, describes, listed⟩ := sound.ledgers n
  have known := describes.addresses .dht_ip_resolver_ login (L.getId (directory.config a).public_key)
  rw [Messenger.maps, found] at known
  obtain ⟨fact, member, told⟩ := latest_eq_some known.symm
  obtain ⟨public_key, rfl, same⟩ := Fact.key_of_address told
  obtain rfl := ids same
  exact sound.dht _ _ a (listed _ _ _ member) rfl

variable [DecidableEq ν]

theorem Discovery.Sound.work {directory : Directory ν L} {s t : Discovery ν L} {n : ν} {task : Task L}
    (sound : s.Sound directory) (genuine : directory.Genuine s (.work n task))
    (step : discover directory s (.work n task) = some t) : t.Sound directory := by
  obtain ⟨⟨later, effects⟩, taken, rfl⟩ := Option.map_eq_some_iff.mp step
  refine ⟨sound.dht, fun other => ?_⟩
  by_cases same : other = n
  · subst same
    obtain ⟨ledger, describes, listed⟩ := sound.ledgers other
    obtain ⟨next, recorded, described⟩ := record_of_work describes taken
    obtain ⟨facts, rfl, learnt⟩ := record_adds recorded
    refine ⟨ledger ++ facts, by simpa using described, fun login public_key address member => ?_⟩
    rcases List.mem_append.mp member with old | new
    · exact listed login public_key address old
    · obtain ⟨values, rfl, brought⟩ := learnt login public_key address new
      exact genuine _ brought
  · obtain ⟨ledger, describes, listed⟩ := sound.ledgers other
    refine ⟨ledger, ?_, listed⟩
    simpa [Function.update_of_ne same] using describes

theorem Discovery.Sound.discover {directory : Directory ν L} {s t : Discovery ν L} {occasion : Occasion ν L}
    (sound : s.Sound directory) (genuine : directory.Genuine s occasion)
    (step : P2PMessenger.discover directory s occasion = some t) : t.Sound directory := by
  cases occasion with
  | publish n =>
    obtain rfl := Option.some.inj step
    refine sound.publish fun a owned => ⟨n, Option.some.inj owned, rfl, rfl⟩
  | plant key value =>
    obtain rfl := Option.some.inj step
    exact sound.publish fun a owned => absurd owned (genuine a)
  | work n task => exact sound.work genuine step

end P2PMessenger
