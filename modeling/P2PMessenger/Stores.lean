import P2PMessenger.Addresses

/-!
What a node remembers: the addresses and keys of `metadata_ip_resolver.cpp` and the
conversations of `chat_history.cpp`. A map is the function that looks a key up in it.
-/
namespace P2PMessenger
open Octets

variable {L : Libraries}

structure MetadataIpResolver (L : Libraries) where
  login_to_public_key_id_to_address_ : Bytes → Option (L.InfoHash → Option Bytes)
  public_key_id_to_public_key_ : L.InfoHash → Option L.PublicKey

namespace MetadataIpResolver

def empty : MetadataIpResolver L := ⟨fun _ => none, fun _ => none⟩

/-- The address string that is stored. -/
def addressOf (ip : Bytes) (port : UInt16) : Bytes := ip ++ [colon] ++ to_string port.toNat

/-- The first locked block of `put`. -/
def put_address (resolver : MetadataIpResolver L) (login : Bytes) (id : L.InfoHash) (address : Bytes) :
    MetadataIpResolver L :=
  let addresses := (resolver.login_to_public_key_id_to_address_ login).getD (fun _ => none)
  { resolver with
    login_to_public_key_id_to_address_ :=
      Function.update resolver.login_to_public_key_id_to_address_ login (some (Function.update addresses id (some address))) }

/-- The second locked block of `put`. -/
def put_public_key (resolver : MetadataIpResolver L) (public_key : L.PublicKey) : MetadataIpResolver L :=
  { resolver with
    public_key_id_to_public_key_ :=
      Function.update resolver.public_key_id_to_public_key_ (L.getId public_key) (some public_key) }

def put (resolver : MetadataIpResolver L) (login : Bytes) (public_key : L.PublicKey) (ip : Bytes) (port : UInt16) :
    MetadataIpResolver L :=
  (resolver.put_address login (L.getId public_key) (addressOf ip port)).put_public_key public_key

def resolve (resolver : MetadataIpResolver L) (login : Bytes) (public_key_id : L.InfoHash) : Option Bytes :=
  match resolver.login_to_public_key_id_to_address_ login with
  | none => none
  | some addresses => addresses public_key_id

def get_public_key_by_public_key_id (resolver : MetadataIpResolver L) (public_key_id : L.InfoHash) :
    Option L.PublicKey :=
  resolver.public_key_id_to_public_key_ public_key_id

theorem resolve_put_address (resolver : MetadataIpResolver L) (login other : Bytes) (public_key_id id : L.InfoHash)
    (address : Bytes) :
    (resolver.put_address login public_key_id address).resolve other id =
      if other = login ∧ id = public_key_id then some address else resolver.resolve other id := by
  simp only [put_address, resolve, Function.update_apply]
  by_cases sameLogin : other = login
  · subst sameLogin
    by_cases sameId : id = public_key_id
    · simp [sameId]
    · cases known : resolver.login_to_public_key_id_to_address_ other <;> simp [sameId]
  · simp [sameLogin]

theorem resolve_put_public_key (resolver : MetadataIpResolver L) (public_key : L.PublicKey) (login : Bytes)
    (id : L.InfoHash) : (resolver.put_public_key public_key).resolve login id = resolver.resolve login id := rfl

theorem get_put_address (resolver : MetadataIpResolver L) (login address : Bytes) (public_key_id id : L.InfoHash) :
    (resolver.put_address login public_key_id address).get_public_key_by_public_key_id id =
      resolver.get_public_key_by_public_key_id id := rfl

theorem get_put_public_key (resolver : MetadataIpResolver L) (public_key : L.PublicKey) (id : L.InfoHash) :
    (resolver.put_public_key public_key).get_public_key_by_public_key_id id =
      if id = L.getId public_key then some public_key else resolver.get_public_key_by_public_key_id id := by
  simp only [put_public_key, get_public_key_by_public_key_id, Function.update_apply]

theorem resolve_put (resolver : MetadataIpResolver L) (login other : Bytes) (public_key : L.PublicKey) (ip : Bytes)
    (port : UInt16) (id : L.InfoHash) :
    (resolver.put login public_key ip port).resolve other id =
      if other = login ∧ id = L.getId public_key then some (addressOf ip port) else resolver.resolve other id := by
  rw [put, resolve_put_public_key, resolve_put_address]

theorem resolve_put_self (resolver : MetadataIpResolver L) (login : Bytes) (public_key : L.PublicKey) (ip : Bytes)
    (port : UInt16) :
    (resolver.put login public_key ip port).resolve login (L.getId public_key) = some (addressOf ip port) := by
  rw [resolve_put, if_pos ⟨rfl, rfl⟩]

/-- What is put first can be told from the resolver. -/
theorem put_empty_inj {login other : Bytes} {public_key public_keyOther : L.PublicKey} {ip : Bytes} {port : UInt16}
    (same : empty.put login public_key ip port = empty.put other public_keyOther ip port) :
    login = other ∧ public_key = public_keyOther := by
  have key := congrArg (·.public_key_id_to_public_key_ (L.getId public_key)) same
  have address := congrArg (·.resolve login (L.getId public_key)) same
  simp only [put, put_public_key, put_address, empty, Function.update_apply, if_true] at key
  simp only [resolve_put] at address
  constructor
  · by_contra differ
    simp [differ, resolve, empty] at address
  · split_ifs at key with ids
    exact Option.some.inj key

/-- The ports of two addresses with one IP differ when the addresses do. -/
theorem addressOf_inj (ip : Bytes) {one two : UInt16} : addressOf ip one = addressOf ip two ↔ one = two := by
  constructor
  · intro same
    have texts := List.append_cancel_left same
    exact UInt16.toNat_inj.mp (to_string_injective texts)
  · rintro rfl
    rfl

end MetadataIpResolver

structure ChatHistory (L : Libraries) where
  chat_history_ : L.InfoHash → Option (List (Bytes × Bytes))

namespace ChatHistory

def empty : ChatHistory L := ⟨fun _ => none⟩

def append (history : ChatHistory L) (public_key_id : L.InfoHash) (login message : Bytes) : ChatHistory L where
  chat_history_ :=
    Function.update history.chat_history_ public_key_id
      (some ((history.chat_history_ public_key_id).getD [] ++ [(login, message)]))

def get (history : ChatHistory L) (public_key_id : L.InfoHash) : Option (List (Bytes × Bytes)) :=
  history.chat_history_ public_key_id

/-- The entries under a key id, none when there is no conversation. -/
def entries (history : ChatHistory L) (public_key_id : L.InfoHash) : List (Bytes × Bytes) :=
  (history.get public_key_id).getD []

theorem entries_append (history : ChatHistory L) (public_key_id id : L.InfoHash) (login message : Bytes) :
    (history.append public_key_id login message).entries id =
      if id = public_key_id then history.entries id ++ [(login, message)] else history.entries id := by
  simp only [entries, get, append, Function.update_apply]
  by_cases same : id = public_key_id
  · subst same
    simp
  · simp [same]

end ChatHistory

end P2PMessenger
