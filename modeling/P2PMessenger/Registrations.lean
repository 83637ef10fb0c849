import P2PMessenger.Octets
import P2PMessenger.Runs

/-!
`DhtIpResolver::listen` and the tokens it keeps. A call looks for a token, asks the DHT's
node, and stores the token it got; between its two locked blocks other calls run. The
destructor cancels what it has tokens of.
-/
namespace P2PMessenger
open Octets Runs

/-- A listener of the DHT's node, with the login that its callback has captured. -/
structure Registration (κ : Type) where
  key : κ
  token : Nat
  login : Bytes
  deriving DecidableEq

/-- Where a call is. -/
inductive Asking where
  | checking (login : Bytes)
  | listening (login : Bytes)
  | storing (login : Bytes) (token : Nat)
  /-- Whether the call has registered a listener. -/
  | returned (login : Bytes) (registered : Bool)
  deriving DecidableEq

structure Registry (κ : Type) where
  login_to_token_ : List (Bytes × Nat)
  node_ : List (Registration κ)
  /-- The token that the node gives out next. -/
  next : Nat
  calls : List Asking
  deriving DecidableEq

variable {κ : Type} (hash : Bytes → κ)

def Registry.initial (κ : Type) : Registry κ := ⟨[], [], 0, []⟩

inductive RegistryMove where
  | call (login : Bytes)
  /-- The call with this number takes its next step. -/
  | advance (i : Nat)
  deriving DecidableEq

namespace Registry

/-- The logins with a token. -/
def logins (s : Registry κ) : List Bytes := s.login_to_token_.map (·.1)

/-- `login_to_token_[login] = token`. -/
def store (s : Registry κ) (login : Bytes) (token : Nat) : Registry κ :=
  { s with login_to_token_ := (login, token) :: s.login_to_token_.filter fun entry => entry.1 ≠ login }

def goOn (s : Registry κ) (i : Nat) (call : Asking) : Registry κ := { s with calls := s.calls.set i call }

/-- One step of a call of `listen`. -/
def advance (s : Registry κ) (i : Nat) : Asking → Option (Registry κ)
  | .checking login => some (s.goOn i (if s.logins.contains login then .returned login false else .listening login))
  | .listening login =>
    some (({ s with node_ := s.node_ ++ [⟨hash login, s.next, login⟩], next := s.next + 1 } : Registry κ).goOn i
      (.storing login s.next))
  | .storing login token => some ((s.store login token).goOn i (.returned login true))
  | .returned _ _ => none

/-- `cancelListen` for every token, as the destructor calls it. -/
def cancelled [DecidableEq κ] (s : Registry κ) : List (Registration κ) :=
  s.login_to_token_.foldl
    (fun node_ entry => node_.filter fun r => ¬ (r.key = hash entry.1 ∧ r.token = entry.2)) s.node_

end Registry

def register (s : Registry κ) : RegistryMove → Option (Registry κ)
  | .call login => some { s with calls := s.calls ++ [.checking login] }
  | .advance i => (s.calls[i]?).bind (s.advance hash i)

namespace Asking

def login : Asking → Bytes
  | checking login | listening login | storing login _ | returned login _ => login

def isReturned : Asking → Bool
  | returned _ _ => true
  | _ => false

/-- The call has registered a listener for the login. -/
def registered (login : Bytes) : Asking → Bool
  | storing other _ => other = login
  | returned other registered => other = login && registered
  | _ => false

def isStoring (login : Bytes) : Asking → Bool
  | storing other _ => other = login
  | _ => false

/-- The call has found no token for the login, and has not stored one so far. -/
def pending (login : Bytes) : Asking → Bool
  | listening other | storing other _ => other = login
  | _ => false

def unreturned (login : Bytes) (call : Asking) : Bool := call.login = login && !call.isReturned

end Asking

/-- The calls for one login come one after the other. -/
def OneByOne (s : Registry κ) : RegistryMove → Prop
  | .call login => ∀ call ∈ s.calls, call.login = login → call.isReturned = true
  | .advance _ => True

instance decOneByOne (s : Registry κ) : (move : RegistryMove) → Decidable (OneByOne s move)
  | .call login => inferInstanceAs (Decidable (∀ call ∈ s.calls, call.login = login → call.isReturned = true))
  | .advance _ => isTrue trivial

namespace Registry

/-- The listeners for a login. -/
def count (node_ : List (Registration κ)) (login : Bytes) : Nat := node_.countP fun r => r.login = login

/-- Every token belongs to a listener, and whoever has none so far is about to get one. -/
structure Sound (s : Registry κ) : Prop where
  keyed : ∀ r ∈ s.node_, r.key = hash r.login ∧ r.token < s.next
  tokens : (s.node_.map (·.token)).Nodup
  held : ∀ entry ∈ s.login_to_token_, ∃ r ∈ s.node_, r.login = entry.1 ∧ r.token = entry.2
  logins : s.logins.Nodup
  storing : ∀ login token, .storing login token ∈ s.calls → ∃ r ∈ s.node_, r.login = login ∧ r.token = token
  returned : ∀ login registered, .returned login registered ∈ s.calls → login ∈ s.logins
  counted : ∀ login, count s.node_ login = s.calls.countP (Asking.registered login)

theorem sound_initial : Sound hash (Registry.initial κ) where
  keyed := by simp [Registry.initial]
  tokens := List.nodup_nil
  held := by simp [Registry.initial]
  logins := List.nodup_nil
  storing := by simp [Registry.initial]
  returned := by simp [Registry.initial]
  counted _ := rfl

theorem mem_logins_store (s : Registry κ) (login : Bytes) (token : Nat) (other : Bytes) :
    other ∈ (s.store login token).logins ↔ other = login ∨ other ∈ s.logins := by
  unfold Registry.logins Registry.store
  simp only [List.map_cons, List.mem_cons, List.mem_map, List.mem_filter, decide_eq_true_eq]
  constructor
  · rintro (same | ⟨entry, ⟨member, -⟩, rfl⟩)
    · exact .inl same
    · exact .inr ⟨entry, member, rfl⟩
  · rintro (same | ⟨entry, member, rfl⟩)
    · exact .inl same
    · by_cases same : entry.1 = login
      · exact .inl same
      · exact .inr ⟨entry, ⟨member, same⟩, rfl⟩

/-- The calls of a kind after one of them went on. -/
theorem countP_set {calls : List Asking} {i : Nat} {old : Asking} (there : calls[i]? = some old) (call : Asking)
    (kind : Asking → Bool) :
    (calls.set i call).countP kind + (if kind old then 1 else 0) = calls.countP kind + if kind call then 1 else 0 := by
  obtain ⟨inside, rfl⟩ := List.getElem?_eq_some_iff.mp there
  rw [List.countP_set inside]
  by_cases told : kind calls[i] = true
  · have some_there : 0 < calls.countP kind := List.countP_pos_iff.mpr ⟨_, List.getElem_mem inside, told⟩
    rw [if_pos told]
    omega
  · rw [if_neg told]
    omega

theorem countP_set_le {calls : List Asking} {i : Nat} {old call : Asking} (there : calls[i]? = some old)
    {kind : Asking → Bool} (less : kind call = true → kind old = true) :
    (calls.set i call).countP kind ≤ calls.countP kind := by
  have balance := countP_set there call kind
  by_cases told : kind call = true
  · rw [if_pos told, if_pos (less told)] at balance
    omega
  · rw [if_neg told] at balance
    omega

variable {hash} {s t : Registry κ}

/-- A call that goes on to something that is neither stored nor registered. -/
theorem Sound.goOn (sound : Sound hash s) {i : Nat} {old call : Asking} (there : s.calls[i]? = some old)
    (same : ∀ login, Asking.registered login call = Asking.registered login old)
    (storing : ∀ login token, call ≠ .storing login token)
    (returned : ∀ login registered, call = .returned login registered → login ∈ s.logins) : Sound hash (s.goOn i call) where
  keyed := sound.keyed
  tokens := sound.tokens
  held := sound.held
  logins := sound.logins
  storing login token member := by
    rcases List.mem_or_eq_of_mem_set member with before | now
    · exact sound.storing login token before
    · exact absurd now.symm (storing login token)
  returned login registered member := by
    rcases List.mem_or_eq_of_mem_set member with before | now
    · exact sound.returned login registered before
    · exact returned login registered now.symm
  counted login := by
    have balance := countP_set there call (Asking.registered login)
    rw [same login] at balance
    show count s.node_ login = (s.calls.set i call).countP _
    rw [sound.counted login]
    omega

/-- The node takes a listener and gives out a token. -/
theorem Sound.listen (sound : Sound hash s) {i : Nat} {login : Bytes} (there : s.calls[i]? = some (.listening login)) :
    Sound hash (({ s with node_ := s.node_ ++ [⟨hash login, s.next, login⟩], next := s.next + 1 } : Registry κ).goOn i
      (.storing login s.next)) where
  keyed r member := by
    rcases List.mem_append.mp member with before | now
    · exact ⟨(sound.keyed r before).1, Nat.lt_succ_of_lt (sound.keyed r before).2⟩
    · obtain rfl := List.mem_singleton.mp now
      exact ⟨rfl, Nat.lt_succ_self _⟩
  tokens := by
    show ((s.node_ ++ [(⟨hash login, s.next, login⟩ : Registration κ)]).map (·.token)).Nodup
    rw [List.map_append]
    refine List.nodup_append'.mpr ⟨sound.tokens, List.nodup_singleton _, ?_⟩
    intro token member now
    obtain ⟨r, inside, rfl⟩ := List.mem_map.mp member
    exact absurd (List.mem_singleton.mp now) (Nat.ne_of_lt (sound.keyed r inside).2)
  held entry member := by
    obtain ⟨r, inside, same⟩ := sound.held entry member
    exact ⟨r, List.mem_append_left _ inside, same⟩
  logins := sound.logins
  storing other token member := by
    rcases List.mem_or_eq_of_mem_set member with before | now
    · obtain ⟨r, inside, same⟩ := sound.storing other token before
      exact ⟨r, List.mem_append_left _ inside, same⟩
    · cases now
      exact ⟨_, List.mem_append_right _ (List.mem_singleton_self _), rfl, rfl⟩
  returned other registered member := by
    rcases List.mem_or_eq_of_mem_set member with before | now
    · exact sound.returned other registered before
    · cases now
  counted other := by
    have balance := countP_set there (.storing login s.next) (Asking.registered other)
    have before := sound.counted other
    show count (s.node_ ++ [⟨hash login, s.next, login⟩]) other = (s.calls.set i (.storing login s.next)).countP _
    unfold count at before ⊢
    rw [List.countP_append, List.countP_singleton, before]
    simp only [Asking.registered] at balance
    simpa using balance.symm

/-- A token is stored, whatever was there before. -/
theorem Sound.store (sound : Sound hash s) {i : Nat} {login : Bytes} {token : Nat}
    (there : s.calls[i]? = some (.storing login token)) :
    Sound hash ((s.store login token).goOn i (.returned login true)) where
  keyed := sound.keyed
  tokens := sound.tokens
  held entry member := by
    rcases List.mem_cons.mp member with rfl | before
    · exact sound.storing login token (List.mem_of_getElem? there)
    · exact sound.held entry (List.mem_filter.mp before).1
  logins := by
    show (((login, token) :: s.login_to_token_.filter fun entry => entry.1 ≠ login).map (·.1)).Nodup
    rw [List.map_cons, List.nodup_cons]
    constructor
    · intro member
      obtain ⟨entry, inside, same⟩ := List.mem_map.mp member
      exact absurd same (of_decide_eq_true (List.mem_filter.mp inside).2)
    · exact (List.Sublist.map _ List.filter_sublist).nodup sound.logins
  storing other found member := by
    rcases List.mem_or_eq_of_mem_set member with before | now
    · exact sound.storing other found before
    · cases now
  returned other registered member := by
    refine (mem_logins_store s login token other).mpr ?_
    rcases List.mem_or_eq_of_mem_set member with before | now
    · exact .inr (sound.returned other registered before)
    · cases now
      exact .inl rfl
  counted other := by
    have balance := countP_set there (.returned login true) (Asking.registered other)
    show count s.node_ other = (s.calls.set i (.returned login true)).countP _
    rw [sound.counted other]
    simp only [Asking.registered, Bool.and_true] at balance
    exact (Nat.add_right_cancel balance).symm

theorem Sound.step (sound : Sound hash s) {move : RegistryMove} (step : register hash s move = some t) : Sound hash t := by
  cases move with
  | call login =>
    cases step
    refine ⟨sound.keyed, sound.tokens, sound.held, sound.logins, fun other token member => ?_, fun other registered member => ?_,
      fun other => ?_⟩
    · rcases List.mem_append.mp member with before | now
      · exact sound.storing other token before
      · cases List.mem_singleton.mp now
    · rcases List.mem_append.mp member with before | now
      · exact sound.returned other registered before
      · cases List.mem_singleton.mp now
    · show count s.node_ other = (s.calls ++ [Asking.checking login]).countP _
      rw [List.countP_append, sound.counted other]
      rfl
  | advance i =>
    obtain ⟨call, there, went⟩ := Option.bind_eq_some_iff.mp step
    cases call with
    | checking login =>
      cases went
      refine sound.goOn there (fun other => ?_) (fun other token => ?_) fun other registered same => ?_
      · split_ifs <;> simp [Asking.registered]
      · split_ifs <;> simp
      · split_ifs at same with found
        cases same
        exact List.contains_iff_mem.mp found
    | listening login =>
      cases went
      exact sound.listen there
    | storing login token =>
      cases went
      exact sound.store there
    | returned login registered => cases went

/-! ### The destructor -/

/-- Listeners of one token are one listener. -/
theorem Sound.unique (sound : Sound hash s) {one two : Registration κ} (first : one ∈ s.node_) (second : two ∈ s.node_)
    (same : one.token = two.token) : one = two :=
  List.inj_on_of_nodup_map sound.tokens first second same

theorem Sound.unique_token (sound : Sound hash s) {login : Bytes} {one two : Nat} (first : (login, one) ∈ s.login_to_token_)
    (second : (login, two) ∈ s.login_to_token_) : one = two :=
  (Prod.mk.inj (List.inj_on_of_nodup_map sound.logins first second rfl)).2

section
variable [DecidableEq κ]

/-- A listener that the destructor cancels. -/
def Cancels (hash : Bytes → κ) (s : Registry κ) (r : Registration κ) : Bool :=
  s.login_to_token_.any fun entry => r.key = hash entry.1 ∧ r.token = entry.2

theorem cancelled_eq (s : Registry κ) : s.cancelled hash = s.node_.filter fun r => !Cancels hash s r := by
  unfold cancelled Cancels
  generalize s.login_to_token_ = entries, s.node_ = node_
  induction entries generalizing node_ with
  | nil => simp
  | cons entry entries ih =>
    rw [List.foldl_cons, ih, List.filter_filter]
    refine List.filter_congr fun r _ => ?_
    rw [List.any_cons, Bool.not_or, Bool.and_comm, ← decide_not]

/-- A cancelled listener has the token of its login. -/
theorem Sound.cancels (sound : Sound hash s) {r : Registration κ} (member : r ∈ s.node_) :
    Cancels hash s r = true ↔ (r.login, r.token) ∈ s.login_to_token_ := by
  unfold Cancels
  rw [List.any_eq_true]
  constructor
  · rintro ⟨entry, listed, told⟩
    obtain ⟨-, token⟩ := of_decide_eq_true told
    obtain ⟨other, inside, login, same⟩ := sound.held entry listed
    obtain rfl := sound.unique inside member (same.trans token.symm)
    rw [login, same]
    exact listed
  · intro listed
    exact ⟨_, listed, decide_eq_true ⟨(sound.keyed r member).1, rfl⟩⟩

/-- The destructor leaves all listeners for a login but one. -/
theorem Sound.count_cancelled (sound : Sound hash s) (login : Bytes) :
    count s.node_ login = count (s.cancelled hash) login + if login ∈ s.logins then 1 else 0 := by
  have split := List.countP_eq_countP_filter_add s.node_ (fun r => decide (r.login = login)) fun r => !Cancels hash s r
  rw [cancelled_eq]
  unfold count
  rw [split]
  congr 1
  simp only [Bool.not_not, List.countP_filter]
  by_cases listed : login ∈ s.logins
  · obtain ⟨⟨name, token⟩, entry, rfl⟩ := List.mem_map.mp listed
    obtain ⟨held, inside, own, same⟩ := sound.held _ entry
    have exactly : s.node_.countP (fun r => decide (r.login = name) && Cancels hash s r) =
        s.node_.countP (fun r => r.token == token) := by
      refine List.countP_congr fun r member => ?_
      simp only [Bool.and_eq_true, decide_eq_true_eq, beq_iff_eq, sound.cancels member]
      constructor
      · rintro ⟨mine, told⟩
        rw [mine] at told
        exact sound.unique_token told entry
      · intro told
        obtain rfl := sound.unique member inside (told.trans same.symm)
        refine ⟨own, ?_⟩
        rw [own, same]
        exact entry
    have once : (s.node_.map (·.token)).count token = 1 :=
      List.count_eq_one_of_mem sound.tokens (List.mem_map.mpr ⟨held, inside, same⟩)
    rw [List.count, List.countP_map] at once
    rw [if_pos listed, exactly]
    exact once
  · rw [if_neg listed, List.countP_eq_zero]
    intro r member
    simp only [Bool.and_eq_true, decide_eq_true_eq, sound.cancels member, not_and]
    rintro rfl told
    exact listed (List.mem_map.mpr ⟨_, told, rfl⟩)

end

/-- A login with a listener has a token as soon as its calls have returned. -/
theorem Sound.listed (sound : Sound hash s) (ended : ∀ call ∈ s.calls, call.isReturned = true) (login : Bytes) :
    login ∈ s.logins ↔ 0 < count s.node_ login := by
  constructor
  · intro listed
    obtain ⟨entry, member, rfl⟩ := List.mem_map.mp listed
    obtain ⟨r, inside, own, -⟩ := sound.held entry member
    exact List.countP_pos_iff.mpr ⟨r, inside, decide_eq_true own⟩
  · intro some_listener
    rw [sound.counted] at some_listener
    obtain ⟨call, member, told⟩ := List.countP_pos_iff.mp some_listener
    have returned := ended call member
    cases call with
    | returned other registered =>
      obtain ⟨rfl, -⟩ : other = login ∧ registered = true := by simpa [Asking.registered] using told
      exact sound.returned other registered member
    | _ => cases returned

/-! ### Calls that come one after the other -/

/-- A login has one listener at most, which is in the map or on the way into it. -/
structure Single (s : Registry κ) : Prop where
  alone : ∀ login, s.calls.countP (Asking.unreturned login) ≤ 1
  placed : ∀ login, count s.node_ login = s.calls.countP (Asking.isStoring login) + if login ∈ s.logins then 1 else 0
  fresh : ∀ login ∈ s.logins, s.calls.countP (Asking.pending login) = 0

theorem single_initial : Single (Registry.initial κ) where
  alone _ := Nat.zero_le 1
  placed _ := rfl
  fresh := by simp [Registry.initial, Registry.logins]

theorem pending_le_unreturned (calls : List Asking) (login : Bytes) :
    calls.countP (Asking.pending login) ≤ calls.countP (Asking.unreturned login) := by
  refine List.countP_mono_left fun call _ told => ?_
  cases call with
  | listening other | storing other _ => exact Bool.and_eq_true_iff.mpr ⟨told, rfl⟩
  | _ => cases told

theorem storing_le_pending (calls : List Asking) (login : Bytes) :
    calls.countP (Asking.isStoring login) ≤ calls.countP (Asking.pending login) := by
  refine List.countP_mono_left fun call _ told => ?_
  cases call with
  | storing other _ => exact told
  | _ => cases told

/-- A call that goes on without the node and without the map. -/
theorem Single.goOn (single : Single s) {i : Nat} {old call : Asking} (there : s.calls[i]? = some old)
    (unreturned : ∀ login, Asking.unreturned login call = true → Asking.unreturned login old = true)
    (storing : ∀ login, Asking.isStoring login call = Asking.isStoring login old)
    (pending : ∀ login ∈ s.logins, Asking.pending login call = false) : Single (s.goOn i call) where
  alone login := (countP_set_le there (unreturned login)).trans (single.alone login)
  placed login := by
    have balance := countP_set there call (Asking.isStoring login)
    rw [storing login] at balance
    show count s.node_ login = (s.calls.set i call).countP _ + _
    rw [Nat.add_right_cancel balance]
    exact single.placed login
  fresh login listed := by
    refine Nat.le_zero.mp ((countP_set_le there fun told => ?_).trans (single.fresh login listed).le)
    rw [pending login listed] at told
    cases told

theorem Single.listen (single : Single s) {i : Nat} {login : Bytes} (there : s.calls[i]? = some (.listening login)) (key : κ) :
    Single (({ s with node_ := s.node_ ++ [⟨key, s.next, login⟩], next := s.next + 1 } : Registry κ).goOn i
      (.storing login s.next)) where
  alone other := by
    have kept : Asking.unreturned other (.storing login s.next) = true → Asking.unreturned other (.listening login) = true :=
      fun told => told
    exact (countP_set_le there kept).trans (single.alone other)
  placed other := by
    have balance := countP_set there (.storing login s.next) (Asking.isStoring other)
    have before := single.placed other
    show count (s.node_ ++ [⟨key, s.next, login⟩]) other =
      (s.calls.set i (.storing login s.next)).countP _ + if other ∈ s.logins then 1 else 0
    unfold count at before ⊢
    rw [List.countP_append, List.countP_singleton, before]
    simp only [Asking.isStoring, Bool.false_eq_true, if_false, Nat.add_zero] at balance
    rw [balance]
    exact Nat.add_right_comm _ _ _
  fresh other listed := by
    have kept : Asking.pending other (.storing login s.next) = true → Asking.pending other (.listening login) = true :=
      fun told => told
    exact Nat.le_zero.mp ((countP_set_le there kept).trans (single.fresh other listed).le)

/-- Nobody but the call that stores the token waits for one. -/
theorem Single.store (single : Single s) {i : Nat} {login : Bytes} {token : Nat}
    (there : s.calls[i]? = some (.storing login token)) : Single ((s.store login token).goOn i (.returned login true)) := by
  have none_yet : login ∉ s.logins := by
    intro listed
    have nobody := List.countP_eq_zero.mp (single.fresh login listed) _ (List.mem_of_getElem? there)
    exact nobody (decide_eq_true rfl)
  have lower : ∀ (kind : Asking → Bool), kind (.returned login true) = false → kind (.storing login token) = true →
      (s.calls.set i (.returned login true)).countP kind + 1 = s.calls.countP kind := by
    intro kind now before
    simpa [now, before] using countP_set there (.returned login true) kind
  have same : ∀ (kind : Asking → Bool), kind (.returned login true) = false → kind (.storing login token) = false →
      (s.calls.set i (.returned login true)).countP kind = s.calls.countP kind := by
    intro kind now before
    simpa [now, before] using countP_set there (.returned login true) kind
  refine ⟨fun other => ?_, fun other => ?_, fun other listed => ?_⟩
  · refine (countP_set_le there fun told => ?_).trans (single.alone other)
    simp [Asking.unreturned, Asking.isReturned] at told
  · show count s.node_ other = (s.calls.set i (.returned login true)).countP _ + if other ∈ (s.store login token).logins then 1 else 0
    rw [single.placed other]
    simp only [mem_logins_store]
    by_cases mine : login = other
    · subst mine
      have balance := lower (Asking.isStoring login) rfl (decide_eq_true rfl)
      simp only [none_yet, if_false, true_or, if_true]
      omega
    · rw [same (Asking.isStoring other) rfl (decide_eq_false mine)]
      simp only [Ne.symm mine, false_or]
  · show (s.calls.set i (.returned login true)).countP _ = 0
    by_cases mine : login = other
    · subst mine
      have balance := lower (Asking.pending login) rfl (decide_eq_true rfl)
      have alone := (pending_le_unreturned s.calls login).trans (single.alone login)
      omega
    · rw [same (Asking.pending other) rfl (decide_eq_false mine)]
      refine single.fresh other (((mem_logins_store s login token other).mp listed).resolve_left (Ne.symm mine))

theorem Single.step (single : Single s) {move : RegistryMove} (allowed : OneByOne s move)
    (step : register hash s move = some t) : Single t := by
  cases move with
  | call login =>
    cases step
    have added : ∀ kind : Asking → Bool, kind (.checking login) = false →
        (s.calls ++ [Asking.checking login]).countP kind = s.calls.countP kind := by
      intro kind told
      rw [List.countP_append, List.countP_singleton, told]
      rfl
    refine ⟨fun other => ?_, fun other => ?_, fun other listed => ?_⟩
    · by_cases mine : login = other
      · subst mine
        have nobody : s.calls.countP (Asking.unreturned login) = 0 := by
          refine List.countP_eq_zero.mpr fun call member told => ?_
          rw [Asking.unreturned, Bool.and_eq_true, decide_eq_true_eq] at told
          rw [allowed call member told.1] at told
          exact absurd told.2 (by decide)
        show (s.calls ++ [Asking.checking login]).countP _ ≤ 1
        rw [List.countP_append, nobody, Nat.zero_add]
        exact List.countP_le_length
      · refine (added _ ?_).le.trans (single.alone other)
        rw [Asking.unreturned, Asking.login, decide_eq_false mine]
        rfl
    · exact (single.placed other).trans (congrArg (· + _) (added (Asking.isStoring other) rfl).symm)
    · exact (added (Asking.pending other) rfl).trans (single.fresh other listed)
  | advance i =>
    obtain ⟨call, there, went⟩ := Option.bind_eq_some_iff.mp step
    cases call with
    | checking login =>
      cases went
      refine single.goOn there (fun other => ?_) (fun other => ?_) fun other listed => ?_
      · split_ifs
        · simp [Asking.unreturned, Asking.isReturned]
        · exact id
      · split_ifs <;> rfl
      · split_ifs with found
        · rfl
        · refine decide_eq_false ?_
          rintro rfl
          exact found (List.contains_iff_mem.mpr listed)
    | listening login =>
      cases went
      exact single.listen there (hash login)
    | storing login token =>
      cases went
      exact single.store there
    | returned login registered => cases went

/-- A login whose calls came one after the other has one listener at most. -/
theorem Single.count_le (single : Single s) (login : Bytes) : count s.node_ login ≤ 1 := by
  rw [single.placed login]
  split_ifs with listed
  · have pending := single.fresh login listed
    have storing := storing_le_pending s.calls login
    omega
  · have alone := single.alone login
    have pending := pending_le_unreturned s.calls login
    have storing := storing_le_pending s.calls login
    omega

/-! ### A call that nothing comes in between -/

/-- A call of `listen` from its start to its end. -/
def listen (hash : Bytes → κ) (s : Registry κ) (login : Bytes) : Registry κ :=
  if s.logins.contains login then { s with calls := s.calls ++ [.returned login false] }
  else
    { s.store login s.next with
      node_ := s.node_ ++ [⟨hash login, s.next, login⟩]
      next := s.next + 1
      calls := s.calls ++ [.returned login true] }

theorem set_snoc (calls : List Asking) (old call : Asking) :
    (calls ++ [old]).set calls.length call = calls ++ [call] := by
  simp

theorem advance_snoc (s : Registry κ) (call : Asking) (calls : List Asking) :
    register hash { s with calls := calls ++ [call] } (.advance calls.length) =
      ({ s with calls := calls ++ [call] } : Registry κ).advance hash calls.length call := by
  simp [register]

theorem reaches_advance (reaches : Reaches (register hash) OneByOne (Registry.initial κ) s) {i : Nat}
    (step : register hash s (.advance i) = some t) : Reaches (register hash) OneByOne (Registry.initial κ) t :=
  reaches.step (show OneByOne s (.advance i) from trivial) step

theorem reaches_listen (reaches : Reaches (register hash) OneByOne (Registry.initial κ) s)
    (ended : ∀ call ∈ s.calls, call.isReturned = true) (login : Bytes) :
    Reaches (register hash) OneByOne (Registry.initial κ) (s.listen hash login) := by
  have called : Reaches (register hash) OneByOne (Registry.initial κ) { s with calls := s.calls ++ [.checking login] } :=
    reaches.step (a := .call login) (fun call member _ => ended call member) rfl
  have checked := reaches_advance called (advance_snoc s (.checking login) s.calls)
  rw [Registry.goOn, set_snoc] at checked
  by_cases found : s.logins.contains login = true
  · rw [listen, if_pos found]
    rw [if_pos (show (Registry.logins { s with calls := s.calls ++ [.checking login] }).contains login = true from found)]
      at checked
    exact checked
  · rw [listen, if_neg found]
    rw [if_neg (show ¬ (Registry.logins { s with calls := s.calls ++ [.checking login] }).contains login = true from found)]
      at checked
    have listened := reaches_advance checked (advance_snoc s (.listening login) s.calls)
    rw [Registry.goOn, set_snoc] at listened
    have stored := reaches_advance listened (advance_snoc _ (.storing login s.next) s.calls)
    rw [Registry.goOn] at stored
    simp only [Registry.store, set_snoc] at stored
    exact stored

theorem ended_listen (ended : ∀ call ∈ s.calls, call.isReturned = true) (login : Bytes) :
    ∀ call ∈ (s.listen hash login).calls, call.isReturned = true := by
  intro call member
  unfold listen at member
  split_ifs at member
  all_goals
    rcases List.mem_append.mp member with before | now
    · exact ended call before
    · obtain rfl := List.mem_singleton.mp now
      rfl

theorem mem_logins_listen (s : Registry κ) (login other : Bytes) :
    other ∈ (s.listen hash login).logins ↔ other = login ∨ other ∈ s.logins := by
  unfold listen
  split_ifs with found
  · constructor
    · exact .inr
    · rintro (rfl | before)
      · exact List.contains_iff_mem.mp found
      · exact before
  · exact mem_logins_store s login s.next other

/-- What the window's calls register, one call after another: each login that is asked for, once. -/
theorem count_listens (hash : Bytes → κ) (asked : List Bytes) (login : Bytes) :
    count (asked.foldl (listen hash) (Registry.initial κ)).node_ login = if login ∈ asked then 1 else 0 := by
  have follows : ∀ (s : Registry κ), Reaches (register hash) OneByOne (Registry.initial κ) s →
      (∀ call ∈ s.calls, call.isReturned = true) →
      Reaches (register hash) OneByOne (Registry.initial κ) (asked.foldl (listen hash) s) ∧
      (∀ call ∈ (asked.foldl (listen hash) s).calls, call.isReturned = true) ∧
      (login ∈ (asked.foldl (listen hash) s).logins ↔ login ∈ asked ∨ login ∈ s.logins) := by
    induction asked with
    | nil => exact fun s reaches ended => ⟨reaches, ended, by simp⟩
    | cons first asked ih =>
      intro s reaches ended
      obtain ⟨then_reaches, then_ended, then_listed⟩ := ih (s.listen hash first) (reaches_listen reaches ended first)
        (ended_listen ended first)
      refine ⟨then_reaches, then_ended, then_listed.trans ?_⟩
      rw [mem_logins_listen, List.mem_cons]
      tauto
  obtain ⟨reaches, ended, listed⟩ := follows _ .start (by simp [Registry.initial])
  have sound : Sound hash (asked.foldl (listen hash) (Registry.initial κ)) :=
    reaches.invariant (sound_initial hash) fun _ _ _ sound _ step => sound.step step
  have single : Single (asked.foldl (listen hash) (Registry.initial κ)) :=
    reaches.invariant single_initial fun _ _ _ single allowed step => single.step allowed step
  have most := single.count_le login
  have present := sound.listed ended login
  have asked_for : login ∈ (asked.foldl (listen hash) (Registry.initial κ)).logins ↔ login ∈ asked := by
    rw [listed]
    simp [Registry.initial, Registry.logins]
  split_ifs with member
  · have positive := present.mp (asked_for.mpr member)
    omega
  · have nothing : ¬ 0 < count (asked.foldl (listen hash) (Registry.initial κ)).node_ login :=
      fun positive => member (asked_for.mp (present.mpr positive))
    omega

end Registry

section
variable [DecidableEq κ]

/-- However the calls of `listen` overlap, each that found no token has a listener, and once all have returned the
destructor cancels one listener of every login that was asked for. -/
theorem registrations_left {s : Registry κ} (reaches : Reaches (register hash) (fun _ _ => True) (Registry.initial κ) s)
    (ended : ∀ call ∈ s.calls, call.isReturned = true) (login : Bytes) :
    Registry.count s.node_ login = s.calls.count (.returned login true) ∧
    Registry.count (s.cancelled hash) login = s.calls.count (.returned login true) - 1 ∧
    (0 < s.calls.count (.returned login true) ↔ ∃ call ∈ s.calls, call.login = login) := by
  have sound : Registry.Sound hash s :=
    reaches.invariant (Registry.sound_initial hash) fun _ _ _ sound _ step => sound.step step
  have registered : Registry.count s.node_ login = s.calls.count (.returned login true) := by
    rw [sound.counted login, List.count]
    refine List.countP_congr fun call member => ?_
    have returned := ended call member
    cases call with
    | returned other registered => simp [Asking.registered]
    | _ => cases returned
  have listed := sound.listed ended login
  have split := sound.count_cancelled login
  rw [registered] at listed split
  refine ⟨registered, ?_, ?_⟩
  · split_ifs at split with found
    · omega
    · have nobody : ¬ 0 < s.calls.count (.returned login true) := fun some_listener => found (listed.mpr some_listener)
      omega
  · constructor
    · intro some_listener
      exact ⟨_, List.count_pos_iff.mp some_listener, rfl⟩
    · rintro ⟨call, member, rfl⟩
      refine listed.mp ?_
      have returned := ended call member
      cases call with
      | returned other found => exact sound.returned other found member
      | _ => cases returned

/-- Two calls for one login, of which both look for a token before either has one: a listener stays. -/
theorem registrations_left_sample :
    Registry.count (Registry.cancelled id
      ⟨[([97], 1)], [⟨[97], 0, [97]⟩, ⟨[97], 1, [97]⟩], 2, [.returned [97] true, .returned [97] true]⟩) [97] = 1 := by
  have reaches : Reaches (register id) (fun _ _ => True) (Registry.initial Bytes)
      ⟨[([97], 1)], [⟨[97], 0, [97]⟩, ⟨[97], 1, [97]⟩], 2, [.returned [97] true, .returned [97] true]⟩ :=
    reaches_of_run .start (fun _ _ _ => trivial)
      (show run (register id) (Registry.initial Bytes)
        [.call [97], .call [97], .advance 0, .advance 1, .advance 0, .advance 1, .advance 0, .advance 1] = some _ by decide)
  exact (registrations_left id reaches (by decide) [97]).2.1

/-- When the calls for a login come one after the other, it never has two listeners, it has one as soon as a call has
returned, and the destructor cancels them all. -/
theorem one_registration_a_login {s : Registry κ} (reaches : Reaches (register hash) OneByOne (Registry.initial κ) s) :
    (∀ login, Registry.count s.node_ login ≤ 1) ∧
    (∀ login registered, .returned login registered ∈ s.calls → Registry.count s.node_ login = 1) ∧
    ((∀ call ∈ s.calls, call.isReturned = true) → s.cancelled hash = []) := by
  have sound : Registry.Sound hash s :=
    reaches.invariant (Registry.sound_initial hash) fun _ _ _ sound _ step => sound.step step
  have single : Registry.Single s :=
    reaches.invariant Registry.single_initial fun _ _ _ single allowed step => single.step allowed step
  refine ⟨single.count_le, fun login registered member => ?_, fun ended => ?_⟩
  · have placed := single.placed login
    rw [if_pos (sound.returned login registered member)] at placed
    have most := single.count_le login
    omega
  · refine List.eq_nil_iff_forall_not_mem.mpr fun r member => ?_
    have some_left : 0 < Registry.count (s.cancelled hash) r.login :=
      List.countP_pos_iff.mpr ⟨r, member, decide_eq_true rfl⟩
    have split := sound.count_cancelled r.login
    have most := single.count_le r.login
    have listed := sound.listed ended r.login
    split_ifs at split with found
    · omega
    · exact found (listed.mpr (by omega))

/-- A login twice in turn, and another whose call runs in between. -/
theorem one_registration_a_login_sample :
    Registry.cancelled id
      ⟨[([98], 1), ([97], 0)], [⟨[97], 0, [97]⟩, ⟨[98], 1, [98]⟩], 2,
        [.returned [97] true, .returned [98] true, .returned [97] false]⟩ = [] := by
  have reaches : Reaches (register id) OneByOne (Registry.initial Bytes)
      ⟨[([98], 1), ([97], 0)], [⟨[97], 0, [97]⟩, ⟨[98], 1, [98]⟩], 2,
        [.returned [97] true, .returned [98] true, .returned [97] false]⟩ :=
    reaches_of_guarded .start
      (show Guarded (register id) OneByOne (Registry.initial Bytes) [.call [97], .advance 0, .call [98], .advance 0,
        .advance 1, .advance 1, .advance 0, .advance 1, .call [97], .advance 2] by decide) (by decide)
  exact (one_registration_a_login id reaches).2.2 (by decide)

end

end P2PMessenger
