import P2PMessenger.Network

/-!
How often one call of `send_message` is delivered on a network that neither copies nor
makes up datagrams. A call sends at most two copies, one of them to its relay node. Every
datagram of the call goes back to one of them, because a relay node passes one datagram
on as one, and a delivery uses one up; but nothing remembers which messages were
delivered, so both copies can be.
-/
namespace P2PMessenger
open Octets Throwing Runs

variable {ν : Type} {L : Libraries}

/-- A copy that a call sends. -/
def Effect.copy : Effect L → Bool
  | .send_to .message _ _ => true
  | _ => false

/-- A datagram that belongs to a call, which a hole punch does not. -/
def Effect.carries : Effect L → Bool
  | .send_to .hole_punch _ _ => false
  | .send_to _ _ _ => true
  | _ => false

def Effect.invocation : Effect L → Bool
  | .receive_handler _ => true
  | _ => false

def Effect.entry : Effect L → Bool
  | .append .received _ _ _ => true
  | _ => false

/-- The number of events of a kind that a call caused, at all nodes together. -/
def caused (call : Nat) (kind : Effect L → Bool) (log : List (Event ν L)) : Nat :=
  log.countP fun event => match event with
    | .did _ cause effect => cause == some call && kind effect
    | .called .. => false

/-- The number of datagrams of a call on their way. -/
def underway (call : Nat) (packets : List (Packet L)) : Nat := packets.countP (·.call == some call)

theorem caused_append (call : Nat) (kind : Effect L → Bool) (one two : List (Event ν L)) :
    caused call kind (one ++ two) = caused call kind one + caused call kind two := List.countP_append

theorem caused_called (call : Nat) (kind : Effect L → Bool) (log : List (Event ν L)) (n : ν) (number : Nat)
    (address login : Bytes) (public_key : L.PublicKey) (text : Bytes) :
    caused call kind (log ++ [.called n number address login public_key text]) = caused call kind log := by
  rw [caused_append]
  rfl

/-- A handler causes its effects for the call whose datagram it handles or makes. -/
theorem caused_did (call : Nat) (kind : Effect L → Bool) (n : ν) (cause : Option Nat) (added : List (Effect L)) :
    caused call kind (added.map (.did n cause)) = if cause = some call then added.countP kind else 0 := by
  unfold caused
  rw [List.countP_map]
  by_cases same : cause = some call
  · rw [if_pos same]
    apply List.countP_congr
    intro effect _
    simp [same]
  · rw [if_neg same]
    apply List.countP_eq_zero.mpr
    intro effect _
    simp [same]

theorem underway_append (call : Nat) (one two : List (Packet L)) :
    underway call (one ++ two) = underway call one + underway call two := List.countP_append

theorem underway_sentPackets (call : Nat) (cause : Option Nat) (added : List (Effect L)) :
    underway call (sentPackets cause added) = if cause = some call then added.countP Effect.carries else 0 := by
  unfold underway sentPackets
  rw [List.countP_filterMap]
  by_cases same : cause = some call
  · rw [if_pos same]
    apply List.countP_congr
    intro effect _
    cases effect with
    | send_to purpose buffer endpoint => cases purpose <;> simp [same, Effect.carries]
    | _ => rfl
  · rw [if_neg same]
    apply List.countP_eq_zero.mpr
    intro effect _
    cases effect with
    | send_to purpose buffer endpoint => cases purpose <;> simp [same]
    | _ => exact Bool.false_ne_true

theorem underway_erase (call : Nat) {packets : List (Packet L)} {packet : Packet L} (there : packet ∈ packets) :
    underway call (packets.erase packet) + (if packet.call = some call then 1 else 0) = underway call packets := by
  have counted := (List.perm_cons_erase there).countP_eq (·.call == some call)
  rw [List.countP_cons] at counted
  unfold underway
  rw [counted]
  simp only [beq_iff_eq]

/-! ## What a handler spends -/

/-- Handling a datagram passes it on at most once, or delivers it once, and sends no copy. -/
theorem Handling.spends {config : Config L} {resolver : MetadataIpResolver L} {buffer : Bytes} {added : List (Effect L)}
    (handling : Handling config resolver buffer added) :
    added.countP Effect.carries + added.countP Effect.invocation ≤ 1 ∧
      added.countP Effect.entry ≤ added.countP Effect.invocation ∧ added.countP Effect.copy = 0 := by
  cases handling with
  | @delivered message public_key endpoint accepts =>
    unfold Config.receiveEffects
    by_cases mine : L.publicKey message.destination_public_key = some config.public_key
    · rw [if_pos mine]
      exact ⟨Nat.le_refl 1, Nat.le_refl 1, rfl⟩
    · rw [if_neg mine]
      exact ⟨Nat.le_refl 1, Nat.zero_le 1, rfl⟩
  | relayed transits hop => exact ⟨Nat.le_refl 1, Nat.le_refl 0, rfl⟩
  | quiet => exact ⟨Nat.zero_le 1, Nat.le_refl 0, rfl⟩
  | thrown => exact ⟨Nat.zero_le 1, Nat.le_refl 0, rfl⟩

/-- Whatever host the address names, it is the relay node's, or there is no relay node. -/
def DirectOnly (config : Config L) (destination_address : Bytes) : Prop :=
  ∀ ip port, get_ip_and_port_from_address destination_address = .ok (ip, port) →
    config.relay_node_ip_ = [] ∨ ip = config.relay_node_ip_

theorem sendEffects_copies (message : Message) : (sendEffects message : List (Effect L)).countP Effect.copy = 0 := by
  apply List.countP_eq_zero.mpr
  intro effect member
  rcases mem_sendEffects member with rfl | rfl | ⟨id, rfl⟩ <;> exact Bool.false_ne_true

theorem relayEffects_copies (config : Config L) (message : Message) (buffer : Bytes) :
    (config.relayEffects message buffer).countP Effect.copy ≤
      if config.relay_node_ip_ ≠ [] ∧ message.destination_ip ≠ config.relay_node_ip_ then 1 else 0 := by
  unfold Config.relayEffects
  by_cases copy : config.relay_node_ip_ ≠ [] ∧ message.destination_ip ≠ config.relay_node_ip_
  · rw [if_pos copy, if_pos copy]
    cases L.make_address config.relay_node_ip_ with
    | none => exact Nat.zero_le 1
    | some address =>
      show (_ :: sendEffects message).countP Effect.copy ≤ 1
      rw [List.countP_cons, sendEffects_copies]
      exact Nat.le_refl 1
  · rw [if_neg copy, if_neg copy, sendEffects_copies]

/-- The direct copy, and one for the relay node where there is another one. -/
theorem callEffects_copies (config : Config L) (message : Message) (inner : Bytes) :
    (config.callEffects message inner).countP Effect.copy ≤
      if config.relay_node_ip_ ≠ [] ∧ message.destination_ip ≠ config.relay_node_ip_ then 2 else 1 := by
  unfold Config.callEffects
  cases L.sign config.private_key_ inner with
  | none => split_ifs <;> simp [Effect.copy]
  | some signature =>
    cases L.make_address message.destination_ip with
    | none => split_ifs <;> simp [Effect.copy]
    | some address =>
      have relay := relayEffects_copies config message (signed_message_to_buffer ⟨inner, signature⟩)
      simp only [List.countP_cons, Effect.copy, Bool.false_eq_true, if_false, if_true]
      split_ifs at relay ⊢ <;> omega

theorem kinds_of_mem_callEffects {config : Config L} {message : Message} {inner : Bytes} {effect : Effect L}
    (member : effect ∈ config.callEffects message inner) :
    effect.carries = effect.copy ∧ effect.invocation = false ∧ effect.entry = false := by
  rcases mem_callEffects member with rfl | ⟨_, _, _, -, -, rfl⟩ | handler
  · exact ⟨rfl, rfl, rfl⟩
  · exact ⟨rfl, rfl, rfl⟩
  · rcases mem_sendEffects handler with rfl | rfl | ⟨id, rfl⟩ <;> exact ⟨rfl, rfl, rfl⟩

/-- What the effects of a call add to the counts: its copies, two at most, and nothing
    else that carries a message; no delivery. -/
structure CallSpends (config : Config L) (destination_address : Bytes) (added : List (Effect L)) : Prop where
  carries : added.countP Effect.carries = added.countP Effect.copy
  invocation : added.countP Effect.invocation = 0
  entry : added.countP Effect.entry = 0
  two : added.countP Effect.copy ≤ 2
  alone : DirectOnly config destination_address → added.countP Effect.copy ≤ 1

theorem callSpends_of_cut {config : Config L} {destination_address : Bytes} {message : Message} {inner : Bytes}
    {added : List (Effect L)} {port : UInt16}
    (parsed : get_ip_and_port_from_address destination_address = .ok (message.destination_ip, port))
    (cut : Cut added (config.callEffects message inner)) : CallSpends config destination_address added := by
  have copies : added.countP Effect.copy ≤ _ :=
    Nat.le_trans cut.first.sublist.countP_le (callEffects_copies config message inner)
  refine ⟨?_, ?_, ?_, ?_, ?_⟩
  · apply List.countP_congr
    intro effect member
    rw [(kinds_of_mem_callEffects (cut.first.subset member)).1]
  · apply List.countP_eq_zero.mpr
    intro effect member
    rw [(kinds_of_mem_callEffects (cut.first.subset member)).2.1]
    exact Bool.false_ne_true
  · apply List.countP_eq_zero.mpr
    intro effect member
    rw [(kinds_of_mem_callEffects (cut.first.subset member)).2.2]
    exact Bool.false_ne_true
  · split_ifs at copies <;> omega
  · intro direct
    rw [if_neg] at copies
    · exact copies
    · rintro ⟨relay, other⟩
      exact (direct _ _ parsed).elim relay other

theorem callSpends {config : Config L} {env : Environment L} {destination_address destination_login text : Bytes}
    {public_key : L.PublicKey} {added : List (Effect L)}
    (effects : match composed config env destination_address destination_login public_key text with
      | .error _ => added = []
      | .ok (message, inner) => Cut added (config.callEffects message inner)) :
    CallSpends config destination_address added := by
  cases built : composed config env destination_address destination_login public_key text with
  | error e =>
    simp only [built] at effects
    subst effects
    exact ⟨rfl, rfl, rfl, Nat.zero_le 2, fun _ => Nat.zero_le 1⟩
  | ok composition =>
    obtain ⟨message, inner⟩ := composition
    simp only [built] at effects
    obtain ⟨ip, port, payload_buffer, parsed, rfl, -, -⟩ := composed_eq_ok built
    exact callSpends_of_cut parsed effects

/-! ## The run -/

/-- The network may drop and reorder, and copies and makes up nothing. -/
def Lossy (_ : Network ν L) : Action ν L → Prop
  | .duplicate _ => False
  | .inject .. => False
  | _ => True

/-- What is underway or was delivered was paid for by the copies that were sent. -/
structure Spent (setting : Setting ν L) (call : Nat) (s : Network ν L) : Prop where
  used : underway call s.packets + caused call Effect.invocation s.log ≤ caused call Effect.copy s.log
  entries : caused call Effect.entry s.log ≤ caused call Effect.invocation s.log
  fresh : s.calls ≤ call → caused call Effect.copy s.log = 0
  two : caused call Effect.copy s.log ≤ 2
  numbered : ∀ n number address login public_key text, .called n number address login public_key text ∈ s.log →
    number < s.calls
  alone : ∀ n address login public_key text, .called n call address login public_key text ∈ s.log →
    DirectOnly (setting.config n) address → caused call Effect.copy s.log ≤ 1

theorem spent_initial (setting : Setting ν L) (call : Nat) : Spent setting call (Network.initial ν L) where
  used := Nat.le_refl 0
  entries := Nat.le_refl 0
  fresh _ := rfl
  two := Nat.zero_le 2
  numbered := by simp [Network.initial]
  alone := by simp [Network.initial]

/-- A handler that spends no more than it takes off the network keeps the balance. -/
theorem Spent.handled {setting : Setting ν L} {call : Nat} {s t : Network ν L} {n : ν} {cause : Option Nat}
    {packets : List (Packet L)} {added : List (Effect L)} (spent : Spent setting call s)
    (ran : Network.Ran { s with packets := packets } t n cause added)
    (paid : cause = some call → underway call packets + added.countP Effect.carries + added.countP Effect.invocation ≤
      underway call s.packets ∧ added.countP Effect.entry ≤ added.countP Effect.invocation ∧
      added.countP Effect.copy = 0)
    (rest : cause ≠ some call → underway call packets ≤ underway call s.packets) : Spent setting call t := by
  have log : t.log = s.log ++ added.map (.did n cause) := ran.log
  have calls : t.calls = s.calls := ran.calls
  have count : ∀ kind, caused call kind t.log =
      caused call kind s.log + if cause = some call then added.countP kind else 0 := by
    intro kind
    rw [log, caused_append, caused_did]
  have copies : caused call Effect.copy t.log = caused call Effect.copy s.log := by
    rw [count]
    split_ifs with own
    · rw [(paid own).2.2, Nat.add_zero]
    · rfl
  have old : ∀ m number address login public_key text,
      .called m number address login public_key text ∈ t.log → .called m number address login public_key text ∈ s.log := by
    intro m number address login public_key text member
    rw [log] at member
    rcases List.mem_append.mp member with before | new
    · exact before
    · obtain ⟨effect, -, same⟩ := List.mem_map.mp new
      cases same
  refine ⟨?_, ?_, ?_, ?_, ?_, ?_⟩
  · have used := spent.used
    rw [copies, count, ran.packets, underway_append, underway_sentPackets]
    show underway call packets + _ + _ ≤ _
    split_ifs with own
    · have := (paid own).1
      omega
    · have := rest own
      omega
  · have entries := spent.entries
    rw [count, count]
    split_ifs with own
    · have := (paid own).2.1
      omega
    · omega
  · intro later
    rw [copies]
    exact spent.fresh (calls ▸ later)
  · rw [copies]
    exact spent.two
  · intro m number address login public_key text member
    rw [calls]
    exact spent.numbered m number address login public_key text (old _ _ _ _ _ _ member)
  · intro m address login public_key text member direct
    rw [copies]
    exact spent.alone m address login public_key text (old _ _ _ _ _ _ member) direct

/-- A call pays for its own copies. -/
theorem Spent.called {setting : Setting ν L} {call : Nat} {s t : Network ν L} {n : ν} {address login : Bytes}
    {public_key : L.PublicKey} {text : Bytes} {added : List (Effect L)} (spent : Spent setting call s)
    (spends : CallSpends (setting.config n) address added)
    (ran : Network.Ran { s with
        calls := s.calls + 1
        log := s.log ++ [.called n s.calls address login public_key text] } t n (some s.calls) added) :
    Spent setting call t := by
  have log : t.log = s.log ++ [.called n s.calls address login public_key text] ++ added.map (.did n (some s.calls)) :=
    ran.log
  have calls : t.calls = s.calls + 1 := ran.calls
  have count : ∀ kind, caused call kind t.log =
      caused call kind s.log + if some s.calls = some call then added.countP kind else 0 := by
    intro kind
    rw [log, caused_append, caused_called, caused_did]
  have packets : underway call t.packets =
      underway call s.packets + if some s.calls = some call then added.countP Effect.carries else 0 := by
    rw [ran.packets, underway_append, underway_sentPackets]
  have known : ∀ m number a l k x, .called m number a l k x ∈ t.log →
      .called m number a l k x ∈ s.log ∨ m = n ∧ number = s.calls ∧ a = address := by
    intro m number a l k x member
    rw [log] at member
    rcases List.mem_append.mp member with member | new
    · rcases List.mem_append.mp member with old | this
      · exact .inl old
      · cases List.mem_singleton.mp this
        exact .inr ⟨rfl, rfl, rfl⟩
    · obtain ⟨effect, -, same⟩ := List.mem_map.mp new
      cases same
  have used := spent.used
  have entries := spent.entries
  have fresh := spent.fresh
  have numbered : ∀ m number a l k x, .called m number a l k x ∈ t.log → number < t.calls := by
    intro m number a l k x member
    rw [calls]
    rcases known m number a l k x member with old | ⟨-, rfl, -⟩
    · exact Nat.lt_succ_of_lt (spent.numbered m number a l k x old)
    · exact Nat.lt_succ_self _
  by_cases own : s.calls = call
  · -- Nothing had this number before.
    have none := fresh (Nat.le_of_eq own)
    simp only [own, if_true] at count packets
    refine ⟨?_, ?_, ?_, ?_, numbered, ?_⟩
    · rw [packets, count, count, spends.carries, spends.invocation]
      omega
    · rw [count, count, spends.entry]
      omega
    · intro later
      omega
    · rw [count, none, Nat.zero_add]
      exact spends.two
    · intro m a l k x member direct
      rcases known m call a l k x member with old | ⟨rfl, -, rfl⟩
      · exact absurd own (Nat.ne_of_gt (spent.numbered m call a l k x old))
      · rw [count, none, Nat.zero_add]
        exact spends.alone direct
  · have other : ¬ some s.calls = some call := fun same => own (Option.some.inj same)
    simp only [if_neg other, Nat.add_zero] at count packets
    refine ⟨?_, ?_, ?_, ?_, numbered, ?_⟩
    · rw [packets, count, count]
      exact used
    · rw [count, count]
      exact entries
    · intro later
      rw [count]
      exact fresh (by omega)
    · rw [count]
      exact spent.two
    · intro m a l k x member direct
      rw [count]
      rcases known m call a l k x member with old | ⟨-, same, -⟩
      · exact spent.alone m a l k x old direct
      · exact absurd same.symm own

variable [DecidableEq ν]

theorem spent_step {setting : Setting ν L} {call : Nat} (s : Network ν L) (action : Action ν L) (t : Network ν L)
    (spent : Spent setting call s) (lossy : Lossy s action) (taken : step setting s action = some t) :
    Spent setting call t := by
  cases takes_of_step taken with
  | @called n env address login public_key text added effects ran =>
    exact spent.called (callSpends effects) ran
  | @received n env packet remote_endpoint added there owned handling ran =>
    have spends := handling.spends
    have erased := underway_erase call there
    refine spent.handled ran ?_ ?_
    · intro own
      rw [if_pos own] at erased
      exact ⟨by omega, spends.2⟩
    · intro other
      rw [if_neg other] at erased
      exact Nat.le_of_eq erased
  | @punched n _ added punches ran =>
    refine spent.handled ran ?_ ?_
    · intro own
      cases own
    · intro _
      exact Nat.le_refl _
  | @dropped packet there same =>
    subst same
    have erased := underway_erase call there
    exact { spent with used := Nat.le_trans (Nat.add_le_add_right (by simp only; omega) _) spent.used }
  | duplicated there same => exact absurd lossy id
  | injected same => exact absurd lossy id

/-- On a network that neither copies nor makes up datagrams, each invocation of a receive
    handler that a call causes uses up one of the copies that the call sent, two at most
    and one where no relay node gets one. Each invocation makes one entry at most, and a
    history is what was appended at its node. -/
theorem one_delivery_per_copy {setting : Setting ν L} {s : Network ν L}
    (reaches : Reaches (step setting) Lossy (Network.initial ν L) s) (call : Nat) :
    caused call Effect.entry s.log ≤ caused call Effect.invocation s.log ∧
    caused call Effect.invocation s.log ≤ caused call Effect.copy s.log ∧
    caused call Effect.copy s.log ≤ 2 ∧
    (∀ n destination_address destination_login public_key text,
      .called n call destination_address destination_login public_key text ∈ s.log →
      DirectOnly (setting.config n) destination_address → caused call Effect.copy s.log ≤ 1) ∧
    ∀ n id, (s.nodes n).chat_history_.entries id = appendedEntries id (effectsAt n s.log) := by
  have spent : Spent setting call s := reaches.invariant (spent_initial setting call) spent_step
  have recorded : s.Recorded := reaches.invariant recorded_initial fun _ _ _ recorded _ taken => recorded_step recorded taken
  refine ⟨spent.entries, ?_, spent.two, spent.alone, recorded.entries⟩
  exact Nat.le_trans (Nat.le_add_left _ _) spent.used

/-- The receiver handles the direct copy, and then the relay node's. -/
def bothCopies : List (Action Sample.Party Sample.libraries) :=
  [Sample.call, .receive .receiver Sample.environment Sample.direct Sample.elsewhere,
    .receive .relay Sample.environment Sample.detour Sample.elsewhere,
    .receive .receiver Sample.environment Sample.direct Sample.elsewhere]

theorem bothCopies_lossy : ∀ action ∈ bothCopies, ∀ s : Network Sample.Party Sample.libraries, Lossy s action := by
  simp [bothCopies, Sample.call, Lossy]

theorem one_delivery_per_copy_sample :
    ∃ s, run (step Sample.setting) (Network.initial _ _) bothCopies = some s ∧
      caused 0 Effect.invocation s.log ≤ caused 0 Effect.copy s.log ∧ caused 0 Effect.copy s.log ≤ 2 := by
  have taken : (run (step Sample.setting) (Network.initial _ _) bothCopies).isSome = true := by decide +kernel
  obtain ⟨s, ran⟩ := Option.isSome_iff_exists.mp taken
  have bounds := one_delivery_per_copy (reaches_of_run Reaches.start bothCopies_lossy ran) 0
  exact ⟨s, ran, bounds.2.1, bounds.2.2.1⟩

/-- Both copies of one call can be delivered, and each is entered. -/
theorem both_copies_delivered :
    ∃ s, Reaches (step Sample.setting) Lossy (Network.initial _ _) s ∧
      caused 0 Effect.invocation s.log = 2 ∧
      (s.nodes .receiver).chat_history_.entries (Sample.sender.public_key) =
        [(Sample.message.source_login, Sample.message.payload.text),
          (Sample.message.source_login, Sample.message.payload.text)] := by
  have seen : (run (step Sample.setting) (Network.initial _ _) bothCopies).map (fun s =>
      (caused 0 Effect.invocation s.log, (s.nodes .receiver).chat_history_.entries (Sample.sender.public_key))) =
      some (2, [(Sample.message.source_login, Sample.message.payload.text),
        (Sample.message.source_login, Sample.message.payload.text)]) := by decide +kernel
  obtain ⟨s, ran, both⟩ := Option.map_eq_some_iff.mp seen
  obtain ⟨invocations, entries⟩ := Prod.mk.inj both
  exact ⟨s, reaches_of_run Reaches.start bothCopies_lossy ran, invocations, entries⟩

end P2PMessenger
