import P2PMessenger.Copies
import P2PMessenger.Walks

/-!
How often a datagram is passed on. A relay node sends it to the next hop, which its
resolver or the message itself names, and keeps no memory of it; so the datagram walks
along the next hops for as long as they lead to nodes, and a node that it comes back to
passes it on again.
-/
namespace P2PMessenger
open Octets Throwing Runs Walks

variable {ν : Type} [DecidableEq ν] {L : Libraries}

def Effect.relays : Effect L → Bool
  | .send_to .relay _ _ => true
  | _ => false

/-- The number of events of a kind that a call caused at a node. -/
def causedAt (n : ν) (call : Nat) (kind : Effect L → Bool) (log : List (Event ν L)) : Nat :=
  log.countP fun event => match event with
    | .did m cause effect => decide (m = n) && (cause == some call && kind effect)
    | .called .. => false

theorem causedAt_append (n : ν) (call : Nat) (kind : Effect L → Bool) (one two : List (Event ν L)) :
    causedAt n call kind (one ++ two) = causedAt n call kind one + causedAt n call kind two := List.countP_append

theorem causedAt_did (n m : ν) (call : Nat) (kind : Effect L → Bool) (cause : Option Nat) (added : List (Effect L)) :
    causedAt n call kind (added.map (.did m cause)) = if m = n ∧ cause = some call then added.countP kind else 0 := by
  unfold causedAt
  rw [List.countP_map]
  by_cases own : m = n ∧ cause = some call
  · rw [if_pos own]
    apply List.countP_congr
    intro effect _
    simp [own]
  · rw [if_neg own]
    apply List.countP_eq_zero.mpr
    intro effect _
    simp only [Function.comp_apply, Bool.and_eq_true, decide_eq_true_eq, beq_iff_eq]
    rintro ⟨here, same, -⟩
    exact own ⟨here, same⟩

theorem causedAt_relayed (n m : ν) (call : Nat) (buffer : Bytes) (endpoint : Endpoint L) (log : List (Event ν L)) :
    causedAt m call Effect.relays (log ++ [.send_to .relay buffer endpoint, .async_wait].map (.did n (some call))) =
      causedAt m call Effect.relays log + if n = m then 1 else 0 := by
  rw [causedAt_append, causedAt_did]
  simp only [and_true]
  rfl

/-- What a call caused, it caused at the nodes. -/
theorem caused_eq_sum [Fintype ν] (call : Nat) (kind : Effect L → Bool) (log : List (Event ν L)) :
    caused call kind log = ∑ n, causedAt n call kind log := by
  induction log with
  | nil => simp [caused, causedAt]
  | cons event log ih =>
    unfold caused causedAt at ih ⊢
    simp only [List.countP_cons, Finset.sum_add_distrib]
    rw [ih]
    congr 1
    cases event with
    | called => simp
    | did m cause effect => by_cases own : (cause == some call && kind effect) = true <;> simp [own]

/-! ## One datagram -/

/-- Two readings of a datagram as someone else's message agree. -/
theorem transits_unique {config : Config L} (env : Environment L) {buffer : Bytes} {one two : Message}
    (first : Transits config buffer one) (second : Transits config buffer two) : one = two := by
  have same := ((reading_eq_transit config env buffer one).mpr first).symm.trans
    ((reading_eq_transit config env buffer two).mpr second)
  exact Reading.transit.inj same

/-- Before its first delivery, one datagram of the call is underway, and no node has
    passed any on. -/
structure Pending (call : Nat) (packet : Packet L) (s : Network ν L) : Prop where
  there : packet ∈ s.packets
  own : packet.call = some call
  alone : underway call s.packets = 1
  known : call < s.calls
  silent : ∀ n, causedAt n call Effect.relays s.log = 0

/-- A network that copies no datagram of the call, while the next hops for the message
    stay what they are. -/
def Steady (call : Nat) (message : Message) (hop : ν → Option (Endpoint L)) (s : Network ν L) (action : Action ν L) : Prop :=
  (∀ n, nextHop (s.nodes n).metadata_ip_resolver_ message = hop n) ∧
    ∀ packet, action = .duplicate packet → packet.call ≠ some call

/-- The node that a node's next hop leads to. -/
def Setting.next (setting : Setting ν L) (hop : ν → Option (Endpoint L)) (n : ν) : Option ν := (hop n).bind setting.owner

/-- The datagram has walked so far: it is on its way to the next place if it is underway
    at all, and every node has passed it on as often as the walk came to it at most. -/
structure Passing (setting : Setting ν L) (call : Nat) (buffer : Bytes) (next : ν → Option ν) (first : Option ν)
    (i : Nat) (s : Network ν L) : Prop where
  own : ∀ packet ∈ s.packets, packet.call = some call →
    packet.buffer = buffer ∧ setting.owner packet.endpoint = walk next first i
  one : underway call s.packets ≤ 1
  known : call < s.calls
  passed : ∀ n, causedAt n call Effect.relays s.log ≤ visits next first n i

/-- What brings no datagram of the call and passes none on leaves the walk where it is. -/
theorem Passing.frame {setting : Setting ν L} {call : Nat} {buffer : Bytes} {next : ν → Option ν} {first : Option ν}
    {i : Nat} {s t : Network ν L} (passing : Passing setting call buffer next first i s)
    (packets : ∀ packet ∈ t.packets, packet.call = some call → packet ∈ s.packets)
    (fewer : underway call t.packets ≤ underway call s.packets) (calls : s.calls ≤ t.calls)
    (quiet : ∀ n, causedAt n call Effect.relays t.log = causedAt n call Effect.relays s.log) :
    Passing setting call buffer next first i t where
  own packet member same := passing.own packet (packets packet member same) same
  one := Nat.le_trans fewer passing.one
  known := Nat.lt_of_lt_of_le passing.known calls
  passed n := by
    rw [quiet n]
    exact passing.passed n

theorem call_of_mem_sentPackets {call : Nat} {cause : Option Nat} {added : List (Effect L)} {packet : Packet L}
    (member : packet ∈ sentPackets cause added) (own : packet.call = some call) : cause = some call := by
  by_contra other
  have none := underway_sentPackets call cause added
  rw [if_neg other] at none
  exact List.countP_eq_zero.mp none packet member (beq_iff_eq.mpr own)

/-- A handler for another call, or for none, leaves the walk where it is. -/
theorem Passing.other {setting : Setting ν L} {call : Nat} {buffer : Bytes} {next : ν → Option ν} {first : Option ν}
    {i : Nat} {s t : Network ν L} {n : ν} {cause : Option Nat} {packets : List (Packet L)} {added : List (Effect L)}
    (passing : Passing setting call buffer next first i s)
    (ran : Network.Ran { s with packets := packets } t n cause added) (other : cause ≠ some call)
    (fewer : packets.Subset s.packets) (less : underway call packets ≤ underway call s.packets) :
    Passing setting call buffer next first i t := by
  have log : t.log = s.log ++ added.map (.did n cause) := ran.log
  have sent : t.packets = packets ++ sentPackets cause added := ran.packets
  refine passing.frame ?_ ?_ (Nat.le_of_eq ran.calls.symm) ?_
  · intro packet member own
    rw [sent] at member
    rcases List.mem_append.mp member with old | new
    · exact fewer old
    · exact absurd (call_of_mem_sentPackets new own) other
  · rw [sent, underway_append, underway_sentPackets, if_neg other, Nat.add_zero]
    exact less
  · intro m
    rw [log, causedAt_append, causedAt_did, if_neg (fun own => other own.2), Nat.add_zero]

/-- The handler of the datagram ends the walk, or takes it one place further. -/
theorem Passing.received {setting : Setting ν L} {call : Nat} {message : Message} {hop : ν → Option (Endpoint L)}
    {first : Option ν} {i : Nat} {s t : Network ν L} {n : ν} {packet : Packet L} {added : List (Effect L)}
    (env : Environment L) (transits : Transits (setting.config n) packet.buffer message)
    (passing : Passing setting call packet.buffer (setting.next hop) first i s)
    (hops : nextHop (s.nodes n).metadata_ip_resolver_ message = hop n) (there : packet ∈ s.packets)
    (owned : setting.owner packet.endpoint = some n) (own : packet.call = some call)
    (handling : Handling (setting.config n) (s.nodes n).metadata_ip_resolver_ packet.buffer added)
    (ran : Network.Ran { s with packets := s.packets.erase packet } t n packet.call added) :
    ∃ j, Passing setting call packet.buffer (setting.next hop) first j t := by
  have log : t.log = s.log ++ added.map (.did n packet.call) := ran.log
  have sent : t.packets = s.packets.erase packet ++ sentPackets packet.call added := ran.packets
  have here : walk (setting.next hop) first i = some n :=
    (passing.own packet there own).2.symm.trans owned
  have gone : underway call (s.packets.erase packet) = 0 := by
    have erased := underway_erase call there
    have one := passing.one
    rw [if_pos own] at erased
    omega
  have others : ∀ p ∈ s.packets.erase packet, p.call ≠ some call := by
    intro p member same
    exact List.countP_eq_zero.mp gone p member (beq_iff_eq.mpr same)
  have ends : added.countP Effect.carries = 0 → added.countP Effect.relays = 0 →
      ∃ j, Passing setting call packet.buffer (setting.next hop) first j t := by
    intro carries relays
    have empty : underway call t.packets = 0 := by
      rw [sent, underway_append, underway_sentPackets, if_pos own, carries, gone]
    refine ⟨i, passing.frame ?_ ?_ (Nat.le_of_eq ran.calls.symm) ?_⟩
    · intro p member same
      exact absurd (beq_iff_eq.mpr same) (List.countP_eq_zero.mp empty p member)
    · rw [empty]
      exact Nat.zero_le _
    · intro m
      rw [log, causedAt_append, causedAt_did, relays, ite_self, Nat.add_zero]
  cases handling with
  | delivered endpoint accepts =>
    -- A delivery sends nothing but a hole punch.
    unfold Config.receiveEffects at ends
    split at ends
    · exact ends rfl rfl
    · exact ends rfl rfl
  | quiet => exact ends rfl rfl
  | thrown => exact ends rfl rfl
  | @relayed read endpoint reads names =>
    obtain rfl := transits_unique env transits reads
    have leads : hop n = some endpoint := hops.symm.trans names
    refine ⟨i + 1, ?_, ?_, ?_, ?_⟩
    · intro p member same
      rw [sent] at member
      rcases List.mem_append.mp member with old | new
      · exact absurd same (others p old)
      · obtain rfl : p = ⟨packet.buffer, endpoint, packet.call⟩ := List.mem_singleton.mp new
        refine ⟨rfl, ?_⟩
        show setting.owner endpoint = (walk _ first i).bind _
        rw [here, Option.bind_some, Setting.next, leads, Option.bind_some]
    · rw [sent, underway_append, underway_sentPackets, if_pos own, gone]
      exact Nat.le_refl 1
    · exact Nat.lt_of_lt_of_eq passing.known ran.calls.symm
    · intro m
      rw [log, own, causedAt_relayed, visits_succ_of_walk here]
      exact Nat.add_le_add_right (passing.passed m) _

theorem passing_pending {setting : Setting ν L} {call : Nat} {packet : Packet L} {next : ν → Option ν} {s : Network ν L}
    (pending : Pending call packet s) : Passing setting call packet.buffer next (setting.owner packet.endpoint) 0 s where
  own other member same := by
    have counted := underway_erase call pending.there
    rw [if_pos pending.own, pending.alone] at counted
    have gone : underway call (s.packets.erase packet) = 0 := by omega
    by_cases it : other = packet
    · subst it
      exact ⟨rfl, rfl⟩
    · have left : other ∈ s.packets.erase packet := (List.mem_erase_of_ne it).mpr member
      exact absurd (beq_iff_eq.mpr same) (List.countP_eq_zero.mp gone other left)
  one := Nat.le_of_eq pending.alone
  known := pending.known
  passed n := Nat.le_of_eq (pending.silent n)

theorem passing_step {setting : Setting ν L} {call : Nat} {message : Message} {buffer : Bytes}
    {hop : ν → Option (Endpoint L)} {first : Option ν} (transits : ∀ n, Transits (setting.config n) buffer message)
    (s : Network ν L) (action : Action ν L) (t : Network ν L)
    (passing : ∃ i, Passing setting call buffer (setting.next hop) first i s)
    (steady : Steady call message hop s action) (taken : step setting s action = some t) :
    ∃ i, Passing setting call buffer (setting.next hop) first i t := by
  obtain ⟨i, passing⟩ := passing
  cases takes_of_step taken with
  | @called n env address login public_key text added effects ran =>
    have announced : Passing setting call buffer (setting.next hop) first i { s with
        calls := s.calls + 1
        log := s.log ++ [.called n s.calls address login public_key text] } := by
      refine passing.frame (fun packet member _ => member) (Nat.le_refl _) (Nat.le_succ _) ?_
      intro m
      rw [causedAt_append]
      rfl
    refine ⟨i, announced.other ran ?_ (fun _ member => member) (Nat.le_refl _)⟩
    intro same
    exact absurd passing.known (Nat.not_lt.mpr (Nat.le_of_eq (Option.some.inj same)))
  | @received n env packet remote_endpoint added there owned handling ran =>
    by_cases own : packet.call = some call
    · obtain ⟨rfl, -⟩ := passing.own packet there own
      exact passing.received env (transits n) (steady.1 n) there owned own handling ran
    · refine ⟨i, passing.other ran own (fun _ member => List.mem_of_mem_erase member) ?_⟩
      exact Nat.le.intro (underway_erase call there)
  | punched added punches ran =>
    exact ⟨i, passing.other ran (Option.some_ne_none _).symm (fun _ member => member) (Nat.le_refl _)⟩
  | @dropped packet there same =>
    subst same
    exact ⟨i, passing.frame (fun _ member _ => List.mem_of_mem_erase member) (Nat.le.intro (underway_erase call there))
      (Nat.le_refl _) fun _ => rfl⟩
  | @duplicated packet there same =>
    subst same
    have other := steady.2 packet rfl
    refine ⟨i, passing.frame ?_ ?_ (Nat.le_refl _) fun _ => rfl⟩
    · intro p member own
      rcases List.mem_cons.mp member with rfl | old
      · exact absurd own other
      · exact old
    · unfold underway
      rw [List.countP_cons_of_neg (by simpa using other)]
  | @injected octets endpoint same =>
    subst same
    refine ⟨i, passing.frame ?_ ?_ (Nat.le_refl _) fun _ => rfl⟩
    · intro p member own
      rcases List.mem_append.mp member with old | new
      · exact old
      · cases List.mem_singleton.mp new
        cases own
    · rw [underway_append]
      exact Nat.le_refl _

/-! ## Walking on -/

/-- A relay node that runs can pass the datagram on, with an environment whose socket
    takes it. -/
theorem step_passes {setting : Setting ν L} {s : Network ν L} {n : ν} {packet : Packet L} {message : Message}
    {endpoint : Endpoint L} (running : s.stopped n = false) (there : packet ∈ s.packets)
    (owned : setting.owner packet.endpoint = some n) (relay : (setting.config n).relay_ = true)
    (transits : Transits (setting.config n) packet.buffer message) (fits : packet.buffer.length ≤ 65507)
    (hop : nextHop (s.nodes n).metadata_ip_resolver_ message = some endpoint) (env : Environment L)
    (takes : env.accepts 0 = true) (remote_endpoint : Endpoint L) :
    step setting s (.receive n env packet remote_endpoint) = some
      { s with
        packets := s.packets.erase packet ++ [⟨packet.buffer, endpoint, packet.call⟩]
        log := s.log ++ [.did n packet.call (.send_to .relay packet.buffer endpoint), .did n packet.call .async_wait] } := by
  have read := (reading_eq_transit (setting.config n) env packet.buffer message).mpr transits
  have handled : (async_wait_handler (setting.config n) env (.whole packet.buffer remote_endpoint)).run ⟨s.nodes n, []⟩ =
      .ok () ⟨s.nodes n, [.send_to .relay packet.buffer endpoint, .async_wait]⟩ := by
    rw [async_wait_handler_run, read]
    simp only [relay, if_true, Step.relayed, hop, List.length_nil, takes, fits, and_self, List.nil_append]
    rfl
  simp only [step]
  rw [if_pos ⟨running, there, owned⟩, handled]
  simp [Network.did, sentPackets, after, returns]

/-- A state in which the datagram has walked so far. -/
structure Walked (setting : Setting ν L) (call : Nat) (message : Message) (buffer : Bytes)
    (hop : ν → Option (Endpoint L)) (first : Option ν) (start : Network ν L) (i : Nat) (s : Network ν L) : Prop where
  reaches : Reaches (step setting) (Steady call message hop) start s
  nodes : s.nodes = start.nodes
  stopped : s.stopped = start.stopped
  packet : ∃ packet ∈ s.packets, packet.call = some call ∧ packet.buffer = buffer ∧
    setting.owner packet.endpoint = walk (setting.next hop) first i
  passed : ∀ n, visits (setting.next hop) first n i ≤ causedAt n call Effect.relays s.log
  total : i ≤ caused call Effect.relays s.log

/-- Where a walk does not end, the datagram can walk as far as one likes. -/
theorem exists_walked {setting : Setting ν L} {call : Nat} {message : Message} {packet : Packet L} {start : Network ν L}
    {hop : ν → Option (Endpoint L)} (relays : ∀ n, (setting.config n).relay_ = true)
    (transits : ∀ n, Transits (setting.config n) packet.buffer message) (fits : packet.buffer.length ≤ 65507)
    (seed : L.Seed) (pending : Pending call packet start) (running : ∀ n, start.stopped n = false)
    (hops : ∀ n, nextHop (start.nodes n).metadata_ip_resolver_ message = hop n)
    (endless : ∀ k, ∃ n, walk (setting.next hop) (setting.owner packet.endpoint) k = some n) (i : Nat) :
    ∃ s, Walked setting call message packet.buffer hop (setting.owner packet.endpoint) start i s := by
  induction i with
  | zero =>
    refine ⟨start, .start, rfl, rfl, ⟨packet, pending.there, pending.own, rfl, rfl⟩, ?_, Nat.zero_le _⟩
    intro n
    exact Nat.zero_le _
  | succ i ih =>
    obtain ⟨s, walked⟩ := ih
    obtain ⟨on, there, own, same, place⟩ := walked.packet
    obtain ⟨after, nextPlace⟩ := endless (i + 1)
    obtain ⟨n, here, leads⟩ := walk_succ_eq_some.mp nextPlace
    obtain ⟨endpoint, names, -⟩ := Option.bind_eq_some_iff.mp leads
    have steady : ∀ m, nextHop (s.nodes m).metadata_ip_resolver_ message = hop m := by
      intro m
      rw [walked.nodes]
      exact hops m
    have taken := step_passes (by rw [walked.stopped]; exact running n) there (place.trans here) (relays n)
      (by rw [same]; exact transits n) (by rw [same]; exact fits) ((steady n).trans names)
      ⟨seed, fun _ => true, fun _ => 0, fun _ => 0⟩ rfl on.endpoint
    refine ⟨_, walked.reaches.step ⟨steady, ?_⟩ taken, walked.nodes, walked.stopped, ?_, ?_, ?_⟩
    · intro p copies
      cases copies
    · refine ⟨⟨on.buffer, endpoint, on.call⟩, List.mem_append_right _ (List.mem_singleton.mpr rfl), own, same, ?_⟩
      show setting.owner endpoint = (walk _ _ i).bind _
      rw [here, Option.bind_some, Setting.next, names, Option.bind_some]
    · intro m
      show _ ≤ causedAt m call Effect.relays (s.log ++ [.send_to .relay on.buffer endpoint, .async_wait].map (.did n on.call))
      rw [own, causedAt_relayed, visits_succ_of_walk here]
      exact Nat.add_le_add_right (walked.passed m) _
    · show _ ≤ caused call Effect.relays (s.log ++ [.send_to .relay on.buffer endpoint, .async_wait].map (.did n on.call))
      rw [caused_append, caused_did, if_pos own]
      exact Nat.add_le_add_right walked.total 1

/-- Relay nodes that get someone else's message pass it on at most once each, and only so
    often in all, exactly when the next hops for it, as the nodes know them, never lead
    back to a node. -/
theorem relays_once_iff [Fintype ν] {setting : Setting ν L} {call : Nat} {message : Message} {packet : Packet L}
    {start : Network ν L} {hop : ν → Option (Endpoint L)} (relays : ∀ n, (setting.config n).relay_ = true)
    (transits : ∀ n, Transits (setting.config n) packet.buffer message) (fits : packet.buffer.length ≤ 65507)
    (seed : L.Seed) (pending : Pending call packet start) (running : ∀ n, start.stopped n = false)
    (hops : ∀ n, nextHop (start.nodes n).metadata_ip_resolver_ message = hop n) :
    ((∀ s, Reaches (step setting) (Steady call message hop) start s → ∀ n, causedAt n call Effect.relays s.log ≤ 1) ↔
      NoReturn (setting.next hop) (setting.owner packet.endpoint)) ∧
    ((∃ bound, ∀ s, Reaches (step setting) (Steady call message hop) start s →
        caused call Effect.relays s.log ≤ bound) ↔
      NoReturn (setting.next hop) (setting.owner packet.endpoint)) := by
  have once : NoReturn (setting.next hop) (setting.owner packet.endpoint) →
      ∀ s, Reaches (step setting) (Steady call message hop) start s → ∀ n, causedAt n call Effect.relays s.log ≤ 1 := by
    intro noReturn s reaches n
    obtain ⟨i, passing⟩ := reaches.invariant ⟨0, passing_pending pending⟩ (passing_step transits)
    exact Nat.le_trans (passing.passed n) (noReturn.visits_le_one n i)
  have walks : ¬ NoReturn (setting.next hop) (setting.owner packet.endpoint) → ∀ i,
      ∃ s, Walked setting call message packet.buffer hop (setting.owner packet.endpoint) start i s := fun returns =>
    exists_walked relays transits fits seed pending running hops (walk_goes_on returns)
  refine ⟨⟨?_, once⟩, ⟨?_, ?_⟩⟩
  · intro atMostOnce
    by_contra returns
    obtain ⟨i, j, n, one, two, less⟩ := exists_return returns
    obtain ⟨s, walked⟩ := walks returns (j + 1)
    have twice := Nat.le_trans (two_le_visits one two less) (walked.passed n)
    exact absurd (atMostOnce s walked.reaches n) (by omega)
  · rintro ⟨bound, bounded⟩
    by_contra returns
    obtain ⟨s, walked⟩ := walks returns (bound + 1)
    exact absurd (Nat.le_trans walked.total (bounded s walked.reaches)) (Nat.not_succ_le_self bound)
  · intro noReturn
    refine ⟨Fintype.card ν, ?_⟩
    intro s reaches
    rw [caused_eq_sum]
    calc ∑ n, causedAt n call Effect.relays s.log ≤ ∑ _ : ν, 1 := Finset.sum_le_sum fun n _ => once noReturn s reaches n
      _ = Fintype.card ν := by simp

/-! ## A relay node alone -/

namespace Sample

/-- The sample relay node alone, with the endpoints that lead to it. -/
def lone (owner : Endpoint libraries → Option Unit) : Setting Unit libraries := ⟨fun _ => setting.config .relay, owner⟩

/-- The message as a relay node reads it. -/
def transit : Message := { message with payload := .zero }

/-- The relay node knows no address, and the sample datagram is on its way to it. -/
def waiting : Network Unit libraries := { Network.initial Unit libraries with packets := [detour], calls := 1 }

theorem transits (n : Unit) (owner : Endpoint libraries → Option Unit) :
    Transits ((lone owner).config n) detour.buffer transit := by
  refine (reading_eq_transit _ environment _ _).mp ?_
  show reading (setting.config .relay) environment datagram = .transit transit
  decide +kernel

theorem pending : Pending 0 detour waiting where
  there := List.mem_singleton.mpr rfl
  own := rfl
  alone := rfl
  known := Nat.zero_lt_one
  silent _ := rfl

theorem hop (n : Unit) : nextHop (waiting.nodes n).metadata_ip_resolver_ transit = some direct.endpoint := by
  show nextHop .empty transit = some direct.endpoint
  decide +kernel

end Sample

/-- Where only its own endpoint leads to the relay node, it passes the datagram on once. -/
theorem relays_once_iff_sample :
    (∀ s, Reaches (step (Sample.lone fun endpoint => if endpoint = Sample.detour.endpoint then some () else none))
        (Steady 0 Sample.transit fun _ => some Sample.direct.endpoint) Sample.waiting s →
        ∀ n, causedAt n 0 Effect.relays s.log ≤ 1) ∧
      ∃ bound, ∀ s, Reaches (step (Sample.lone fun endpoint => if endpoint = Sample.detour.endpoint then some () else none))
        (Steady 0 Sample.transit fun _ => some Sample.direct.endpoint) Sample.waiting s →
        caused 0 Effect.relays s.log ≤ bound := by
  have noReturn : NoReturn (Setting.next (Sample.lone fun endpoint =>
      if endpoint = Sample.detour.endpoint then some () else none) fun _ => some Sample.direct.endpoint) (some ()) := by
    intro i j n one two
    cases i with
    | zero =>
      cases j with
      | zero => rfl
      | succ j =>
        obtain ⟨m, -, leads⟩ := walk_succ_eq_some.mp two
        cases leads
    | succ i =>
      obtain ⟨m, -, leads⟩ := walk_succ_eq_some.mp one
      cases leads
  have iffs := relays_once_iff (fun _ => rfl) (fun n => Sample.transits n
    fun endpoint => if endpoint = Sample.detour.endpoint then some () else none) (by decide +kernel) () Sample.pending
    (fun _ => rfl) Sample.hop
  exact ⟨iffs.1.mpr noReturn, iffs.2.mpr noReturn⟩

/-- Where the address that the message names leads back to the relay node, it passes the
    datagram on more than once, and any number of times. -/
theorem relay_loops :
    (∃ s, Reaches (step (Sample.lone fun _ => some ()))
        (Steady 0 Sample.transit fun _ => some Sample.direct.endpoint) Sample.waiting s ∧
        2 ≤ causedAt () 0 Effect.relays s.log) ∧
      ¬ ∃ bound, ∀ s, Reaches (step (Sample.lone fun _ => some ()))
        (Steady 0 Sample.transit fun _ => some Sample.direct.endpoint) Sample.waiting s →
        causedAt () 0 Effect.relays s.log ≤ bound := by
  have endless : ∀ i, ∃ n, walk (Setting.next (Sample.lone fun _ => some ()) fun _ => some Sample.direct.endpoint)
      (some ()) i = some n := by
    intro i
    refine ⟨(), ?_⟩
    induction i with
    | zero => rfl
    | succ i ih => exact walk_succ_eq_some.mpr ⟨(), ih, rfl⟩
  have far : ∀ k, ∃ s, Reaches (step (Sample.lone fun _ => some ()))
      (Steady 0 Sample.transit fun _ => some Sample.direct.endpoint) Sample.waiting s ∧
      k ≤ causedAt () 0 Effect.relays s.log := by
    intro k
    obtain ⟨s, walked⟩ := exists_walked (fun _ => rfl) (fun n => Sample.transits n _) (by decide +kernel) ()
      Sample.pending (fun _ => rfl) Sample.hop endless k
    refine ⟨s, walked.reaches, ?_⟩
    have total := walked.total
    rw [caused_eq_sum] at total
    simpa using total
  refine ⟨far 2, ?_⟩
  rintro ⟨bound, bounded⟩
  obtain ⟨s, reaches, more⟩ := far (bound + 1)
  exact absurd (Nat.le_trans more (bounded s reaches)) (Nat.not_succ_le_self bound)

end P2PMessenger
