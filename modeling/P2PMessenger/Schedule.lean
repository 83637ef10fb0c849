import P2PMessenger.Interleaving

/-!
An order for the parts of tasks, made while threads come to them. What only has to do
with the DHT goes to the front, and the rest stays behind it: neither a handler of a
datagram nor a timer asks what the DHT told, and a call that did found nothing from
datagrams.
-/
namespace P2PMessenger
open Octets Throwing Refinement Runs

variable {L : Libraries}

/-! ## One task of a ledger -/

/-- The contact of a datagram as a fact. -/
def metFacts (met : Option (Bytes × L.PublicKey × Bytes)) : List (Fact L) :=
  met.toList.map fun contact => .stored .metadata_ip_resolver_ contact.1 contact.2.1 contact.2.2

theorem marks_punching (config : Config L) (punched : Option (Endpoint L)) :
    marks (config.punching punched).2 = (config.punching punched).1 := by
  cases punched <;> rfl

/-- What is said is all that some effects add. -/
theorem marks_eq_saidBy {effects : List (Effect L)} (quiet : ∀ effect ∈ effects, effect.mark = effect.fact) :
    marks effects = saidBy effects := List.filterMap_congr quiet

theorem marks_calling (config : Config L) (env : Environment L) (address login : Bytes) (public_key : L.PublicKey)
    (text : Bytes) :
    marks (config.calling env address login public_key text) = saidBy (config.calling env address login public_key text) := by
  refine marks_eq_saidBy fun effect member => ?_
  rcases mem_calling member with ⟨_, rfl⟩ | ⟨_, _, rfl⟩ | ⟨message, tells⟩
  · rfl
  · rfl
  · rcases mem_sendEffects tells with rfl | rfl | ⟨_, rfl⟩ <;> rfl

theorem received_eq (ledger : Ledger L) (config : Config L) (env : Environment L) (buffer : Bytes)
    (remote_endpoint : Endpoint L) :
    ledger.received config env buffer remote_endpoint =
      (metFacts (config.met env buffer remote_endpoint) ++
          marks (config.handling env buffer remote_endpoint ledger.nextHop),
        config.handling env buffer remote_endpoint ledger.nextHop) := by
  unfold Ledger.received Config.met Config.handling
  cases reading config env buffer with
  | accepted message public_key =>
    simp only
    cases config.punched env 0 message.source_ip (sourcePort message remote_endpoint) with
    | none => rfl
    | some endpoint =>
      have said : marks (config.receiveEffects message public_key) = saidBy (config.receiveEffects message public_key) := by
        refine marks_eq_saidBy fun effect member => ?_
        unfold Config.receiveEffects at member
        split_ifs at member
        · simp only [List.mem_cons, List.not_mem_nil, or_false] at member
          rcases member with rfl | rfl | rfl | rfl <;> rfl
        · rw [List.mem_singleton.mp member]
          rfl
      have whole : marks (.send_to .hole_punch config.buffer_ endpoint :: config.receiveEffects message public_key ++
          [.async_wait]) = .armed endpoint :: marks (config.receiveEffects message public_key) := by
        unfold marks
        rw [List.filterMap_append]
        exact List.append_nil _
      rw [whole, said]
      rfl
  | transit message =>
    simp only
    cases ledger.nextHop message with
    | none => rfl
    | some endpoint =>
      simp only
      split_ifs <;> rfl
  | dropped => rfl
  | metadata =>
    simp only
    cases L.publicKey (metadata_from_buffer buffer env.beyond).2 <;> rfl

/-- A callback for one contact. -/
theorem record_contact (config : Config L) (ledger : Ledger L) (login : Bytes) {contact : L.PublicKey × Bytes}
    (addressed : colon ∈ contact.2) :
    record config ledger (.listen_callback login [⟨contact.2, some contact.1⟩] false) =
      some (ledger ++ [.stored .dht_ip_resolver_ login contact.1 contact.2],
        [.listen_login_handler login (L.getId contact.1)]) := by
  have here : colon ∈ (⟨contact.2, some contact.1⟩ : DhtValue L).data := addressed
  have alone : DhtIpResolver.contacts (DhtIpResolver.reached [⟨contact.2, some contact.1⟩]) = [(contact.1, contact.2)] := by
    rw [DhtIpResolver.contacts_reached_cons here, DhtIpResolver.contacts_signed here rfl]
    rfl
  simp only [record, Bool.false_eq_true, if_false, alone]
  rfl

theorem addressed_of_reached {values : List (DhtValue L)} {contact : L.PublicKey × Bytes}
    (reached : contact ∈ DhtIpResolver.contacts (DhtIpResolver.reached values)) : colon ∈ contact.2 := by
  obtain ⟨value, -, told⟩ := List.mem_filterMap.mp reached
  split_ifs at told with addressed
  obtain ⟨owner, -, rfl⟩ := Option.map_eq_some_iff.mp told
  exact addressed

/-! ## Schedules -/

/-- A fact that no handler of a datagram and no timer has anything to do with. -/
def Fact.Calm : Fact L → Prop
  | .stored source _ _ _ => source = .dht_ip_resolver_
  | .said _ _ _ => True
  | _ => False

theorem calm_saidBy (effects : List (Effect L)) : ∀ fact ∈ saidBy effects, fact.Calm := by
  intro fact member
  obtain ⟨effect, -, told⟩ := List.mem_filterMap.mp member
  cases effect <;> cases told
  trivial

theorem latest_of_silent {β : Type} {tells : Fact L → Option β} {facts : List (Fact L)}
    (silent : ∀ fact ∈ facts, tells fact = none) : latest tells facts = none := by
  rw [latest, List.filterMap_eq_nil_iff.mpr silent]
  rfl

section
variable {ledger : Ledger L} (calm : ∀ fact ∈ ledger, fact.Calm)
include calm

theorem met_of_calm (login : Bytes) (id : L.InfoHash) : latest (Fact.address .metadata_ip_resolver_ login id) ledger = none := by
  refine latest_of_silent fun fact member => ?_
  have quiet := calm fact member
  cases fact with
  | stored source name public_key address =>
    obtain rfl : source = .dht_ip_resolver_ := quiet
    rfl
  | _ => rfl

theorem key_of_calm (id : L.InfoHash) : latest (Fact.key .metadata_ip_resolver_ id) ledger = none := by
  refine latest_of_silent fun fact member => ?_
  have quiet := calm fact member
  cases fact with
  | stored source name public_key address =>
    obtain rfl : source = .dht_ip_resolver_ := quiet
    rfl
  | _ => rfl

theorem arms_of_calm (endpoint : Endpoint L) : ledger.countP (Fact.arms endpoint) = 0 := by
  refine List.countP_eq_zero.mpr fun fact member => ?_
  have quiet := calm fact member
  cases fact with
  | armed other => cases quiet
  | _ => simp [Fact.arms]

theorem expires_of_calm (endpoint : Endpoint L) : ledger.countP (Fact.expires endpoint) = 0 := by
  refine List.countP_eq_zero.mpr fun fact member => ?_
  have quiet := calm fact member
  cases fact with
  | expired other => cases quiet
  | _ => simp [Fact.expires]

theorem nextHop_of_calm (after : Ledger L) (message : Message) :
    Ledger.nextHop (ledger ++ after) message = Ledger.nextHop after message := by
  have hidden : ∀ login id, latest (Fact.address .metadata_ip_resolver_ login id) (ledger ++ after) =
      latest (Fact.address .metadata_ip_resolver_ login id) after := by
    intro login id
    rw [latest_append, met_of_calm calm, Option.or_none]
  unfold Ledger.nextHop
  simp only [hidden]

theorem loops_of_calm (after : Ledger L) (endpoint : Endpoint L) :
    Ledger.loops (ledger ++ after) endpoint = Ledger.loops after endpoint := by
  unfold Ledger.loops
  rw [List.countP_append, List.countP_append, arms_of_calm calm, expires_of_calm calm, Nat.zero_add, Nat.zero_add]

end

/-- The parts of the tasks one after the other. What only has to do with the DHT comes
    first, and whatever it is, the rest goes on behind it in the same way. -/
structure Schedule (config : Config L) where
  front : List (Nat × Task L)
  back : List (Nat × Task L)
  ahead : Ledger L
  after : Ledger L
  /-- The effects of the front. -/
  first : List (Nat × Effect L)
  second : List (Nat × Effect L)
  calm : ∀ fact ∈ ahead, fact.Calm
  front_run : (record config).tagged.run [] front = some (ahead, first)
  back_run : ∀ ledger : Ledger L, (∀ fact ∈ ledger, fact.Calm) →
    (record config).tagged.run ledger back = some (ledger ++ after, second)

namespace Schedule
variable {config : Config L}

def initial (config : Config L) : Schedule config where
  front := []
  back := []
  ahead := []
  after := []
  first := []
  second := []
  calm := by simp
  front_run := rfl
  back_run ledger _ := by rw [List.append_nil]; rfl

def addFront (w : Schedule config) (i : Nat) {task : Task L} {facts : List (Fact L)} {effects : List (Effect L)}
    (told : record config w.ahead task = some (w.ahead ++ facts, effects)) (calm : ∀ fact ∈ facts, fact.Calm) :
    Schedule config where
  front := w.front ++ [(i, task)]
  back := w.back
  ahead := w.ahead ++ facts
  after := w.after
  first := w.first ++ effects.map (i, ·)
  second := w.second
  calm := by
    intro fact member
    rcases List.mem_append.mp member with old | new
    · exact w.calm fact old
    · exact calm fact new
  front_run := Machine.run_snoc w.front_run (tagged_eq_some told)
  back_run := w.back_run

def addBack (w : Schedule config) (i : Nat) {task : Task L} {facts : List (Fact L)} {effects : List (Effect L)}
    (told : ∀ ledger : Ledger L, (∀ fact ∈ ledger, fact.Calm) →
      record config (ledger ++ w.after) task = some (ledger ++ w.after ++ facts, effects)) :
    Schedule config where
  front := w.front
  back := w.back ++ [(i, task)]
  ahead := w.ahead
  after := w.after ++ facts
  first := w.first
  second := w.second ++ effects.map (i, ·)
  calm := w.calm
  front_run := w.front_run
  back_run ledger calm := by
    rw [← List.append_assoc]
    exact Machine.run_snoc (w.back_run ledger calm) (tagged_eq_some (told ledger calm))

/-- Everything that the ledger says at the end. -/
def ledger (w : Schedule config) : Ledger L := w.ahead ++ w.after

theorem runs (w : Schedule config) :
    (record config).tagged.run [] (w.front ++ w.back) = some (w.ledger, w.first ++ w.second) :=
  Machine.run_append w.front_run (w.back_run _ w.calm)

end Schedule

/-! ## What a ledger gains -/

/-- What some tasks add to the conversations and to the loops is what they did. -/
structure Gains (ledger later : Ledger L) (effects : List (Effect L)) (tasks : List (Task L)) : Prop where
  entries : ∀ id, later.entries id = ledger.entries id ++ appendedEntries id effects
  arms : ∀ endpoint,
    later.countP (Fact.arms endpoint) = ledger.countP (Fact.arms endpoint) + effects.countP (Effect.punches endpoint)
  expires : ∀ endpoint,
    later.countP (Fact.expires endpoint) = ledger.countP (Fact.expires endpoint) + tasks.countP (Task.pops endpoint)

theorem gains_marks (ledger : Ledger L) (extra : List (Fact L)) (effects : List (Effect L)) (task : Task L)
    (quiet : ∀ id, Ledger.entries extra id = []) (idle : ∀ endpoint, extra.countP (Fact.arms endpoint) = 0)
    (pops : ∀ endpoint, extra.countP (Fact.expires endpoint) = if task.pops endpoint then 1 else 0) :
    Gains ledger (ledger ++ (extra ++ marks effects)) effects [task] where
  entries id := by
    have said : Ledger.entries (marks effects) id = appendedEntries id effects := by
      unfold Ledger.entries marks appendedEntries
      rw [List.filterMap_filterMap]
      refine List.filterMap_congr fun effect _ => ?_
      cases effect with
      | send_to purpose buffer endpoint => cases purpose <;> rfl
      | _ => rfl
    rw [entries_append, entries_append, quiet, said, List.nil_append]
  arms endpoint := by
    have armed : (marks effects).countP (Fact.arms endpoint) = effects.countP (Effect.punches endpoint) := by
      unfold marks
      rw [List.countP_filterMap]
      refine List.countP_congr fun effect _ => ?_
      cases effect with
      | send_to purpose buffer other => cases purpose <;> rfl
      | _ => rfl
    rw [List.countP_append, List.countP_append, idle, armed, Nat.zero_add]
  expires endpoint := by
    have none : (marks effects).countP (Fact.expires endpoint) = 0 := by
      refine List.countP_eq_zero.mpr fun fact member => ?_
      obtain ⟨effect, -, told⟩ := List.mem_filterMap.mp member
      cases effect with
      | send_to purpose buffer other =>
        cases purpose <;> cases told
        simp [Fact.expires]
      | append => cases told; simp [Fact.expires]
      | _ => cases told
    rw [List.countP_append, List.countP_append, none, pops, List.countP_singleton, Nat.add_zero]

theorem record_gains {config : Config L} {ledger later : Ledger L} {task : Task L} {effects : List (Effect L)}
    (taken : record config ledger task = some (later, effects)) : Gains ledger later effects [task] := by
  cases task with
  | start env =>
    simp only [record] at taken
    split_ifs at taken
    cases taken
    rw [← marks_punching]
    exact gains_marks ledger [] _ _ (fun _ => rfl) (fun _ => rfl) fun _ => rfl
  | receive env buffer remote_endpoint =>
    simp only [record, received_eq] at taken
    cases taken
    refine gains_marks ledger _ _ _ ?_ ?_ ?_
    all_goals
      intro _
      cases config.met env buffer remote_endpoint <;> rfl
  | timer env endpoint =>
    simp only [record] at taken
    by_cases there : 0 < ledger.loops endpoint
    · rw [if_pos there] at taken
      cases taken
      rw [← marks_punching]
      refine gains_marks ledger [.expired endpoint] _ _ (fun _ => rfl) (fun _ => rfl) fun other => ?_
      rw [List.countP_singleton]
      rfl
    · rw [if_neg there] at taken
      cases taken
  | listen_callback login values expired =>
    simp only [record] at taken
    cases taken
    generalize (if expired = true then [] else DhtIpResolver.contacts (DhtIpResolver.reached values)) = heard
    have nothing : marks (heard.map fun contact => (.listen_login_handler login (L.getId contact.1) : Effect L)) = [] := by
      unfold marks
      rw [List.filterMap_map, List.filterMap_eq_nil_iff]
      exact fun _ _ => rfl
    have gains := gains_marks ledger (heard.map fun contact => .stored .dht_ip_resolver_ login contact.1 contact.2)
      (heard.map fun contact => (.listen_login_handler login (L.getId contact.1) : Effect L))
      (.listen_callback login values expired) ?_ ?_ ?_
    · rw [nothing, List.append_nil] at gains
      exact gains
    · intro id
      unfold Ledger.entries
      rw [List.filterMap_map, List.filterMap_eq_nil_iff]
      exact fun _ _ => rfl
    · intro endpoint
      rw [List.countP_map, List.countP_eq_zero]
      exact fun _ _ => Bool.false_ne_true
    · intro endpoint
      rw [List.countP_map]
      exact List.countP_eq_zero.mpr fun _ _ => Bool.false_ne_true
  | send_message env login id text =>
    obtain ⟨effects', same, which⟩ := record_send_message config ledger env login id text
    rw [same] at taken
    cases taken
    have marked : saidBy effects = marks effects := by
      rcases which with ⟨-, rfl⟩ | ⟨address, public_key, -, -, rfl⟩
      · rfl
      · exact (marks_calling config env address login public_key text).symm
    rw [marked]
    exact gains_marks ledger [] _ _ (fun _ => rfl) (fun _ => rfl) fun _ => rfl

/-- Over a run as well. -/
theorem gains_of_run {config : Config L} {ledger later : Ledger L} {inputs : List (Nat × Task L)}
    {out : List (Nat × Effect L)} (ran : (record config).tagged.run ledger inputs = some (later, out)) :
    Gains ledger later (deeds out) (inputs.map (·.2)) := by
  induction inputs generalizing ledger out with
  | nil =>
    cases ran
    exact ⟨fun _ => (List.append_nil _).symm, fun _ => rfl, fun _ => rfl⟩
  | cons input inputs ih =>
    obtain ⟨i, task⟩ := input
    obtain ⟨next, head, rest, taken, went_on, rfl⟩ := run_cons_eq_some.mp ran
    obtain ⟨⟨next', effects⟩, told, same⟩ := Option.map_eq_some_iff.mp taken
    cases same
    have now := record_gains told
    have later := ih went_on
    have whole : deeds (effects.map (i, ·) ++ rest) = effects ++ deeds rest := by
      unfold deeds
      rw [List.map_append, List.map_map]
      exact congrArg (· ++ _) (List.map_id effects)
    rw [whole, List.map_cons, ← List.singleton_append]
    refine ⟨fun id => ?_, fun endpoint => ?_, fun endpoint => ?_⟩
    · rw [later.entries, now.entries, List.append_assoc]
      exact congrArg _ List.filterMap_append.symm
    · rw [later.arms, now.arms, List.countP_append, Nat.add_assoc]
    · rw [later.expires, now.expires, List.countP_append, Nat.add_assoc]

/-! ## The parts as they come -/

variable (config : Config L)

theorem told_start (ledger : Ledger L) (env : Environment L) (relay : config.relay_node_ip_ ≠ []) :
    record config ledger (.start env) =
      some (ledger ++ (config.punching (config.punched env 0 config.relay_node_ip_ config.relay_node_port_)).1,
        (config.punching (config.punched env 0 config.relay_node_ip_ config.relay_node_port_)).2) := by
  simp only [record]
  rw [if_pos relay]

theorem told_timer (ledger : Ledger L) (env : Environment L) {endpoint : Endpoint L} (there : 0 < ledger.loops endpoint) :
    record config ledger (.timer env endpoint) =
      let punching := config.punching (if config.buffer_.length ≤ 65507 ∧ env.accepts 0 = true then some endpoint else none)
      some (ledger ++ .expired endpoint :: punching.1, punching.2) := by
  simp only [record]
  rw [if_pos there]

theorem told_receive {ledger : Ledger L} (calm : ∀ fact ∈ ledger, fact.Calm) (after : Ledger L) (env : Environment L)
    (buffer : Bytes) (remote_endpoint : Endpoint L) :
    record config (ledger ++ after) (.receive env buffer remote_endpoint) =
      some (ledger ++ after ++ (metFacts (config.met env buffer remote_endpoint) ++
          marks (config.handling env buffer remote_endpoint after.nextHop)),
        config.handling env buffer remote_endpoint after.nextHop) := by
  have hop : Ledger.nextHop (ledger ++ after) = Ledger.nextHop after := funext fun message => nextHop_of_calm calm after message
  simp only [record, received_eq, hop]

/-- A call for a contact that a datagram told of. -/
theorem told_met {ledger after : Ledger L} (calm : ∀ fact ∈ ledger, fact.Calm) (env : Environment L) {login address : Bytes}
    {id : L.InfoHash} {public_key : L.PublicKey} (message : Bytes)
    (met : latest (Fact.address .metadata_ip_resolver_ login id) after = some address)
    (key : latest (Fact.key .metadata_ip_resolver_ id) after = some public_key) :
    record config (ledger ++ after) (.send_message env login id message) =
      some (ledger ++ after ++ marks (config.calling env address login public_key message),
        config.calling env address login public_key message) := by
  have found : Ledger.resolve (ledger ++ after) login id = some address := by
    unfold Ledger.resolve
    rw [latest_append, met_of_calm calm, met]
    rfl
  have known : Ledger.public_key (ledger ++ after) id = some public_key := by
    unfold Ledger.public_key
    rw [latest_append, key_of_calm calm, key]
    rfl
  simp only [record, found, known, marks_calling]

/-- A call for a contact that only the DHT told of. -/
theorem told_listed {ledger : Ledger L} (calm : ∀ fact ∈ ledger, fact.Calm) (env : Environment L) {login address : Bytes}
    {id : L.InfoHash} {public_key : L.PublicKey} (message : Bytes)
    (listed : latest (Fact.address .dht_ip_resolver_ login id) ledger = some address)
    (key : latest (Fact.key .dht_ip_resolver_ id) ledger = some public_key) :
    record config ledger (.send_message env login id message) =
      some (ledger ++ saidBy (config.calling env address login public_key message),
        config.calling env address login public_key message) := by
  have found : ledger.resolve login id = some address := by
    unfold Ledger.resolve
    rw [met_of_calm calm, listed]
    rfl
  have known : ledger.public_key id = some public_key := by
    unfold Ledger.public_key
    rw [key_of_calm calm, key]
    rfl
  simp only [record, found, known]

theorem told_unlisted {ledger : Ledger L} (calm : ∀ fact ∈ ledger, fact.Calm) (env : Environment L) {login : Bytes}
    {id : L.InfoHash} (message : Bytes) (unlisted : latest (Fact.address .dht_ip_resolver_ login id) ledger = none) :
    record config ledger (.send_message env login id message) = some (ledger ++ [], []) := by
  have unfound : ledger.resolve login id = none := by
    unfold Ledger.resolve
    rw [met_of_calm calm, unlisted]
    rfl
  simp only [record, unfound, List.append_nil]

end P2PMessenger
