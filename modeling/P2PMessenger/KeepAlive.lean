import P2PMessenger.Bindings
import P2PMessenger.Transparency
import P2PMessenger.Runs

/-!
The hole-punch loops over the life of one node. Nothing records which endpoints have a
loop and nothing ends one but a refused datagram, so there are as many as were started:
one for the relay node, and one for each accepted copy of a message.
-/
namespace P2PMessenger
open Octets Throwing Runs

variable {L : Libraries}

/-- What happens at a node. -/
inductive Activity (L : Libraries) where
  /-- The last lines of the constructor: a loop for the relay node. -/
  | start (env : Environment L)
  | receive (env : Environment L) (buffer : Bytes) (remote_endpoint : Endpoint L)
  | timer (env : Environment L) (endpoint : Endpoint L)
  | send_message (env : Environment L) (destination_address destination_login : Bytes) (public_key : L.PublicKey)
      (text : Bytes)

/-- The node after an activity, also after one that throws. -/
def live (config : Config L) (node : Node L) : Activity L → Option (Node L)
  | .start env =>
    if config.relay_node_ip_ ≠ [] then
      some (after ((start_hole_punching config env config.relay_node_ip_ config.relay_node_port_).run ⟨node, []⟩)).node
    else none
  | .receive env buffer remote_endpoint => some (handle config env buffer remote_endpoint node)
  | .timer env endpoint =>
    if 0 < node.timers.count endpoint then some (after ((timer_handler config env endpoint).run ⟨node, []⟩)).node else none
  | .send_message env destination_address destination_login public_key text =>
    some (after ((send_message config env destination_address destination_login public_key text).run ⟨node, []⟩)).node

/-- The end of the constructor. -/
def Activity.isStart : Activity L → Bool
  | .start _ => true
  | _ => false

/-- The endpoint that an IP and a port stand for. -/
def endpointOf (ip : Bytes) (port : UInt16) : Option (Endpoint L) := (L.make_address ip).map fun address => ⟨address, port⟩

/-- A copy of an authentic message whose source is stored as this endpoint. -/
def Config.copyFrom (config : Config L) (endpoint : Endpoint L) : Activity L → Bool
  | .receive env buffer remote_endpoint =>
    match reading config env buffer with
    | .accepted message _ => endpointOf message.source_ip (sourcePort message remote_endpoint) == some endpoint
    | _ => false
  | _ => false

/-- The number of loops that an activity may start for an endpoint. -/
def Config.loopsStarted (config : Config L) (endpoint : Endpoint L) (a : Activity L) : Nat :=
  (if a.isStart ∧ endpointOf config.relay_node_ip_ config.relay_node_port_ = some endpoint then 1 else 0) +
    if config.copyFrom endpoint a then 1 else 0

/-! ## One activity -/

theorem endpointOf_of_punched {config : Config L} {env : Environment L} {sent : Nat} {ip : Bytes} {port : UInt16}
    {endpoint : Endpoint L} (punched : config.punched env sent ip port = some endpoint) :
    endpointOf ip port = some endpoint := by
  unfold Config.punched at punched
  unfold endpointOf
  cases literal : L.make_address ip with
  | none => simp [literal] at punched
  | some address =>
    simp only [literal] at punched
    split_ifs at punched
    exact punched

theorem count_start_hole_punching (config : Config L) (env : Environment L) (ip : Bytes) (port : UInt16) (node : Node L)
    (endpoint : Endpoint L) :
    (after ((start_hole_punching config env ip port).run ⟨node, []⟩)).node.timers.count endpoint ≤
      node.timers.count endpoint + if endpointOf ip port = some endpoint then 1 else 0 := by
  rw [start_hole_punching_run]
  cases punched : config.punched env (⟨node, []⟩ : Step L).effects.length ip port with
  | none => exact Nat.le_add_right _ _
  | some other =>
    simp only [after_ok, Step.punch, List.count_append, endpointOf_of_punched punched, Option.some.injEq]
    by_cases same : other = endpoint
    · simp [same]
    · simp [same]

theorem count_timer_handler (config : Config L) (env : Environment L) {node : Node L} {punched : Endpoint L}
    (armed : 0 < node.timers.count punched) (endpoint : Endpoint L) :
    (after ((timer_handler config env punched).run ⟨node, []⟩)).node.timers.count endpoint ≤ node.timers.count endpoint := by
  have erased : (node.timers.erase punched).count endpoint + (if punched = endpoint then 1 else 0) =
      node.timers.count endpoint := by
    by_cases same : punched = endpoint
    · subst same
      rw [List.count_erase_self, if_pos rfl, Nat.sub_add_cancel armed]
    · rw [List.count_erase_of_ne (Ne.symm same), if_neg same, Nat.add_zero]
  rw [timer_handler_run]
  by_cases taken : config.buffer_.length ≤ 65507 ∧ env.accepts (⟨node, []⟩ : Step L).effects.length = true
  · simp only [if_pos taken, after_ok, Step.punch, List.count_append, List.count_singleton, beq_iff_eq]
    exact Nat.le_of_eq erased
  · simp only [if_neg taken, after_error]
    omega

section
variable (config : Config L) (env : Environment L)

/-- The timers of a step. -/
def Step.timers (s : Step L) : List (Endpoint L) := s.node.timers

theorem keeps_emit (effect : Effect L) : Keeps Step.timers (emit effect) := fun _ => rfl

theorem keeps_library {α : Type} (e : Exception) (result : Option α) : Keeps Step.timers (library e result : Program L α) :=
  Keeps.ofExcept _

theorem keeps_appendHistory (origin : Origin) (id : L.InfoHash) (login text : Bytes) :
    Keeps Step.timers (appendHistory origin id login text) := fun _ => rfl

theorem keeps_send_to (purpose : Purpose) (buffer : Bytes) (endpoint : Endpoint L) :
    Keeps Step.timers (send_to env purpose buffer endpoint) := by
  intro s
  rw [send_to_run]
  split <;> rfl

theorem keeps_send_handler (message : Message) : Keeps Step.timers (send_handler message : Program L Unit) := by
  refine (keeps_emit _).bind fun _ => ?_
  refine (keeps_library _ _).bind fun _ => ?_
  exact (keeps_appendHistory _ _ _ _).bind fun _ => keeps_emit _

theorem keeps_send_relay_copy (ip buffer : Bytes) : Keeps Step.timers (send_relay_copy config env ip buffer) := by
  refine Keeps.ite ?_ (Keeps.pure ())
  exact (keeps_library _ _).bind fun _ => keeps_send_to env _ _ _

/-- A call of `send_message` starts no loop. -/
theorem keeps_send_message (destination_address destination_login : Bytes) (public_key : L.PublicKey) (text : Bytes) :
    Keeps Step.timers (send_message config env destination_address destination_login public_key text) := by
  refine Keeps.swallow ?_
  refine (Keeps.ofExcept _).bind fun _ => ?_
  refine (Keeps.ofExcept _).bind fun _ => ?_
  refine (keeps_emit _).bind fun _ => ?_
  refine (Keeps.ofExcept _).bind fun _ => ?_
  refine (keeps_library _ _).bind fun _ => ?_
  refine (keeps_send_to env _ _ _).bind fun _ => ?_
  exact (keeps_send_relay_copy config env _ _).bind fun _ => keeps_send_handler _

end

/-- The handler of a datagram starts a loop only for an accepted message, and only one. -/
theorem count_handle (config : Config L) (env : Environment L) (buffer : Bytes) (remote_endpoint : Endpoint L)
    (node : Node L) (endpoint : Endpoint L) :
    (handle config env buffer remote_endpoint node).timers.count endpoint ≤
      node.timers.count endpoint + if config.copyFrom endpoint (.receive env buffer remote_endpoint) then 1 else 0 := by
  unfold handle
  rw [async_wait_handler_run]
  cases read : reading config env buffer with
  | accepted message public_key =>
    simp only [after_ok, Step.listening, Config.copyFrom, read, beq_iff_eq, accepted_timers, List.count_append]
    cases loop : config.punched env (⟨node, []⟩ : Step L).effects.length message.source_ip
        (sourcePort message remote_endpoint) with
    | none => simp
    | some other =>
      simp only [endpointOf_of_punched loop, Option.some.injEq, Option.toList_some, List.count_singleton, beq_iff_eq]
      exact Nat.le_refl _
  | transit message =>
    simp only [after_ok, Step.listening]
    refine Nat.le_add_right_of_le (Nat.le_of_eq ?_)
    by_cases relay : config.relay_ = true
    · rw [if_pos relay, relayed_node]
    · rw [if_neg relay]
  | dropped => exact Nat.le_add_right _ _
  | metadata =>
    simp only
    refine Nat.le_add_right_of_le (Nat.le_of_eq ?_)
    cases L.publicKey (metadata_from_buffer buffer env.beyond).2 <;> rfl

/-- An activity adds at most the loops that it starts. -/
theorem count_live {config : Config L} {node next : Node L} {a : Activity L} (lived : live config node a = some next)
    (endpoint : Endpoint L) :
    next.timers.count endpoint ≤ node.timers.count endpoint + config.loopsStarted endpoint a := by
  cases a with
  | start env =>
    simp only [live] at lived
    split_ifs at lived
    obtain rfl := Option.some.inj lived
    have started := count_start_hole_punching config env config.relay_node_ip_ config.relay_node_port_ node endpoint
    simpa [Config.loopsStarted, Activity.isStart, Config.copyFrom] using started
  | receive env buffer remote_endpoint =>
    obtain rfl := Option.some.inj lived
    have handled := count_handle config env buffer remote_endpoint node endpoint
    simpa [Config.loopsStarted, Activity.isStart] using handled
  | timer env punched =>
    simp only [live] at lived
    split_ifs at lived with armed
    obtain rfl := Option.some.inj lived
    exact Nat.le_add_right_of_le (count_timer_handler config env armed endpoint)
  | send_message env destination_address destination_login public_key text =>
    obtain rfl := Option.some.inj lived
    have kept := keeps_send_message config env destination_address destination_login public_key text ⟨node, []⟩
    exact Nat.le_add_right_of_le (Nat.le_of_eq (congrArg (List.count endpoint) kept))

/-! ## A life -/

theorem count_run {config : Config L} {activities : List (Activity L)} {node last : Node L}
    (lived : run (live config) node activities = some last) (endpoint : Endpoint L) :
    last.timers.count endpoint ≤ node.timers.count endpoint + (activities.map (config.loopsStarted endpoint)).sum := by
  induction activities generalizing node with
  | nil =>
    obtain rfl := Option.some.inj lived
    exact Nat.le_add_right _ _
  | cons a activities ih =>
    obtain ⟨next, first, rest⟩ := Option.bind_eq_some_iff.mp lived
    have step := count_live first endpoint
    have later := ih rest
    rw [List.map_cons, List.sum_cons]
    omega

/-- In a life in which the constructor ends once at most, an endpoint has one loop for the
    relay node, if it is the relay node's, and one for each accepted copy of a message
    whose source is stored as it: never more, however many timer rounds there were. -/
theorem loops_le_copies {config : Config L} {activities : List (Activity L)} {node : Node L}
    (lived : run (live config) (Node.initial L) activities = some node)
    (once : activities.countP Activity.isStart ≤ 1) (endpoint : Endpoint L) :
    node.timers.count endpoint ≤
      (if endpointOf config.relay_node_ip_ config.relay_node_port_ = some endpoint then 1 else 0) +
        activities.countP (config.copyFrom endpoint) := by
  have bound := count_run lived endpoint
  have total : ∀ list : List (Activity L), (list.map (config.loopsStarted endpoint)).sum ≤
      (if endpointOf config.relay_node_ip_ config.relay_node_port_ = some endpoint then list.countP Activity.isStart
        else 0) + list.countP (config.copyFrom endpoint) := by
    intro list
    induction list with
    | nil => simp
    | cons a list ih =>
      simp only [List.map_cons, List.sum_cons, List.countP_cons, Config.loopsStarted]
      by_cases relay : endpointOf config.relay_node_ip_ config.relay_node_port_ = some endpoint
      · simp only [relay, if_true, and_true] at ih ⊢
        omega
      · simp only [relay, if_false, and_false] at ih ⊢
        omega
  have sum := total activities
  simp only [Node.initial, List.count_nil] at bound
  split_ifs at sum ⊢ with relay
  · omega
  · omega

/-- A life in which the sample receiver gets the sample datagram. -/
def copyLife : List (Activity Sample.libraries) := [.receive Sample.environment Sample.datagram Sample.elsewhere]

/-- The endpoint of the sample sender. -/
def sourceEndpoint : Endpoint Sample.libraries := ⟨(127, 0, 0, 1), 3001⟩

theorem loops_le_copies_sample :
    ∃ node, run (live Sample.receiver) (Node.initial _) copyLife = some node ∧ node.timers.count sourceEndpoint ≤ 1 := by
  have lived : run (live Sample.receiver) (Node.initial _) copyLife =
    some (handle Sample.receiver Sample.environment Sample.datagram Sample.elsewhere (Node.initial _)) := rfl
  refine ⟨_, lived, ?_⟩
  have bound := loops_le_copies lived (by decide) sourceEndpoint
  have copies : copyLife.countP (Sample.receiver.copyFrom sourceEndpoint) = 1 := by decide +kernel
  rw [copies, if_neg (by decide)] at bound
  exact bound

/-- The second copy of one message starts a second loop for its source. -/
theorem two_loops_for_two_copies :
    ∃ node, run (live Sample.receiver) (Node.initial _) (copyLife ++ copyLife) = some node ∧
      node.timers.count sourceEndpoint = 2 := by
  refine ⟨_, rfl, ?_⟩
  decide +kernel

end P2PMessenger
