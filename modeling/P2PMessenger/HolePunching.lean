import P2PMessenger.KeepAlive

/-!
A hole-punching loop over its rounds. A round sends a datagram and then arms the timer, in
that order and without a `try`, so a datagram that the socket refuses ends the loop, and in
the timer's completion handler the exception goes on to `io_context::run`.
-/
namespace P2PMessenger
open Octets Throwing Runs

variable {L : Libraries}

/-- The socket takes the hole-punch datagram of a handler that had so many effects. -/
def Config.takes (config : Config L) (env : Environment L) (effects : Nat) : Prop :=
  config.buffer_.length ≤ 65507 ∧ env.accepts effects = true

instance (config : Config L) (env : Environment L) (effects : Nat) : Decidable (config.takes env effects) :=
  inferInstanceAs (Decidable (_ ∧ _))

/-- A round that the timer begins, and what the other handlers of the node did since the
    round before. -/
structure Round (L : Libraries) where
  meanwhile : Node L → Node L
  env : Environment L

/-- In each of the rounds the completion handler returns and has armed the timer again. -/
def RoundsSurvive (config : Config L) (endpoint : Endpoint L) : List (Round L) → Node L → Prop
  | [], _ => True
  | round :: rounds, node =>
    ∃ t, (timer_handler config round.env endpoint).run ⟨round.meanwhile node, []⟩ = .ok () t ∧
      t.node.timers = (round.meanwhile node).timers.erase endpoint ++ [endpoint] ∧ RoundsSurvive config endpoint rounds t.node

/-- A loop that some handler, or the constructor, starts from this step goes on through
    these rounds. -/
def LoopSurvives (config : Config L) (endpoint : Endpoint L) (s : Step L) (env : Environment L) (rounds : List (Round L)) :
    Prop :=
  (after ((hole_punch config env endpoint).run s)).node.timers = s.node.timers ++ [endpoint] ∧
    RoundsSurvive config endpoint rounds (after ((hole_punch config env endpoint).run s)).node

theorem first_round_iff (config : Config L) (endpoint : Endpoint L) (s : Step L) (env : Environment L) :
    (after ((hole_punch config env endpoint).run s)).node.timers = s.node.timers ++ [endpoint] ↔
      config.takes env s.effects.length := by
  rw [hole_punch_run]
  by_cases taken : config.buffer_.length ≤ 65507 ∧ env.accepts s.effects.length = true
  · rw [if_pos taken]
    exact ⟨fun _ => taken, fun _ => rfl⟩
  · rw [if_neg taken]
    refine ⟨fun armed => ?_, fun takes => absurd takes taken⟩
    have lengths := congrArg List.length armed
    simp at lengths

theorem roundsSurvive_iff (config : Config L) (endpoint : Endpoint L) (rounds : List (Round L)) (node : Node L) :
    RoundsSurvive config endpoint rounds node ↔ ∀ round ∈ rounds, config.takes round.env 0 := by
  induction rounds generalizing node with
  | nil => simp [RoundsSurvive]
  | cons round rounds ih =>
    rw [RoundsSurvive, timer_handler_run, List.forall_mem_cons]
    by_cases taken : config.takes round.env 0
    · have taking : config.buffer_.length ≤ 65507 ∧
          round.env.accepts (⟨round.meanwhile node, []⟩ : Step L).effects.length = true := taken
      simp only [if_pos taking]
      constructor
      · rintro ⟨t, -, -, rest⟩
        exact ⟨taken, (ih t.node).mp rest⟩
      · rintro ⟨-, rest⟩
        exact ⟨_, rfl, rfl, (ih _).mpr rest⟩
    · have refused : ¬ (config.buffer_.length ≤ 65507 ∧
          round.env.accepts (⟨round.meanwhile node, []⟩ : Step L).effects.length = true) := taken
      simp only [if_neg refused]
      constructor
      · rintro ⟨t, thrown, -⟩
        cases thrown
      · rintro ⟨takes, -⟩
        exact absurd takes taken

/-! ## The loops of a node -/

theorem le_count_handle (config : Config L) (env : Environment L) (buffer : Bytes) (remote_endpoint : Endpoint L)
    (node : Node L) (endpoint : Endpoint L) :
    node.timers.count endpoint ≤ (handle config env buffer remote_endpoint node).timers.count endpoint := by
  unfold handle
  rw [async_wait_handler_run]
  cases reading config env buffer with
  | accepted message public_key =>
    simp only [after_ok, Step.listening, accepted_timers, List.count_append]
    exact Nat.le_add_right _ _
  | transit message =>
    simp only [after_ok, Step.listening]
    refine Nat.le_of_eq ?_
    by_cases relay : config.relay_ = true
    · rw [if_pos relay, relayed_node]
    · rw [if_neg relay]
  | dropped => exact Nat.le_refl _
  | metadata =>
    simp only
    refine Nat.le_of_eq ?_
    cases L.publicKey (metadata_from_buffer buffer env.beyond).2 <;> rfl

/-- The rounds of an activity are taken by the socket. -/
def Config.takesRound (config : Config L) : Activity L → Prop
  | .timer env _ => config.takes env 0
  | _ => True

/-- Only a refused round ends a loop. -/
theorem le_count_live {config : Config L} {node next : Node L} {a : Activity L} (takes : config.takesRound a)
    (lived : live config node a = some next) (endpoint : Endpoint L) :
    node.timers.count endpoint ≤ next.timers.count endpoint := by
  cases a with
  | start env =>
    simp only [live] at lived
    split_ifs at lived
    obtain rfl := Option.some.inj lived
    rw [start_hole_punching_run]
    cases config.punched env (⟨node, []⟩ : Step L).effects.length config.relay_node_ip_ config.relay_node_port_ with
    | none => exact Nat.le_refl _
    | some punched =>
      simp only [after_ok, Step.punch, List.count_append]
      exact Nat.le_add_right _ _
  | receive env buffer remote_endpoint =>
    obtain rfl := Option.some.inj lived
    exact le_count_handle config env buffer remote_endpoint node endpoint
  | timer env punched =>
    simp only [live] at lived
    split_ifs at lived with armed
    obtain rfl := Option.some.inj lived
    have taking : config.buffer_.length ≤ 65507 ∧ env.accepts (⟨node, []⟩ : Step L).effects.length = true := takes
    rw [timer_handler_run]
    simp only [if_pos taking, after_ok, Step.punch, List.count_append, List.count_singleton, beq_iff_eq]
    by_cases same : punched = endpoint
    · subst same
      rw [List.count_erase_self, if_pos rfl]
      omega
    · rw [List.count_erase_of_ne (Ne.symm same), if_neg same]
      exact Nat.le_refl _
  | send_message env destination_address destination_login public_key text =>
    obtain rfl := Option.some.inj lived
    have kept := keeps_send_message config env destination_address destination_login public_key text ⟨node, []⟩
    exact Nat.le_of_eq (congrArg (List.count endpoint) kept).symm

theorem le_count_run {config : Config L} {activities : List (Activity L)} {node last : Node L}
    (takes : ∀ a ∈ activities, config.takesRound a) (lived : run (live config) node activities = some last)
    (endpoint : Endpoint L) : node.timers.count endpoint ≤ last.timers.count endpoint := by
  induction activities generalizing node with
  | nil =>
    obtain rfl := Option.some.inj lived
    exact Nat.le_refl _
  | cons a activities ih =>
    obtain ⟨next, first, rest⟩ := Option.bind_eq_some_iff.mp lived
    obtain ⟨now, later⟩ := List.forall_mem_cons.mp takes
    exact Nat.le_trans (le_count_live now first endpoint) (ih later rest)

/-- A loop goes on through all its rounds, and no exception leaves its timer's completion
    handler, exactly when the socket takes every one of its datagrams; and in the life of a
    node whose rounds are all taken no loop ends. -/
theorem hole_punching_survives_iff (config : Config L) (endpoint : Endpoint L) :
    (∀ (s : Step L) (env : Environment L) (rounds : List (Round L)),
      LoopSurvives config endpoint s env rounds ↔
        config.takes env s.effects.length ∧ ∀ round ∈ rounds, config.takes round.env 0) ∧
    ∀ (activities : List (Activity L)) (node last : Node L), (∀ a ∈ activities, config.takesRound a) →
      run (live config) node activities = some last → node.timers.count endpoint ≤ last.timers.count endpoint := by
  constructor
  · intro s env rounds
    rw [LoopSurvives, first_round_iff, roundsSurvive_iff]
  · intro activities node last takes lived
    exact le_count_run takes lived endpoint

/-- A socket that refuses every datagram. -/
def cutOff : Environment Sample.libraries := ⟨(), fun _ => false, fun _ => 0, fun _ => 0⟩

/-- The first datagram of a loop is taken and the second refused: the exception leaves the
    completion handler, and no timer is left. -/
theorem hole_punching_ends :
    ¬ LoopSurvives Sample.receiver Sample.elsewhere ⟨Node.initial _, []⟩ Sample.environment [⟨id, cutOff⟩] ∧
      (timer_handler Sample.receiver cutOff Sample.elsewhere).run ⟨⟨.empty, .empty, [Sample.elsewhere]⟩, []⟩ =
        .error .system_error ⟨Node.initial _, []⟩ := by
  constructor
  · rw [LoopSurvives, roundsSurvive_iff]
    rintro ⟨-, takes⟩
    have second := takes ⟨id, cutOff⟩ List.mem_cons_self
    cases second.2
  · rw [timer_handler_run]
    simp [cutOff, Node.initial]

end P2PMessenger
