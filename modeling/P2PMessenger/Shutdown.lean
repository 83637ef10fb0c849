import P2PMessenger.Runs

/-!
The end of a `P2PMessengerImpl`. Its destructor resets the work guard and stops the
io_context, and then the members go one by one, the last one declared first. The
workers are joined when `threads_` goes, which is after the io_context they run.
-/
namespace P2PMessenger
open Runs

inductive Member where
  | my_login_
  | dht_port_
  | my_ip_
  | my_port_
  | bootstrap_node_ip_
  | bootstrap_node_port_
  | relay_node_ip_
  | relay_node_port_
  | relay_
  | generate_crypto_identity_
  | crypto_identity_path_
  | identity_
  | num_threads_
  | threads_
  | io_context_
  | work_guard_
  | socket_
  | message_sender_
  | message_receiver_
  | dht_ip_resolver_
  | metadata_ip_resolver_
  | chat_history_
  | udp_hole_puncher_
  deriving DecidableEq, Repr

/-- The members in the order of their declaration. -/
def Member.declared : List Member :=
  [.my_login_, .dht_port_, .my_ip_, .my_port_, .bootstrap_node_ip_, .bootstrap_node_port_, .relay_node_ip_,
    .relay_node_port_, .relay_, .generate_crypto_identity_, .crypto_identity_path_, .identity_, .num_threads_, .threads_,
    .io_context_, .work_guard_, .socket_, .message_sender_, .message_receiver_, .dht_ip_resolver_,
    .metadata_ip_resolver_, .chat_history_, .udp_hole_puncher_]

abbrev num_threads_ : Nat := 4

/-- The handlers that the workers run. -/
inductive Handler where
  /-- `MessageReceiver::async_wait_handler`. -/
  | receive
  /-- What `P2PMessengerImpl::send_message` posts. -/
  | send
  | hole_punch_timer
  /-- The timer of `DhtIpResolver::put_signed`. -/
  | republish_timer
  deriving DecidableEq, Repr

/-- The members that a handler uses on some way through its code: itself or through the
    references, handlers and timers that it was given. Sockets and timers work through the
    io_context. -/
def Handler.uses : Handler → List Member
  | .receive =>
    -- `this` and its `handler_`, the reads and the relayed copy, `put` and `resolve`, the loop that it starts
    [.message_receiver_, .socket_, .io_context_, .metadata_ip_resolver_, .udp_hole_puncher_, .identity_, .chat_history_]
  | .send =>
    -- `resolve` and `get_public_key_by_public_key_id`, then the sender with both datagrams and its `handler_`
    [.metadata_ip_resolver_, .dht_ip_resolver_, .message_sender_, .socket_, .io_context_, .chat_history_]
  | .hole_punch_timer => [.udp_hole_puncher_, .socket_, .io_context_]
  | .republish_timer => [.dht_ip_resolver_, .io_context_]

inductive Worker where
  /-- In `io_context_.run()`, between two handlers. -/
  | waiting
  | running (handler : Handler)
  /-- Returned from `io_context_.run()`. -/
  | returned
  deriving DecidableEq, Repr

/-- What a worker may use: while it is in `run()` the io_context, to which every handler
    returns, and in a handler also what the handler uses. -/
def Worker.uses : Worker → List Member
  | .waiting => [.io_context_]
  | .running handler => .io_context_ :: handler.uses
  | .returned => []

/-- What `~P2PMessengerImpl` does. -/
inductive Stage where
  | work_guard_reset
  | io_context_stop
  | destroy (m : Member)
  deriving DecidableEq, Repr

def destructor : List Stage := .work_guard_reset :: .io_context_stop :: Member.declared.reverse.map .destroy

inductive Trace where
  | used (i : Fin num_threads_) (m : Member)
  | destroyed (m : Member)
  deriving DecidableEq

/-- The node from before its destructor on: what is left of the destructor, and the
    workers. -/
structure Shutdown where
  stages : List Stage
  stopped : Bool
  workers : Fin num_threads_ → Worker
  log : List Trace

def Shutdown.initial : Shutdown := ⟨destructor, false, fun _ => .waiting, []⟩

/-- A step of the destructor or of a worker. -/
inductive Tick where
  | destructor
  /-- A worker takes up a handler. -/
  | begin (i : Fin num_threads_) (handler : Handler)
  /-- A handler uses one of its members. Which one comes next, and how often, depends on
      branches, exceptions and what the handler calls. -/
  | use (i : Fin num_threads_) (m : Member)
  /-- The handler returns to the io_context. -/
  | finish (i : Fin num_threads_)
  /-- `io_context_.run()` returns. -/
  | leave (i : Fin num_threads_)

/-- A worker does something with a member and goes on. -/
def Shutdown.used (s : Shutdown) (i : Fin num_threads_) (m : Member) (worker : Worker) : Shutdown :=
  { s with workers := Function.update s.workers i worker, log := s.log ++ [.used i m] }

def tick (s : Shutdown) : Tick → Option Shutdown
  | .destructor =>
    match s.stages with
    | [] => none
    | .work_guard_reset :: stages => some { s with stages := stages }
    | .io_context_stop :: stages => some { s with stages := stages, stopped := true }
    | .destroy m :: stages =>
      -- the destructor of a `std::jthread` waits for its thread
      if m = .threads_ ∧ ∃ i, s.workers i ≠ .returned then none
      else some { s with stages := stages, log := s.log ++ [.destroyed m] }
  | .begin i handler =>
    if s.stopped = false ∧ s.workers i = .waiting then some (s.used i .io_context_ (.running handler)) else none
  | .use i m =>
    match s.workers i with
    | .running handler => if handler.uses.contains m then some (s.used i m (.running handler)) else none
    | _ => none
  | .finish i =>
    match s.workers i with
    | .running _ => some (s.used i .io_context_ .waiting)
    | _ => none
  | .leave i => if s.stopped = true ∧ s.workers i = .waiting then some (s.used i .io_context_ .returned) else none

/-- No worker used a member after the member was destroyed. -/
def Safe (log : List Trace) : Prop := Justified (fun before e => ∀ i m, e = .used i m → .destroyed m ∉ before) log

/-- The member that a stage destroys. -/
def Stage.member : Stage → Option Member
  | .destroy m => some m
  | _ => none

/-- Nobody is about this member: no worker runs a handler whose code uses it, and from the
    io_context all workers have returned. -/
structure Shutdown.Idle (s : Shutdown) (m : Member) : Prop where
  handlers : ∀ i handler, s.workers i = .running handler → m ∉ handler.uses
  io_context : m = .io_context_ → ∀ i, s.workers i = .returned

/-- A member is destroyed when nobody is about it. -/
def Ordered (s : Shutdown) : Tick → Prop
  | .destructor => ∀ stage ∈ s.stages.head?, ∀ m ∈ stage.member, s.Idle m
  | _ => True

theorem idle_iff (s : Shutdown) (m : Member) : s.Idle m ↔ ∀ i, m ∉ (s.workers i).uses := by
  constructor
  · intro idle i
    cases worker : s.workers i with
    | waiting =>
      rintro uses
      have returned := idle.io_context (List.mem_singleton.mp uses) i
      rw [worker] at returned
      cases returned
    | running handler =>
      intro uses
      rcases List.mem_cons.mp uses with io_context | uses
      · have returned := idle.io_context io_context i
        rw [worker] at returned
        cases returned
      · exact idle.handlers i handler worker uses
    | returned => exact List.not_mem_nil
  · intro unused
    constructor
    · intro i handler running uses
      refine unused i ?_
      rw [running]
      exact List.mem_cons_of_mem _ uses
    · rintro rfl i
      have free := unused i
      cases worker : s.workers i with
      | waiting => simp [worker, Worker.uses] at free
      | running handler => simp [worker, Worker.uses] at free
      | returned => rfl

instance (s : Shutdown) (m : Member) : Decidable (s.Idle m) := decidable_of_iff _ (idle_iff s m).symm

instance (s : Shutdown) : ∀ a, Decidable (Ordered s a)
  | .destructor => inferInstanceAs (Decidable (∀ stage ∈ s.stages.head?, ∀ m ∈ stage.member, s.Idle m))
  | .begin _ _ => isTrue trivial
  | .use _ _ => isTrue trivial
  | .finish _ => isTrue trivial
  | .leave _ => isTrue trivial

/-- When all workers have returned, anything may go. -/
theorem ordered_of_returned {s : Shutdown} (returned : ∀ i, s.workers i = .returned) (a : Tick) : Ordered s a := by
  cases a with
  | destructor =>
    intro _ _ m _
    refine (idle_iff s m).mpr fun i => ?_
    rw [returned i]
    exact List.not_mem_nil
  | _ => trivial

/-- What holds as long as every step is ordered. -/
structure Shutdown.Sound (s : Shutdown) : Prop where
  safe : Safe s.log
  gone : ∀ i m, .destroyed m ∈ s.log → m ∉ (s.workers i).uses
  stopped : ∀ m, .destroyed m ∈ s.log → s.stopped = true
  stages : s.stopped = true ∨ s.stages = destructor ∨ s.stages = destructor.tail

namespace Shutdown

theorem sound_initial : initial.Sound where
  safe := justified_nil _
  gone := by simp [initial]
  stopped := by simp [initial]
  stages := .inr (.inl rfl)

@[simp] theorem used_workers_self (s : Shutdown) (i : Fin num_threads_) (m : Member) (worker : Worker) :
    (s.used i m worker).workers i = worker := Function.update_self _ _ _

theorem used_workers_of_ne (s : Shutdown) {i j : Fin num_threads_} (other : j ≠ i) (m : Member) (worker : Worker) :
    (s.used i m worker).workers j = s.workers j := Function.update_of_ne other _ _

/-- A worker uses what it may use, and goes on with members that are still there. -/
theorem Sound.used {s : Shutdown} (sound : s.Sound) {i : Fin num_threads_} {m : Member} {worker : Worker}
    (may : m ∈ (s.workers i).uses) (there : ∀ n ∈ worker.uses, .destroyed n ∉ s.log) : (s.used i m worker).Sound where
  safe := by
    refine sound.safe.snoc ?_
    intro j n same destroyed
    cases same
    exact sound.gone i m destroyed may
  gone := by
    intro j n destroyed
    have old : .destroyed n ∈ s.log := by simpa [Shutdown.used] using destroyed
    by_cases same : j = i
    · subst same
      rw [used_workers_self]
      exact fun uses => there n uses old
    · rw [used_workers_of_ne s same]
      exact sound.gone j n old
  stopped := by
    intro n destroyed
    exact sound.stopped n (by simpa [Shutdown.used] using destroyed)
  stages := sound.stages

/-- Before a member is destroyed the io_context was stopped. -/
theorem Sound.stopped_of_destroy {s : Shutdown} (sound : s.Sound) {m : Member} {stages : List Stage}
    (head : s.stages = .destroy m :: stages) : s.stopped = true := by
  rcases sound.stages with stopped | whole | tail
  · exact stopped
  · rw [head] at whole
    cases whole
  · rw [head] at tail
    cases tail

theorem Sound.destroy {s : Shutdown} (sound : s.Sound) {m : Member} {stages : List Stage}
    (head : s.stages = .destroy m :: stages) (unused : ∀ i, m ∉ (s.workers i).uses) :
    Sound { s with stages := stages, log := s.log ++ [.destroyed m] } where
  safe := by
    refine sound.safe.snoc ?_
    intro i n same
    cases same
  gone := by
    intro i n destroyed
    rcases List.mem_append.mp destroyed with old | new
    · exact sound.gone i n old
    · cases List.mem_singleton.mp new
      exact unused i
  stopped := fun _ _ => sound.stopped_of_destroy head
  stages := .inl (sound.stopped_of_destroy head)

/-- What a worker will use is still there, and so is what it may use later. -/
theorem Sound.there {s : Shutdown} (sound : s.Sound) (i : Fin num_threads_) {worker : Worker}
    (less : worker.uses ⊆ (s.workers i).uses) : ∀ n ∈ worker.uses, .destroyed n ∉ s.log :=
  fun n uses destroyed => sound.gone i n destroyed (less uses)

/-- A stage of the destructor, ordered, keeps the invariant. -/
theorem Sound.destructor {s t : Shutdown} (sound : s.Sound) (ordered : Ordered s .destructor)
    (taken : P2PMessenger.tick s .destructor = some t) : t.Sound := by
  cases head : s.stages with
  | nil => simp [P2PMessenger.tick, head] at taken
  | cons stage stages =>
    cases stage with
    | work_guard_reset =>
      simp only [P2PMessenger.tick, head, Option.some.injEq] at taken
      subst taken
      refine ⟨sound.safe, sound.gone, sound.stopped, ?_⟩
      rcases sound.stages with stopped | whole | tail
      · exact .inl stopped
      · rw [head] at whole
        exact .inr (.inr (List.cons.inj whole).2)
      · rw [head] at tail
        cases tail
    | io_context_stop =>
      simp only [P2PMessenger.tick, head, Option.some.injEq] at taken
      subst taken
      exact ⟨sound.safe, sound.gone, fun _ _ => rfl, .inl rfl⟩
    | destroy m =>
      simp only [P2PMessenger.tick, head] at taken
      split_ifs at taken
      obtain rfl := Option.some.inj taken
      exact sound.destroy head ((idle_iff s m).mp (ordered (.destroy m) (by simp [head]) m rfl))

/-- An ordered step keeps the invariant. -/
theorem Sound.tick {s t : Shutdown} {a : Tick} (sound : s.Sound) (ordered : Ordered s a) (taken : tick s a = some t) :
    t.Sound := by
  cases a with
  | destructor => exact sound.destructor ordered taken
  | begin i handler =>
    simp only [P2PMessenger.tick] at taken
    split_ifs at taken with may
    obtain rfl := Option.some.inj taken
    -- as long as the io_context runs nothing is gone
    refine sound.used (by simp [may.2, Worker.uses]) fun n _ destroyed => ?_
    have stopped := sound.stopped n destroyed
    simp [may.1] at stopped
  | use i m =>
    simp only [P2PMessenger.tick] at taken
    cases worker : s.workers i with
    | waiting => simp [worker] at taken
    | returned => simp [worker] at taken
    | running handler =>
      simp only [worker] at taken
      split_ifs at taken with uses
      obtain rfl := Option.some.inj taken
      refine sound.used ?_ (sound.there i ?_)
      · rw [worker]
        exact List.mem_cons_of_mem _ (List.contains_iff_mem.mp uses)
      · rw [worker]
        exact List.Subset.refl _
  | finish i =>
    simp only [P2PMessenger.tick] at taken
    cases worker : s.workers i with
    | waiting => simp [worker] at taken
    | returned => simp [worker] at taken
    | running handler =>
      simp only [worker] at taken
      obtain rfl := Option.some.inj taken
      refine sound.used (by simp [worker, Worker.uses]) (sound.there i ?_)
      rw [worker]
      exact List.cons_subset_cons _ (List.nil_subset _)
  | leave i =>
    simp only [P2PMessenger.tick] at taken
    split_ifs at taken with may
    obtain rfl := Option.some.inj taken
    exact sound.used (by simp [may.2, Worker.uses]) (sound.there i (List.nil_subset _))

/-- After `stop` a worker can still take a step that uses what it may use. -/
theorem worker_goes_on {s : Shutdown} (stopped : s.stopped = true) {i : Fin num_threads_} {m : Member}
    (uses : m ∈ (s.workers i).uses) : ∃ a t, P2PMessenger.tick s a = some t ∧ t.log = s.log ++ [.used i m] := by
  cases worker : s.workers i with
  | waiting =>
    rw [worker] at uses
    obtain rfl := List.mem_singleton.mp uses
    exact ⟨.leave i, s.used i .io_context_ .returned, by simp [P2PMessenger.tick, worker, stopped], rfl⟩
  | running handler =>
    rw [worker] at uses
    rcases List.mem_cons.mp uses with rfl | uses
    · exact ⟨.finish i, s.used i .io_context_ .waiting, by simp [P2PMessenger.tick, worker], rfl⟩
    · exact ⟨.use i m, s.used i m (.running handler), by simp [P2PMessenger.tick, worker, uses], rfl⟩
  | returned =>
    rw [worker] at uses
    cases uses

end Shutdown

theorem not_safe {log : List Trace} {i : Fin num_threads_} {m : Member} (destroyed : .destroyed m ∈ log) :
    ¬ Safe (log ++ [.used i m]) := by
  intro safe
  exact safe log (.used i m) [] rfl i m rfl destroyed

/-- After a step that is not ordered some worker can use what was destroyed. -/
theorem unsafe_of_not_ordered {s t : Shutdown} (sound : s.Sound) {a : Tick} (taken : tick s a = some t)
    (early : ¬ Ordered s a) : ∃ b u, tick t b = some u ∧ ¬ Safe u.log := by
  cases a with
  | destructor =>
    cases head : s.stages with
    | nil => simp [tick, head] at taken
    | cons stage stages =>
      cases stage with
      | work_guard_reset => exact absurd (by simp [Ordered, head, Stage.member]) early
      | io_context_stop => exact absurd (by simp [Ordered, head, Stage.member]) early
      | destroy m =>
        have user : ∃ i, m ∈ (s.workers i).uses := by
          by_contra none
          refine early ?_
          have idle := (idle_iff s m).mpr (not_exists.mp none)
          simpa [Ordered, head, Stage.member] using idle
        obtain ⟨i, uses⟩ := user
        simp only [tick, head] at taken
        split_ifs at taken
        obtain rfl := Option.some.inj taken
        have stopped := sound.stopped_of_destroy head
        obtain ⟨b, u, later, log⟩ := Shutdown.worker_goes_on
          (s := { s with stages := stages, log := s.log ++ [.destroyed m] }) stopped uses
        refine ⟨b, u, later, ?_⟩
        rw [log]
        exact not_safe (by simp)
  | _ => exact absurd trivial early

theorem sound_of_ordered {s : Shutdown} (reaches : Reaches tick Ordered .initial s) : s.Sound :=
  reaches.invariant Shutdown.sound_initial fun _ _ _ sound ordered taken => sound.tick ordered taken

/-- As long as a member goes only when no handler that uses it is running, and the
    io_context when all workers have returned, no worker uses a member that is gone; and
    once a member went too early some worker can use it next. A destructor that waits for
    the workers before the first member goes is ordered. -/
theorem shutdown_is_safe {s : Shutdown} (reaches : Reaches tick Ordered .initial s) :
    Safe s.log ∧ (∀ a t, tick s a = some t → ¬ Ordered s a → ∃ b u, tick t b = some u ∧ ¬ Safe u.log) ∧
      ((∀ i, s.workers i = .returned) → ∀ a, Ordered s a) :=
  ⟨(sound_of_ordered reaches).safe, fun _ _ taken early => unsafe_of_not_ordered (sound_of_ordered reaches) taken early,
    ordered_of_returned⟩

/-- A shutdown during a timer handler, in which the destructor lets all workers return
    before it destroys anything. -/
def orderedTicks : List Tick :=
  [.begin 0 .hole_punch_timer, .use 0 .udp_hole_puncher_, .destructor, .use 0 .socket_, .destructor, .use 0 .io_context_,
    .finish 0, .leave 0, .leave 1, .leave 2, .leave 3] ++ List.replicate Member.declared.length .destructor

theorem shutdown_is_safe_ordered : ∃ s, run tick .initial orderedTicks = some s ∧ s.stages = [] ∧ Safe s.log := by
  have finished : (run tick .initial orderedTicks).map (·.stages) = some [] := by decide +kernel
  obtain ⟨s, taken, stages⟩ := Option.map_eq_some_iff.mp finished
  have ordered : Guarded tick Ordered .initial orderedTicks := by decide +kernel
  exact ⟨s, taken, stages, (shutdown_is_safe (reaches_of_guarded .start ordered taken)).1⟩

/-- A message is received while the destructor runs: it was read and its source is stored,
    and then the loop is started. -/
def receiveTicks : List Tick :=
  [.begin 0 .receive, .use 0 .socket_, .use 0 .message_receiver_, .use 0 .metadata_ip_resolver_, .destructor, .destructor,
    .destructor, .use 0 .udp_hole_puncher_]

/-- The io_context goes while no handler runs, and then a worker returns from it. -/
def returnTicks : List Tick := List.replicate 11 .destructor ++ [.leave 0]

/-- A receive handler that runs at logout uses the hole puncher after its destruction, and
    a worker that runs nothing returns from an io_context that is gone. -/
theorem shutdown_uses_destroyed :
    (∃ s, run tick .initial receiveTicks = some s ∧ ¬ Safe s.log) ∧
      ∃ s, run tick .initial returnTicks = some s ∧ ¬ Safe s.log := by
  constructor
  · have logged : (run tick .initial receiveTicks).map (·.log) =
        some ([.used 0 .io_context_, .used 0 .socket_, .used 0 .message_receiver_, .used 0 .metadata_ip_resolver_,
          .destroyed .udp_hole_puncher_] ++ [.used 0 .udp_hole_puncher_]) := by decide +kernel
    obtain ⟨s, taken, log⟩ := Option.map_eq_some_iff.mp logged
    refine ⟨s, taken, ?_⟩
    rw [log]
    exact not_safe (by decide)
  · have logged : (run tick .initial returnTicks).map (·.log) =
        some ((Member.declared.reverse.take 9).map .destroyed ++ [.used 0 .io_context_]) := by decide +kernel
    obtain ⟨s, taken, log⟩ := Option.map_eq_some_iff.mp logged
    refine ⟨s, taken, ?_⟩
    rw [log]
    exact not_safe (by decide)

end P2PMessenger
