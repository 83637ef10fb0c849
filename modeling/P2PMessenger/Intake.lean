import P2PMessenger.Listening
import P2PMessenger.Shutdown

/-!
How datagrams come from the socket to the handler of `message_receiver.cpp`. A wait is
completed when there is a datagram to read; some worker then runs the handler, which asks
how many octets there are, reads them, and waits again at its end. Datagrams arrive all
the while, and the other handlers of the node run in between. What `available` answers is
the socket's business; the results are about sockets that answer with the length of the
datagram to be read next (`AnswersNext`), not with all octets that are pending.
-/
namespace P2PMessenger
open Octets Throwing Runs

variable {L : Libraries}

/-- Where a handler is whose wait had no error. -/
inductive Reader (L : Libraries) where
  | opened
  /-- After `available`. -/
  | sized (available : Nat)
  /-- After `receive_from`, with the datagram it took from the socket. -/
  | holding (available : Nat) (datagram : Bytes × Endpoint L)

/-- The socket and what is going on about it, and what has been so far. -/
structure Intake (L : Libraries) where
  socket : List (Bytes × Endpoint L)
  /-- Waits that are not completed. -/
  waits : Nat
  /-- Completed waits, with an error or not, whose handlers no worker has taken. -/
  completions : List Bool
  readers : List (Reader L)
  node : Node L
  arrived : List (Bytes × Endpoint L)
  handled : List (Received L)
  /-- What the other handlers did to the node since the last datagram was handled. -/
  meanwhile : Node L → Node L
  /-- A call of the socket has thrown. -/
  failed : Bool

/-- The constructor of the receiver waits once. -/
def Intake.initial (node : Node L) : Intake L := ⟨[], 1, [], [], node, [], [], id, false⟩

inductive IntakeMove (L : Libraries) where
  | arrive (datagram : Bytes × Endpoint L)
  /-- A wait is completed, with an error or because there is something to read. -/
  | complete (ec : Bool)
  /-- A worker takes the first completed wait. -/
  | run (env : Environment L)
  /-- `socket_.available()` gives an answer. -/
  | available (i octets : Nat)
  | receive_from (i : Nat)
  | handle (i : Nat) (env : Environment L)
  /-- `available` or `receive_from` throws. -/
  | throw (i : Nat)
  /-- Another handler of the node runs. -/
  | other (f : Node L → Node L)

namespace Intake

/-- Waits and handlers. -/
def turns (s : Intake L) : Nat := s.waits + s.completions.length + s.readers.length

/-- The waits that a handler asks for. -/
def asks (effects : List (Effect L)) : Nat := effects.count .async_wait

end Intake

def intake (config : Config L) (s : Intake L) : IntakeMove L → Option (Intake L)
  | .arrive datagram => some { s with socket := s.socket ++ [datagram], arrived := s.arrived ++ [datagram] }
  | .complete ec =>
    if 0 < s.waits ∧ (ec = true ∨ s.socket ≠ []) then
      some { s with waits := s.waits - 1, completions := s.completions ++ [ec] }
    else none
  | .run env =>
    match s.completions with
    | [] => none
    | true :: completions =>
      match dispatch config env ⟨true, none, none⟩ ⟨s.node, []⟩ with
      | .ok t => some { s with completions := completions, node := t.node, waits := s.waits + Intake.asks t.effects }
      | .error _ => some { s with completions := completions }
    | false :: completions =>
      if s.readers.length < num_threads_ then
        some { s with completions := completions, readers := s.readers ++ [.opened] }
      else none
  | .available i octets =>
    match s.readers[i]? with
    | some .opened => some { s with readers := s.readers.set i (.sized octets) }
    | _ => none
  | .receive_from i =>
    match s.readers[i]?, s.socket with
    | some (.sized available), datagram :: socket =>
      some { s with socket := socket, readers := s.readers.set i (.holding available datagram) }
    | _, _ => none
  | .handle i env =>
    match s.readers[i]? with
    | some (.holding available datagram) =>
      let ended := { s with
        readers := s.readers.eraseIdx i
        handled := s.handled ++ [⟨s.meanwhile, env, datagram.1, datagram.2⟩]
        meanwhile := id }
      match dispatch config env ⟨false, some available, some datagram⟩ ⟨s.node, []⟩ with
      | .ok t => some { ended with node := t.node, waits := s.waits + Intake.asks t.effects }
      | .error _ => some ended
    | _ => none
  | .throw i =>
    match s.readers[i]? with
    | some .opened | some (.sized _) => some { s with readers := s.readers.eraseIdx i, failed := true }
    | _ => none
  | .other f => some { s with node := f s.node, meanwhile := f ∘ s.meanwhile }

/-- `available` answers with the length of the datagram that is read next. -/
def AnswersNext (s : Intake L) : IntakeMove L → Prop
  | .available _ octets => ∀ datagram ∈ s.socket.head?, octets = datagram.1.length
  | _ => True

instance (s : Intake L) : ∀ move, Decidable (AnswersNext s move)
  | .available _ octets => inferInstanceAs (Decidable (∀ datagram ∈ s.socket.head?, octets = datagram.1.length))
  | .arrive _ => isTrue trivial
  | .complete _ => isTrue trivial
  | .run _ => isTrue trivial
  | .receive_from _ => isTrue trivial
  | .handle _ _ => isTrue trivial
  | .throw _ => isTrue trivial
  | .other _ => isTrue trivial

/-! ## The loop one datagram after the other -/

/-- One more datagram for the receive loop. -/
theorem listen_snoc (config : Config L) (datagrams : List (Received L)) (received : Received L) (node : Node L) :
    listen config (datagrams ++ [received]) node = listen config datagrams node >>= listen config [received] := by
  induction datagrams generalizing node with
  | nil => rfl
  | cons first datagrams ih =>
    rw [List.cons_append, listen, listen]
    cases dispatch config first.env (.whole first.buffer first.remote_endpoint) ⟨first.meanwhile node, []⟩ with
    | error fault => rfl
    | ok t => exact ih t.node

/-- A handler whose wait had an error only waits again. -/
theorem dispatch_ec (config : Config L) (env : Environment L) (node : Node L) :
    dispatch config env ⟨true, none, none⟩ ⟨node, []⟩ = .ok ⟨node, [.async_wait]⟩ := by
  simp [dispatch, Arrival.buffer]
  rfl

namespace Intake

/-- The datagram that a reader has taken from the socket. -/
def held : Reader L → Option (Bytes × Endpoint L)
  | .holding _ datagram => some datagram
  | _ => none

def datagrams (received : List (Received L)) : List (Bytes × Endpoint L) :=
  received.map fun r => (r.buffer, r.remote_endpoint)

/-- What a reader knows of the socket. -/
def Fit (socket : List (Bytes × Endpoint L)) : Reader L → Prop
  | .opened => socket ≠ []
  | .sized available => ∃ datagram rest, socket = datagram :: rest ∧ available = datagram.1.length
  | .holding available datagram => available = datagram.1.length

theorem Fit.more {socket : List (Bytes × Endpoint L)} {reader : Reader L} (fit : Fit socket reader)
    (datagram : Bytes × Endpoint L) : Fit (socket ++ [datagram]) reader := by
  cases reader with
  | opened => exact List.append_ne_nil_of_left_ne_nil fit _
  | sized available =>
    obtain ⟨first, rest, rfl, size⟩ := fit
    exact ⟨first, rest ++ [datagram], rfl, size⟩
  | holding available held => exact fit

/-- There is one wait or one handler at most, and while there is one the node is where the
    loop would have taken it. -/
structure Sound (config : Config L) (node : Node L) (s : Intake L) : Prop where
  one : s.turns ≤ 1
  order : datagrams s.handled ++ s.readers.filterMap held ++ s.socket = s.arrived
  readable : false ∈ s.completions → s.socket ≠ []
  fit : ∀ reader ∈ s.readers, Fit s.socket reader
  alive : 0 < s.turns → s.failed = false ∧ ∃ last, listen config s.handled node = .ok last ∧ s.node = s.meanwhile last
  ended : s.turns = 0 → s.failed = true ∨ ∃ fault, listen config s.handled node = .error fault

theorem sound_initial (config : Config L) (node : Node L) : Sound config node (Intake.initial node) where
  one := Nat.le_refl 1
  order := rfl
  readable := by simp [Intake.initial]
  fit := by simp [Intake.initial]
  alive _ := ⟨rfl, node, rfl, rfl⟩
  ended none := by simp [turns, Intake.initial] at none

/-- Whoever reads is alone. -/
theorem Sound.alone {config : Config L} {node : Node L} {s : Intake L} (sound : Sound config node s) {i : Nat}
    {reader : Reader L} (there : s.readers[i]? = some reader) :
    s.waits = 0 ∧ s.completions = [] ∧ s.readers = [reader] ∧ i = 0 := by
  have one := sound.one
  unfold turns at one
  obtain ⟨inside, same⟩ := List.getElem?_eq_some_iff.mp there
  have length : s.readers.length = 1 := by omega
  obtain ⟨only, readers⟩ := List.length_eq_one_iff.mp length
  obtain rfl : i = 0 := by omega
  simp only [readers, List.getElem_cons_zero] at same
  subst same
  refine ⟨by omega, List.eq_nil_of_length_eq_zero (by omega), readers, rfl⟩

/-- The datagram that a handler holds goes through the loop. -/
theorem Sound.handle {config : Config L} {node : Node L} {s t : Intake L} (sound : Sound config node s) {i : Nat}
    {env : Environment L} (step : intake config s (.handle i env) = some t) : Sound config node t := by
  simp only [intake] at step
  cases there : s.readers[i]? with
  | none => simp [there] at step
  | some reader =>
    cases reader with
    | opened => simp [there] at step
    | sized available => simp [there] at step
    | holding available datagram =>
      obtain ⟨waits, completions, readers, rfl⟩ := sound.alone there
      have size : available = datagram.1.length := sound.fit _ (List.mem_of_getElem? there)
      have running : 0 < s.turns := by
        unfold turns
        rw [readers, List.length_singleton]
        omega
      obtain ⟨unfailed, last, looped, now⟩ := sound.alive running
      -- the loop takes the datagram next, at the same node
      have next : listen config (s.handled ++ [⟨s.meanwhile, env, datagram.1, datagram.2⟩]) node =
          listen config [⟨s.meanwhile, env, datagram.1, datagram.2⟩] last := by
        rw [listen_snoc, looped]
        rfl
      have whole : (⟨false, some available, some datagram⟩ : Arrival L) = .whole datagram.1 datagram.2 := by
        rw [size]
        rfl
      have order : datagrams (s.handled ++ [⟨s.meanwhile, env, datagram.1, datagram.2⟩]) ++ [] ++ s.socket = s.arrived := by
        have before := sound.order
        rw [readers] at before
        rw [datagrams, List.map_append, List.append_nil]
        exact before
      have none_left : s.readers.eraseIdx 0 = [] := by
        rw [readers]
        rfl
      simp only [listen, ← now] at next
      simp only [there, whole, none_left] at step
      cases ran : dispatch config env (.whole datagram.1 datagram.2) ⟨s.node, []⟩ with
      | ok after_step =>
        rw [ran] at next
        simp only [ran] at step
        cases step
        have asked : asks after_step.effects = 1 := count_async_wait ((dispatch_ok_iff _ _ _ _ _ _).mp ran).2
        exact {
          one := by simp [turns, waits, completions, asked]
          order := order
          readable := by simp [completions]
          fit := by simp
          alive := fun _ => ⟨unfailed, after_step.node, next, rfl⟩
          ended := by simp [turns, asked] }
      | error fault =>
        rw [ran] at next
        simp only [ran] at step
        cases step
        exact {
          one := by simp [turns, waits, completions]
          order := order
          readable := by simp [completions]
          fit := by simp
          alive := by simp [turns, waits, completions]
          ended := fun _ => .inr ⟨fault, next⟩ }

/-- A move that handles nothing and loses no turn. -/
theorem Sound.keep {config : Config L} {node : Node L} {s t : Intake L} (sound : Sound config node s)
    (turns : t.turns = s.turns) (handled : t.handled = s.handled) (failed : t.failed = s.failed)
    (others : ∀ last, s.node = s.meanwhile last → t.node = t.meanwhile last)
    (order : datagrams t.handled ++ t.readers.filterMap held ++ t.socket = t.arrived)
    (readable : false ∈ t.completions → t.socket ≠ []) (fit : ∀ reader ∈ t.readers, Fit t.socket reader) :
    Sound config node t where
  one := by
    rw [turns]
    exact sound.one
  order := order
  readable := readable
  fit := fit
  alive := by
    rw [turns, handled, failed]
    intro running
    obtain ⟨unfailed, last, looped, now⟩ := sound.alive running
    exact ⟨unfailed, last, looped, others last now⟩
  ended := by
    rw [turns, handled, failed]
    exact sound.ended

theorem Sound.step {config : Config L} {node : Node L} {s t : Intake L} {move : IntakeMove L} (sound : Sound config node s)
    (answers : AnswersNext s move) (step : intake config s move = some t) : Sound config node t := by
  have order := sound.order
  cases move with
  | arrive datagram =>
    cases step
    refine sound.keep rfl rfl rfl (fun _ => id) ?_ (fun _ => List.append_ne_nil_of_right_ne_nil _ (List.cons_ne_nil _ _))
      fun reader member => (sound.fit reader member).more datagram
    show _ ++ (s.socket ++ [datagram]) = s.arrived ++ [datagram]
    rw [← List.append_assoc, order]
  | complete ec =>
    simp only [intake] at step
    split_ifs at step with guard
    cases step
    obtain ⟨some_wait, reason⟩ := guard
    refine sound.keep ?_ rfl rfl (fun _ => id) order (fun member => ?_) sound.fit
    · show s.waits - 1 + (s.completions ++ [ec]).length + s.readers.length = s.waits + s.completions.length + s.readers.length
      rw [List.length_append, List.length_singleton]
      omega
    · rcases List.mem_append.mp member with old | new
      · exact sound.readable old
      · obtain rfl := List.mem_singleton.mp new
        exact reason.resolve_left Bool.false_ne_true
  | run env =>
    simp only [intake] at step
    cases taken : s.completions with
    | nil => simp [taken] at step
    | cons ec completions =>
      have readable : false ∈ completions → s.socket ≠ [] := fun member =>
        sound.readable (by rw [taken]; exact List.mem_cons_of_mem _ member)
      cases ec with
      | true =>
        simp only [taken, dispatch_ec] at step
        cases step
        refine sound.keep ?_ rfl rfl (fun _ => id) order readable sound.fit
        show s.waits + 1 + completions.length + s.readers.length = s.waits + s.completions.length + s.readers.length
        rw [taken, List.length_cons]
        omega
      | false =>
        simp only [taken] at step
        split_ifs at step
        cases step
        refine sound.keep ?_ rfl rfl (fun _ => id) ?_ readable fun reader member => ?_
        · show s.waits + completions.length + (s.readers ++ [Reader.opened]).length =
            s.waits + s.completions.length + s.readers.length
          rw [taken, List.length_cons, List.length_append, List.length_singleton]
          omega
        · show _ ++ (s.readers ++ [Reader.opened]).filterMap held ++ _ = _
          rw [List.filterMap_append]
          show _ ++ (s.readers.filterMap held ++ []) ++ _ = _
          rw [List.append_nil, order]
        · rcases List.mem_append.mp member with old | new
          · exact sound.fit reader old
          · rw [List.mem_singleton.mp new]
            exact sound.readable (by rw [taken]; exact List.mem_cons_self)
  | available i octets =>
    simp only [intake] at step
    cases there : s.readers[i]? with
    | none => simp [there] at step
    | some reader =>
      cases reader with
      | opened =>
        obtain ⟨-, -, readers, rfl⟩ := sound.alone there
        obtain ⟨datagram, rest, socket⟩ := List.exists_cons_of_ne_nil (sound.fit _ (List.mem_of_getElem? there))
        have length : octets = datagram.1.length := answers datagram (by rw [socket]; rfl)
        simp only [there] at step
        cases step
        refine sound.keep (by simp [turns]) rfl rfl (fun _ => id) ?_ sound.readable fun reader member => ?_
        · rw [readers] at order ⊢
          exact order
        · rw [readers] at member
          rw [List.mem_singleton.mp member, socket]
          exact ⟨datagram, rest, rfl, length⟩
      | _ => simp [there] at step
  | receive_from i =>
    simp only [intake] at step
    cases there : s.readers[i]? with
    | none => simp [there] at step
    | some reader =>
      cases reader with
      | sized available =>
        obtain ⟨-, completions, readers, rfl⟩ := sound.alone there
        obtain ⟨datagram, rest, socket, size⟩ := sound.fit _ (List.mem_of_getElem? there)
        simp only [there, socket] at step
        cases step
        refine sound.keep (by simp [turns]) rfl rfl (fun _ => id) ?_ (fun member => ?_) fun reader member => ?_
        · show datagrams s.handled ++ (s.readers.set 0 (.holding available datagram)).filterMap held ++ rest = s.arrived
          rw [readers, socket] at order
          rw [readers, ← order, List.append_assoc, List.append_assoc]
          rfl
        · rw [completions] at member
          exact absurd member List.not_mem_nil
        · rw [readers] at member
          rw [List.mem_singleton.mp member]
          exact size
      | _ => simp [there] at step
  | handle i env => exact sound.handle step
  | throw i =>
    simp only [intake] at step
    have stops : ∀ reader, s.readers[i]? = some reader → held reader = none →
        Sound config node { s with readers := s.readers.eraseIdx i, failed := true } := by
      intro reader there nothing
      obtain ⟨waits, completions, readers, rfl⟩ := sound.alone there
      rw [readers] at order ⊢
      rw [List.filterMap_cons_none nothing] at order
      exact {
        one := by simp [turns, waits, completions]
        order := order
        readable := by simp [completions]
        fit := by simp
        alive := by simp [turns, waits, completions]
        ended := fun _ => .inl rfl }
    cases there : s.readers[i]? with
    | none => simp [there] at step
    | some reader =>
      cases reader with
      | holding available datagram => simp [there] at step
      | _ =>
        simp only [there] at step
        cases step
        exact stops _ there rfl
  | other f =>
    cases step
    exact sound.keep rfl rfl rfl (fun last now => congrArg f now) order sound.readable sound.fit

end Intake

/-- However the workers are scheduled and whenever datagrams come, as long as `available`
    answers with the length of the next datagram: the receive handlers of a node run one at a
    time, and each is handed the next datagram that arrived, whole; as long as there is a wait
    or a handler the node is where the plain loop over the datagrams has taken it, and when
    there is none any more the loop has ended in a fault or the socket has thrown. -/
theorem intake_is_the_loop {config : Config L} {node : Node L} {s : Intake L}
    (reaches : Reaches (intake config) AnswersNext (Intake.initial node) s) :
    s.waits + s.completions.length + s.readers.length ≤ 1 ∧
    (∀ (i available : Nat) (datagram : Bytes × Endpoint L), s.readers[i]? = some (Reader.holding available datagram) →
      (⟨false, some available, some datagram⟩ : Arrival L) = .whole datagram.1 datagram.2) ∧
    Intake.datagrams s.handled ++ s.readers.filterMap Intake.held ++ s.socket = s.arrived ∧
    (0 < s.waits + s.completions.length + s.readers.length →
      ∃ last, listen config s.handled node = .ok last ∧ s.node = s.meanwhile last) ∧
    (s.waits + s.completions.length + s.readers.length = 0 →
      s.failed = true ∨ ∃ fault, listen config s.handled node = .error fault) := by
  have sound : Intake.Sound config node s :=
    reaches.invariant (Intake.sound_initial config node) fun s move t sound answers step => sound.step answers step
  refine ⟨sound.one, ?_, sound.order, fun running => (sound.alive running).2, sound.ended⟩
  intro i available datagram there
  have size : available = datagram.1.length := sound.fit _ (List.mem_of_getElem? there)
  rw [size]
  rfl

/-- Two datagrams come, the second while the first is read, and a contact is put meanwhile. -/
def sampleMoves : List (IntakeMove Sample.libraries) :=
  [.arrive (Sample.datagram, Sample.elsewhere), .complete false, .run Sample.environment,
    .available 0 Sample.datagram.length, .arrive (Sample.inner, Sample.elsewhere), .receive_from 0,
    .other fun node => { node with timers := [Sample.elsewhere] }, .handle 0 Sample.environment, .complete false,
    .run Sample.environment]

/-- The second datagram's handler has just begun. -/
theorem sampleMoves_taken :
    (run (intake Sample.receiver) (Intake.initial (Node.initial _)) sampleMoves).map
      (fun s => (s.readers.length, s.handled.length, s.socket.length, s.node.timers.length)) = some (1, 1, 1, 2) := by
  decide +kernel

theorem intake_is_the_loop_sample :
    ∃ s, run (intake Sample.receiver) (Intake.initial (Node.initial _)) sampleMoves = some s ∧ s.node.timers.length = 2 ∧
      ∃ last, listen Sample.receiver s.handled (Node.initial _) = .ok last ∧ s.node = s.meanwhile last := by
  obtain ⟨s, taken, counts⟩ := Option.map_eq_some_iff.mp sampleMoves_taken
  simp only [Prod.mk.injEq] at counts
  have answers : Guarded (intake Sample.receiver) AnswersNext (Intake.initial (Node.initial _)) sampleMoves := by
    decide +kernel
  obtain ⟨-, -, -, alive, -⟩ := intake_is_the_loop (reaches_of_guarded .start answers taken)
  exact ⟨s, taken, counts.2.2.2, alive (by omega)⟩

end P2PMessenger
