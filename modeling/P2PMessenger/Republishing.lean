import P2PMessenger.DhtIpResolver
import P2PMessenger.Runs

/-!
The publishing side of `dht_ip_resolver.cpp`. Every call of `put` or `put_signed` begins a
chain that publishes its record again whenever its wait is over. All chains wait on one
timer: the wait of one cancels the wait of another, whose handler then runs with an error
and publishes as well.
-/
namespace P2PMessenger
open Octets Runs

/-- Why a record is published. -/
inductive Cause where
  | call
  | expired
  /-- The wait was cancelled: the handler ran with an error code. -/
  | cancelled
  deriving DecidableEq, Repr

inductive Publishing where
  /-- A public `put` or `put_signed` was called. -/
  | called
  /-- The timer expired. -/
  | expired
  /-- `node_.put`, or `node_.putSigned` for a signed record. -/
  | published (record : Record) (cause : Cause)
  deriving DecidableEq

/-- The timer of the resolver: the waits on it, and the completion handlers that are still
    to run, each with whether its wait was cancelled. -/
structure Publisher where
  waits : List Record
  handlers : List (Record × Bool)
  log : List Publishing

def Publisher.initial : Publisher := ⟨[], [], []⟩

/-- A call of the public `put` or `put_signed`. -/
inductive PublicCall where
  | put (login ip : Bytes) (port : UInt16) (interval : Int)
  | put_signed (login ip : Bytes) (port : UInt16) (interval : Int)

def PublicCall.record : PublicCall → Record
  | .put login ip port interval => Record.put login ip port interval
  | .put_signed login ip port interval => Record.put_signed login ip port interval

/-- The private `put` and `put_signed`: `expires_after` cancels every wait, then a new one
    begins. -/
def Publisher.publish (p : Publisher) (record : Record) (cause : Cause) : Publisher where
  waits := [record]
  handlers := p.handlers ++ p.waits.map fun record => (record, true)
  log := p.log ++ [.published record cause]

inductive Moment where
  | call (c : PublicCall)
  /-- The timer expires. -/
  | expire
  /-- The completion handler with this number runs. -/
  | handle (i : Nat)

/-- The handler publishes whether or not it got an error code. -/
def republish (p : Publisher) : Moment → Option Publisher
  | .call c => some (({ p with log := p.log ++ [.called] } : Publisher).publish c.record .call)
  | .expire =>
    if p.waits = [] then none
    else some ⟨[], p.handlers ++ p.waits.map fun record => (record, false), p.log ++ [.expired]⟩
  | .handle i =>
    match p.handlers[i]? with
    | none => none
    | some (record, ec) =>
      some (({ p with handlers := p.handlers.eraseIdx i } : Publisher).publish record
        (if ec then .cancelled else .expired))

/-- The public calls of a run. -/
def Moment.call? : Moment → Option PublicCall
  | .call c => some c
  | _ => none

def publicCalls (moments : List Moment) : List PublicCall := moments.filterMap Moment.call?

/-- The public calls in a log. A record is live from its call on. -/
def callsIn (log : List Publishing) : Nat := log.countP (· == .called)

def Publishing.isPublished : Publishing → Bool
  | .published _ _ => true
  | _ => false

/-- The publications in a log. -/
def publishedIn (log : List Publishing) : Nat := log.countP Publishing.isPublished

/-- Between two moments at which the timer expires there are at most as many publications as
    public calls and live records. -/
def Bounded (log : List Publishing) : Prop :=
  ∀ before period later, log = before ++ .expired :: period ++ .expired :: later → .expired ∉ period →
    publishedIn period ≤ callsIn period + callsIn before

/-- No publication is made because a wait was cancelled. -/
def Unprovoked (log : List Publishing) : Prop := ∀ record, .published record .cancelled ∉ log

structure Paced (log : List Publishing) : Prop where
  bounded : Bounded log
  unprovoked : Unprovoked log

/-! ## One record -/

/-- The period that is not over yet has room for this many publications. -/
def Room (room : Nat) (log : List Publishing) : Prop :=
  ∀ before period, log = before ++ .expired :: period → .expired ∉ period →
    publishedIn period + room ≤ callsIn period + callsIn before

theorem callsIn_append (one two : List Publishing) : callsIn (one ++ two) = callsIn one + callsIn two :=
  List.countP_append

theorem publishedIn_append (one two : List Publishing) : publishedIn (one ++ two) = publishedIn one + publishedIn two :=
  List.countP_append

theorem bounded_nil : Bounded [] := by
  intro before period later split
  simp at split

theorem Bounded.snoc {log : List Publishing} (bounded : Bounded log) {e : Publishing} (room : e = .expired → Room 0 log) :
    Bounded (log ++ [e]) := by
  intro before period later split quiet
  rcases split_snoc split with ⟨rfl, last, -⟩ | ⟨rest, -, inside⟩
  · exact room last before period rfl quiet
  · exact bounded before period rest inside quiet

theorem Room.published {room : Nat} {log : List Publishing} (roomy : Room (room + 1) log) (record : Record) (cause : Cause) :
    Room room (log ++ [.published record cause]) := by
  intro before period split quiet
  rcases split_snoc split with ⟨-, other, -⟩ | ⟨rest, rfl, inside⟩
  · cases other
  · have fits := roomy before rest inside fun member => quiet (List.mem_append_left _ member)
    have one : publishedIn [.published record cause] = 1 := rfl
    have none : callsIn [.published record cause] = 0 := rfl
    rw [publishedIn_append, callsIn_append, one, none]
    omega

theorem room_expired {log : List Publishing} (called : callsIn log = 1) : Room 1 (log ++ [.expired]) := by
  intro before period split quiet
  rcases split_snoc split with ⟨rfl, -, rfl⟩ | ⟨rest, rfl, -⟩
  · rw [called]
    exact Nat.le_add_left _ _
  · exact absurd (List.mem_append_right _ List.mem_cons_self) quiet

theorem room_of_no_expiry {log : List Publishing} (none : .expired ∉ log) (room : Nat) : Room room log := by
  intro before period split
  rw [split] at none
  exact absurd (by simp) none

/-- A publisher that got one public call at most. -/
inductive Publisher.Single : Publisher → Prop where
  | idle : Single Publisher.initial
  | waiting {record : Record} {log : List Publishing} (called : callsIn log = 1) (room : Room 0 log) (paced : Paced log) :
    Single ⟨[record], [], log⟩
  | due {record : Record} {log : List Publishing} (called : callsIn log = 1) (room : Room 1 log) (paced : Paced log) :
    Single ⟨[], [(record, false)], log⟩

theorem paced_nil : Paced [] := ⟨bounded_nil, fun _ member => by cases member⟩

theorem Paced.snoc {log : List Publishing} (paced : Paced log) {e : Publishing} (room : e = .expired → Room 0 log)
    (unprovoked : ∀ record, e ≠ .published record .cancelled) : Paced (log ++ [e]) where
  bounded := paced.bounded.snoc room
  unprovoked := by
    intro record member
    rcases List.mem_append.mp member with old | new
    · exact paced.unprovoked record old
    · exact unprovoked record (List.mem_singleton.mp new).symm

/-- A single chain goes on in step with the timer. -/
theorem Publisher.Single.republish {p q : Publisher} (single : p.Single) {moment : Moment}
    (once : callsIn p.log + (publicCalls [moment]).length ≤ 1) (step : republish p moment = some q) : q.Single := by
  cases single with
  | idle =>
    cases moment with
    | call c =>
      obtain rfl := Option.some.inj step
      refine .waiting rfl (room_of_no_expiry (by simp [Publisher.initial]) 0) ?_
      exact (paced_nil.snoc (by simp) (by simp)).snoc (by simp) (by simp)
    | expire => simp [P2PMessenger.republish, Publisher.initial] at step
    | handle i => simp [P2PMessenger.republish, Publisher.initial] at step
  | @waiting record log called room paced =>
    cases moment with
    | call c =>
      simp only [called, publicCalls, List.filterMap_cons, Moment.call?, List.filterMap_nil, List.length_cons] at once
      omega
    | expire =>
      simp only [P2PMessenger.republish, List.cons_ne_nil, if_false, Option.some.injEq] at step
      subst step
      refine .due ?_ (room_expired called) (paced.snoc (fun _ => room) (by simp))
      rw [callsIn_append, called]
      rfl
    | handle i => simp [P2PMessenger.republish] at step
  | @due record log called room paced =>
    cases moment with
    | call c =>
      simp only [called, publicCalls, List.filterMap_cons, Moment.call?, List.filterMap_nil, List.length_cons] at once
      omega
    | expire => simp [P2PMessenger.republish] at step
    | handle i =>
      cases i with
      | succ i => simp [P2PMessenger.republish] at step
      | zero =>
        obtain rfl := Option.some.inj step
        refine .waiting ?_ (room.published record .expired) (paced.snoc (by simp) (by simp))
        rw [callsIn_append, called]
        rfl

theorem publicCalls_cons (moment : Moment) (moments : List Moment) :
    (publicCalls (moment :: moments)).length = (publicCalls [moment]).length + (publicCalls moments).length := by
  rw [← List.length_append, publicCalls, publicCalls, publicCalls, ← List.filterMap_append]
  rfl

theorem callsIn_republish {p q : Publisher} {moment : Moment} (step : republish p moment = some q) :
    callsIn q.log = callsIn p.log + (publicCalls [moment]).length := by
  cases moment with
  | call c =>
    obtain rfl := Option.some.inj step
    simp only [Publisher.publish, callsIn_append]
    rfl
  | expire =>
    simp only [P2PMessenger.republish] at step
    split_ifs at step
    obtain rfl := Option.some.inj step
    exact callsIn_append _ _
  | handle i =>
    simp only [P2PMessenger.republish] at step
    cases here : p.handlers[i]? with
    | none => simp [here] at step
    | some handler =>
      simp only [here, Option.some.injEq] at step
      subst step
      exact callsIn_append _ _

theorem callsIn_run {p q : Publisher} {moments : List Moment} (taken : run republish p moments = some q) :
    callsIn q.log = callsIn p.log + (publicCalls moments).length := by
  induction moments generalizing p with
  | nil =>
    obtain rfl := Option.some.inj taken
    rfl
  | cons moment moments ih =>
    obtain ⟨next, first, rest⟩ := Option.bind_eq_some_iff.mp taken
    have counted := callsIn_republish first
    have later := ih rest
    rw [publicCalls_cons]
    omega

theorem single_of_run {p q : Publisher} (single : p.Single) {moments : List Moment}
    (once : callsIn p.log + (publicCalls moments).length ≤ 1) (taken : run republish p moments = some q) : q.Single := by
  induction moments generalizing p with
  | nil =>
    obtain rfl := Option.some.inj taken
    exact single
  | cons moment moments ih =>
    obtain ⟨next, first, rest⟩ := Option.bind_eq_some_iff.mp taken
    have counted := callsIn_republish first
    rw [publicCalls_cons] at once
    exact ih (single.republish (by omega) first) (by omega) rest

theorem Publisher.Single.paced {p : Publisher} (single : p.Single) : Paced p.log := by
  cases single with
  | idle => exact paced_nil
  | waiting called room paced => exact paced
  | due called room paced => exact paced

/-! ## Two records and more -/

/-- A wait is pending while another chain's handler is still to run. -/
structure Publisher.Busy (p : Publisher) : Prop where
  waits : p.waits ≠ []
  handlers : p.handlers ≠ []

/-- The first handler runs: it publishes, and leaves a wait and the other handlers. -/
theorem handle_first {p : Publisher} {record : Record} {ec : Bool} {rest : List (Record × Bool)}
    (ready : p.handlers = (record, ec) :: rest) :
    ∃ q e, republish p (.handle 0) = some q ∧ q.waits = [record] ∧
      q.handlers = rest ++ p.waits.map (fun record => (record, true)) ∧ q.log = p.log ++ [e] ∧ e.isPublished = true := by
  refine ⟨({ p with handlers := rest } : Publisher).publish record (if ec then .cancelled else .expired),
    .published record (if ec then .cancelled else .expired), ?_, rfl, rfl, rfl, rfl⟩
  simp only [republish, ready, List.getElem?_cons_zero]
  rfl

/-- The handler that runs cancels the wait, whose handler is then the next to run. -/
theorem Publisher.Busy.handle {p : Publisher} (busy : p.Busy) :
    ∃ q e, republish p (.handle 0) = some q ∧ q.Busy ∧ q.log = p.log ++ [e] ∧ e.isPublished = true := by
  obtain ⟨⟨record, ec⟩, rest, ready⟩ := List.exists_cons_of_ne_nil busy.handlers
  obtain ⟨q, e, taken, waits, handlers, log, published⟩ := handle_first ready
  refine ⟨q, e, taken, ⟨?_, ?_⟩, log, published⟩
  · rw [waits]
    exact List.cons_ne_nil _ _
  · rw [handlers]
    exact List.append_ne_nil_of_right_ne_nil _ (mt List.map_eq_nil_iff.mp busy.waits)

/-- The chains keep each other going, without a call and without an expiry. -/
theorem Publisher.Busy.keeps_on {p : Publisher} (busy : p.Busy) (n : Nat) :
    ∃ q period, run republish p (List.replicate n (.handle 0)) = some q ∧ q.Busy ∧ q.log = p.log ++ period ∧
      period.length = n ∧ ∀ e ∈ period, e.isPublished = true := by
  induction n generalizing p with
  | zero => exact ⟨p, [], rfl, busy, (List.append_nil _).symm, rfl, by simp⟩
  | succ n ih =>
    obtain ⟨next, e, taken, busy, log, published⟩ := busy.handle
    obtain ⟨q, period, rest, busy, longer, length, all⟩ := ih busy
    refine ⟨q, e :: period, ?_, busy, ?_, by rw [List.length_cons, length], ?_⟩
    · rw [List.replicate_succ, run, taken]
      exact rest
    · rw [longer, log, List.append_assoc]
      rfl
    · intro x member
      rcases List.mem_cons.mp member with rfl | member
      · exact published
      · exact all x member

theorem Publisher.Busy.call {p : Publisher} (waits : p.waits ≠ []) (c : PublicCall) :
    ∃ q, republish p (.call c) = some q ∧ q.Busy := by
  refine ⟨_, rfl, List.cons_ne_nil _ _, ?_⟩
  exact List.append_ne_nil_of_right_ne_nil _ (mt List.map_eq_nil_iff.mp waits)

theorem Publisher.Busy.calls {p : Publisher} (busy : p.Busy) (calls : List PublicCall) :
    ∃ q, run republish p (calls.map .call) = some q ∧ q.Busy := by
  induction calls generalizing p with
  | nil => exact ⟨p, rfl, busy⟩
  | cons c calls ih =>
    obtain ⟨next, taken, busy⟩ := Publisher.Busy.call busy.waits c
    obtain ⟨q, rest, busy⟩ := ih busy
    refine ⟨q, ?_, busy⟩
    rw [List.map_cons, run, taken]
    exact rest

/-- After an expiry the chains go on as before. -/
theorem Publisher.Busy.expire {p : Publisher} (busy : p.Busy) :
    ∃ q e, run republish p [.expire, .handle 0] = some q ∧ q.Busy ∧ q.log = p.log ++ [.expired, e] ∧
      e.isPublished = true := by
  obtain ⟨⟨record, ec⟩, rest, ready⟩ := List.exists_cons_of_ne_nil busy.handlers
  have expired : republish p .expire =
      some ⟨[], p.handlers ++ p.waits.map (fun record => (record, false)), p.log ++ [.expired]⟩ := if_neg busy.waits
  have still : (⟨[], p.handlers ++ p.waits.map (fun record => (record, false)), p.log ++ [.expired]⟩ : Publisher).handlers =
      (record, ec) :: (rest ++ p.waits.map fun record => (record, false)) := by
    rw [ready]
    rfl
  obtain ⟨q, e, taken, waits, handlers, log, published⟩ := handle_first still
  refine ⟨q, e, ?_, ⟨?_, ?_⟩, ?_, published⟩
  · rw [run, expired, Option.bind_some, run, taken]
    rfl
  · rw [waits]
    exact List.cons_ne_nil _ _
  · rw [handlers, List.map_nil, List.append_nil]
    exact List.append_ne_nil_of_right_ne_nil _ (mt List.map_eq_nil_iff.mp busy.waits)
  · rw [log, List.append_assoc]
    rfl

theorem publicCalls_calls (calls : List PublicCall) : publicCalls (calls.map .call) = calls := by
  induction calls with
  | nil => rfl
  | cons c calls ih => exact congrArg (c :: ·) ih

theorem publicCalls_handles (n : Nat) : publicCalls (List.replicate n (.handle 0)) = [] := by
  induction n with
  | zero => rfl
  | succ n ih => exact ih

theorem callsIn_of_published {log : List Publishing} (published : ∀ e ∈ log, e.isPublished = true) : callsIn log = 0 := by
  refine List.countP_eq_zero.mpr fun e member called => ?_
  have other := published e member
  rw [beq_iff_eq.mp called] at other
  cases other

/-- With two records or more there may be any number of publications between two expiries. -/
theorem busy_period {calls : List PublicCall} (two : 2 ≤ calls.length) (n : Nat) :
    ∃ moments p before period later, publicCalls moments = calls ∧ run republish .initial moments = some p ∧
      p.log = before ++ .expired :: period ++ .expired :: later ∧ .expired ∉ period ∧ callsIn period = 0 ∧
      n ≤ publishedIn period := by
  obtain ⟨one, other, rest, rfl⟩ : ∃ one other rest, calls = one :: other :: rest := by
    match calls, two with
    | one :: other :: rest, _ => exact ⟨one, other, rest, rfl⟩
  -- both records live, then all of them
  have first : (Publisher.publish ⟨[], [], [.called]⟩ one.record .call).waits ≠ [] := List.cons_ne_nil _ _
  obtain ⟨both, second, busy⟩ := Publisher.Busy.call first other
  obtain ⟨all, called, busy⟩ := busy.calls rest
  -- an expiry, a number of handlers, and another expiry
  obtain ⟨started, e, expired, busy, begun, published⟩ := busy.expire
  obtain ⟨ended, period, kept, busy, longer, length, every⟩ := busy.keeps_on n
  have everyOne : ∀ x ∈ e :: period, x.isPublished = true := List.forall_mem_cons.mpr ⟨published, every⟩
  refine ⟨(one :: other :: rest).map .call ++ [.expire, .handle 0] ++ List.replicate n (.handle 0) ++ [.expire],
    ⟨[], ended.handlers ++ ended.waits.map fun record => (record, false), ended.log ++ [.expired]⟩,
    all.log, e :: period, [], ?_, ?_, ?_, ?_, callsIn_of_published everyOne, ?_⟩
  · rw [publicCalls, List.filterMap_append, List.filterMap_append, List.filterMap_append]
    have calls := publicCalls_calls (one :: other :: rest)
    have handles := publicCalls_handles n
    unfold publicCalls at calls handles
    rw [calls, handles]
    simp [Moment.call?]
  · have begin : run republish .initial ((one :: other :: rest).map .call) = some all := by
      rw [List.map_cons, List.map_cons, run]
      show (run republish (Publisher.publish ⟨[], [], [.called]⟩ one.record .call) (.call other :: rest.map .call)) = _
      rw [run, second]
      exact called
    rw [run_append, run_append, run_append, begin, Option.bind_some, expired, Option.bind_some, kept, Option.bind_some]
    simp only [run, republish, busy.waits, if_false, Option.bind_some]
  · rw [longer, begun]
    simp
  · intro member
    have expiry := everyOne _ member
    cases expiry
  · have total : publishedIn (e :: period) = (e :: period).length := List.countP_eq_length.mpr everyOne
    rw [total, List.length_cons, length]
    omega

/-- The publications keep to the pace of the timer in every run with these public calls
    exactly when there is one call at most; with two or more there may be any number of
    publications between two expiries. -/
theorem paced_iff (calls : List PublicCall) :
    ((∀ moments p, publicCalls moments = calls → run republish .initial moments = some p → Paced p.log) ↔
      calls.length ≤ 1) ∧
    (2 ≤ calls.length → ∀ n, ∃ moments p before period later, publicCalls moments = calls ∧
      run republish .initial moments = some p ∧ p.log = before ++ .expired :: period ++ .expired :: later ∧
      .expired ∉ period ∧ callsIn period = 0 ∧ n ≤ publishedIn period) := by
  refine ⟨⟨?_, ?_⟩, fun two n => busy_period two n⟩
  · intro paced
    by_contra many
    obtain ⟨moments, p, before, period, later, same, taken, log, quiet, none, busy⟩ :=
      busy_period (show 2 ≤ calls.length by omega) (calls.length + 1)
    have bound := (paced moments p same taken).bounded before period later log quiet
    have total := callsIn_run taken
    rw [same, log, callsIn_append, callsIn_append] at total
    have empty : callsIn Publisher.initial.log = 0 := rfl
    omega
  · intro few moments p same taken
    refine (single_of_run .idle ?_ taken).paced
    rw [same]
    simpa [Publisher.initial, callsIn] using few

/-- The record of a node, published again after each of two expiries. -/
def oneRecord : List Moment :=
  [.call (.put_signed [98, 111, 98] [49] 1 60), .expire, .handle 0, .expire, .handle 0]

theorem paced_iff_sample :
    ∃ p, run republish .initial oneRecord = some p ∧ publishedIn p.log = 3 ∧ Paced p.log :=
  ⟨_, rfl, by decide, (paced_iff [.put_signed [98, 111, 98] [49] 1 60]).1.mpr (Nat.le_refl 1) oneRecord _ rfl rfl⟩

/-- A record of bob and one of ann, and four handlers between two expiries. -/
def twoRecords : List Moment :=
  [.call (.put_signed [98, 111, 98] [49] 1 60), .call (.put_signed [97, 110, 110] [49] 2 60), .expire,
    .handle 0, .handle 0, .handle 0, .handle 0, .expire]

/-- The handler of a cancelled wait publishes, and four publications come between two
    expiries although two records are live. -/
theorem two_records_are_not_paced :
    publicCalls twoRecords = [.put_signed [98, 111, 98] [49] 1 60, .put_signed [97, 110, 110] [49] 2 60] ∧
      ∃ p, run republish .initial twoRecords = some p ∧ ¬ Bounded p.log ∧ ¬ Unprovoked p.log := by
  refine ⟨rfl, _, rfl, ?_, ?_⟩
  · intro bounded
    let bob := Record.put_signed [98, 111, 98] [49] 1 60
    let ann := Record.put_signed [97, 110, 110] [49] 2 60
    have bound := bounded [.called, .published bob .call, .called, .published ann .call]
      [.published bob .cancelled, .published ann .expired, .published bob .cancelled, .published ann .cancelled] []
      rfl (by decide)
    revert bound
    decide
  · intro unprovoked
    exact unprovoked (Record.put_signed [98, 111, 98] [49] 1 60) (by decide)

end P2PMessenger
