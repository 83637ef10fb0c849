import P2PMessenger.Sample
import P2PMessenger.Schedule

/-!
The threads of a messenger and a schedule of their tasks: however the threads are
interleaved, there is an order of the tasks that explains what they did.
-/
namespace P2PMessenger
open Octets Throwing Refinement Runs

variable {L : Libraries}

/-! ## A schedule for the threads -/

/-- The parts of its task that a thread has not come to. -/
def Job.left : Job L → List (Task L)
  | .receiving env buffer remote_endpoint => [.receive env buffer remote_endpoint]
  | .acting _ _ login contacts => contacts.map fun contact => .listen_callback login [⟨contact.2, some contact.1⟩] false
  | .resolving env login id message _ => [.send_message env login id message]
  | .finding .. => []

/-- What a thread is still to do of the parts it has come to. -/
def Job.Owes (config : Config L) (more : List (Effect L)) : Job L → Prop
  | .receiving .. | .resolving .. => more = []
  | .acting _ effects _ _ => more = effects
  | .finding env address login id message _ =>
    ∃ public_key, L.getId public_key = id ∧ more = config.calling env address login public_key message

/-- The contacts that a callback goes on to have addresses. -/
def Job.Addressed : Job L → Prop
  | .acting _ _ _ contacts => ∀ contact ∈ contacts, colon ∈ contact.2
  | _ => True

/-- The key that a thread is about to store. -/
def Job.key : Job L → Option (Source × L.PublicKey)
  | .acting key _ _ _ => key
  | _ => none

def Crew.key (s : Crew L) (i : Nat) : Option (Source × L.PublicKey) := (s.jobs[i]?).bind Job.key

theorem key_goOn {s : Crew L} {i : Nat} {old : Job L} (there : s.jobs[i]? = some old) (job : Job L) (j : Nat) :
    (s.goOn i job).key j = if j = i then job.key else s.key j := by
  obtain ⟨inside, -⟩ := List.getElem?_eq_some_iff.mp there
  unfold Crew.key Crew.goOn
  simp only [List.getElem?_set]
  by_cases same : j = i
  · subst same
    simp [inside]
  · rw [if_neg (Ne.symm same), if_neg same]

theorem key_take (s : Crew L) (task : Task L) (job : Job L) (j : Nat) :
    (s.take task job).key j = if j = s.jobs.length then job.key else s.key j := by
  unfold Crew.key Crew.take
  by_cases same : j = s.jobs.length
  · simp [same]
  · rw [if_neg same]
    rcases Nat.lt_or_gt_of_ne same with before | behind
    · rw [List.getElem?_append_left before]
    · rw [List.getElem?_eq_none (by simp; omega), List.getElem?_eq_none (by omega)]

theorem key_take_idle (s : Crew L) (task : Task L) {job : Job L} (idle : job.key = none) (j : Nat) :
    (s.take task job).key j = s.key j := by
  rw [key_take, idle]
  split_ifs with same
  · unfold Crew.key
    rw [List.getElem?_eq_none (by omega)]
    rfl
  · rfl

namespace Schedule
variable {config : Config L}

/-- The schedule has the thread do what it does. -/
structure Serves (w : Schedule config) (s : Crew L) (i : Nat) (job : Job L) : Prop where
  parts : ∃ task, s.tasks[i]? = some task ∧ own i w.front ++ own i w.back ++ job.left = task.parts
  /-- Whoever has parts left comes to the front. -/
  fronted : job.left ≠ [] → own i w.back = [] ∧ own i w.second = []
  owes : ∃ more, own i w.first ++ own i w.second = own i s.log ++ more ∧ job.Owes config more
  addressed : job.Addressed

/-- The schedule says nothing of threads to come. -/
structure Fresh (w : Schedule config) (s : Crew L) (i : Nat) : Prop where
  front : own i w.front = []
  back : own i w.back = []
  first : own i w.first = []
  second : own i w.second = []
  log : own i s.log = []

/-- The resolvers have the keys of the ledger but for those that threads are about to store. -/
structure Keys (w : Schedule config) (s : Crew L) : Prop where
  known : ∀ source id public_key, (s.resolvers source).get_public_key_by_public_key_id id = some public_key →
    ∃ login address, .stored source login public_key address ∈ w.ledger
  storing : ∀ i source public_key, s.key i = some (source, public_key) →
    ∃ login address, .stored source login public_key address ∈ w.ledger
  stored : ∀ source login public_key address, .stored source login public_key address ∈ w.ledger →
    (s.resolvers source).get_public_key_by_public_key_id (L.getId public_key) ≠ none ∨
      ∃ i, s.key i = some (source, public_key)

/-- The resolvers have the addresses of the ledger. -/
structure Addresses (w : Schedule config) (s : Crew L) : Prop where
  met : ∀ login id, (s.resolvers .metadata_ip_resolver_).resolve login id =
    latest (Fact.address .metadata_ip_resolver_ login id) w.after
  listed : ∀ login id, (s.resolvers .dht_ip_resolver_).resolve login id =
    latest (Fact.address .dht_ip_resolver_ login id) w.ahead
  behind : ∀ login public_key address, .stored .dht_ip_resolver_ login public_key address ∉ w.after

structure Explains (w : Schedule config) (s : Crew L) : Prop where
  addresses : w.Addresses s
  keys : w.Keys s
  length : s.tasks.length = s.jobs.length
  serves : ∀ i job, s.jobs[i]? = some job → w.Serves s i job
  fresh : ∀ i, s.jobs.length ≤ i → w.Fresh s i
  pops : ∀ endpoint, ((w.front ++ w.back).map (·.2)).countP (Task.pops endpoint) = s.tasks.countP (Task.pops endpoint)

theorem explains_initial : (Schedule.initial config).Explains (Crew.initial L) where
  addresses := ⟨fun _ _ => rfl, fun _ _ => rfl, by simp [Schedule.initial]⟩
  keys := by
    refine ⟨?_, ?_, by simp [Schedule.initial, ledger]⟩
    · intro source id public_key known
      cases known
    · intro i source public_key there
      cases there
  length := rfl
  serves := by simp [Crew.initial]
  fresh i _ := ⟨rfl, rfl, rfl, rfl, rfl⟩
  pops _ := rfl

/-! ### One step -/

/-- A step leaves a thread alone. -/
structure Same (w w' : Schedule config) (s t : Crew L) (j : Nat) : Prop where
  task : t.tasks[j]? = s.tasks[j]?
  job : t.jobs[j]? = s.jobs[j]?
  front : own j w'.front = own j w.front
  back : own j w'.back = own j w.back
  first : own j w'.first = own j w.first
  second : own j w'.second = own j w.second
  log : own j t.log = own j s.log

variable {w w' : Schedule config} {s t : Crew L} {i : Nat} {job : Job L}

/-- One thread makes a step or begins. -/
theorem Explains.next (explains : w.Explains s) (same : ∀ j ≠ i, w.Same w' s t j) (there : t.jobs[i]? = some job)
    (serves : w'.Serves t i job) (addresses : w'.Addresses t) (keys : w'.Keys t) (length : t.tasks.length = t.jobs.length)
    (longer : s.jobs.length ≤ t.jobs.length)
    (pops : ∀ endpoint, ((w'.front ++ w'.back).map (·.2)).countP (Task.pops endpoint) = t.tasks.countP (Task.pops endpoint)) :
    w'.Explains t where
  addresses := addresses
  keys := keys
  length := length
  serves := by
    intro j other known
    by_cases here : j = i
    · subst here
      obtain rfl := Option.some.inj (there.symm.trans known)
      exact serves
    · obtain ⟨task, same_job, front, back, first, second, log⟩ := same j here
      obtain ⟨parts, fronted, owes, addressed⟩ := explains.serves j other (same_job.symm.trans known)
      refine ⟨?_, ?_, ?_, addressed⟩
      · rw [task, front, back]
        exact parts
      · rw [back, second]
        exact fronted
      · rw [first, second, log]
        exact owes
  fresh := by
    intro j beyond
    have here : j ≠ i := by
      rintro rfl
      obtain ⟨inside, -⟩ := List.getElem?_eq_some_iff.mp there
      exact absurd inside (Nat.not_lt.mpr beyond)
    obtain ⟨-, -, front, back, first, second, log⟩ := same j here
    have fresh := explains.fresh j (Nat.le_trans longer beyond)
    exact ⟨front.trans fresh.front, back.trans fresh.back, first.trans fresh.first, second.trans fresh.second,
      log.trans fresh.log⟩
  pops := pops

/-- A thread that is not there yet. -/
theorem same_take (task : Task L) (job : Job L) {j : Nat} (other : j ≠ s.jobs.length) (length : s.tasks.length = s.jobs.length) :
    w.Same w s (s.take task job) j := by
  refine ⟨?_, ?_, rfl, rfl, rfl, rfl, rfl⟩
  all_goals
    simp only [Crew.take]
    rcases Nat.lt_or_gt_of_ne other with before | behind
    · rw [List.getElem?_append_left (by omega)]
    · rw [List.getElem?_eq_none (by simp; omega), List.getElem?_eq_none (by omega)]

theorem Same.addFront {j : Nat} (same : w.Same w s t j) (other : j ≠ i) {task : Task L} {facts : List (Fact L)}
    {effects : List (Effect L)} (told : record config w.ahead task = some (w.ahead ++ facts, effects))
    (calm : ∀ fact ∈ facts, fact.Calm) : w.Same (w.addFront i told calm) s t j where
  task := same.task
  job := same.job
  front := by simp [Schedule.addFront, own_singleton, Ne.symm other]
  back := rfl
  first := by simp [Schedule.addFront, own_map, Ne.symm other]
  second := rfl
  log := same.log

theorem Same.addBack {j : Nat} (same : w.Same w s t j) (other : j ≠ i) {task : Task L} {facts : List (Fact L)}
    {effects : List (Effect L)} (told : ∀ ledger : Ledger L, (∀ fact ∈ ledger, fact.Calm) →
      record config (ledger ++ w.after) task = some (ledger ++ w.after ++ facts, effects)) :
    w.Same (w.addBack i told) s t j where
  task := same.task
  job := same.job
  front := rfl
  back := by simp [Schedule.addBack, own_singleton, Ne.symm other]
  first := rfl
  second := by simp [Schedule.addBack, own_map, Ne.symm other]
  log := same.log

/-! ### What the resolvers have -/

theorem Keys.keep (keys : w.Keys s)
    (facts : ∀ source login public_key address,
      .stored source login public_key address ∈ w'.ledger ↔ .stored source login public_key address ∈ w.ledger)
    (resolvers : t.resolvers = s.resolvers) (key : ∀ j, t.key j = s.key j) : w'.Keys t where
  known source id public_key there := by
    rw [resolvers] at there
    simp only [facts]
    exact keys.known source id public_key there
  storing j source public_key there := by
    rw [key] at there
    simp only [facts]
    exact keys.storing j source public_key there
  stored source login public_key address there := by
    rw [facts] at there
    simp only [resolvers, key]
    exact keys.stored source login public_key address there

/-- An address was stored, and its key is to follow. -/
theorem Keys.put_address (keys : w.Keys s) {source : Source} {login address : Bytes} {public_key : L.PublicKey}
    (facts : ∀ fact, fact = .stored source login public_key address ∨ fact ∈ w.ledger → fact ∈ w'.ledger)
    (others : ∀ other name key text, .stored other name key text ∈ w'.ledger →
      (.stored other name key text : Fact L) = .stored source login public_key address ∨
        .stored other name key text ∈ w.ledger)
    (resolvers : t.resolvers = (LockedBlock.put_address source login (L.getId public_key) address).run s.resolvers)
    (idle : s.key i = none) (key : ∀ j, t.key j = if j = i then some (source, public_key) else s.key j) : w'.Keys t where
  known other id found there := by
    rw [resolvers, get_run_put_address] at there
    obtain ⟨name, text, told⟩ := keys.known other id found there
    exact ⟨name, text, facts _ (.inr told)⟩
  storing j other found there := by
    rw [key] at there
    split_ifs at there
    · cases there
      exact ⟨login, address, facts _ (.inl rfl)⟩
    · obtain ⟨name, text, told⟩ := keys.storing j other found there
      exact ⟨name, text, facts _ (.inr told)⟩
  stored other name found text there := by
    rw [resolvers, get_run_put_address]
    rcases others other name found text there with same | told
    · cases same
      exact .inr ⟨i, by rw [key, if_pos rfl]⟩
    · refine (keys.stored other name found text told).imp_right ?_
      rintro ⟨j, owed⟩
      refine ⟨j, ?_⟩
      rw [key, if_neg ?_]
      · exact owed
      · rintro rfl
        cases idle.symm.trans owed

theorem Keys.put_public_key (keys : w.Keys s) {source : Source} {public_key : L.PublicKey}
    (owed : s.key i = some (source, public_key))
    (resolvers : t.resolvers = (LockedBlock.put_public_key source public_key).run s.resolvers)
    (key : ∀ j, t.key j = if j = i then none else s.key j) : w.Keys t where
  known other id found there := by
    rw [resolvers, get_run_put_public_key] at there
    split_ifs at there with same
    · cases there
      rw [same.1]
      exact keys.storing i source public_key owed
    · exact keys.known other id found there
  storing j other found there := by
    rw [key] at there
    split_ifs at there
    exact keys.storing j other found there
  stored other name found text there := by
    rw [resolvers, get_run_put_public_key]
    split_ifs with same
    · exact .inl (Option.some_ne_none _)
    · refine (keys.stored other name found text there).imp_right ?_
      rintro ⟨j, later⟩
      refine ⟨j, ?_⟩
      rw [key, if_neg ?_]
      · exact later
      · rintro rfl
        cases owed.symm.trans later
        exact same ⟨rfl, rfl⟩

/-- Facts that store nothing. -/
def Silent (facts : List (Fact L)) : Prop := ∀ source login public_key address, .stored source login public_key address ∉ facts

theorem silent_marks (effects : List (Effect L)) : Silent (marks effects) := by
  intro source login public_key address member
  obtain ⟨effect, -, told⟩ := List.mem_filterMap.mp member
  cases effect with
  | send_to purpose buffer endpoint => cases purpose <;> cases told
  | _ => cases told

theorem address_of_silent {facts : List (Fact L)} (silent : Silent facts) (source : Source) (login : Bytes) (id : L.InfoHash) :
    latest (Fact.address source login id) facts = none := by
  refine latest_of_silent fun fact member => ?_
  cases fact with
  | stored other name public_key address => exact absurd member (silent _ _ _ _)
  | _ => rfl

theorem mem_of_silent {facts : List (Fact L)} (silent : Silent facts) {before : Ledger L} (source : Source) (login : Bytes)
    (public_key : L.PublicKey) (address : Bytes) :
    .stored source login public_key address ∈ before ++ facts ↔ .stored source login public_key address ∈ before := by
  rw [List.mem_append]
  exact or_iff_left (silent _ _ _ _)

section
variable {task : Task L} {facts : List (Fact L)} {effects : List (Effect L)}

theorem Addresses.addBack (addresses : w.Addresses s) (silent : Silent facts)
    (told : ∀ ledger : Ledger L, (∀ fact ∈ ledger, fact.Calm) →
      record config (ledger ++ w.after) task = some (ledger ++ w.after ++ facts, effects)) :
    (w.addBack i told).Addresses s where
  met login id := by
    show _ = latest _ (w.after ++ facts)
    rw [latest_append, address_of_silent silent, Option.none_or]
    exact addresses.met login id
  listed := addresses.listed
  behind login public_key address member :=
    addresses.behind login public_key address ((mem_of_silent silent _ _ _ _).mp member)

theorem Keys.addBack (keys : w.Keys s) (silent : Silent facts)
    (told : ∀ ledger : Ledger L, (∀ fact ∈ ledger, fact.Calm) →
      record config (ledger ++ w.after) task = some (ledger ++ w.after ++ facts, effects))
    (resolvers : t.resolvers = s.resolvers) (key : ∀ j, t.key j = s.key j) : (w.addBack i told).Keys t := by
  refine keys.keep (fun source login public_key address => ?_) resolvers key
  show _ ∈ w.ahead ++ (w.after ++ facts) ↔ _ ∈ w.ahead ++ w.after
  rw [← List.append_assoc, mem_of_silent silent]

theorem Addresses.addFront (addresses : w.Addresses s) (silent : Silent facts)
    (told : record config w.ahead task = some (w.ahead ++ facts, effects)) (calm : ∀ fact ∈ facts, fact.Calm) :
    (w.addFront i told calm).Addresses s where
  met := addresses.met
  listed login id := by
    show _ = latest _ (w.ahead ++ facts)
    rw [latest_append, address_of_silent silent, Option.none_or]
    exact addresses.listed login id
  behind := addresses.behind

theorem Keys.addFront (keys : w.Keys s) (silent : Silent facts)
    (told : record config w.ahead task = some (w.ahead ++ facts, effects)) (calm : ∀ fact ∈ facts, fact.Calm)
    (resolvers : t.resolvers = s.resolvers) (key : ∀ j, t.key j = s.key j) : (w.addFront i told calm).Keys t := by
  refine keys.keep (fun source login public_key address => ?_) resolvers key
  show _ ∈ w.ahead ++ facts ++ w.after ↔ _ ∈ w.ahead ++ w.after
  rw [List.mem_append, mem_of_silent silent, List.mem_append]

/-! ### A task begins -/

/-- A task of which no part is done as it begins. -/
theorem Explains.take (explains : w.Explains s) (left : job.left = task.parts) (owes : job.Owes config [])
    (addressed : job.Addressed) (idle : job.key = none) (quiet : ∀ endpoint, task.pops endpoint = false) :
    w.Explains (s.take task job) := by
  have fresh := explains.fresh s.jobs.length (Nat.le_refl _)
  refine explains.next (fun j other => same_take task job other explains.length) (by simp [Crew.take])
    ⟨⟨task, ?_, ?_⟩, fun _ => ⟨fresh.back, fresh.second⟩, ⟨[], ?_, owes⟩, addressed⟩
    ⟨explains.addresses.met, explains.addresses.listed, explains.addresses.behind⟩
    (explains.keys.keep (fun _ _ _ _ => Iff.rfl) rfl (key_take_idle s task idle)) ?_ ?_ ?_
  · simp [Crew.take, ← explains.length]
  · rw [fresh.front, fresh.back, left]
    rfl
  · show _ = own s.jobs.length s.log ++ []
    rw [fresh.first, fresh.second, fresh.log]
  · simp [Crew.take, explains.length]
  · simp [Crew.take]
  · intro endpoint
    show _ = (s.tasks ++ [task]).countP _
    rw [List.countP_append, List.countP_singleton, quiet]
    exact explains.pops endpoint

/-- A task that is done but for its effects as it begins. -/
theorem Explains.takeBack (explains : w.Explains s) (timers : List (Endpoint L)) (silent : Silent facts)
    (told : ∀ ledger : Ledger L, (∀ fact ∈ ledger, fact.Calm) →
      record config (ledger ++ w.after) task = some (ledger ++ w.after ++ facts, effects))
    (whole : task.parts = [task]) :
    (w.addBack s.jobs.length told).Explains
      (({ s with timers := timers } : Crew L).take task (.acting none effects [] [])) := by
  have fresh := explains.fresh s.jobs.length (Nat.le_refl _)
  have addresses := explains.addresses.addBack (i := s.jobs.length) silent told
  have there : (({ s with timers := timers } : Crew L).take task (.acting none effects [] [])).jobs[s.jobs.length]? =
      some (.acting none effects [] []) := by
    simp [Crew.take]
  refine explains.next (i := s.jobs.length) (fun j other => ?_) there
    ⟨⟨task, ?_, ?_⟩, fun some_left => absurd rfl some_left, ⟨effects, ?_, rfl⟩, fun _ member => absurd member List.not_mem_nil⟩
    ⟨addresses.met, addresses.listed, addresses.behind⟩ (explains.keys.addBack silent told rfl fun j => ?_) ?_ ?_ ?_
  · have same := same_take (w := w) task (.acting none effects [] []) other explains.length
    have added := same.addBack other told
    exact ⟨added.task, added.job, added.front, added.back, added.first, added.second, added.log⟩
  · simp [Crew.take, ← explains.length]
  · show own s.jobs.length w.front ++ own s.jobs.length (w.back ++ [(s.jobs.length, task)]) ++ [] = _
    rw [own_append, own_singleton, if_pos rfl, fresh.front, fresh.back, whole]
    rfl
  · show own s.jobs.length w.first ++ own s.jobs.length (w.second ++ effects.map (s.jobs.length, ·)) =
      own s.jobs.length s.log ++ effects
    rw [own_append, own_map, if_pos rfl, fresh.first, fresh.second, fresh.log]
    rfl
  · exact key_take_idle s task rfl j
  · simp [Crew.take, explains.length]
  · simp [Crew.take]
  · intro endpoint
    show ((w.front ++ (w.back ++ [(s.jobs.length, task)])).map (·.2)).countP _ = (s.tasks ++ [task]).countP _
    have before := explains.pops endpoint
    rw [← List.append_assoc, List.map_append, List.countP_append, before, List.countP_append]
    rfl

end

/-! ### A thread goes on -/

/-- What the other threads did is not changed by an effect of this one. -/
theorem own_does {j : Nat} (other : j ≠ i) (effect : Effect L) : own j (s.does i effect).log = own j s.log := by
  simp [Crew.does, own_singleton, Ne.symm other]

theorem getElem?_goOn {old : Job L} (there : s.jobs[i]? = some old) (job : Job L) : (s.goOn i job).jobs[i]? = some job := by
  obtain ⟨inside, -⟩ := List.getElem?_eq_some_iff.mp there
  simp [Crew.goOn, inside]

theorem key_goOn_same {old : Job L} (there : s.jobs[i]? = some old) (same : job.key = old.key) (j : Nat) :
    (s.goOn i job).key j = s.key j := by
  rw [key_goOn there]
  split_ifs with here
  · subst here
    rw [same, Crew.key, there]
    rfl
  · rfl

/-- What goes on with one job leaves the others as they are. -/
theorem same_of_goOn {t : Crew L} {j : Nat} (other : j ≠ i) (jobs : t.jobs = s.jobs) (tasks : t.tasks = s.tasks)
    (logs : own j t.log = own j s.log) : w.Same w s (t.goOn i job) j := by
  refine ⟨congrArg (·[j]?) tasks, ?_, rfl, rfl, rfl, rfl, logs⟩
  show (t.jobs.set i job)[j]? = _
  rw [jobs, List.getElem?_set_ne (Ne.symm other)]

theorem Explains.lengths (explains : w.Explains s) (i : Nat) (job : Job L) {t : Crew L} (jobs : t.jobs = s.jobs) (tasks : t.tasks = s.tasks) :
    (t.goOn i job).tasks.length = (t.goOn i job).jobs.length ∧ s.jobs.length ≤ (t.goOn i job).jobs.length := by
  have same : (t.goOn i job).jobs.length = s.jobs.length := by
    show (t.jobs.set i job).length = _
    rw [jobs, List.length_set]
  rw [same, ← explains.length]
  exact ⟨congrArg List.length tasks, Nat.le_refl _⟩

/-- A step that comes to no new part. -/
theorem Explains.goOn (explains : w.Explains s) {old : Job L} (there : s.jobs[i]? = some old) (t : Crew L)
    (jobs : t.jobs = s.jobs) (tasks : t.tasks = s.tasks) (logs : ∀ j ≠ i, own j t.log = own j s.log)
    (addresses : w.Addresses t) (keys : w.Keys (t.goOn i job)) (left : job.left = old.left)
    (owes : ∀ more, own i w.first ++ own i w.second = own i s.log ++ more → old.Owes config more →
      ∃ rest, own i w.first ++ own i w.second = own i t.log ++ rest ∧ job.Owes config rest)
    (addressed : old.Addressed → job.Addressed) : w.Explains (t.goOn i job) := by
  have serves := explains.serves i old there
  obtain ⟨more, so_far, owed⟩ := serves.owes
  have inside : (t.goOn i job).jobs[i]? = some job := getElem?_goOn (by rw [jobs]; exact there) job
  obtain ⟨length, more_jobs⟩ := explains.lengths i job jobs tasks
  refine explains.next (fun j other => same_of_goOn other jobs tasks (logs j other)) inside
    ⟨?_, ?_, owes more so_far owed, addressed serves.addressed⟩
    ⟨addresses.met, addresses.listed, addresses.behind⟩ keys length more_jobs fun endpoint => ?_
  · obtain ⟨task, known, parts⟩ := serves.parts
    refine ⟨task, ?_, ?_⟩
    · show t.tasks[i]? = _
      rw [tasks, known]
    · rw [left, parts]
  · rw [left]
    exact serves.fronted
  · show _ = t.tasks.countP _
    rw [tasks]
    exact explains.pops endpoint

section
variable {task : Task L} {facts : List (Fact L)} {effects more : List (Effect L)}

/-- The last part of a task, behind everything else. -/
theorem Explains.goBack (explains : w.Explains s) {old : Job L} (there : s.jobs[i]? = some old) (t : Crew L)
    (jobs : t.jobs = s.jobs) (tasks : t.tasks = s.tasks) (logs : t.log = s.log)
    (told : ∀ ledger : Ledger L, (∀ fact ∈ ledger, fact.Calm) →
      record config (ledger ++ w.after) task = some (ledger ++ w.after ++ facts, effects))
    (addresses : (w.addBack i told).Addresses t) (keys : (w.addBack i told).Keys (t.goOn i job))
    (last : old.left = [task]) (done : job.left = []) (quiet : ∀ endpoint, task.pops endpoint = false)
    (nothing : ∀ more, old.Owes config more → more = []) (owes : job.Owes config effects) (addressed : job.Addressed) :
    (w.addBack i told).Explains (t.goOn i job) := by
  have serves := explains.serves i old there
  obtain ⟨more, so_far, owed⟩ := serves.owes
  obtain rfl := nothing more owed
  have inside : (t.goOn i job).jobs[i]? = some job := getElem?_goOn (by rw [jobs]; exact there) job
  obtain ⟨length, more_jobs⟩ := explains.lengths i job jobs tasks
  refine explains.next (fun j other => ?_) inside
    ⟨?_, fun some_left => absurd done some_left, ⟨effects, ?_, owes⟩, addressed⟩
    ⟨addresses.met, addresses.listed, addresses.behind⟩ keys length more_jobs fun endpoint => ?_
  · exact (same_of_goOn other jobs tasks (congrArg (own j) logs)).addBack other told
  · obtain ⟨whole, known, parts⟩ := serves.parts
    refine ⟨whole, ?_, ?_⟩
    · show t.tasks[i]? = _
      rw [tasks, known]
    · show own i w.front ++ own i (w.back ++ [(i, task)]) ++ job.left = whole.parts
      rw [own_append, own_singleton, if_pos rfl, done, List.append_nil, ← List.append_assoc, ← last, parts]
  · show own i w.first ++ own i (w.second ++ effects.map (i, ·)) = own i t.log ++ effects
    rw [own_append, own_map, if_pos rfl, ← List.append_assoc, so_far, List.append_nil, logs]
  · show ((w.front ++ (w.back ++ [(i, task)])).map (·.2)).countP _ = t.tasks.countP _
    rw [← List.append_assoc, List.map_append, List.countP_append, List.map_singleton, List.countP_singleton, quiet, tasks]
    exact explains.pops endpoint

/-- A part at the front. -/
theorem Explains.goFront (explains : w.Explains s) {old : Job L} (there : s.jobs[i]? = some old) (t : Crew L)
    (jobs : t.jobs = s.jobs) (tasks : t.tasks = s.tasks) (logs : t.log = s.log)
    (told : record config w.ahead task = some (w.ahead ++ facts, effects)) (calm : ∀ fact ∈ facts, fact.Calm)
    (addresses : (w.addFront i told calm).Addresses t) (keys : (w.addFront i told calm).Keys (t.goOn i job))
    (next : old.left = task :: job.left) (quiet : ∀ endpoint, task.pops endpoint = false)
    (nothing : ∀ more, old.Owes config more → more = []) (owes : job.Owes config effects) (addressed : job.Addressed) :
    (w.addFront i told calm).Explains (t.goOn i job) := by
  have serves := explains.serves i old there
  obtain ⟨more, so_far, owed⟩ := serves.owes
  obtain rfl := nothing more owed
  obtain ⟨unbacked, unsecond⟩ := serves.fronted (by rw [next]; exact List.cons_ne_nil _ _)
  have inside : (t.goOn i job).jobs[i]? = some job := getElem?_goOn (by rw [jobs]; exact there) job
  obtain ⟨length, more_jobs⟩ := explains.lengths i job jobs tasks
  refine explains.next (fun j other => ?_) inside
    ⟨?_, fun _ => ⟨unbacked, unsecond⟩, ⟨effects, ?_, owes⟩, addressed⟩
    ⟨addresses.met, addresses.listed, addresses.behind⟩ keys length more_jobs fun endpoint => ?_
  · exact (same_of_goOn other jobs tasks (congrArg (own j) logs)).addFront other told calm
  · obtain ⟨whole, known, parts⟩ := serves.parts
    refine ⟨whole, ?_, ?_⟩
    · show t.tasks[i]? = _
      rw [tasks, known]
    · show own i (w.front ++ [(i, task)]) ++ own i w.back ++ job.left = whole.parts
      rw [unbacked, List.append_nil, next] at parts
      rw [own_append, own_singleton, if_pos rfl, unbacked, List.append_nil, List.append_assoc, List.singleton_append, parts]
  · show own i (w.first ++ effects.map (i, ·)) ++ own i w.second = own i t.log ++ effects
    rw [unsecond, List.append_nil, List.append_nil] at so_far
    rw [own_append, own_map, if_pos rfl, unsecond, List.append_nil, so_far, logs]
  · show ((w.front ++ [(i, task)] ++ w.back).map (·.2)).countP _ = t.tasks.countP _
    have before := explains.pops endpoint
    rw [List.map_append, List.countP_append] at before
    rw [List.map_append, List.map_append, List.countP_append, List.countP_append, List.map_singleton,
      List.countP_singleton, quiet, tasks, ← before]
    rfl

end

/-! ### The parts as they come -/

/-- A thread has not done more than the schedule has it do. -/
theorem Explains.sofar (explains : w.Explains s) (j : Nat) : own j s.log <+: own j (w.first ++ w.second) := by
  rw [own_append]
  rcases Nat.lt_or_ge j s.jobs.length with inside | beyond
  · obtain ⟨more, same, -⟩ := (explains.serves j _ (List.getElem?_eq_getElem inside)).owes
    exact ⟨more, same.symm⟩
  · rw [(explains.fresh j beyond).log]
    exact List.nil_prefix

/-- Whoever's timer can expire has a loop in the ledger. -/
theorem Explains.loops (explains : w.Explains s) (logged : s.Logged) (endpoint : Endpoint L) :
    s.timers.count endpoint ≤ Ledger.loops w.after endpoint := by
  have gains := gains_of_run w.runs
  have less : (deeds s.log).countP (Effect.punches endpoint) ≤
      (deeds (w.first ++ w.second)).countP (Effect.punches endpoint) := by
    unfold deeds
    rw [List.countP_map, List.countP_map]
    exact (subperm_of_own explains.sofar).countP_le _
  have balance := logged.timers endpoint
  have arms := gains.arms endpoint
  have expires := gains.expires endpoint
  rw [explains.pops endpoint] at expires
  rw [← loops_of_calm w.calm]
  show _ ≤ List.countP _ w.ledger - List.countP _ w.ledger
  rw [arms, expires]
  simp only [List.countP_nil, Nat.zero_add]
  omega

/-- A handler asks the resolver what the ledger says. -/
theorem Addresses.nextHop (addresses : w.Addresses s) :
    P2PMessenger.nextHop (s.resolvers .metadata_ip_resolver_) = Ledger.nextHop w.after := by
  funext message
  unfold P2PMessenger.nextHop Ledger.nextHop
  cases L.publicKey message.destination_public_key with
  | none => rfl
  | some public_key =>
    have known := addresses.met message.destination_login (L.getId public_key)
    rw [Option.bind_some, ← known]
    rfl

/-- A receive handler comes to the resolver. -/
theorem Explains.receiving (explains : w.Explains s) {env : Environment L} {buffer : Bytes} {remote_endpoint : Endpoint L}
    (there : s.jobs[i]? = some (.receiving env buffer remote_endpoint))
    (step : s.advance config i (.receiving env buffer remote_endpoint) = some t) :
    ∃ w' : Schedule config, w'.Explains t := by
  have idle : s.key i = none := by
    rw [Crew.key, there]
    rfl
  have told := fun (ledger : Ledger L) (calm : ∀ fact ∈ ledger, fact.Calm) =>
    told_receive config calm w.after env buffer remote_endpoint
  simp only [Crew.advance, explains.addresses.nextHop] at step
  cases met : config.met env buffer remote_endpoint with
  | none =>
    simp only [met] at step told
    cases step
    have silent := silent_marks (config.handling env buffer remote_endpoint (Ledger.nextHop w.after))
    refine ⟨_, explains.goBack there s rfl rfl rfl told (explains.addresses.addBack silent told)
      (explains.keys.addBack silent told rfl (key_goOn_same there rfl)) rfl rfl (fun _ => rfl) (fun _ => id) rfl ?_⟩
    exact fun _ member => absurd member List.not_mem_nil
  | some contact =>
    obtain ⟨login, public_key, address⟩ := contact
    simp only [met] at step
    cases step
    let effects := config.handling env buffer remote_endpoint (Ledger.nextHop w.after)
    have silent : Silent (marks effects) := silent_marks effects
    have told : ∀ ledger : Ledger L, (∀ fact ∈ ledger, fact.Calm) →
        record config (ledger ++ w.after) (.receive env buffer remote_endpoint) =
          some (ledger ++ w.after ++ .stored .metadata_ip_resolver_ login public_key address :: marks effects, effects) := by
      intro ledger calm
      rw [told ledger calm, met]
      rfl
    refine ⟨_, explains.goBack there (s.run _) rfl rfl rfl told ⟨fun name id => ?_, fun name id => ?_, ?_⟩ ?_ rfl rfl
      (fun _ => rfl) (fun _ => id) rfl fun _ member => absurd member List.not_mem_nil⟩
    · show (LockedBlock.run s.resolvers (.put_address .metadata_ip_resolver_ login (L.getId public_key) address)
        .metadata_ip_resolver_).resolve name id = latest _ (w.after ++ _ :: marks effects)
      rw [resolve_run_put_address, latest_append, ← List.singleton_append, latest_append, address_of_silent silent,
        explains.addresses.met, Option.none_or]
      by_cases same : name = login ∧ id = L.getId public_key
      · simp [latest, Fact.address, same]
      · simp [latest, Fact.address, same]
    · show (LockedBlock.run s.resolvers (.put_address .metadata_ip_resolver_ login (L.getId public_key) address)
        .dht_ip_resolver_).resolve name id = _
      rw [resolve_run_put_address, if_neg (by simp)]
      exact explains.addresses.listed name id
    · intro name key text member
      rcases List.mem_append.mp member with old | new
      · exact explains.addresses.behind name key text old
      · rcases List.mem_cons.mp new with same | marked
        · cases same
        · exact silent _ _ _ _ marked
    · refine explains.keys.put_address (fun fact known => ?_)
        (fun other name key text known => ?_) rfl idle fun j => key_goOn there _ j
      · show fact ∈ w.ahead ++ (w.after ++ _ :: marks effects)
        rcases known with rfl | old
        · simp
        · rw [← List.append_assoc]
          exact List.mem_append_left _ old
      · change _ ∈ w.ahead ++ (w.after ++ _ :: marks effects) at known
        rw [← List.append_assoc] at known
        rcases List.mem_append.mp known with old | new
        · exact .inr old
        · rcases List.mem_cons.mp new with same | marked
          · exact .inl same
          · exact absurd marked (silent _ _ _ _)

/-- A callback of the DHT goes on to its next contact. -/
theorem Explains.storing (explains : w.Explains s) {login : Bytes} {contact : L.PublicKey × Bytes}
    {contacts : List (L.PublicKey × Bytes)} (there : s.jobs[i]? = some (.acting none [] login (contact :: contacts)))
    (step : s.advance config i (.acting none [] login (contact :: contacts)) = some t) :
    ∃ w' : Schedule config, w'.Explains t := by
  have idle : s.key i = none := by
    rw [Crew.key, there]
    rfl
  have addressed := (explains.serves i _ there).addressed
  obtain ⟨public_key, address⟩ := contact
  have told := record_contact config w.ahead login (addressed _ List.mem_cons_self)
  have calm : ∀ fact ∈ [Fact.stored .dht_ip_resolver_ login public_key address], fact.Calm := by
    intro fact member
    cases List.mem_singleton.mp member
    exact rfl
  cases step
  refine ⟨_, explains.goFront there (s.run _) rfl rfl rfl told calm ⟨fun name id => ?_, fun name id => ?_,
    explains.addresses.behind⟩ ?_ rfl (fun _ => rfl) (fun _ => id) rfl
    fun other member => addressed other (List.mem_cons_of_mem _ member)⟩
  · show (LockedBlock.run s.resolvers (.put_address .dht_ip_resolver_ login (L.getId public_key) address)
      .metadata_ip_resolver_).resolve name id = _
    rw [resolve_run_put_address, if_neg (by simp)]
    exact explains.addresses.met name id
  · show (LockedBlock.run s.resolvers (.put_address .dht_ip_resolver_ login (L.getId public_key) address)
      .dht_ip_resolver_).resolve name id = latest _ (w.ahead ++ [.stored .dht_ip_resolver_ login public_key address])
    rw [resolve_run_put_address, latest_append, explains.addresses.listed]
    by_cases same : name = login ∧ id = L.getId public_key
    · simp [latest, Fact.address, same]
    · simp [latest, Fact.address, same]
  · refine explains.keys.put_address (fun fact known => ?_) (fun other name key text known => ?_) rfl idle
      fun j => key_goOn there _ j
    · show fact ∈ w.ahead ++ [.stored .dht_ip_resolver_ login public_key address] ++ w.after
      rcases known with rfl | old
      · simp
      · rcases List.mem_append.mp old with front | back
        · simp [front]
        · simp [back]
    · change _ ∈ w.ahead ++ [.stored .dht_ip_resolver_ login public_key address] ++ w.after at known
      rcases List.mem_append.mp known with front | back
      · rcases List.mem_append.mp front with old | new
        · exact .inr (List.mem_append_left _ old)
        · exact .inl (List.mem_singleton.mp new)
      · exact .inr (List.mem_append_right _ back)

/-- A call asks a resolver for an address. -/
theorem Explains.resolving (explains : w.Explains s) {env : Environment L} {login : Bytes} {id : L.InfoHash} {message : Bytes}
    {source : Source} (there : s.jobs[i]? = some (.resolving env login id message source))
    (step : s.advance config i (.resolving env login id message source) = some t) :
    ∃ w' : Schedule config, w'.Explains t := by
  simp only [Crew.advance] at step
  cases source with
  | metadata_ip_resolver_ =>
    have known := explains.addresses.met login id
    cases found : (s.resolvers .metadata_ip_resolver_).resolve login id with
    | some address =>
      simp only [found] at step
      cases step
      rw [found] at known
      obtain ⟨public_key, key⟩ := Ledger.key_of_address known.symm
      have told := fun (ledger : Ledger L) (calm : ∀ fact ∈ ledger, fact.Calm) =>
        told_met config calm env message known.symm key
      have silent := silent_marks (config.calling env address login public_key message)
      exact ⟨_, explains.goBack there s rfl rfl rfl told (explains.addresses.addBack silent told)
        (explains.keys.addBack silent told rfl (key_goOn_same there rfl)) rfl rfl (fun _ => rfl) (fun _ same => same)
        ⟨public_key, (Ledger.id_of_key key).symm, rfl⟩ trivial⟩
    | none =>
      simp only [found] at step
      cases step
      exact ⟨w, explains.goOn there s rfl rfl (fun _ _ => rfl) explains.addresses
        (explains.keys.keep (fun _ _ _ _ => Iff.rfl) rfl (key_goOn_same there rfl)) rfl
        (fun more so_far owed => ⟨more, so_far, owed⟩) fun same => same⟩
  | dht_ip_resolver_ =>
    have known := explains.addresses.listed login id
    cases found : (s.resolvers .dht_ip_resolver_).resolve login id with
    | some address =>
      simp only [found] at step
      cases step
      rw [found] at known
      obtain ⟨public_key, key⟩ := Ledger.key_of_address known.symm
      have told := told_listed config w.calm env message known.symm key
      have silent : Silent (saidBy (config.calling env address login public_key message)) := by
        rw [← marks_calling]
        exact silent_marks _
      exact ⟨_, explains.goFront there s rfl rfl rfl told (calm_saidBy _)
        (explains.addresses.addFront silent told (calm_saidBy _))
        (explains.keys.addFront silent told (calm_saidBy _) rfl (key_goOn_same there rfl)) rfl (fun _ => rfl) (fun _ same => same)
        ⟨public_key, (Ledger.id_of_key key).symm, rfl⟩ trivial⟩
    | none =>
      simp only [found] at step
      cases step
      rw [found] at known
      have told := told_unlisted config w.calm env message known.symm
      have silent : Silent ([] : List (Fact L)) := fun _ _ _ _ => List.not_mem_nil
      have calm : ∀ fact ∈ ([] : List (Fact L)), fact.Calm := fun _ member => absurd member List.not_mem_nil
      exact ⟨_, explains.goFront there s rfl rfl rfl told calm (explains.addresses.addFront silent told calm)
        (explains.keys.addFront silent told calm rfl (key_goOn_same there rfl)) rfl (fun _ => rfl) (fun _ same => same) rfl
        fun _ member => absurd member List.not_mem_nil⟩

/-- A call asks a resolver for the key, of which there is only one. -/
theorem Explains.finding (ids : L.DistinctIds) (explains : w.Explains s) (ready : s.Ready) {env : Environment L}
    {address login : Bytes} {id : L.InfoHash} {message : Bytes} {source : Source}
    (there : s.jobs[i]? = some (.finding env address login id message source))
    (step : s.advance config i (.finding env address login id message source) = some t) :
    ∃ w' : Schedule config, w'.Explains t := by
  obtain ⟨-, second⟩ := ready.jobs _ (List.mem_of_getElem? there)
  simp only [Crew.advance] at step
  cases found : (s.resolvers source).get_public_key_by_public_key_id id with
  | some public_key =>
    simp only [found] at step
    cases step
    refine ⟨w, explains.goOn there s rfl rfl (fun _ _ => rfl) explains.addresses
      (explains.keys.keep (fun _ _ _ _ => Iff.rfl) rfl (key_goOn_same there rfl)) rfl (fun more so_far owed => ?_)
      fun _ _ member => absurd member List.not_mem_nil⟩
    obtain ⟨other, same_id, rfl⟩ := owed
    obtain rfl : other = public_key := ids (same_id.trans (ready.keyed source id public_key found).symm)
    exact ⟨_, so_far, rfl⟩
  | none =>
    cases source with
    | metadata_ip_resolver_ =>
      simp only [found] at step
      cases step
      exact ⟨w, explains.goOn there s rfl rfl (fun _ _ => rfl) explains.addresses
        (explains.keys.keep (fun _ _ _ _ => Iff.rfl) rfl (key_goOn_same there rfl)) rfl
        (fun more so_far owed => ⟨more, so_far, owed⟩) fun same => same⟩
    | dht_ip_resolver_ => exact absurd found (second rfl)

/-- Every step of the threads is explained by a schedule. -/
theorem Explains.step (ids : L.DistinctIds) (explains : w.Explains s) (ready : s.Ready) (logged : s.Logged) {order : Order L}
    (step : labor config s order = some t) : ∃ w' : Schedule config, w'.Explains t := by
  cases order with
  | begin task =>
    cases task with
    | start env =>
      simp only [labor, Crew.begin] at step
      by_cases relay : config.relay_node_ip_ ≠ []
      · rw [if_pos relay] at step
        cases step
        have silent := silent_marks (config.punching (config.punched env 0 config.relay_node_ip_ config.relay_node_port_)).2
        rw [marks_punching] at silent
        exact ⟨_, explains.takeBack s.timers silent (fun ledger _ => told_start config (ledger ++ w.after) env relay) rfl⟩
      · rw [if_neg relay] at step
        cases step
    | receive env buffer remote_endpoint =>
      cases step
      exact ⟨w, explains.take rfl rfl trivial rfl fun _ => rfl⟩
    | timer env endpoint =>
      simp only [labor, Crew.begin] at step
      by_cases there : 0 < s.timers.count endpoint
      · rw [if_pos there] at step
        cases step
        let punched := if config.buffer_.length ≤ 65507 ∧ env.accepts 0 = true then some endpoint else none
        have silent : Silent (.expired endpoint :: (config.punching punched).1) := by
          intro source login public_key address member
          rw [← marks_punching] at member
          rcases List.mem_cons.mp member with same | marked
          · cases same
          · exact silent_marks _ _ _ _ _ marked
        have looping : 0 < Ledger.loops w.after endpoint := Nat.lt_of_lt_of_le there (explains.loops logged endpoint)
        exact ⟨_, explains.takeBack (s.timers.erase endpoint) silent
          (fun ledger calm => told_timer config (ledger ++ w.after) env (by rwa [loops_of_calm calm])) rfl⟩
      · rw [if_neg there] at step
        cases step
    | listen_callback login values expired =>
      cases step
      refine ⟨w, explains.take rfl rfl (fun contact member => ?_) rfl fun _ => rfl⟩
      split_ifs at member
      · exact absurd member List.not_mem_nil
      · exact addressed_of_reached member
    | send_message env login id message =>
      cases step
      exact ⟨w, explains.take rfl rfl trivial rfl fun _ => rfl⟩
  | advance i =>
    simp only [labor] at step
    cases there : s.jobs[i]? with
    | none => simp [there] at step
    | some job =>
      simp only [there] at step
      cases job with
      | receiving env buffer remote_endpoint => exact explains.receiving there step
      | acting key effects login contacts =>
        rcases key with - | ⟨source, public_key⟩
        · rcases effects with - | ⟨effect, effects⟩
          · rcases contacts with - | ⟨contact, contacts⟩
            · cases step
            · exact explains.storing there step
          · cases step
            refine ⟨w, explains.goOn there (s.does i effect) rfl rfl (fun j other => own_does other effect)
              ⟨explains.addresses.met, explains.addresses.listed, explains.addresses.behind⟩
              (explains.keys.keep (fun _ _ _ _ => Iff.rfl) rfl (key_goOn_same there rfl)) rfl
              (fun more so_far owed => ⟨effects, ?_, rfl⟩) id⟩
            obtain rfl : more = effect :: effects := owed
            rw [so_far]
            show _ = own i (s.log ++ [(i, effect)]) ++ effects
            rw [own_append, own_singleton, if_pos rfl, List.append_assoc, List.singleton_append]
        · cases step
          have owed : s.key i = some (source, public_key) := by
            rw [Crew.key, there]
            rfl
          refine ⟨w, explains.goOn there (s.run _) rfl rfl (fun _ _ => rfl) ⟨fun name id => ?_, fun name id => ?_,
            explains.addresses.behind⟩ (explains.keys.put_public_key owed rfl fun j => key_goOn there _ j) rfl
            (fun more so_far owed => ⟨more, so_far, owed⟩) id⟩
          · show (LockedBlock.run s.resolvers (.put_public_key source public_key) _).resolve name id = _
            rw [resolve_run_put_public_key]
            exact explains.addresses.met name id
          · show (LockedBlock.run s.resolvers (.put_public_key source public_key) _).resolve name id = _
            rw [resolve_run_put_public_key]
            exact explains.addresses.listed name id
      | resolving env login id message source => exact explains.resolving there step
      | finding env address login id message source => exact explains.finding ids ready there step

end Schedule

/-! ## All steps -/

/-- No thread dereferences a null key: whoever is not finished has a next step. -/
theorem Crew.Ready.goes_on {s : Crew L} (ready : s.Ready) (config : Config L) {i : Nat} {job : Job L}
    (there : s.jobs[i]? = some job) (unfinished : job.finished = false) : ∃ t, labor config s (.advance i) = some t := by
  have mine := ready.jobs job (List.mem_of_getElem? there)
  simp only [labor, there]
  cases job with
  | receiving env buffer remote_endpoint =>
    simp only [advance]
    split <;> exact ⟨_, rfl⟩
  | acting key effects login contacts =>
    rcases key with - | owed
    · rcases effects with - | ⟨effect, effects⟩
      · rcases contacts with - | ⟨contact, contacts⟩
        · cases unfinished
        · exact ⟨_, rfl⟩
      · exact ⟨_, rfl⟩
    · exact ⟨_, rfl⟩
  | resolving env login id message source =>
    simp only [advance]
    split <;> exact ⟨_, rfl⟩
  | finding env address login id message source =>
    simp only [advance]
    cases found : (s.resolvers source).get_public_key_by_public_key_id id with
    | some public_key => exact ⟨_, rfl⟩
    | none =>
      cases source with
      | metadata_ip_resolver_ => exact ⟨_, rfl⟩
      | dht_ip_resolver_ => exact absurd found (mine.2 rfl)

theorem explained {config : Config L} {s : Crew L} (ids : L.DistinctIds)
    (reaches : Reaches (labor config) ForAnnounced (Crew.initial L) s) :
    s.Ready ∧ s.Logged ∧ ∃ w : Schedule config, w.Explains s := by
  refine reaches.invariant (I := fun s : Crew L => s.Ready ∧ s.Logged ∧ ∃ w : Schedule config, w.Explains s)
    ⟨ready_initial, logged_initial, _, Schedule.explains_initial⟩ ?_
  rintro s order t ⟨ready, logged, w, explains⟩ announced step
  exact ⟨ready.step announced step, logged.step step, explains.step ids ready logged step⟩

theorem Job.left_of_finished {job : Job L} (finished : job.finished = true) : job.left = [] := by
  cases job with
  | acting key effects login contacts =>
    cases contacts with
    | nil => rfl
    | cons => rcases key with - | owed <;> rcases effects with - | effect <;> cases finished
  | _ => cases finished

theorem Job.nothing_of_finished {config : Config L} {job : Job L} (finished : job.finished = true) {more : List (Effect L)}
    (owes : job.Owes config more) : more = [] ∧ job.key = none := by
  cases job with
  | acting key effects login contacts =>
    rcases key with - | owed
    · cases effects with
      | nil => exact ⟨owes, rfl⟩
      | cons => cases finished
    · cases finished
  | _ => cases finished

section
variable {config : Config L} {s : Crew L} {w : Schedule config}

/-- The addresses of the ledger, whoever asks for them. -/
theorem Schedule.Explains.resolve (explains : w.Explains s) (login : Bytes) (id : L.InfoHash) :
    s.resolve login id = w.ledger.resolve login id := by
  have ahead : latest (Fact.address .metadata_ip_resolver_ login id) w.ledger =
      latest (Fact.address .metadata_ip_resolver_ login id) w.after := by
    rw [Schedule.ledger, latest_append, met_of_calm w.calm, Option.or_none]
  have behind : latest (Fact.address .dht_ip_resolver_ login id) w.after = none := by
    refine latest_of_silent fun fact member => ?_
    cases fact with
    | stored source name public_key address =>
      cases source with
      | metadata_ip_resolver_ => rfl
      | dht_ip_resolver_ => exact absurd member (explains.addresses.behind _ _ _)
    | _ => rfl
  unfold Crew.resolve Ledger.resolve
  rw [ahead, Schedule.ledger, latest_append, behind, Option.none_or, ← explains.addresses.met, ← explains.addresses.listed]
  cases (s.resolvers .metadata_ip_resolver_).resolve login id <;> rfl

/-- When every thread is finished the keys of the ledger are stored. -/
theorem Schedule.Explains.key (ids : L.DistinctIds) (explains : w.Explains s) (keyed : Keyed s.resolvers)
    (finished : ∀ job ∈ s.jobs, job.finished = true) (source : Source) (id : L.InfoHash) :
    (s.resolvers source).get_public_key_by_public_key_id id = latest (Fact.key source id) w.ledger := by
  cases found : (s.resolvers source).get_public_key_by_public_key_id id with
  | some public_key =>
    obtain ⟨login, address, told⟩ := explains.keys.known source id public_key found
    have own_id := keyed source id public_key found
    obtain ⟨other, latest_key⟩ := latest_of_mem told
      (show Fact.key source id (.stored source login public_key address) = some public_key from if_pos ⟨rfl, own_id.symm⟩)
    rw [latest_key]
    exact congrArg some (ids (own_id.trans (Ledger.id_of_key latest_key)))
  | none =>
    refine (latest_of_silent fun fact member => ?_).symm
    cases fact with
    | stored other login public_key address =>
      refine if_neg ?_
      rintro ⟨rfl, rfl⟩
      rcases explains.keys.stored other login public_key address member with known | ⟨i, owed⟩
      · exact known found
      · obtain ⟨job, there, owed⟩ := Option.bind_eq_some_iff.mp owed
        obtain ⟨more, -, owes⟩ := (explains.serves i job there).owes
        rw [(Job.nothing_of_finished (finished job (List.mem_of_getElem? there)) owes).2] at owed
        cases owed
    | _ => rfl

/-- When every thread is finished it has done what the schedule has it do. -/
theorem Schedule.Explains.done (explains : w.Explains s) (finished : ∀ job ∈ s.jobs, job.finished = true) (i : Nat) :
    own i (w.front ++ w.back) = (s.tasks[i]?).elim [] Task.parts ∧ own i s.log = own i (w.first ++ w.second) := by
  rw [own_append, own_append]
  rcases Nat.lt_or_ge i s.jobs.length with inside | beyond
  · have there := List.getElem?_eq_getElem inside
    have ended := finished _ (List.getElem_mem inside)
    have serves := explains.serves i _ there
    obtain ⟨task, known, parts⟩ := serves.parts
    obtain ⟨more, so_far, owes⟩ := serves.owes
    rw [Job.left_of_finished ended, List.append_nil] at parts
    rw [(Job.nothing_of_finished ended owes).1, List.append_nil] at so_far
    rw [known]
    exact ⟨parts, so_far.symm⟩
  · have fresh := explains.fresh i beyond
    rw [fresh.front, fresh.back, fresh.first, fresh.second, fresh.log,
      List.getElem?_eq_none (by rw [explains.length]; exact beyond)]
    exact ⟨rfl, rfl⟩

end

/-- However the threads of a messenger are interleaved, they do what they would do one after
    the other: there is an order of the tasks, the callbacks of the DHT taken contact by
    contact, in which every task has the effects that its thread has, and the messenger that
    the order leaves has the same addresses at every moment and, when all threads are
    finished, the same keys, conversations and loops; only the lines of a conversation may
    stand in another order. No thread is stuck. -/
theorem threads_are_serializable (ids : L.DistinctIds) {config : Config L} {s : Crew L}
    (reaches : Reaches (labor config) ForAnnounced (Crew.initial L) s) :
    (∀ i job, s.jobs[i]? = some job → job.finished = false → ∃ t, labor config s (.advance i) = some t) ∧
    ∃ (serial : List (Nat × Task L)) (m : Messenger L) (out : List (Nat × Effect L)),
      (work config).tagged.run (.initial L) serial = some (m, out) ∧
      (∀ login id, s.resolve login id = m.resolve login id) ∧ (∀ i, own i s.log <+: own i out) ∧
      ((∀ job ∈ s.jobs, job.finished = true) →
        (∀ i, own i serial = (s.tasks[i]?).elim [] Task.parts) ∧ (∀ i, own i s.log = own i out) ∧
        (∀ id, s.get_public_key_by_public_key_id id = m.get_public_key_by_public_key_id id) ∧
        (∀ id, (s.chat_history_.entries id).Perm (m.node.chat_history_.entries id)) ∧
        ∀ endpoint, s.timers.count endpoint = m.node.timers.count endpoint) := by
  obtain ⟨ready, logged, w, explains⟩ := explained ids reaches
  refine ⟨fun i job there => ready.goes_on config there, w.front ++ w.back, ?_⟩
  have both := (work_record config).tagged.run describes_initial (w.front ++ w.back)
  rw [w.runs] at both
  generalize worked : (work config).tagged.run (.initial L) (w.front ++ w.back) = one at both
  cases both with
  | @some x y same =>
    obtain ⟨m, out⟩ := x
    obtain ⟨rfl, describes⟩ := same
    refine ⟨m, _, rfl, fun login id => ?_, explains.sofar, fun finished => ?_⟩
    · rw [explains.resolve, describes.resolve]
    · have alike := fun i => (explains.done finished i).2
      have permuted : (deeds s.log).Perm (deeds (w.first ++ w.second)) := (perm_of_own alike).map _
      have gains := gains_of_run w.runs
      refine ⟨fun i => (explains.done finished i).1, alike, fun id => ?_, fun id => ?_, fun endpoint => ?_⟩
      · rw [describes.public_key]
        unfold Crew.get_public_key_by_public_key_id Ledger.public_key
        rw [explains.key ids ready.keyed finished, explains.key ids ready.keyed finished]
        cases latest (Fact.key .metadata_ip_resolver_ id) w.ledger <;> rfl
      · rw [logged.entries, describes.entries, gains.entries]
        exact permuted.filterMap _
      · have balance := logged.timers endpoint
        have arms := gains.arms endpoint
        have expires := gains.expires endpoint
        rw [explains.pops endpoint] at expires
        rw [permuted.countP_eq] at balance
        rw [describes.timers, Ledger.loops, arms, expires]
        simp only [List.countP_nil, Nat.zero_add]
        omega

/-- The DHT announces the sender of the sample message. A call for it finds nothing in the
    first resolver, then the message comes, and the call goes on to the second. -/
def sampleOrders : List (Order Sample.libraries) :=
  [.begin (.listen_callback Sample.message.source_login [⟨MetadataIpResolver.addressOf Sample.message.source_ip 3001, some 7⟩]
      false), .advance 0, .advance 0, .advance 0,
    .begin (.receive Sample.environment Sample.datagram Sample.elsewhere),
    .begin (.send_message Sample.environment Sample.message.source_login (7 : UInt8) [104, 105]),
    .advance 2, .advance 1, .advance 2, .advance 1, .advance 2, .advance 1, .advance 2, .advance 1, .advance 2, .advance 1,
    .advance 2, .advance 1, .advance 2, .advance 1, .advance 2, .advance 1]

/-- Every thread is finished at the end, and the call was made. -/
theorem sampleOrders_finished :
    (run (labor Sample.receiver) (Crew.initial _) sampleOrders).map
      (fun s => (s.jobs.all Job.finished, (own 2 s.log).length, s.tasks.length)) = some (true, 5, 3) := by
  decide +kernel

theorem threads_are_serializable_sample :
    ∃ (s : Crew Sample.libraries) (serial : List (Nat × Task Sample.libraries)) (m : Messenger Sample.libraries)
      (out : List (Nat × Effect Sample.libraries)),
      run (labor Sample.receiver) (Crew.initial _) sampleOrders = some s ∧
      (work Sample.receiver).tagged.run (.initial _) serial = some (m, out) ∧ own 2 s.log ≠ [] ∧
      own 2 out = own 2 s.log ∧ ∀ id, (s.chat_history_.entries id).Perm (m.node.chat_history_.entries id) := by
  obtain ⟨s, taken, ended⟩ := Option.map_eq_some_iff.mp sampleOrders_finished
  have guarded : Guarded (labor Sample.receiver) ForAnnounced (Crew.initial _) sampleOrders := by decide +kernel
  obtain ⟨-, serial, m, out, ran, -, -, finished⟩ := threads_are_serializable Sample.distinctIds
    (reaches_of_guarded .start guarded taken)
  simp only [Prod.mk.injEq] at ended
  obtain ⟨-, effects, -, conversations, -⟩ := finished (List.all_eq_true.mp ended.1)
  refine ⟨s, serial, m, out, taken, ran, fun nothing => ?_, (effects 2).symm, conversations⟩
  rw [nothing] at ended
  cases ended.2.1

end P2PMessenger
