import P2PMessenger.Conversation
import P2PMessenger.Window

/-!
The program at everybody's desk. Every member of a company has its window, whose messenger is
the member's, and what one of them types on the chat page is followed to the chat page of
another: to a call that waits for a thread, to a datagram, and to a conversation. A task that
does not return is no step here (`Impl.ends`): the runs are those of processes that go on.
-/
namespace P2PMessenger
open Octets Throwing Refinement Runs

variable {ν : Type} {L : Libraries} {T : Texts L}

/-- The calls that wait for a thread. -/
def Window.posted (w : Window T) : List (Posted L) := (w.p2p_messenger_impl_.map (·.posted)).getD []

/-- The logins that the DHT is asked for. -/
def Window.asked (w : Window T) : List Bytes := (w.p2p_messenger_impl_.map (·.listens)).getD []

structure Users (ν : Type) (T : Texts L) where
  windows : ν → Window T
  flight : List (Letter ν)
  log : List (Talk ν L)
  /-- Everything that was sent off on a chat page. -/
  typed : List (ν × Posted L)

def Users.initial (ν : Type) (T : Texts L) : Users ν T := ⟨fun _ => .initial T, [], [], []⟩

inductive Usage (ν : Type) (T : Texts L) where
  /-- A user does something, or a signal goes on. -/
  | window (a : ν) (event : Happening T)
  /-- A thread runs a task. -/
  | exchange (exchange : Exchange ν L)

namespace Exchange

def partner : Exchange ν L → ν
  | .speak _ b _ _ => b
  | .hear letter _ _ => letter.speaker
  | .listen a _ _ _ => a
  | .start a _ => a
  | .timer a _ _ => a

variable [DecidableEq ν]

/-- What the exchange takes from the network is there. -/
def underway (flight : List (Letter ν)) : Exchange ν L → Bool
  | .hear letter _ _ => flight.contains letter
  | _ => true

/-- What is on its way after the exchange. Everything that a call sends is. -/
def flies (flight : List (Letter ν)) (effects : List (Effect L)) : Exchange ν L → List (Letter ν)
  | .speak a b _ text => flight ++ (allDatagrams effects).map fun buffer => ⟨a, b, text, buffer⟩
  | .hear letter _ _ => flight.erase letter
  | _ => flight

end Exchange

variable [DecidableEq ν]

/-- The messenger of a window runs its part of an exchange. -/
def chat (config : ν → Config L) (s : Users ν T) : Usage ν T → Option (Users ν T)
  | .window a event =>
    (happened (s.windows a) event).map fun w =>
      { s with
        windows := Function.update s.windows a w
        typed := s.typed ++ (w.posted.drop (s.windows a).posted.length).map (a, ·) }
  | .exchange exchange =>
    if exchange.underway s.flight then
      (s.windows exchange.member).p2p_messenger_impl_.bind fun impl =>
        (work impl.config impl.messenger (exchange.task config)).bind fun worked =>
          (happened (s.windows exchange.member) (.task (exchange.task config))).map fun w =>
            { s with
              windows := Function.update s.windows exchange.member w
              flight := exchange.flies s.flight worked.2
              log := s.log ++ worked.2.filterMap (Effect.talk exchange.member exchange.partner) }
    else none

namespace Company
variable (company : Company ν L)

def contact (b : ν) : Contact L := ⟨(company.config b).my_login_, company.id b⟩

/-- Everybody logs in as the member it is, and nobody logs out. -/
def Attends (_ : Users ν T) : Usage ν T → Prop
  | .window a (.log_in config _) => config = company.config a
  | .window _ (.logout _) => False
  | .window _ (.task _) => False
  | .window _ _ => True
  | .exchange exchange => company.Proper (Gathering.initial ν L) exchange

/-- The text of a call for a member. -/
def toMember (b : ν) (call : Posted L) : Option Bytes :=
  if call.login = (company.config b).my_login_ ∧ call.public_key_id = company.id b then some call.message else none

/-- The calls that a member has made. -/
def calls (a : ν) (log : List (Talk ν L)) : List (Posted L) :=
  log.filterMap fun talk => match talk with
    | .said one b text => if one = a then some ⟨(company.config b).my_login_, company.id b, text⟩ else none
    | _ => none

/-- How a text of a member looks on a chat page. -/
def shown (T : Texts L) (a : ν) (text : Bytes) : T.QString := T.fromStdString (chatLine (company.config a).my_login_ text)

end Company

namespace Users

/-- What the first has typed for the second and waits for a thread. -/
def waiting (company : Company ν L) (s : Users ν T) (a b : ν) : List Bytes :=
  (s.windows a).posted.filterMap (company.toMember b)

end Users

/-- On the way to Qt and back a login that was typed stays the same. -/
def Texts.KeepsTyped (T : Texts L) : Prop :=
  ∀ (text : T.QString) (id : L.InfoHash),
    T.toStdString (itemText T ⟨T.toStdString text, id⟩) = contact_to_string T ⟨T.toStdString text, id⟩

/-- The login was typed. -/
def Texts.Typed (T : Texts L) (login : Bytes) : Prop := ∃ text, login = T.toStdString text

/-! ## Exchanges -/

/-- An exchange is a task of its member, seen as a talk with its partner, when nobody has a
    relay node. -/
theorem gather_eq {company : Company ν L} (direct : company.Direct) {s : Gathering ν L} (sound : s.Sound company)
    (exchange : Exchange ν L) :
    gather company.config s exchange =
      if exchange.underway s.flight then
        (work (company.config exchange.member) (s.messengers exchange.member) (exchange.task company.config)).map fun worked =>
          { s.did exchange.member exchange.partner worked with flight := exchange.flies s.flight worked.2 }
      else none := by
  cases exchange with
  | speak a b env text =>
    refine Option.map_congr fun worked taken => ?_
    rw [← sound.sends direct (show _ = some (worked.1, worked.2) from taken)]
    rfl
  | hear letter env remote_endpoint =>
    have here : Exchange.underway s.flight (.hear letter env remote_endpoint) = true ↔ letter ∈ s.flight :=
      List.contains_iff_mem
    rw [gather]
    by_cases there : letter ∈ s.flight
    · rw [if_pos there, if_pos (here.mpr there)]
      rfl
    · rw [if_neg there, if_neg (here.not.mpr there)]
  | _ => rfl

/-- What is put into a conversation for a datagram was not sent. -/
theorem received_sends_nothing (config : Config L) (env : Environment L) (ledger : Ledger L) (buffer : Bytes)
    (remote_endpoint : Endpoint L) (id : L.InfoHash) (login text : Bytes) :
    .append .sent id login text ∉ (ledger.received config env buffer remote_endpoint).2 := by
  unfold Ledger.received
  cases reading config env buffer with
  | accepted message public_key =>
    simp only
    cases config.punched env 0 message.source_ip (sourcePort message remote_endpoint) with
    | none => simp
    | some endpoint =>
      unfold Config.receiveEffects
      split_ifs <;> simp
  | transit message =>
    simp only
    cases ledger.nextHop message with
    | none => simp
    | some endpoint =>
      simp only
      split_ifs <;> simp
  | dropped => simp
  | metadata =>
    simp only
    cases L.publicKey (metadata_from_buffer buffer env.beyond).2 <;> simp

/-- A task that is not a call puts nothing that was sent into a conversation. -/
theorem sent_of_work {config : Config L} {m later : Messenger L} {ledger : Ledger L} (describes : ledger.Describes m)
    {task : Task L} {effects : List (Effect L)} (taken : work config m task = some (later, effects)) {id : L.InfoHash}
    {login text : Bytes} (sent : .append .sent id login text ∈ effects) :
    ∃ env login id text, task = .send_message env login id text := by
  obtain ⟨next, recorded, -⟩ := record_of_work describes taken
  have punches : ∀ punched, .append .sent id login text ∉ (config.punching punched).2 := by
    intro punched
    cases punched <;> simp [Config.punching]
  cases task with
  | start env =>
    simp only [record] at recorded
    split_ifs at recorded
    cases recorded
    exact absurd sent (punches _)
  | receive env buffer remote_endpoint =>
    cases recorded
    exact absurd sent (received_sends_nothing config env ledger buffer remote_endpoint id login text)
  | timer env endpoint =>
    simp only [record] at recorded
    by_cases there : 0 < ledger.loops endpoint
    · rw [if_pos there] at recorded
      cases recorded
      exact absurd sent (punches _)
    · rw [if_neg there] at recorded
      cases recorded
  | listen_callback login values expired =>
    cases recorded
    simp at sent
  | send_message env login id text => exact ⟨env, login, id, text, rfl⟩

omit [DecidableEq ν] in
/-- Whoever is announced at the page is announced in the log. -/
theorem announced_of_signal {effects : List (Effect L)} {contact : Contact L}
    (signal : .contact_received contact ∈ effects.filterMap Effect.pageSignal) (a b : ν) :
    Talk.announced a contact.login contact.public_key_id ∈ effects.filterMap (Effect.talk a b) := by
  obtain ⟨effect, inside, made⟩ := List.mem_filterMap.mp signal
  refine List.mem_filterMap.mpr ⟨effect, inside, ?_⟩
  cases effect with
  | listen_login_handler login id =>
    cases made
    rfl
  | _ => cases made

omit [DecidableEq ν] in
theorem signal_of_announced {effects : List (Effect L)} {a b c : ν} {login : Bytes} {id : L.InfoHash}
    (announced : Talk.announced c login id ∈ effects.filterMap (Effect.talk a b)) :
    .contact_received ⟨login, id⟩ ∈ effects.filterMap Effect.pageSignal := by
  obtain ⟨effect, inside, made⟩ := List.mem_filterMap.mp announced
  refine List.mem_filterMap.mpr ⟨effect, inside, ?_⟩
  cases effect with
  | append origin id login text => cases origin <;> cases made
  | listen_login_handler login id =>
    cases made
    rfl
  | _ => cases made

/-! ## What happens at a window -/

theorem happen_of_happened {w t : Window T} {event : Happening T} (step : happened w event = some t) :
    happen w event = some (.ok t) := by
  obtain ⟨result, now, returned⟩ := Option.bind_eq_some_iff.mp step
  cases result with
  | error fault => cases returned
  | ok other =>
    obtain rfl := Option.some.inj returned
    exact now

namespace Window

/-- The signal is queued, or a handler is still to emit it. -/
def Pending (w : Window T) (signal : PageSignal L) : Prop :=
  signal ∈ w.queue ∨ ∃ impl ∈ w.p2p_messenger_impl_, ∃ signals ∈ impl.threads, signal ∈ signals

/-- What a user does and what a signal does: the messenger stays as it is, calls are posted for
    listed contacts, items are added for contacts that were signalled, and the DHT is asked for
    logins that were typed. -/
structure Goes (w t : Window T) (calls : List (Posted L)) : Prop where
  messenger : t.p2p_messenger_impl_.map (fun impl => (impl.config, impl.messenger)) =
    w.p2p_messenger_impl_.map fun impl => (impl.config, impl.messenger)
  pending : ∀ signal, t.Pending signal → w.Pending signal
  texts : ∀ text ∈ t.texts, text ∈ w.texts ∨ ∃ contact, w.Pending (.contact_received contact) ∧ text = itemText T contact
  posted : t.posted = w.posted ++ calls
  calls : ∀ call ∈ calls, ∃ text ∈ w.texts,
    contact_from_string T (T.toStdString text) = .ok ⟨call.login, call.public_key_id⟩
  asked : ∀ login ∈ t.asked, login ∈ w.asked ∨ T.Typed login

theorem Goes.refl (w : Window T) : w.Goes w [] where
  messenger := rfl
  pending _ waits := waits
  texts _ member := .inl member
  posted := (List.append_nil _).symm
  calls _ member := by cases member
  asked _ := .inl

/-- A slot shows something for a signal that was queued. -/
theorem Goes.of_shows {w t : Window T} {rest : List (PageSignal L)} {added : List T.QString}
    (shows_added : ({ w with queue := rest } : Window T).Shows t added) (fewer : rest ⊆ w.queue)
    (contacts : ∀ text ∈ added, ∃ contact, .contact_received contact ∈ w.queue ∧ text = itemText T contact) : w.Goes t [] where
  messenger := by rw [shows_added.impl]
  pending signal waits := by
    unfold Pending at waits
    rw [shows_added.queue, shows_added.impl] at waits
    exact waits.imp_left fun member => fewer member
  texts text member := by
    refine ((shows_added.texts text).mp member).imp_right fun new => ?_
    obtain ⟨contact, queued, same⟩ := contacts text new
    exact ⟨contact, .inl queued, same⟩
  posted := by rw [List.append_nil, Window.posted, shows_added.impl, Window.posted]
  calls _ member := by cases member
  asked login member := .inl (by rwa [Window.asked, shows_added.impl] at member)

end Window

section
variable (hex : T.HexadecimalIds) (inverse : T.IdOfToString) (keeps : T.KeepsIds)
include hex inverse keeps

theorem Window.Sound.goes {strict : Prop} {w t : Window T} (sound : w.Sound strict) {event : Happening T}
    (step : happened w event = some t) (no_task : ∀ task, event ≠ .task task) (no_logout : ∀ waits, event ≠ .logout waits)
    (no_login : ∀ config thrown, event ≠ .log_in config thrown) : ∃ calls, w.Goes t calls := by
  have now := happen_of_happened step
  cases event with
  | log_in config thrown => exact absurd rfl (no_login config thrown)
  | logout waits => exact absurd rfl (no_logout waits)
  | task task => exact absurd rfl (no_task task)
  | connect =>
    obtain ⟨-, connected⟩ := Option.ite_none_right_eq_some.mp now
    obtain rfl := Except.ok.inj (Option.some.inj connected)
    unfold Window.connect
    split_ifs
    · exact ⟨[], rfl, fun _ waits => waits, fun _ => .inl, (List.append_nil _).symm, List.forall_mem_nil _, fun _ => .inl⟩
    · exact ⟨[], rfl, fun _ waits => waits, fun _ => .inl, (List.append_nil _).symm, List.forall_mem_nil _, fun _ => .inl⟩
  | send =>
    obtain ⟨here, sent⟩ := Option.ite_none_right_eq_some.mp now
    rcases Window.send_cases hex inverse keeps sound here with same | ⟨impl, text, contact, there, member, read, -, same⟩
    · obtain rfl := Except.ok.inj ((Option.some.inj sent).symm.trans same)
      exact ⟨[], .refl _⟩
    · obtain rfl := Except.ok.inj ((Option.some.inj sent).symm.trans same)
      refine ⟨[⟨contact.login, contact.public_key_id, T.toStdString w.messageLineEdit⟩], ?_, ?_, fun _ => .inl, ?_, ?_,
        fun _ member => .inl (by simpa [Window.asked, there] using member)⟩
      · simp [there]
      · intro signal waits
        simpa [Window.Pending, there] using waits
      · simp [Window.posted, there]
      · intro call new
        obtain rfl := List.mem_singleton.mp new
        exact ⟨text, member, read⟩
  | search =>
    obtain ⟨here, searched⟩ := Option.ite_none_right_eq_some.mp now
    rcases Window.search_cases sound here with same | ⟨impl, there, same⟩
    · obtain rfl := Except.ok.inj ((Option.some.inj searched).symm.trans same)
      exact ⟨[], .refl _⟩
    · obtain rfl := Except.ok.inj ((Option.some.inj searched).symm.trans same)
      refine ⟨[], ?_, ?_, fun _ => .inl, ?_, List.forall_mem_nil _, fun login member => ?_⟩
      · simp [there]
      · intro signal waits
        simpa [Window.Pending, there] using waits
      · simp [Window.posted, there]
      · rcases List.mem_append.mp member with old | new
        · exact .inl (by simpa [Window.asked, there] using old)
        · exact .inr ⟨w.searchLoginLineEdit, List.mem_singleton.mp new⟩
  | click i =>
    obtain ⟨here, clicked⟩ := Option.ite_none_right_eq_some.mp now
    obtain ⟨other, same, shows_other⟩ := Window.click_cases hex inverse keeps sound here i
    obtain rfl := Except.ok.inj ((Option.some.inj clicked).symm.trans same)
    exact ⟨[], .of_shows shows_other (List.Subset.refl _) (by simp)⟩
  | select i =>
    obtain ⟨-, selected⟩ := Option.ite_none_right_eq_some.mp now
    obtain ⟨item, -, same⟩ := Option.map_eq_some_iff.mp selected
    obtain rfl := Except.ok.inj same
    exact ⟨[], rfl, fun _ waits => waits, fun _ => .inl, (List.append_nil _).symm, List.forall_mem_nil _, fun _ => .inl⟩
  | type_message text =>
    obtain ⟨-, typed⟩ := Option.ite_none_right_eq_some.mp now
    obtain rfl := Except.ok.inj (Option.some.inj typed)
    exact ⟨[], rfl, fun _ waits => waits, fun _ => .inl, (List.append_nil _).symm, List.forall_mem_nil _, fun _ => .inl⟩
  | type_login text =>
    obtain ⟨-, typed⟩ := Option.ite_none_right_eq_some.mp now
    obtain rfl := Except.ok.inj (Option.some.inj typed)
    exact ⟨[], rfl, fun _ waits => waits, fun _ => .inl, (List.append_nil _).symm, List.forall_mem_nil _, fun _ => .inl⟩
  | queue i =>
    simp only [P2PMessenger.happen] at now
    cases there : w.p2p_messenger_impl_ with
    | none => simp [there] at now
    | some impl =>
      cases at_i : impl.threads[i]? with
      | none => simp [there, at_i] at now
      | some signals =>
        cases signals with
        | nil => simp [there, at_i] at now
        | cons first rest =>
          simp only [there, at_i, Option.some.injEq, Except.ok.injEq] at now
          subst now
          have emitted := List.mem_of_getElem? at_i
          refine ⟨[], by simp [there], ?_, fun _ => .inl, by simp [Window.posted, there], List.forall_mem_nil _,
            fun _ member => .inl (by simpa [Window.asked, there] using member)⟩
          rintro signal (queued | ⟨later, same, signals, inside, member⟩)
          · rcases w.mem_emit queued with old | rfl
            · exact .inl old
            · exact .inr ⟨impl, there, _, emitted, List.mem_cons_self⟩
          · obtain rfl := Option.some.inj same
            rcases List.mem_or_eq_of_mem_set inside with old | rfl
            · exact .inr ⟨impl, there, signals, old, member⟩
            · exact .inr ⟨impl, there, _, emitted, List.mem_cons_of_mem _ member⟩
  | process =>
    simp only [P2PMessenger.happen] at now
    cases first : w.queue with
    | nil => simp [first] at now
    | cons signal queue =>
      simp only [first] at now
      obtain ⟨-, now⟩ := Option.ite_none_left_eq_some.mp now
      replace now := Option.some.inj now
      have prompt := sound.queue
      rw [first] at prompt
      have fewer : queue ⊆ w.queue := by
        rw [first]
        exact List.subset_cons_self _ _
      cases signal with
      | message_sent message =>
        obtain rfl := Except.ok.inj now
        refine ⟨[], .of_shows (show ({ w with queue := queue } : Window T).Shows _ [] from
          ⟨?_, ?_, ?_, .inl ?_, fun text => ?_⟩) fewer (by simp)⟩
        all_goals
          unfold update_chat_with_sent_message
          split <;> simp [append, Window.texts]
      | contact_received contact =>
        obtain ⟨other, same, shows_other⟩ := Window.contact_cases sound.idle_of_none contact prompt.1 (w := { w with queue := queue })
        obtain rfl := Except.ok.inj (now.symm.trans same)
        refine ⟨[], .of_shows shows_other fewer fun text new => ⟨contact, ?_, List.mem_singleton.mp new⟩⟩
        rw [first]
        exact List.mem_cons_self
      | message_received message =>
        obtain ⟨public_key, parsed, -⟩ := prompt.1
        have reads : ∀ text ∈ w.currentItem, ∃ contact, contact_from_string T (T.toStdString text) = .ok contact :=
          fun text member => sound.reads hex inverse keeps (sound.current text member)
        rcases Window.received_cases parsed (w := { w with queue := queue }) reads with ⟨-, failed⟩ | ⟨other, same, shows_other⟩
        · exact absurd (now.symm.trans failed) (by simp)
        · obtain rfl := Except.ok.inj (now.symm.trans same)
          exact ⟨[], .of_shows shows_other fewer (by simp)⟩

end

theorem Impl.ends_ok {impl later : Impl L} {task : Task L} {worked : Messenger L × List (Effect L)}
    (ended : impl.ends task worked = .ok later) : later = impl.did worked := by
  rcases impl.ends_cases task worked with ⟨fault, failed, -⟩ | ⟨returned, -⟩
  · cases failed.symm.trans ended
  · exact Except.ok.inj (ended.symm.trans returned)

/-- What a thread has done to the messenger when it ran a task. -/
theorem Impl.run_ok {impl later : Impl L} {task : Task L} (ran : impl.run task = some (.ok later))
    {worked : Messenger L × List (Effect L)} (taken : work impl.config impl.messenger task = some worked) :
    later.config = impl.config ∧ later.listens = impl.listens ∧ later.messenger = worked.1 ∧
      later.threads = impl.threads ++ [worked.2.filterMap Effect.pageSignal] ∧
      ((∃ env login id text, task = .send_message env login id text ∧ ⟨login, id, text⟩ ∈ impl.posted ∧
          later.posted = impl.posted.erase ⟨login, id, text⟩) ∨
        (∀ env login id text, task ≠ .send_message env login id text) ∧ later.posted = impl.posted) := by
  have plain : (work impl.config impl.messenger task).map (impl.ends task) = some (.ok later) → later = impl.did worked := by
    intro done
    rw [taken] at done
    exact Impl.ends_ok (Option.some.inj done)
  cases task with
  | send_message env login id text =>
    obtain ⟨waits, done⟩ := Option.ite_none_right_eq_some.mp ran
    simp only [taken, Option.some.injEq, Except.ok.injEq] at done
    subst done
    exact ⟨rfl, rfl, rfl, rfl, .inl ⟨env, login, id, text, rfl, waits, rfl⟩⟩
  | listen_callback login values expired =>
    obtain rfl := plain (Option.ite_none_right_eq_some.mp ran).2
    exact ⟨rfl, rfl, rfl, rfl, .inr ⟨by simp, rfl⟩⟩
  | start env =>
    obtain rfl := plain ran
    exact ⟨rfl, rfl, rfl, rfl, .inr ⟨by simp, rfl⟩⟩
  | receive env buffer remote_endpoint =>
    obtain rfl := plain ran
    exact ⟨rfl, rfl, rfl, rfl, .inr ⟨by simp, rfl⟩⟩
  | timer env endpoint =>
    obtain rfl := plain ran
    exact ⟨rfl, rfl, rfl, rfl, .inr ⟨by simp, rfl⟩⟩

theorem run_of_happened {w t : Window T} {impl : Impl L} (there : w.p2p_messenger_impl_ = some impl) {task : Task L}
    (step : happened w (.task task) = some t) :
    ∃ later, impl.run task = some (.ok later) ∧ t = { w with p2p_messenger_impl_ := some later } := by
  have now := happen_of_happened step
  simp only [happen, there] at now
  obtain ⟨result, ran, returned⟩ := Option.map_eq_some_iff.mp now
  cases result with
  | error fault => cases returned
  | ok later => exact ⟨later, ran, (Except.ok.inj returned).symm⟩

/-! ## Everybody's desk -/

/-- Everybody on the page was announced: the contacts with an item, the ones that are still
    signalled, and the ones with a call that waits. -/
structure Window.Meets (w : Window T) (a : ν) (log : List (Talk ν L)) : Prop where
  texts : ∀ text ∈ w.texts, ∃ contact : Contact L, text = itemText T contact ∧
    .announced a contact.login contact.public_key_id ∈ log
  pending : ∀ contact, w.Pending (.contact_received contact) → .announced a contact.login contact.public_key_id ∈ log
  posted : ∀ call ∈ w.posted, .announced a call.login call.public_key_id ∈ log

/-- A member's window beside its messenger in the gathering. What was typed at it was said, or
    it waits for a thread. -/
structure Company.Desk (company : Company ν L) (a : ν) (w : Window T) (messenger : Messenger L) (log : List (Talk ν L))
    (typed : List (Posted L)) : Prop where
  sound : w.Sound False
  config : ∀ impl ∈ w.p2p_messenger_impl_, impl.config = company.config a
  asked : ∀ login ∈ w.asked, T.Typed login
  messenger : messenger = (w.p2p_messenger_impl_.map (·.messenger)).getD (.initial L)
  meets : w.Meets a log
  typed : typed.Perm (company.calls a log ++ w.posted)

structure Users.Follows (company : Company ν L) (s : Users ν T) (g : Gathering ν L) : Prop where
  desks : ∀ a, company.Desk a (s.windows a) (g.messengers a) s.log (own a s.typed)
  flight : s.flight = g.flight
  log : s.log = g.log
  names : ∀ c login id, .announced c login id ∈ s.log → T.Typed login

section
variable {company : Company ν L}

theorem calls_append (a : ν) (one two : List (Talk ν L)) :
    company.calls a (one ++ two) = company.calls a one ++ company.calls a two := List.filterMap_append

theorem calls_of_unsent {n a b : ν} {effects : List (Effect L)}
    (unsent : n = a → ∀ id login text, .append .sent id login text ∉ effects) :
    company.calls n (effects.filterMap (Effect.talk a b)) = [] := by
  refine List.filterMap_eq_nil_iff.mpr fun talk member => ?_
  obtain ⟨effect, inside, made⟩ := List.mem_filterMap.mp member
  cases effect with
  | append origin id login text =>
    cases origin with
    | sent =>
      cases made
      exact if_neg fun same => unsent same.symm id login text inside
    | received =>
      cases made
      rfl
  | listen_login_handler login id =>
    cases made
    rfl
  | _ => cases made

omit [DecidableEq ν] in
theorem Window.Meets.mono {w : Window T} {a : ν} {log : List (Talk ν L)} (meets : w.Meets a log) (more : List (Talk ν L)) :
    w.Meets a (log ++ more) where
  texts text member := by
    obtain ⟨contact, same, announced⟩ := meets.texts text member
    exact ⟨contact, same, List.mem_append_left _ announced⟩
  pending contact waits := List.mem_append_left _ (meets.pending contact waits)
  posted call waits := List.mem_append_left _ (meets.posted call waits)

/-- Nobody else's talk concerns a desk. -/
theorem Company.Desk.elsewhere {n : ν} {w : Window T} {messenger : Messenger L} {log : List (Talk ν L)}
    {typed : List (Posted L)} (desk : company.Desk n w messenger log typed) {a b : ν} (different : n ≠ a)
    (effects : List (Effect L)) : company.Desk n w messenger (log ++ effects.filterMap (Effect.talk a b)) typed :=
  { desk with
    meets := desk.meets.mono _
    typed := by
      rw [calls_append, calls_of_unsent fun same => absurd same different, List.append_nil]
      exact desk.typed }

/-- What a thread runs at a desk. -/
theorem Company.Desk.ran {a b : ν} {w : Window T} {messenger : Messenger L} {log : List (Talk ν L)}
    {typed : List (Posted L)} (desk : company.Desk a w messenger log typed) {impl later : Impl L}
    (there : w.p2p_messenger_impl_ = some impl) {worked : Messenger L × List (Effect L)} (config : later.config = impl.config)
    (listens : later.listens = impl.listens) (messenger' : later.messenger = worked.1)
    (threads : later.threads = impl.threads ++ [worked.2.filterMap Effect.pageSignal]) (fewer : later.posted ⊆ impl.posted)
    (sound : ({ w with p2p_messenger_impl_ := some later } : Window T).Sound False)
    (said : (company.calls a log ++ impl.posted).Perm
      (company.calls a (log ++ worked.2.filterMap (Effect.talk a b)) ++ later.posted)) :
    company.Desk a { w with p2p_messenger_impl_ := some later } worked.1
      (log ++ worked.2.filterMap (Effect.talk a b)) typed where
  sound := sound
  config other same := by
    obtain rfl := Option.some.inj same
    exact config.trans (desk.config impl there)
  asked login member := by
    refine desk.asked login ?_
    rw [Window.asked, there]
    show login ∈ impl.listens
    rw [← listens]
    exact member
  messenger := messenger'.symm
  meets := by
    refine ⟨(desk.meets.mono _).texts, ?_, ?_⟩
    · rintro contact (queued | ⟨other, same, signals, inside, member⟩)
      · exact (desk.meets.mono _).pending contact (.inl queued)
      · obtain rfl := Option.some.inj same
        rw [threads] at inside
        rcases List.mem_append.mp inside with old | new
        · exact (desk.meets.mono _).pending contact (.inr ⟨impl, there, signals, old, member⟩)
        · obtain rfl := List.mem_singleton.mp new
          exact List.mem_append_right _ (announced_of_signal member a b)
    · intro call waits
      refine (desk.meets.mono _).posted call ?_
      rw [Window.posted, there]
      exact fewer waits
  typed := by
    have posted : w.posted = impl.posted := by rw [Window.posted, there]; rfl
    refine desk.typed.trans ?_
    rw [posted]
    exact said

end

section
variable {company : Company ν L} (hex : T.HexadecimalIds) (inverse : T.IdOfToString) (keeps_typed : T.KeepsTyped)
include hex inverse keeps_typed

omit [DecidableEq ν] in
/-- The item of a contact whose login was typed reads back as the contact. -/
theorem typed_item_reads {contact : Contact L} (typed : T.Typed contact.login) :
    contact_from_string T (T.toStdString (itemText T contact)) = .ok contact := by
  obtain ⟨login, id⟩ := contact
  obtain ⟨text, rfl⟩ := typed
  rw [keeps_typed, contact_from_string_to_string hex inverse]

omit [DecidableEq ν] in
theorem Window.Meets.goes {w t : Window T} {a : ν} {log : List (Talk ν L)} {calls : List (Posted L)}
    (meets : w.Meets a log) (names : ∀ c login id, .announced c login id ∈ log → T.Typed login) (goes : w.Goes t calls) :
    t.Meets a log where
  texts text member := by
    rcases goes.texts text member with old | ⟨contact, waits, same⟩
    · exact meets.texts text old
    · exact ⟨contact, same, meets.pending contact waits⟩
  pending contact waits := meets.pending contact (goes.pending _ waits)
  posted call waits := by
    rw [goes.posted] at waits
    rcases List.mem_append.mp waits with old | new
    · exact meets.posted call old
    · obtain ⟨text, member, read⟩ := goes.calls call new
      obtain ⟨contact, rfl, announced⟩ := meets.texts text member
      rw [typed_item_reads hex inverse keeps_typed (names _ _ _ announced)] at read
      obtain rfl := Except.ok.inj read
      exact announced

theorem Company.Desk.goes {a : ν} {w t : Window T} {messenger : Messenger L} {log : List (Talk ν L)}
    {typed calls : List (Posted L)} (desk : company.Desk a w messenger log typed) (sound : t.Sound False)
    (names : ∀ c login id, .announced c login id ∈ log → T.Typed login) (goes : w.Goes t calls) :
    company.Desk a t messenger log (typed ++ t.posted.drop w.posted.length) where
  sound := sound
  asked login member := (goes.asked login member).elim (desk.asked login) fun typed => typed
  config impl there := by
    have same := goes.messenger
    rw [there] at same
    obtain ⟨before, was, both⟩ := Option.map_eq_some_iff.mp same.symm
    exact (congrArg Prod.fst both).symm.trans (desk.config before was)
  messenger := by
    have same := congrArg (Option.map Prod.snd) goes.messenger
    rw [Option.map_map, Option.map_map] at same
    rw [desk.messenger]
    exact congrArg (Option.getD · _) same.symm
  meets := desk.meets.goes hex inverse keeps_typed names goes
  typed := by
    rw [goes.posted, List.drop_left, ← List.append_assoc]
    exact desk.typed.append_right _

end

/-! ## A gathering of the messengers -/

variable {company : Company ν L} {s t : Users ν T} {g : Gathering ν L}

/-- A call for somebody who was announced says its text. -/
theorem Gathering.Sound.says (sound : g.Sound company) {a b : ν} {env : Environment L} {text : Bytes} (different : a ≠ b)
    (utters : company.Utters a b env text) (announced : .announced a (company.config b).my_login_ (company.id b) ∈ g.log) :
    ∃ v buffer, gather company.config g (.speak a b env text) = some v ∧ v.log = g.log ++ [.said a b text] ∧
      v.flight = g.flight ++ [⟨a, b, text, buffer⟩] := by
  obtain ⟨v, gathered, -, ⟨unknown, -, -⟩ | ⟨log, buffer, flight⟩⟩ := sound.speak different utters
  · exact absurd unknown (sound.resolves announced)
  · exact ⟨v, buffer, gathered, log, flight⟩

/-- Nothing is announced but the one who is heard, and what a callback of the DHT brings under
    the login that it was asked for. -/
theorem Gathering.Sound.introduces (sound : g.Sound company) {exchange : Exchange ν L} (proper : company.Proper g exchange)
    {v : Gathering ν L} (gathered : gather company.config g exchange = some v) {c : ν} {login : Bytes} {id : L.InfoHash}
    (announced : .announced c login id ∈ v.log) :
    .announced c login id ∈ g.log ∨ (∃ b, login = (company.config b).my_login_) ∨
      ∃ a values expired, exchange = .listen a login values expired := by
  have adds : ∀ {a b : ν} {task : Task L} {worked : Messenger L × List (Effect L)},
      work (company.config a) (g.messengers a) task = some worked →
      .announced c login id ∈ g.log ++ worked.2.filterMap (Effect.talk a b) →
      .announced c login id ∈ g.log ∨
        ∃ ledger next, record (company.config a) ledger task = some (next, worked.2) ∧
          .contact_received ⟨login, id⟩ ∈ worked.2.filterMap Effect.pageSignal := by
    intro a b task worked taken member
    obtain ⟨ledger, describes, -⟩ := sound.ledgers a
    obtain ⟨next, recorded, -⟩ := record_of_work describes (show _ = some (worked.1, worked.2) from taken)
    exact (List.mem_append.mp member).imp_right fun new => ⟨ledger, next, recorded, signal_of_announced new⟩
  have punches : ∀ {a : ν} punched, .contact_received ⟨login, id⟩ ∉
      ((company.config a).punching punched).2.filterMap Effect.pageSignal := by
    intro a punched
    cases punched <;> simp [Config.punching, List.filterMap_cons, Effect.pageSignal]
  cases exchange with
  | speak a b env text =>
    obtain ⟨v', again, -, ⟨-, log, -⟩ | ⟨log, -⟩⟩ := sound.speak proper.1 proper.2
    all_goals
      obtain rfl := Option.some.inj (again.symm.trans gathered)
      rw [log] at announced
      exact .inl (by simpa using announced)
  | hear letter env remote_endpoint =>
    have there : letter ∈ g.flight := by
      by_contra absent
      simp [gather, absent] at gathered
    obtain ⟨v', again, -, log, -⟩ := sound.hear there proper remote_endpoint
    obtain rfl := Option.some.inj (again.symm.trans gathered)
    rw [log] at announced
    refine (List.mem_append.mp announced).imp_right fun new => .inl ⟨letter.speaker, ?_⟩
    rcases List.mem_pair.mp new with heard | told
    · cases heard
    · injection told
  | listen a name values expired =>
    rw [gather] at gathered
    obtain ⟨worked, taken, rfl⟩ := Option.map_eq_some_iff.mp gathered
    rcases adds taken announced with old | ⟨ledger, next, recorded, told⟩
    · exact .inl old
    refine .inr (.inr ⟨a, values, expired, ?_⟩)
    have effects := congrArg Prod.snd (Option.some.inj recorded)
    rw [← effects] at told
    obtain ⟨effect, inside, made⟩ := List.mem_filterMap.mp told
    obtain ⟨contact, -, rfl⟩ := List.mem_map.mp inside
    cases made
    rfl
  | start a env =>
    rw [gather] at gathered
    obtain ⟨worked, taken, rfl⟩ := Option.map_eq_some_iff.mp gathered
    rcases adds taken announced with old | ⟨ledger, next, recorded, told⟩
    · exact .inl old
    obtain ⟨-, recorded⟩ := Option.ite_none_right_eq_some.mp recorded
    rw [← congrArg Prod.snd (Option.some.inj recorded)] at told
    exact absurd told (punches _)
  | timer a env endpoint =>
    rw [gather] at gathered
    obtain ⟨worked, taken, rfl⟩ := Option.map_eq_some_iff.mp gathered
    rcases adds taken announced with old | ⟨ledger, next, recorded, told⟩
    · exact .inl old
    obtain ⟨-, recorded⟩ := Option.ite_none_right_eq_some.mp recorded
    rw [← congrArg Prod.snd (Option.some.inj recorded)] at told
    exact absurd told (punches _)

/-- Whoever logs in has said and posted nothing before. -/
theorem Company.Desk.log_in {a : ν} {w t : Window T} {messenger : Messenger L} {log : List (Talk ν L)}
    {typed : List (Posted L)} (desk : company.Desk a w messenger log typed) (sound : t.Sound False)
    (login : T.Typed (company.config a).my_login_) {thrown : Option Exception}
    (step : happened w (.log_in (company.config a) thrown) = some t) :
    company.Desk a t messenger log (typed ++ t.posted.drop w.posted.length) := by
  obtain ⟨⟨-, absent⟩, logged_in⟩ := Option.ite_none_right_eq_some.mp (happen_of_happened step)
  have nobody : w.p2p_messenger_impl_ = none := Option.isNone_iff_eq_none.mp absent
  cases thrown with
  | some e => cases logged_in
  | none => ?_
  obtain rfl := Except.ok.inj (Option.some.inj logged_in)
  have quiet : w.posted = [] := by rw [Window.posted, nobody]; rfl
  refine ⟨sound, ?_, ?_, ?_, ⟨desk.meets.texts, ?_, fun _ waits => by cases waits⟩, ?_⟩
  · rintro impl ⟨⟩
    rfl
  · rintro name own
    rwa [List.mem_singleton.mp own]
  · rw [desk.messenger, nobody]
    rfl
  · rintro contact (queued | ⟨impl, there, signals, inside, -⟩)
    · exact desk.meets.pending contact (.inl queued)
    · cases there
      cases inside
  · have before := desk.typed
    rw [quiet] at before
    simpa [quiet, Window.posted, Impl.start] using before

/-- A thread's task makes one of the calls that wait, or none. -/
theorem Users.Follows.accounts (follows : s.Follows company g) (sound : g.Sound company) {exchange : Exchange ν L}
    (proper : company.Proper (Gathering.initial ν L) exchange) {impl later : Impl L}
    (there : (s.windows exchange.member).p2p_messenger_impl_ = some impl) {worked : Messenger L × List (Effect L)}
    (taken : work impl.config impl.messenger (exchange.task company.config) = some worked)
    (ran : impl.run (exchange.task company.config) = some (.ok later)) {v : Gathering ν L}
    (gathered : gather company.config g exchange = some v)
    (talks : v.log = g.log ++ worked.2.filterMap (Effect.talk exchange.member exchange.partner)) :
    (company.calls exchange.member s.log ++ impl.posted).Perm
      (company.calls exchange.member (s.log ++ worked.2.filterMap (Effect.talk exchange.member exchange.partner)) ++
        later.posted) := by
  have desk := follows.desks exchange.member
  obtain ⟨-, -, -, -, ⟨env, login, id, text, call, waits, fewer⟩ | ⟨no_call, kept⟩⟩ := Impl.run_ok ran taken
  · cases exchange with
    | speak a b env' text' =>
      injection call with _ name key body
      subst name key body
      have asked : ⟨(company.config b).my_login_, company.id b, text'⟩ ∈ (s.windows a).posted := by
        rwa [Window.posted, show (s.windows a).p2p_messenger_impl_ = some impl from there]
      have announced := desk.meets.posted _ asked
      rw [follows.log] at announced
      obtain ⟨v', -, spoke, log, -⟩ := sound.says proper.1 proper.2 announced
      obtain rfl := Option.some.inj (gathered.symm.trans spoke)
      have said : worked.2.filterMap (Effect.talk a b) = [Talk.said a b text'] :=
        List.append_cancel_left (talks.symm.trans log)
      have called : company.calls a [(Talk.said a b text' : Talk ν L)] =
          [⟨(company.config b).my_login_, company.id b, text'⟩] := by simp [Company.calls]
      show (company.calls a s.log ++ impl.posted).Perm
        (company.calls a (s.log ++ worked.2.filterMap (Effect.talk a b)) ++ later.posted)
      rw [said, calls_append, called, fewer, List.append_assoc]
      exact (List.perm_cons_erase waits).append_left _
    | hear letter env' remote_endpoint => cases call
    | listen a login' values expired => cases call
    | start a env' => cases call
    | timer a env' endpoint => cases call
  · obtain ⟨ledger, describes⟩ := desk.sound.ledger impl there
    have unsent : ∀ id login text, .append .sent id login text ∉ worked.2 := by
      intro id login text sent
      obtain ⟨env, login, id, text, call⟩ := sent_of_work describes (show _ = some (worked.1, worked.2) from taken) sent
      exact no_call env login id text call
    rw [calls_append, calls_of_unsent fun _ => unsent, List.append_nil, kept]

section
variable (hex : T.HexadecimalIds) (inverse : T.IdOfToString) (keeps : T.KeepsIds) (keeps_typed : T.KeepsTyped)
  (set : T.IdsAreSet) (direct : company.Direct) (logins : ∀ b, T.Typed (company.config b).my_login_)
include hex inverse keeps set

/-- What happens at a desk leaves its window sound. -/
theorem Company.Desk.sound_of_happened {a : ν} {w t : Window T} {messenger : Messenger L} {log : List (Talk ν L)}
    {typed : List (Posted L)} (desk : company.Desk a w messenger log typed) {event : Happening T}
    (step : happened w event = some t) : t.Sound False := by
  rcases desk.sound.happen hex inverse keeps set (happen_of_happened step) (fun strictly => strictly.elim) with
    ⟨other, same, sound⟩ | ⟨fault, failed, -⟩
  · obtain rfl := Except.ok.inj same
    exact sound
  · cases failed

include keeps_typed logins

theorem Users.Follows.window (follows : s.Follows company g) {a : ν} {event : Happening T}
    (attends : company.Attends s (.window a event)) (step : chat company.config s (.window a event) = some t) :
    t.Follows company g := by
  obtain ⟨w, happens, rfl⟩ := Option.map_eq_some_iff.mp step
  have desk := follows.desks a
  have moved : company.Desk a w (g.messengers a) s.log
      (own a s.typed ++ w.posted.drop (s.windows a).posted.length) := by
    have sound := desk.sound_of_happened hex inverse keeps set happens
    by_cases enters : ∃ config thrown, event = .log_in config thrown
    · obtain ⟨config, thrown, rfl⟩ := enters
      obtain rfl : config = company.config a := attends
      exact desk.log_in sound (logins a) happens
    · have no_task : ∀ task, event ≠ .task task := by
        rintro task rfl
        exact attends
      have no_logout : ∀ waits, event ≠ .logout waits := by
        rintro waits rfl
        exact attends
      obtain ⟨calls, goes⟩ := desk.sound.goes hex inverse keeps happens no_task no_logout
        fun config thrown same => enters ⟨config, thrown, same⟩
      exact desk.goes hex inverse keeps_typed sound follows.names goes
  refine ⟨fun n => ?_, follows.flight, follows.log, follows.names⟩
  show company.Desk n (Function.update s.windows a w n) (g.messengers n) s.log
    (own n (s.typed ++ (w.posted.drop (s.windows a).posted.length).map (a, ·)))
  rw [own_append, own_map]
  by_cases same : n = a
  · subst same
    rw [Function.update_self, if_pos rfl]
    exact moved
  · rw [Function.update_of_ne same, if_neg (Ne.symm same), List.append_nil]
    exact follows.desks n

omit keeps_typed in
include direct in
/-- A thread's task at a desk is an exchange of the messengers. -/
theorem Users.Follows.exchange (follows : s.Follows company g) (sound : g.Sound company) {exchange : Exchange ν L}
    (proper : company.Proper (Gathering.initial ν L) exchange)
    (step : chat company.config s (.exchange exchange) = some t) :
    ∃ v, gather company.config g exchange = some v ∧ t.Follows company v := by
  obtain ⟨underway, ran⟩ := Option.ite_none_right_eq_some.mp step
  obtain ⟨impl, there, ran⟩ := Option.bind_eq_some_iff.mp ran
  obtain ⟨worked, taken, ran⟩ := Option.bind_eq_some_iff.mp ran
  obtain ⟨w, happens, rfl⟩ := Option.map_eq_some_iff.mp ran
  have desk := follows.desks exchange.member
  have messenger : g.messengers exchange.member = impl.messenger := by rw [desk.messenger, there]; rfl
  have gathered : gather company.config g exchange =
      some { g.did exchange.member exchange.partner worked with flight := exchange.flies g.flight worked.2 } := by
    rw [gather_eq direct sound, ← follows.flight, if_pos underway, messenger, ← desk.config impl there, taken]
    rfl
  have log : s.log ++ worked.2.filterMap (Effect.talk exchange.member exchange.partner) =
      g.log ++ worked.2.filterMap (Effect.talk exchange.member exchange.partner) := by rw [follows.log]
  obtain ⟨later, done, rfl⟩ := run_of_happened there happens
  refine ⟨_, gathered, fun n => ?_, congrArg (exchange.flies · worked.2) follows.flight, log, fun c login id announced => ?_⟩
  case refine_2 =>
    rw [show Users.log _ = _ from log] at announced
    rcases sound.introduces proper gathered announced with old | ⟨b, rfl⟩ | ⟨a, values, expired, rfl⟩
    · exact follows.names c login id (by rwa [follows.log])
    · exact logins b
    · have asked : login ∈ impl.listens := (Option.ite_none_right_eq_some.mp done).1
      refine desk.asked login ?_
      rw [Window.asked, there]
      exact asked
  by_cases same : n = exchange.member
  · subst same
    obtain ⟨config, listens, messenger', threads, posted⟩ := Impl.run_ok done taken
    have still := desk.sound_of_happened hex inverse keeps set happens
    have fewer : later.posted ⊆ impl.posted := by
      rcases posted with ⟨_, _, _, _, -, -, erased⟩ | ⟨-, kept⟩
      · rw [erased]
        exact List.erase_subset
      · rw [kept]
        exact List.Subset.refl _
    have moved := desk.ran there config listens messenger' threads fewer still
      (follows.accounts sound proper there taken done gathered rfl)
    simpa [Gathering.did] using moved
  · have others := (follows.desks n).elsewhere same (b := exchange.partner) worked.2
    simpa [Gathering.did, Function.update_of_ne same] using others

end

/-! ## From one page to another -/

/-- A click on a member's item shows the conversation with it. -/
theorem Users.Follows.shows (follows : s.Follows company g) (sound : g.Sound company) (hex : T.HexadecimalIds)
    (inverse : T.IdOfToString) (keeps_typed : T.KeepsTyped) {a b : ν} (login : T.Typed (company.config b).my_login_)
    {i : Nat} {item : Item T}
    (at_i : (s.windows a).items[i]? = some item) (theirs : item.text = itemText T (company.contact b)) {w : Window T}
    (clicked : happened (s.windows a) (.click i) = some w) :
    w.chatTextEdit = (s.log.filterMap (company.line a b)).map fun line => T.fromStdString (chatLine line.1 line.2) := by
  have desk := follows.desks a
  obtain ⟨here, now⟩ := Option.ite_none_right_eq_some.mp (happen_of_happened clicked)
  obtain ⟨impl, there⟩ := Option.isSome_iff_exists.mp (desk.sound.page here)
  obtain ⟨ledger, describes, kept⟩ := sound.ledgers a
  have read : contact_from_string T (T.toStdString item.text) = .ok (company.contact b) := by
    rw [theirs]
    exact typed_item_reads hex inverse keeps_typed login
  have messenger : g.messengers a = impl.messenger := by rw [desk.messenger, there]; rfl
  have entries : impl.messenger.node.chat_history_.entries (company.contact b).public_key_id =
      s.log.filterMap (company.line a b) := by
    rw [← messenger, describes.entries, follows.log]
    exact kept.entries b
  have items : (s.windows a).contacts.items = (s.windows a).items := rfl
  have logged_in : (s.windows a).contacts.logged_in = true := by simp [Window.contacts, there]
  simp only [Window.on_contactsListWidget_itemClicked, ContactList.on_contactsListWidget_itemClicked, items, at_i, read,
    logged_in, there, Option.some.injEq] at now
  obtain rfl := Except.ok.inj now
  rw [← entries]

section
variable (hex : T.HexadecimalIds) (inverse : T.IdOfToString) (keeps : T.KeepsIds) (keeps_typed : T.KeepsTyped)
  (set : T.IdsAreSet) (direct : company.Direct) (logins : ∀ b, T.Typed (company.config b).my_login_)
include hex inverse keeps_typed

omit [DecidableEq ν] in
/-- What is in the line is posted for the selected contact. -/
theorem Window.Sound.sends {strict : Prop} {w : Window T} (sound : w.Sound strict) {contact : Contact L}
    (typed : T.Typed contact.login) (selected : w.currentItem = some (itemText T contact)) (some_text : T.toStdString w.messageLineEdit ≠ []) :
    ∃ t, happened w .send = some t ∧
      t.posted = w.posted ++ [⟨contact.login, contact.public_key_id, T.toStdString w.messageLineEdit⟩] := by
  have here : w.currentWidget = .chatPage := by
    cases away : w.currentWidget with
    | chatPage => rfl
    | loginPage =>
      rw [sound.idle away] at selected
      cases selected
  obtain ⟨impl, there⟩ := Option.isSome_iff_exists.mp (sound.page here)
  have read := typed_item_reads hex inverse keeps_typed typed
  have sent : P2PMessenger.happen w .send = some (.ok { w with
      messageLineEdit := T.fromStdString []
      p2p_messenger_impl_ := some { impl with
        posted := impl.posted ++ [⟨contact.login, contact.public_key_id, T.toStdString w.messageLineEdit⟩] } }) := by
    simp only [P2PMessenger.happen, if_pos here, Window.send_message, selected, read, if_neg some_text, there]
  refine ⟨_, by rw [happened, sent]; rfl, ?_⟩
  simp [Window.posted, there]

omit keeps_typed
include keeps set direct logins

include keeps_typed

end

section
variable (hex : T.HexadecimalIds) (inverse : T.IdOfToString) (keeps : T.KeepsIds) (keeps_typed : T.KeepsTyped)
  (set : T.IdsAreSet) (direct : company.Direct) (logins : ∀ b, T.Typed (company.config b).my_login_)
include hex inverse keeps keeps_typed set direct logins

end

end P2PMessenger
