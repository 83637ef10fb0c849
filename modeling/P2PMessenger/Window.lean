import P2PMessenger.ContactList
import P2PMessenger.Ledger
import P2PMessenger.Registrations

/-!
The program as the user has it: the window with its login page and its chat page, the
`P2PMessengerImpl` that lives between a login and a logout, and the signals that its
threads queue for the page. Whatever ends the process is a fault here: an exception that
leaves a slot, a task or the constructor of `P2PMessengerImpl`, a null pointer, and a
destructor that does not wait for the threads.
-/
namespace P2PMessenger
open Octets Throwing Refinement Runs

variable {L : Libraries}

/-- The page that `stackedWidget` shows. -/
inductive Page where
  | loginPage
  | chatPage
  deriving DecidableEq, Repr

/-- The signals of `ChatPage` that other threads emit. -/
inductive PageSignal (L : Libraries) where
  | message_sent (message : Message)
  | message_received (message : Message)
  | contact_received (contact : Contact L)
  deriving DecidableEq

/-- The place of a signal among the connections that `log_in` makes. -/
def PageSignal.place : PageSignal L → Nat
  | .message_sent _ => 0
  | .message_received _ => 1
  | .contact_received _ => 2

/-- The signal that a call of one of the page's handlers emits. -/
def Effect.pageSignal : Effect L → Option (PageSignal L)
  | .send_message_handler message => some (.message_sent message)
  | .receive_message_handler message => some (.message_received message)
  | .listen_login_handler login public_key_id => some (.contact_received ⟨login, public_key_id⟩)
  | _ => none

/-- A call of `P2PMessengerImpl::send_message` that waits for a thread. -/
structure Posted (L : Libraries) where
  login : Bytes
  public_key_id : L.InfoHash
  message : Bytes
  deriving DecidableEq

/-- What `p2p_messenger_impl_` points to. -/
structure Impl (L : Libraries) where
  config : Config L
  messenger : Messenger L
  posted : List (Posted L)
  /-- The logins that the DHT is asked for. -/
  listens : List Bytes
  /-- The signals that handlers are still to emit, in their order. -/
  threads : List (List (PageSignal L))

structure Window (T : Texts L) where
  currentWidget : Page
  p2p_messenger_impl_ : Option (Impl L)
  items : List (Item T)
  currentItem : Option T.QString
  chatTextEdit : List T.QString
  destinationLoginLabel : T.QString
  destinationAddressLabel : T.QString
  messageLineEdit : T.QString
  searchLoginLineEdit : T.QString
  /-- How many of the three signals are connected. A connection stays (`Qt::UniqueConnection`). -/
  connections : Nat
  queue : List (PageSignal L)

variable {T : Texts L}

namespace Impl

/-- The constructor listens for the node's own login. -/
def start (config : Config L) : Impl L := ⟨config, .initial L, [], [config.my_login_], []⟩

def did (impl : Impl L) (worked : Messenger L × List (Effect L)) : Impl L :=
  { impl with messenger := worked.1, threads := impl.threads ++ [worked.2.filterMap Effect.pageSignal] }

/-- The messenger after a task that returns. -/
def ends (impl : Impl L) (task : Task L) (worked : Messenger L × List (Effect L)) : Except Fault (Impl L) :=
  match task.fault impl.config impl.messenger with
  | some fault => .error fault
  | none => .ok (impl.did worked)

/-- A thread runs a task, when there is one. A call that was posted dereferences the key
    it looks up. -/
def run (impl : Impl L) : Task L → Option (Except Fault (Impl L))
  | .send_message env login public_key_id message =>
    if ⟨login, public_key_id, message⟩ ∈ impl.posted then
      match work impl.config impl.messenger (.send_message env login public_key_id message) with
      | some worked => some (.ok { impl.did worked with posted := impl.posted.erase ⟨login, public_key_id, message⟩ })
      | none => some (.error .null_pointer)
    else none
  | .listen_callback login values expired =>
    if login ∈ impl.listens then
      (work impl.config impl.messenger (.listen_callback login values expired)).map
        (impl.ends (.listen_callback login values expired))
    else none
  | task => (work impl.config impl.messenger task).map (impl.ends task)

/-- A task ends the process, or it returns and leaves what it did. -/
theorem ends_cases (impl : Impl L) (task : Task L) (worked : Messenger L × List (Effect L)) :
    (∃ fault, impl.ends task worked = .error fault ∧ ¬ impl.config.Returns task ∧
        task.fault impl.config impl.messenger = some fault) ∨
      impl.ends task worked = .ok (impl.did worked) ∧ impl.config.Returns task := by
  rw [← fault_eq_none_iff impl.config impl.messenger task]
  unfold ends
  cases task.fault impl.config impl.messenger with
  | some fault => exact .inl ⟨fault, rfl, Option.some_ne_none fault, rfl⟩
  | none => exact .inr ⟨rfl, rfl⟩

/-- The DHT's listeners, as the window's calls of `listen` register them, one call after another. -/
def registry {κ : Type} (hash : Bytes → κ) (impl : Impl L) : Registry κ :=
  impl.listens.foldl (Registry.listen hash) (Registry.initial κ)

/-- A callback that runs is the one of the only listener for its login. -/
theorem count_registry_of_run {κ : Type} (hash : Bytes → κ) {impl : Impl L} {login : Bytes} {values : List (DhtValue L)}
    {expired : Bool} {result : Except Fault (Impl L)} (ran : impl.run (.listen_callback login values expired) = some result) :
    Registry.count (impl.registry hash).node_ login = 1 := by
  rw [registry, Registry.count_listens]
  by_cases asked : login ∈ impl.listens
  · exact if_pos asked
  · simp only [Impl.run, if_neg asked] at ran
    cases ran

/-- The text for the label of an address. -/
def addressText (T : Texts L) (impl : Impl L) (contact : Contact L) : T.QString :=
  match impl.messenger.resolve contact.login contact.public_key_id with
  | some address => T.fromStdString address
  | none => T.fromStdString [78, 111, 116, 32, 102, 111, 117, 110, 100]

end Impl

namespace Window

def initial (T : Texts L) : Window T where
  currentWidget := .loginPage
  p2p_messenger_impl_ := none
  items := []
  currentItem := none
  chatTextEdit := []
  destinationLoginLabel := T.fromStdString []
  destinationAddressLabel := T.fromStdString []
  messageLineEdit := T.fromStdString []
  searchLoginLineEdit := T.fromStdString []
  connections := 0
  queue := []

def contacts (w : Window T) : ContactList T := ⟨w.items, w.currentItem, w.p2p_messenger_impl_.isSome⟩

/-- A line for a message. -/
def append (w : Window T) (message : Message) : Window T :=
  { w with chatTextEdit := w.chatTextEdit ++ [T.fromStdString (chatLine message.source_login message.payload.text)] }

def update_chat_with_sent_message (w : Window T) (message : Message) : Window T :=
  if message.source_public_key = message.destination_public_key then w else w.append message

/-- The selected contact has the key id of the message's source. -/
def selects (w : Window T) (message : Message) : Bool :=
  match w.currentItem with
  | none => false
  | some text =>
    match contact_from_string T (T.toStdString text), L.publicKey message.source_public_key with
    | .ok contact, some public_key => contact.public_key_id = L.getId public_key
    | _, _ => false

def update_chat_with_received_message (w : Window T) (message : Message) : Except Fault (Window T) := do
  let list ← w.contacts.update_chat_with_received_message message
  return if w.selects message then w.append message else { w with items := list.items }

def update_contacts_list_with_received_contact (w : Window T) (contact : Contact L) : Except Fault (Window T) := do
  let list ← w.contacts.update_contacts_list_with_received_contact contact
  match w.p2p_messenger_impl_ with
  | some impl =>
    if T.isSet contact.public_key_id = true ∧ w.currentItem = some (itemText T contact) then
      return { w with items := list.items, destinationAddressLabel := impl.addressText T contact }
    else return { w with items := list.items }
  | none => return { w with items := list.items }

def on_contactsListWidget_itemClicked (w : Window T) (i : Nat) : Except Fault (Window T) := do
  let list ← w.contacts.on_contactsListWidget_itemClicked i
  match w.items[i]?, w.p2p_messenger_impl_ with
  | some item, some impl =>
    match contact_from_string T (T.toStdString item.text) with
    | .ok contact =>
      return { w with
        items := list.items
        currentItem := list.currentItem
        destinationLoginLabel := T.fromStdString contact.login
        destinationAddressLabel := impl.addressText T contact
        chatTextEdit := (impl.messenger.node.chat_history_.entries contact.public_key_id).map fun entry =>
          T.fromStdString (chatLine entry.1 entry.2) }
    | .error e => .error (.thrown e)
  | _, _ => return w

/-- The private `send_message`, which the button and the return key call. -/
def send_message (w : Window T) : Except Fault (Window T) :=
  match w.currentItem with
  | none => .ok w
  | some text =>
    match contact_from_string T (T.toStdString text) with
    | .error e => .error (.thrown e)
    | .ok contact =>
      let message := T.toStdString w.messageLineEdit
      if message = [] then .ok w
      else
        match w.p2p_messenger_impl_ with
        | none => .error .null_pointer
        | some impl =>
          .ok { w with
            messageLineEdit := T.fromStdString []
            p2p_messenger_impl_ :=
              some { impl with posted := impl.posted ++ [⟨contact.login, contact.public_key_id, message⟩] } }

def on_searchLoginPushButton_clicked (w : Window T) : Except Fault (Window T) :=
  let login := T.toStdString w.searchLoginLineEdit
  if login = [] then .ok w
  else
    match w.p2p_messenger_impl_ with
    | none => .error .null_pointer
    | some impl =>
      .ok { w with
        searchLoginLineEdit := T.fromStdString []
        p2p_messenger_impl_ := some { impl with listens := impl.listens ++ [login] } }

/-- With the signal `logged_out`, whose slot shows the login page. What is queued or connected
    stays. -/
def on_logoutPushButton_clicked (w : Window T) : Window T :=
  { initial T with connections := w.connections, queue := w.queue }

/-- The first line of `log_in`: the constructor, and what it throws. -/
def log_in (w : Window T) (config : Config L) (thrown : Option Exception) : Except Fault (Window T) :=
  match thrown with
  | some e => .error (.thrown e)
  | none => .ok { w with p2p_messenger_impl_ := some (.start config) }

/-- The next line of `log_in`: a connection, or at last the signal `logged_in`, whose slot
    shows the chat page. -/
def connect (w : Window T) : Window T :=
  if w.connections < 3 then { w with connections := w.connections + 1 } else { w with currentWidget := .chatPage }

/-- The slot `log_in` has its messenger and has not returned. -/
def entering (w : Window T) : Bool := w.currentWidget = .loginPage ∧ w.p2p_messenger_impl_.isSome

/-- A signal that is not connected yet goes nowhere. -/
def emit (w : Window T) (signal : PageSignal L) : List (PageSignal L) :=
  if signal.place < w.connections then w.queue ++ [signal] else w.queue

/-- The slot of a signal. -/
def receive (w : Window T) : PageSignal L → Except Fault (Window T)
  | .message_sent message => .ok (w.update_chat_with_sent_message message)
  | .message_received message => w.update_chat_with_received_message message
  | .contact_received contact => w.update_contacts_list_with_received_contact contact

end Window

inductive Happening (T : Texts L) where
  | log_in (config : Config L) (thrown : Option Exception)
  | connect
  /-- The threads are done before the destructor comes to the first member, as in an ordered
      shutdown, or they are not. -/
  | logout (waits : Bool)
  | send
  | search
  | click (i : Nat)
  /-- The current item changes without a click. -/
  | select (i : Nat)
  | type_message (text : T.QString)
  | type_login (text : T.QString)
  /-- A thread of `p2p_messenger_impl_` runs a task. -/
  | task (task : Task L)
  /-- The handler with this number emits its next signal. -/
  | queue (i : Nat)
  /-- The first signal of the queue reaches its slot. -/
  | process

/-- What a user can do depends on the page. A queued signal waits for the slot that runs. -/
def happen (w : Window T) : Happening T → Option (Except Fault (Window T))
  | .log_in config thrown =>
    if w.currentWidget = .loginPage ∧ w.p2p_messenger_impl_.isNone = true then some (w.log_in config thrown) else none
  | .connect => if w.entering = true then some (.ok w.connect) else none
  | .logout true =>
    if w.currentWidget = .chatPage ∧ ∀ impl ∈ w.p2p_messenger_impl_, impl.threads.flatten = [] then
      some (.ok w.on_logoutPushButton_clicked)
    else none
  | .logout false => if w.currentWidget = .chatPage then some (.error .destroyed) else none
  | .send => if w.currentWidget = .chatPage then some w.send_message else none
  | .search => if w.currentWidget = .chatPage then some w.on_searchLoginPushButton_clicked else none
  | .click i => if w.currentWidget = .chatPage then some (w.on_contactsListWidget_itemClicked i) else none
  | .select i =>
    if w.currentWidget = .chatPage then (w.items[i]?).map fun item => .ok { w with currentItem := some item.text } else none
  | .type_message text => if w.currentWidget = .chatPage then some (.ok { w with messageLineEdit := text }) else none
  | .type_login text => if w.currentWidget = .chatPage then some (.ok { w with searchLoginLineEdit := text }) else none
  | .task task =>
    match w.p2p_messenger_impl_ with
    | none => none
    | some impl => (impl.run task).map fun result => result.map fun impl => { w with p2p_messenger_impl_ := some impl }
  | .queue i =>
    match w.p2p_messenger_impl_ with
    | none => none
    | some impl =>
      match impl.threads[i]? with
      | some (signal :: rest) =>
        some (.ok { w with
          p2p_messenger_impl_ := some { impl with threads := impl.threads.set i rest }
          queue := w.emit signal })
      | _ => none
  | .process =>
    match w.queue with
    | [] => none
    | signal :: queue =>
      if w.entering = true then none else some (({ w with queue := queue } : Window T).receive signal)

/-- The window after something that did not end in a fault. -/
def happened (w : Window T) (event : Happening T) : Option (Window T) := (happen w event).bind Except.toOption

/-- What a fault can come from: the constructor, the destructor, a task that does not return,
    and `notify` for a message whose contact has no item. -/
def Window.Blames (w : Window T) (fault : Fault) : Happening T → Prop
  | .log_in _ thrown => ∃ e, thrown = some e ∧ fault = .thrown e
  | .logout waits => waits = false ∧ fault = .destroyed
  | .task task =>
    ∃ impl ∈ w.p2p_messenger_impl_, ¬ impl.config.Returns task ∧ task.fault impl.config impl.messenger = some fault
  | .process => fault = .first_of_empty ∧ ∃ message queue public_key,
    w.queue = .message_received message :: queue ∧ L.publicKey message.source_public_key = some public_key ∧
    ∀ item ∈ w.items, item.text ≠ itemText T ⟨message.source_login, L.getId public_key⟩
  | _ => False

/-- What is asked of an orderly run: the constructor throws nothing and the destructor waits;
    tasks return; no signal is emitted before the page is connected, and none is queued at a
    logout. -/
def Orderly (w : Window T) : Happening T → Prop
  | .log_in _ thrown => thrown = none
  | .logout waits => waits = true ∧ w.queue = []
  | .task task => ∀ impl ∈ w.p2p_messenger_impl_, impl.config.Returns task
  | .queue _ => w.connections = 3
  | _ => True

instance decOrderly (w : Window T) : ∀ event : Happening T, Decidable (Orderly w event)
  | .log_in _ thrown => inferInstanceAs (Decidable (thrown = none))
  | .logout waits => inferInstanceAs (Decidable (waits = true ∧ w.queue = []))
  | .task task => inferInstanceAs (Decidable (∀ impl ∈ w.p2p_messenger_impl_, impl.config.Returns task))
  | .queue _ => inferInstanceAs (Decidable (w.connections = 3))
  | .connect => isTrue trivial
  | .send => isTrue trivial
  | .search => isTrue trivial
  | .click _ => isTrue trivial
  | .select _ => isTrue trivial
  | .type_message _ => isTrue trivial
  | .type_login _ => isTrue trivial
  | .process => isTrue trivial

/-! ## Signals in order -/

/-- On the way to Qt and back at most the login in an item's text changes. -/
def Texts.KeepsIds (T : Texts L) : Prop :=
  ∀ contact : Contact L, ∃ login, T.toStdString (itemText T contact) = contact_to_string T ⟨login, contact.public_key_id⟩

/-- No key has the id that stands for none. -/
def Texts.IdsAreSet (T : Texts L) : Prop := ∀ public_key : L.PublicKey, T.isSet (L.getId public_key) = true

/-- Every message comes after its contact, which is listed or comes as a signal itself. -/
def Prompt (T : Texts L) (listed : Contact L → Prop) : List (PageSignal L) → Prop
  | [] => True
  | .message_sent _ :: rest => Prompt T listed rest
  | .contact_received contact :: rest =>
    T.isSet contact.public_key_id = true ∧ Prompt T (fun other => listed other ∨ other = contact) rest
  | .message_received message :: rest =>
    (∃ public_key, L.publicKey message.source_public_key = some public_key ∧
      listed ⟨message.source_login, L.getId public_key⟩) ∧ Prompt T listed rest

theorem Prompt.mono {one two : Contact L → Prop} {signals : List (PageSignal L)} (prompt : Prompt T one signals)
    (more : ∀ contact, one contact → two contact) : Prompt T two signals := by
  induction signals generalizing one two with
  | nil => trivial
  | cons signal rest ih =>
    cases signal with
    | message_sent message => exact ih prompt more
    | contact_received contact => exact ⟨prompt.1, ih prompt.2 fun other => Or.imp_left (more other)⟩
    | message_received message =>
      obtain ⟨⟨public_key, parsed, listed⟩, later⟩ := prompt
      exact ⟨⟨public_key, parsed, more _ listed⟩, ih later more⟩

theorem prompt_append (listed : Contact L → Prop) (one two : List (PageSignal L)) :
    Prompt T listed (one ++ two) ↔
      Prompt T listed one ∧ Prompt T (fun contact => listed contact ∨ .contact_received contact ∈ one) two := by
  induction one generalizing listed with
  | nil => simp [Prompt]
  | cons signal one ih =>
    cases signal with
    | message_sent message => simp [Prompt, ih]
    | contact_received contact => simp [Prompt, ih, and_assoc, or_assoc]
    | message_received message => simp [Prompt, ih, and_assoc]

theorem prompt_of_sent (listed : Contact L → Prop) {signals : List (PageSignal L)}
    (sent : ∀ signal ∈ signals, ∃ message, signal = .message_sent message) : Prompt T listed signals := by
  induction signals with
  | nil => trivial
  | cons signal rest ih =>
    obtain ⟨⟨message, rfl⟩, later⟩ := List.forall_mem_cons.mp sent
    exact ih later

theorem prompt_of_contacts (set : T.IdsAreSet) (listed : Contact L → Prop) (login : Bytes) (contacts : List (L.PublicKey × Bytes)) :
    Prompt T listed ((contacts.map fun contact =>
      (.listen_login_handler login (L.getId contact.1) : Effect L)).filterMap Effect.pageSignal) := by
  induction contacts generalizing listed with
  | nil => trivial
  | cons contact rest ih => exact ⟨set contact.1, ih _⟩

/-- A datagram's handler announces the source of a message before it hands the message over. -/
theorem prompt_received (set : T.IdsAreSet) (config : Config L) (env : Environment L) (ledger : Ledger L) (buffer : Bytes)
    (remote_endpoint : Endpoint L) (listed : Contact L → Prop) :
    Prompt T listed ((ledger.received config env buffer remote_endpoint).2.filterMap Effect.pageSignal) := by
  unfold Ledger.received
  cases read : reading config env buffer with
  | accepted message public_key =>
    obtain ⟨_, _, _, _, _, _, parsed, _⟩ := (reading_eq_accepted config env buffer message public_key).mp read
    simp only
    cases config.punched env 0 message.source_ip (sourcePort message remote_endpoint) with
    | none => trivial
    | some endpoint =>
      unfold Config.receiveEffects
      split_ifs
      · exact ⟨set public_key, ⟨public_key, parsed, .inr rfl⟩, trivial⟩
      · trivial
  | transit message =>
    simp only
    cases ledger.nextHop message with
    | none => trivial
    | some endpoint =>
      simp only
      split_ifs <;> trivial
  | dropped => trivial
  | metadata =>
    simp only
    cases L.publicKey (metadata_from_buffer buffer env.beyond).2 <;> trivial

/-- A call emits nothing but signals of sent messages. -/
theorem prompt_calling (config : Config L) (env : Environment L) (address login : Bytes) (public_key : L.PublicKey) (text : Bytes)
    (listed : Contact L → Prop) :
    Prompt T listed ((config.calling env address login public_key text).filterMap Effect.pageSignal) := by
  refine prompt_of_sent listed fun signal member => ?_
  obtain ⟨effect, inside, made⟩ := List.mem_filterMap.mp member
  unfold Config.calling at inside
  cases built : composed config env address login public_key text with
  | error e => simp [built] at inside
  | ok composition =>
    obtain ⟨message, inner⟩ := composition
    simp only [built] at inside
    rcases mem_callEffects ((cut_performed env 0 _).first.subset inside) with rfl | ⟨_, _, _, -, -, rfl⟩ | handler
    · cases made
    · cases made
    · rcases mem_sendEffects handler with rfl | rfl | ⟨id, rfl⟩
      · cases made
      · cases made
        exact ⟨message, rfl⟩
      · cases made

/-- Whatever a thread runs, its signals are in order. -/
theorem prompt_of_work (set : T.IdsAreSet) {config : Config L} {m later : Messenger L} {ledger : Ledger L} {task : Task L}
    {effects : List (Effect L)} (describes : ledger.Describes m) (taken : work config m task = some (later, effects))
    (listed : Contact L → Prop) : Prompt T listed (effects.filterMap Effect.pageSignal) := by
  obtain ⟨next, recorded, -⟩ := record_of_work describes taken
  have punches : ∀ punched, Prompt T listed ((config.punching punched).2.filterMap Effect.pageSignal) := by
    intro punched
    cases punched <;> trivial
  cases task with
  | start env =>
    simp only [record] at recorded
    split_ifs at recorded
    cases recorded
    exact punches _
  | receive env buffer remote_endpoint =>
    cases recorded
    exact prompt_received set config env ledger buffer remote_endpoint listed
  | timer env endpoint =>
    simp only [record] at recorded
    by_cases there : 0 < ledger.loops endpoint
    · rw [if_pos there] at recorded
      cases recorded
      exact punches _
    · rw [if_neg there] at recorded
      cases recorded
  | listen_callback login values expired =>
    cases recorded
    exact prompt_of_contacts set listed login _
  | send_message env login id text =>
    obtain ⟨effects', same, call⟩ := record_send_message config ledger env login id text
    rw [same] at recorded
    cases recorded
    rcases call with ⟨-, rfl⟩ | ⟨address, public_key, -, -, rfl⟩
    · trivial
    · exact prompt_calling config env address login public_key text listed

/-! ## What holds in every run -/

namespace Window

def texts (w : Window T) : List T.QString := w.items.map Item.text

/-- The contact has an item. -/
def Lists (w : Window T) (contact : Contact L) : Prop := itemText T contact ∈ w.texts

/-- What is asked of a message's contact: an item, where that is taken strictly. -/
def Known (strict : Prop) (w : Window T) (contact : Contact L) : Prop := strict → w.Lists contact

/-- On the chat page there is a messenger and on the login page nothing is selected, every
    item is a contact's, and every posted call is for a contact with an item. The signals are
    in order. -/
structure Sound (strict : Prop) (w : Window T) : Prop where
  page : w.currentWidget = .chatPage → w.p2p_messenger_impl_.isSome = true
  idle : w.currentWidget = .loginPage → w.currentItem = none
  texts : ∀ text ∈ w.texts, ∃ contact, text = itemText T contact
  current : ∀ text ∈ w.currentItem, text ∈ w.texts
  ledger : ∀ impl ∈ w.p2p_messenger_impl_, ∃ ledger : Ledger L, ledger.Describes impl.messenger
  posted : ∀ impl ∈ w.p2p_messenger_impl_, ∀ call ∈ impl.posted, call.message ≠ [] ∧
    ∃ text ∈ w.texts, contact_from_string T (T.toStdString text) = .ok ⟨call.login, call.public_key_id⟩
  queue : Prompt T (w.Known strict) w.queue
  threads : ∀ impl ∈ w.p2p_messenger_impl_, ∀ signals ∈ impl.threads,
    Prompt T (fun contact => w.Known strict contact ∨ .contact_received contact ∈ w.queue) signals

theorem sound_initial (strict : Prop) : (initial T).Sound strict where
  page := by simp [initial]
  idle _ := rfl
  texts text member := by cases member
  current text member := by cases member
  ledger impl member := by cases member
  posted impl member := by cases member
  queue := trivial
  threads impl member := by cases member

/-- A slot changed what the page shows, and added some items. -/
structure Shows (w t : Window T) (added : List T.QString) : Prop where
  currentWidget : t.currentWidget = w.currentWidget
  impl : t.p2p_messenger_impl_ = w.p2p_messenger_impl_
  queue : t.queue = w.queue
  current : t.currentItem = w.currentItem ∨
    w.currentWidget = .chatPage ∧ ∃ text ∈ w.texts, t.currentItem = some text
  texts : ∀ text, text ∈ t.texts ↔ text ∈ w.texts ∨ text ∈ added

theorem Shows.known {w t : Window T} {added : List T.QString} (shows_added : w.Shows t added) {strict : Prop}
    {contact : Contact L} (known : w.Known strict contact) : t.Known strict contact :=
  fun strictly => (shows_added.texts _).mpr (.inl (known strictly))

/-- A slot keeps the invariant when it leaves the signals that are left in order. -/
theorem Sound.shows {strict : Prop} {w t : Window T} (sound : w.Sound strict) {rest : List (PageSignal L)}
    {added : List T.QString} (shows_added : ({ w with queue := rest } : Window T).Shows t added)
    (contacts : ∀ text ∈ added, ∃ contact, text = itemText T contact) (queue : Prompt T (t.Known strict) rest)
    (threads : ∀ impl ∈ w.p2p_messenger_impl_, ∀ signals ∈ impl.threads,
      Prompt T (fun contact => t.Known strict contact ∨ .contact_received contact ∈ rest) signals) : t.Sound strict where
  page := by
    rw [shows_added.currentWidget, shows_added.impl]
    exact sound.page
  idle away := by
    rw [shows_added.currentWidget] at away
    rcases shows_added.current with same | ⟨here, -⟩
    · rw [same]
      exact sound.idle away
    · cases here.symm.trans away
  texts text member := ((shows_added.texts text).mp member).elim (sound.texts text) (contacts text)
  current text member := by
    refine (shows_added.texts text).mpr (.inl ?_)
    rcases shows_added.current with same | ⟨-, other, inside, same⟩
    · exact sound.current text (by rwa [same] at member)
    · rw [same] at member
      rwa [← Option.some.inj member]
  ledger impl member := sound.ledger impl (by rwa [shows_added.impl] at member)
  posted impl member call waits := by
    rw [shows_added.impl] at member
    obtain ⟨some_text, text, inside, read⟩ := sound.posted impl member call waits
    exact ⟨some_text, text, (shows_added.texts text).mpr (.inl inside), read⟩
  queue := by
    rw [shows_added.queue]
    exact queue
  threads impl member := by
    rw [shows_added.impl] at member
    rw [shows_added.queue]
    exact threads impl member

/-- What the user does queues and takes no signal. -/
theorem Sound.used {strict : Prop} {w t : Window T} (sound : w.Sound strict) (shows_nothing : w.Shows t []) :
    t.Sound strict :=
  sound.shows shows_nothing (by simp) (sound.queue.mono fun _ => shows_nothing.known) fun impl there signals member =>
    (sound.threads impl there signals member).mono fun _ => Or.imp_left shows_nothing.known

end Window

/-! ## The slots -/

theorem findItems_eq_nil_iff_notMem (items : List (Item T)) (text : T.QString) :
    findItems items text = [] ↔ text ∉ items.map Item.text := by
  rw [findItems_eq_nil_iff, List.count_eq_zero]

theorem mem_texts_addItem (items : List (Item T)) (added text : T.QString) :
    text ∈ (addItem items added).map Item.text ↔ text ∈ items.map Item.text ∨ text = added := by
  have perm := (List.perm_orderedInsert (fun one two : Item T => T.lessThan two.text one.text = false)
    ⟨added, false⟩ items).map Item.text
  rw [addItem, perm.mem_iff, List.map_cons, List.mem_cons, or_comm]

section
variable (hex : T.HexadecimalIds) (inverse : T.IdOfToString) (keeps : T.KeepsIds)
include hex inverse keeps

/-- An item's text reads back as a contact with its id. -/
theorem item_reads (contact : Contact L) :
    ∃ login, contact_from_string T (T.toStdString (itemText T contact)) = .ok ⟨login, contact.public_key_id⟩ := by
  obtain ⟨login, same⟩ := keeps contact
  exact ⟨login, by rw [same, contact_from_string_to_string hex inverse]⟩

theorem Window.Sound.reads {strict : Prop} {w : Window T} (sound : w.Sound strict) {text : T.QString} (member : text ∈ w.texts) :
    ∃ contact, contact_from_string T (T.toStdString text) = .ok contact := by
  obtain ⟨contact, rfl⟩ := sound.texts text member
  obtain ⟨login, read⟩ := item_reads hex inverse keeps contact
  exact ⟨_, read⟩

end

/-- `notify` takes the first of nothing, or it finds the contact and keeps the texts. -/
theorem notify_cases (list : ContactList T) {message : Message} {public_key : L.PublicKey}
    (parsed : L.publicKey message.source_public_key = some public_key) :
    (itemText T ⟨message.source_login, L.getId public_key⟩ ∉ list.items.map Item.text ∧
        list.notify message = .error .first_of_empty) ∨
      ∃ t, list.notify message = .ok t ∧ t.items.map Item.text = list.items.map Item.text := by
  have named : messageItem T message = some (itemText T ⟨message.source_login, L.getId public_key⟩) := by
    rw [messageItem, parsed]
    rfl
  unfold ContactList.notify
  simp only [named]
  cases found : findItems list.items (itemText T ⟨message.source_login, L.getId public_key⟩) with
  | nil => exact .inl ⟨(findItems_eq_nil_iff_notMem _ _).mp found, rfl⟩
  | cons item rest => exact .inr ⟨_, rfl, by simp [texts_boldFirst]⟩

/-- The slot of a received message fails for the contact that has no item, and else it
    keeps the texts. -/
theorem Window.received_cases {w : Window T} {message : Message} {public_key : L.PublicKey}
    (parsed : L.publicKey message.source_public_key = some public_key)
    (reads : ∀ text ∈ w.currentItem, ∃ contact, contact_from_string T (T.toStdString text) = .ok contact) :
    (¬ w.Lists ⟨message.source_login, L.getId public_key⟩ ∧
        w.update_chat_with_received_message message = .error .first_of_empty) ∨
      ∃ t, w.update_chat_with_received_message message = .ok t ∧ w.Shows t [] := by
  have whole : ∀ list : ContactList T, list.items.map Item.text = w.texts →
      w.contacts.update_chat_with_received_message message = .ok list →
      ∃ t, w.update_chat_with_received_message message = .ok t ∧ w.Shows t [] := by
    intro list same updated
    unfold Window.update_chat_with_received_message
    rw [updated]
    refine ⟨_, rfl, ?_⟩
    by_cases selected : w.selects message = true
    · rw [if_pos selected]
      exact ⟨rfl, rfl, rfl, .inl rfl, by simp [Window.append, Window.texts]⟩
    · rw [if_neg selected]
      exact ⟨rfl, rfl, rfl, .inl rfl, by simp [Window.texts, same]⟩
  rcases w.contacts.update_chat_cases message with ⟨-, called⟩ | ⟨-, kept | ⟨e, thrown⟩⟩
  · rcases notify_cases w.contacts parsed with ⟨absent, failed⟩ | ⟨t, notified, same⟩
    · refine .inl ⟨absent, ?_⟩
      unfold Window.update_chat_with_received_message
      rw [called, failed]
      rfl
    · exact .inr (whole t same (called.trans notified))
  · exact .inr (whole w.contacts rfl kept)
  · exfalso
    unfold ContactList.update_chat_with_received_message at thrown
    cases selected : w.currentItem with
    | none =>
      have none : w.contacts.currentItem = none := selected
      rcases notify_cases w.contacts parsed with ⟨-, failed⟩ | ⟨t, notified, -⟩
      · simp [none, failed] at thrown
      · simp [none, notified] at thrown
    | some text =>
      obtain ⟨contact, read⟩ := reads text selected
      have current : w.contacts.currentItem = some text := selected
      simp only [current, read, parsed] at thrown
      by_cases other : contact.public_key_id ≠ L.getId public_key
      · rw [if_pos other] at thrown
        rcases notify_cases w.contacts parsed with ⟨-, failed⟩ | ⟨t, notified, -⟩
        · simp [failed] at thrown
        · simp [notified] at thrown
      · rw [if_neg other] at thrown
        cases thrown

/-- The slot of a contact adds its item, if it has an id. -/
theorem Window.contact_cases {w : Window T} (idle : w.p2p_messenger_impl_ = none → w.currentItem = none)
    (contact : Contact L) (set : T.isSet contact.public_key_id = true) :
    ∃ t, w.update_contacts_list_with_received_contact contact = .ok t ∧ w.Shows t [itemText T contact] := by
  have there : ¬ (w.contacts.currentItem = some (itemText T contact) ∧ w.contacts.logged_in = false) := by
    rintro ⟨selected, out⟩
    have none : w.p2p_messenger_impl_ = none := by simpa [Window.contacts] using out
    rw [Window.contacts, idle none] at selected
    cases selected
  let added := if findItems w.items (itemText T contact) = [] then addItem w.items (itemText T contact) else w.items
  have texts : ∀ text, text ∈ added.map Item.text ↔ text ∈ w.texts ∨ text ∈ [itemText T contact] := by
    intro text
    unfold added Window.texts
    rw [List.mem_singleton]
    by_cases missing : findItems w.items (itemText T contact) = []
    · rw [if_pos missing, mem_texts_addItem]
    · rw [if_neg missing]
      rw [findItems_eq_nil_iff_notMem, not_not] at missing
      refine ⟨.inl, fun member => member.elim id fun same => ?_⟩
      rwa [same]
  have updated : w.contacts.update_contacts_list_with_received_contact contact = .ok { w.contacts with items := added } := by
    unfold ContactList.update_contacts_list_with_received_contact
    rw [if_pos set]
    exact if_neg there
  unfold Window.update_contacts_list_with_received_contact
  rw [updated]
  cases impl : w.p2p_messenger_impl_ with
  | none => exact ⟨_, rfl, rfl, impl.symm, rfl, .inl rfl, texts⟩
  | some messenger =>
    by_cases selected : T.isSet contact.public_key_id = true ∧ w.currentItem = some (itemText T contact)
    · exact ⟨_, if_pos selected, rfl, impl.symm, rfl, .inl rfl, texts⟩
    · exact ⟨_, if_neg selected, rfl, impl.symm, rfl, .inl rfl, texts⟩

section
variable (hex : T.HexadecimalIds) (inverse : T.IdOfToString) (keeps : T.KeepsIds)
include hex inverse keeps

/-- A click on the chat page selects an item and shows its conversation. -/
theorem Window.click_cases {strict : Prop} {w : Window T} (sound : w.Sound strict) (here : w.currentWidget = .chatPage) (i : Nat) :
    ∃ t, w.on_contactsListWidget_itemClicked i = .ok t ∧ w.Shows t [] := by
  obtain ⟨impl, there⟩ := Option.isSome_iff_exists.mp (sound.page here)
  unfold Window.on_contactsListWidget_itemClicked ContactList.on_contactsListWidget_itemClicked
  have items : w.contacts.items = w.items := rfl
  have logged_in : w.contacts.logged_in = true := by simp [Window.contacts, there]
  cases at_i : w.items[i]? with
  | none =>
    simp only [items, at_i]
    exact ⟨w, rfl, rfl, rfl, rfl, .inl rfl, by simp⟩
  | some item =>
    have member : item.text ∈ w.texts := List.mem_map_of_mem (List.mem_of_getElem? at_i)
    obtain ⟨contact, read⟩ := sound.reads hex inverse keeps member
    have texts : (w.items.set i { item with bold := false }).map Item.text = w.texts := by
      obtain ⟨inside, rfl⟩ := List.getElem?_eq_some_iff.mp at_i
      rw [List.map_set, ← List.getElem_map Item.text (h := by simpa using inside), List.set_getElem_self, Window.texts]
    simp only [items, at_i, read, logged_in, Bool.true_eq_false, if_false, there]
    refine ⟨_, rfl, rfl, there.symm, rfl, .inr ⟨here, item.text, member, rfl⟩, fun text => ?_⟩
    rw [Window.texts, texts]
    simp

/-- Sending on the chat page posts a call for the selected contact, or nothing. -/
theorem Window.send_cases {strict : Prop} {w : Window T} (sound : w.Sound strict) (here : w.currentWidget = .chatPage) :
    w.send_message = .ok w ∨ ∃ impl text contact,
      w.p2p_messenger_impl_ = some impl ∧ text ∈ w.texts ∧ contact_from_string T (T.toStdString text) = .ok contact ∧
      T.toStdString w.messageLineEdit ≠ [] ∧
      w.send_message = .ok { w with
        messageLineEdit := T.fromStdString []
        p2p_messenger_impl_ := some { impl with
          posted := impl.posted ++ [⟨contact.login, contact.public_key_id, T.toStdString w.messageLineEdit⟩] } } := by
  obtain ⟨impl, there⟩ := Option.isSome_iff_exists.mp (sound.page here)
  unfold Window.send_message
  cases selected : w.currentItem with
  | none => exact .inl rfl
  | some text =>
    have member : text ∈ w.texts := sound.current text selected
    obtain ⟨contact, read⟩ := sound.reads hex inverse keeps member
    simp only [read, there]
    by_cases empty : T.toStdString w.messageLineEdit = []
    · exact .inl (if_pos empty)
    · exact .inr ⟨impl, text, contact, rfl, member, read, empty, if_neg empty⟩

end

theorem Window.search_cases {strict : Prop} {w : Window T} (sound : w.Sound strict) (here : w.currentWidget = .chatPage) :
    w.on_searchLoginPushButton_clicked = .ok w ∨ ∃ impl,
      w.p2p_messenger_impl_ = some impl ∧
      w.on_searchLoginPushButton_clicked = .ok { w with
        searchLoginLineEdit := T.fromStdString []
        p2p_messenger_impl_ := some { impl with listens := impl.listens ++ [T.toStdString w.searchLoginLineEdit] } } := by
  obtain ⟨impl, there⟩ := Option.isSome_iff_exists.mp (sound.page here)
  unfold Window.on_searchLoginPushButton_clicked
  simp only [there]
  by_cases empty : T.toStdString w.searchLoginLineEdit = []
  · exact .inl (if_pos empty)
  · exact .inr ⟨impl, rfl, if_neg empty⟩

/-- A task of a thread dereferences no null key: it ends the process only when it does not
    return, and else it queues its signals in order. -/
theorem Impl.run_cases (set : T.IdsAreSet) {impl : Impl L} {ledger : Ledger L} (describes : ledger.Describes impl.messenger)
    {task : Task L} {result : Except Fault (Impl L)} (ran : impl.run task = some result) :
    (∃ fault, result = .error fault ∧ ¬ impl.config.Returns task ∧ task.fault impl.config impl.messenger = some fault) ∨
    ∃ later, result = .ok later ∧ (∃ next : Ledger L, next.Describes later.messenger) ∧ later.posted ⊆ impl.posted ∧
      ∃ signals, later.threads = impl.threads ++ [signals] ∧ ∀ listed, Prompt T listed signals := by
  have did : ∀ worked, work impl.config impl.messenger task = some worked →
      (∃ next : Ledger L, next.Describes (impl.did worked).messenger) ∧
        ∃ signals, (impl.did worked).threads = impl.threads ++ [signals] ∧ ∀ listed, Prompt T listed signals := by
    rintro ⟨later, effects⟩ taken
    obtain ⟨next, -, described⟩ := record_of_work describes taken
    exact ⟨⟨next, described⟩, _, rfl, prompt_of_work set describes taken⟩
  have plain : (work impl.config impl.messenger task).map (impl.ends task) = some result →
      (∃ fault, result = .error fault ∧ ¬ impl.config.Returns task ∧ task.fault impl.config impl.messenger = some fault) ∨
      ∃ later, result = .ok later ∧ (∃ next : Ledger L, next.Describes later.messenger) ∧ later.posted ⊆ impl.posted ∧
        ∃ signals, later.threads = impl.threads ++ [signals] ∧ ∀ listed, Prompt T listed signals := by
    intro mapped
    obtain ⟨worked, taken, rfl⟩ := Option.map_eq_some_iff.mp mapped
    obtain ⟨described, signals⟩ := did worked taken
    rcases impl.ends_cases task worked with ends | ⟨returned, -⟩
    · exact .inl ends
    · exact .inr ⟨_, returned, described, fun _ member => member, signals⟩
  cases task with
  | start env => exact plain ran
  | receive env buffer remote_endpoint => exact plain ran
  | timer env endpoint => exact plain ran
  | listen_callback login values expired =>
    simp only [Impl.run] at ran
    by_cases asked : login ∈ impl.listens
    · rw [if_pos asked] at ran
      exact plain ran
    · rw [if_neg asked] at ran
      cases ran
  | send_message env login id message =>
    obtain ⟨effects, recorded, -⟩ := record_send_message impl.config ledger env login id message
    obtain ⟨later, taken, -⟩ := work_of_record describes recorded
    simp only [Impl.run] at ran
    by_cases asked : ⟨login, id, message⟩ ∈ impl.posted
    · rw [if_pos asked, taken] at ran
      obtain ⟨described, signals⟩ := did _ taken
      obtain rfl := Option.some.inj ran
      exact .inr ⟨_, rfl, described, List.erase_subset, signals⟩
    · rw [if_neg asked] at ran
      cases ran

/-! ## What happens next -/

/-- What the messenger does leaves the list alone. -/
structure Window.Serves (w t : Window T) (later : Impl L) : Prop where
  impl : t.p2p_messenger_impl_ = some later
  currentWidget : t.currentWidget = w.currentWidget
  current : t.currentItem = w.currentItem
  texts : t.texts = w.texts

theorem Window.Serves.known {w t : Window T} {later : Impl L} (serves : w.Serves t later) {strict : Prop}
    {contact : Contact L} (known : w.Known strict contact) : t.Known strict contact := by
  intro strictly
  unfold Lists
  rw [serves.texts]
  exact known strictly

theorem Window.Sound.serves {strict : Prop} {w t : Window T} (sound : w.Sound strict) {later : Impl L}
    (serves : w.Serves t later)
    (ledger : ∃ ledger : Ledger L, ledger.Describes later.messenger)
    (posted : ∀ call ∈ later.posted, call.message ≠ [] ∧
      ∃ text ∈ w.texts, contact_from_string T (T.toStdString text) = .ok ⟨call.login, call.public_key_id⟩)
    (queue : Prompt T (w.Known strict) t.queue)
    (threads : ∀ signals ∈ later.threads,
      Prompt T (fun contact => w.Known strict contact ∨ .contact_received contact ∈ t.queue) signals) : t.Sound strict where
  page _ := by
    rw [serves.impl]
    rfl
  idle away := by
    rw [serves.currentWidget] at away
    rw [serves.current]
    exact sound.idle away
  texts text member := sound.texts text (by rwa [serves.texts] at member)
  current text member := by
    rw [serves.texts]
    exact sound.current text (by rwa [serves.current] at member)
  ledger other same := by
    rw [serves.impl] at same
    obtain rfl := Option.some.inj same
    exact ledger
  posted other same := by
    rw [serves.impl] at same
    obtain rfl := Option.some.inj same
    rw [serves.texts]
    exact posted
  queue := queue.mono fun _ => serves.known
  threads other same signals member := by
    rw [serves.impl] at same
    obtain rfl := Option.some.inj same
    exact (threads signals member).mono fun _ => Or.imp_left serves.known

theorem Window.Sound.idle_of_none {strict : Prop} {w : Window T} (sound : w.Sound strict)
    (none : w.p2p_messenger_impl_ = none) : w.currentItem = Option.none := by
  refine sound.idle ?_
  cases page : w.currentWidget with
  | loginPage => rfl
  | chatPage =>
    have there := sound.page page
    rw [none] at there
    cases there

theorem prompt_tail {listed : Contact L → Prop} {signal : PageSignal L} {rest : List (PageSignal L)}
    (prompt : Prompt T listed (signal :: rest)) : Prompt T (fun contact => listed contact ∨ .contact_received contact ∈ [signal]) rest :=
  ((prompt_append listed [signal] rest).mp prompt).2

theorem Window.queue_subset_emit (w : Window T) (signal : PageSignal L) : w.queue ⊆ w.emit signal := by
  unfold Window.emit
  split_ifs
  · exact List.subset_append_left _ _
  · exact List.Subset.refl _

theorem Window.mem_emit (w : Window T) {signal other : PageSignal L} (member : other ∈ w.emit signal) :
    other ∈ w.queue ∨ other = signal := by
  unfold Window.emit at member
  split_ifs at member
  · exact (List.mem_append.mp member).imp_right List.mem_singleton.mp
  · exact .inl member

/-- What a handler emits is in order behind what is queued, or it goes nowhere. -/
theorem Window.Sound.emitted {strict : Prop} {w : Window T} (sound : w.Sound strict) {signal : PageSignal L}
    {rest : List (PageSignal L)}
    (prompt : Prompt T (fun contact => w.Known strict contact ∨ .contact_received contact ∈ w.queue) (signal :: rest)) :
    Prompt T (w.Known strict) (w.emit signal) := by
  unfold Window.emit
  split_ifs
  · exact (prompt_append _ w.queue [signal]).mpr ⟨sound.queue, ((prompt_append _ [signal] rest).mp prompt).1⟩
  · exact sound.queue

/-- What the handler emits later is in order behind it, when the page is connected. -/
theorem Window.goes_on {strict : Prop} {w : Window T} {signal : PageSignal L}
    {rest : List (PageSignal L)} (connected : strict → w.connections = 3)
    (prompt : Prompt T (fun contact => w.Known strict contact ∨ .contact_received contact ∈ w.queue) (signal :: rest)) :
    Prompt T (fun contact => w.Known strict contact ∨ .contact_received contact ∈ w.emit signal) rest := by
  refine (prompt_tail prompt).mono fun contact either => ?_
  by_cases strictly : strict
  · have reaches : signal.place < w.connections := by
      rw [connected strictly]
      cases signal <;> simp [PageSignal.place]
    rw [Window.emit, if_pos reaches, List.mem_append, ← or_assoc]
    exact either
  · exact .inl fun strictly' => absurd strictly' strictly

section
variable (hex : T.HexadecimalIds) (inverse : T.IdOfToString) (keeps : T.KeepsIds) (set : T.IdsAreSet)
include hex inverse keeps set

/-- Whatever happens keeps the invariant or is to blame for a fault. -/
theorem Window.Sound.happen {strict : Prop} {w : Window T} (sound : w.Sound strict) {event : Happening T}
    {result : Except Fault (Window T)} (now : happen w event = some result)
    (quiet : strict → (∀ waits, event = .logout waits → w.queue = []) ∧ ∀ i, event = .queue i → w.connections = 3) :
    (∃ t, result = .ok t ∧ t.Sound strict) ∨
      ∃ fault, result = .error fault ∧ w.Blames fault event ∧ (strict → event ≠ .process) := by
  cases event with
  | log_in config thrown =>
    obtain ⟨⟨away, -⟩, logged_in⟩ := Option.ite_none_right_eq_some.mp now
    obtain rfl := Option.some.inj logged_in
    cases thrown with
    | some e => exact .inr ⟨_, rfl, ⟨e, rfl, rfl⟩, by simp⟩
    | none =>
      refine .inl ⟨_, rfl, ⟨fun _ => rfl, sound.idle, sound.texts, sound.current, ?_, ?_, sound.queue, ?_⟩⟩
      · rintro impl ⟨⟩
        exact ⟨[], describes_initial⟩
      · rintro impl ⟨⟩ call waits
        cases waits
      · rintro impl ⟨⟩ signals member
        cases member
  | connect =>
    obtain ⟨entering, connected⟩ := Option.ite_none_right_eq_some.mp now
    obtain rfl := Option.some.inj connected
    obtain ⟨-, there⟩ := of_decide_eq_true entering
    unfold Window.connect
    split_ifs
    · exact .inl ⟨_, rfl, { sound with }⟩
    · exact .inl ⟨_, rfl, { sound with page := fun _ => there, idle := fun away => by cases away }⟩
  | logout waits =>
    cases waits with
    | false =>
      obtain ⟨-, ended⟩ := Option.ite_none_right_eq_some.mp now
      obtain rfl := Option.some.inj ended
      exact .inr ⟨_, rfl, ⟨rfl, rfl⟩, by simp⟩
    | true =>
      obtain ⟨-, left⟩ := Option.ite_none_right_eq_some.mp now
      obtain rfl := Option.some.inj left
      have fresh := sound_initial (T := T) strict
      refine .inl ⟨_, rfl, ⟨fresh.page, fresh.idle, fresh.texts, fresh.current, fresh.ledger, fresh.posted, ?_, ?_⟩⟩
      · by_cases strictly : strict
        · have empty : w.on_logoutPushButton_clicked.queue = [] := (quiet strictly).1 true rfl
          rw [empty]
          trivial
        · exact sound.queue.mono fun _ _ => fun strictly' => absurd strictly' strictly
      · rintro impl ⟨⟩
  | send =>
    obtain ⟨here, sent⟩ := Option.ite_none_right_eq_some.mp now
    obtain rfl := Option.some.inj sent
    rcases Window.send_cases hex inverse keeps sound here with same | ⟨impl, text, contact, there, member, read, some_text, same⟩
    · exact .inl ⟨w, same, sound⟩
    · refine .inl ⟨_, same, sound.serves ⟨rfl, rfl, rfl, rfl⟩ (sound.ledger impl there) ?_ sound.queue
        (sound.threads impl there)⟩
      intro call waits
      rcases List.mem_append.mp waits with old | new
      · exact sound.posted impl there call old
      · obtain rfl := List.mem_singleton.mp new
        exact ⟨some_text, text, member, read⟩
  | search =>
    obtain ⟨here, searched⟩ := Option.ite_none_right_eq_some.mp now
    obtain rfl := Option.some.inj searched
    rcases Window.search_cases sound here with same | ⟨impl, there, same⟩
    · exact .inl ⟨w, same, sound⟩
    · exact .inl ⟨_, same, sound.serves ⟨rfl, rfl, rfl, rfl⟩ (sound.ledger impl there) (sound.posted impl there)
        sound.queue (sound.threads impl there)⟩
  | click i =>
    obtain ⟨here, clicked⟩ := Option.ite_none_right_eq_some.mp now
    obtain rfl := Option.some.inj clicked
    obtain ⟨t, same, shows_t⟩ := Window.click_cases hex inverse keeps sound here i
    exact .inl ⟨t, same, sound.used shows_t⟩
  | select i =>
    obtain ⟨here, selected⟩ := Option.ite_none_right_eq_some.mp now
    obtain ⟨item, at_i, rfl⟩ := Option.map_eq_some_iff.mp selected
    have member : item.text ∈ w.texts := List.mem_map_of_mem (List.mem_of_getElem? at_i)
    exact .inl ⟨_, rfl, sound.used ⟨rfl, rfl, rfl, .inr ⟨here, _, member, rfl⟩, by simp [Window.texts]⟩⟩
  | type_message text =>
    simp only [P2PMessenger.happen] at now
    split_ifs at now
    obtain rfl := Option.some.inj now
    exact .inl ⟨_, rfl, sound.used ⟨rfl, rfl, rfl, .inl rfl, by simp [Window.texts]⟩⟩
  | type_login text =>
    simp only [P2PMessenger.happen] at now
    split_ifs at now
    obtain rfl := Option.some.inj now
    exact .inl ⟨_, rfl, sound.used ⟨rfl, rfl, rfl, .inl rfl, by simp [Window.texts]⟩⟩
  | task task =>
    simp only [P2PMessenger.happen] at now
    cases there : w.p2p_messenger_impl_ with
    | none => simp [there] at now
    | some impl =>
      simp only [there] at now
      obtain ⟨ran, task_ran, rfl⟩ := Option.map_eq_some_iff.mp now
      obtain ⟨ledger, describes⟩ := sound.ledger impl there
      rcases Impl.run_cases set describes task_ran with
        ⟨fault, rfl, broken, ended⟩ | ⟨later, rfl, described, posted, signals, threads, prompt⟩
      · exact .inr ⟨fault, rfl, ⟨impl, there, broken, ended⟩, by simp⟩
      refine .inl ⟨_, rfl, sound.serves ⟨rfl, rfl, rfl, rfl⟩ described
        (fun call waits => sound.posted impl there call (posted waits)) sound.queue ?_⟩
      intro other member
      rw [threads] at member
      rcases List.mem_append.mp member with old | new
      · exact sound.threads impl there other old
      · obtain rfl := List.mem_singleton.mp new
        exact prompt _
  | queue i =>
    simp only [P2PMessenger.happen] at now
    cases there : w.p2p_messenger_impl_ with
    | none => simp [there] at now
    | some impl =>
      simp only [there] at now
      cases at_i : impl.threads[i]? with
      | none => simp [at_i] at now
      | some signals =>
        cases signals with
        | nil => simp [at_i] at now
        | cons signal rest =>
          simp only [at_i, Option.some.injEq] at now
          subst now
          have prompt := sound.threads impl there _ (List.mem_of_getElem? at_i)
          refine .inl ⟨_, rfl, sound.serves ⟨rfl, rfl, rfl, rfl⟩ (sound.ledger impl there) (sound.posted impl there) ?_ ?_⟩
          · exact sound.emitted prompt
          · intro other member
            rcases List.mem_or_eq_of_mem_set member with old | rfl
            · exact (sound.threads impl there other old).mono fun _ => Or.imp_right (w.queue_subset_emit signal ·)
            · exact Window.goes_on (fun strictly => (quiet strictly).2 i rfl) prompt
  | process =>
    simp only [P2PMessenger.happen] at now
    cases first : w.queue with
    | nil => simp [first] at now
    | cons signal queue =>
      simp only [first] at now
      obtain ⟨-, now⟩ := Option.ite_none_left_eq_some.mp now
      obtain rfl := Option.some.inj now
      have prompt := sound.queue
      rw [first] at prompt
      -- the contact of the signal, if it is one, has an item afterwards
      have later : ∀ (t : Window T) (added : List T.QString), ({ w with queue := queue } : Window T).Shows t added →
          (∀ text ∈ added, ∃ contact, text = itemText T contact) →
          (∀ contact, .contact_received contact ∈ [signal] → t.Known strict contact) → t.Sound strict := by
        intro t added shows_t contacts known
        refine sound.shows shows_t contacts ((prompt_tail prompt).mono fun contact => ?_) ?_
        · exact fun either => either.elim shows_t.known (known contact)
        · intro impl there signals member
          refine (sound.threads impl there signals member).mono fun contact either => ?_
          rw [first] at either
          rcases either with listed | waits
          · exact .inl (shows_t.known listed)
          · rcases List.mem_cons.mp waits with same | waits
            · exact .inl (known contact (by rw [same]; exact List.mem_singleton_self _))
            · exact .inr waits
      cases signal with
      | message_sent message =>
        refine .inl ⟨_, rfl, later _ [] ⟨?_, ?_, ?_, .inl ?_, fun text => ?_⟩ (by simp) (by simp)⟩
        all_goals
          unfold update_chat_with_sent_message
          split <;> simp [append, Window.texts]
      | contact_received contact =>
        obtain ⟨t, same, shows_t⟩ :=
          Window.contact_cases sound.idle_of_none contact prompt.1 (w := { w with queue := queue })
        refine .inl ⟨t, same, later t _ shows_t (fun text member => ⟨contact, List.mem_singleton.mp member⟩) ?_⟩
        intro other member _
        cases List.mem_singleton.mp member
        exact (shows_t.texts _).mpr (.inr (List.mem_singleton_self _))
      | message_received message =>
        obtain ⟨public_key, parsed, listed⟩ := prompt.1
        have reads : ∀ text ∈ w.currentItem, ∃ contact, contact_from_string T (T.toStdString text) = .ok contact :=
          fun text member => sound.reads hex inverse keeps (sound.current text member)
        rcases Window.received_cases parsed (w := { w with queue := queue }) reads with ⟨absent, failed⟩ | ⟨t, same, shows_t⟩
        · refine .inr ⟨_, failed, ⟨rfl, message, queue, public_key, first, parsed, fun item member same => ?_⟩, ?_⟩
          · exact absent (List.mem_map.mpr ⟨item, member, same⟩)
          · exact fun strictly _ => absent (listed strictly)
        · exact .inl ⟨t, same, later t [] shows_t (by simp) (by simp)⟩

end

/-! ## Runs -/

theorem window_sound (hex : T.HexadecimalIds) (inverse : T.IdOfToString) (keeps : T.KeepsIds) (set : T.IdsAreSet)
    {strict : Prop} {allowed : Window T → Happening T → Prop}
    (quiet : ∀ w event, allowed w event → strict →
      (∀ waits, event = .logout waits → w.queue = []) ∧ ∀ i, event = .queue i → w.connections = 3) {w : Window T}
    (reaches : Reaches happened allowed (Window.initial T) w) : w.Sound strict := by
  refine reaches.invariant (Window.sound_initial strict) fun w event t sound guard step => ?_
  obtain ⟨result, now, returned⟩ := Option.bind_eq_some_iff.mp step
  rcases sound.happen hex inverse keeps set now (quiet w event guard) with ⟨t', rfl, next⟩ | ⟨fault, rfl, -⟩
  · obtain rfl := Option.some.inj returned
    exact next
  · cases returned

/-- In an orderly run there is no fault: every message reaches its slot after its contact
    did. -/
theorem orderly_window_never_faults (hex : T.HexadecimalIds) (inverse : T.IdOfToString) (keeps : T.KeepsIds)
    (set : T.IdsAreSet) {w : Window T} (reaches : Reaches happened Orderly (Window.initial T) w) {event : Happening T}
    (orderly : Orderly w event) (fault : Fault) : happen w event ≠ some (.error fault) := by
  have quiet : ∀ (w : Window T) event, Orderly w event → True →
      (∀ waits, event = .logout waits → w.queue = []) ∧ ∀ i, event = .queue i → w.connections = 3 := by
    rintro w event orderly -
    constructor
    · rintro waits rfl
      exact orderly.2
    · rintro i rfl
      exact orderly
  have sound : w.Sound True := window_sound hex inverse keeps set quiet reaches
  intro now
  rcases sound.happen hex inverse keeps set now (quiet w event orderly) with ⟨t, returned, -⟩ | ⟨_, same, blamed, strictly⟩
  · cases returned
  cases same
  cases event with
  | log_in config thrown =>
    obtain ⟨e, threw, -⟩ := blamed
    cases orderly.symm.trans threw
  | logout waits => cases orderly.1.symm.trans blamed.1
  | task task =>
    obtain ⟨impl, there, broken, -⟩ := blamed
    exact broken (orderly impl there)
  | process => exact strictly trivial rfl
  | _ => exact blamed

/-- The sample texts, with every id set. -/
@[reducible] def setTexts : Texts Sample.libraries := { Sample.texts with isSet := fun _ => true }

theorem setTexts_hexadecimalIds : setTexts.HexadecimalIds := Sample.hexadecimalIds

theorem setTexts_idOfToString : setTexts.IdOfToString := Sample.idOfToString

theorem setTexts_keepsIds : setTexts.KeepsIds := fun contact => ⟨contact.login, rfl⟩

theorem setTexts_idsAreSet : setTexts.IdsAreSet := fun _ => rfl

/-- The receiver logs in, the sample datagram comes, its contact is shown and its message is
    shown in bold; the user answers it. -/
def sampleHappenings : List (Happening setTexts) :=
  [.log_in Sample.receiver none, .connect, .connect, .connect, .connect,
    .task (.receive Sample.environment Sample.datagram Sample.elsewhere), .queue 0, .queue 0, .process, .process, .click 0,
    .type_message [104, 105], .send]

/-- The slot of the sample message finds the item of its contact, which was added just before. -/
theorem orderly_window_never_faults_sample :
    ∃ w, run happened (Window.initial setTexts) (sampleHappenings.take 9) = some w ∧ w.queue.length = 1 ∧
      ∀ fault, happen w .process ≠ some (.error fault) := by
  have waits : (run happened (Window.initial setTexts) (sampleHappenings.take 9)).map (·.queue.length) = some 1 := by
    decide +kernel
  obtain ⟨w, taken, one⟩ := Option.map_eq_some_iff.mp waits
  have guarded : Guarded happened Orderly (Window.initial setTexts) (sampleHappenings.take 9) := by decide +kernel
  exact ⟨w, taken, one, orderly_window_never_faults setTexts_hexadecimalIds setTexts_idOfToString setTexts_keepsIds
    setTexts_idsAreSet (reaches_of_guarded .start guarded taken) trivial⟩

end P2PMessenger
