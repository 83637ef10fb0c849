import P2PMessenger.Sample
import P2PMessenger.Runs

/-!
`chatpage.cpp`: the lines on the screen. A worker thread records a message in the
history and then queues a signal for it. The page shows a line for a signal, and the
whole history of a contact when the contact is clicked.
-/
namespace P2PMessenger
open Octets Throwing Runs

variable {L : Libraries}

structure Contact (L : Libraries) where
  login : Bytes
  public_key_id : L.InfoHash
  deriving DecidableEq

/-- The signals of the page that its lines depend on. -/
inductive Signal where
  | message_sent (message : Message)
  | message_received (message : Message)
  deriving DecidableEq

/-- The page, the history of its `p2p_messenger_impl_`, and the worker threads that have
    recorded a message and not queued the signal yet. -/
structure ChatPage (L : Libraries) where
  chat_history_ : ChatHistory L
  workers : List Signal
  queue : List Signal
  /-- The item of `contactsListWidget` that was clicked last. -/
  currentItem : Option (Contact L)
  chatTextEdit : List Bytes

def ChatPage.initial (L : Libraries) : ChatPage L := ⟨.empty, [], [], none, []⟩

/-- A line of the page: the login, ": " and the text. -/
def chatLine (login text : Bytes) : Bytes := login ++ [58, 32] ++ text

def Signal.message : Signal → Message
  | .message_sent message => message
  | .message_received message => message

def Signal.line (signal : Signal) : Bytes := chatLine signal.message.source_login signal.message.payload.text

/-- The signal that a call of the page's handlers queues. -/
def Effect.signal : Effect L → Option Signal
  | .send_message_handler message => some (.message_sent message)
  | .receive_message_handler message => some (.message_received message)
  | _ => none

namespace ChatPage

/-- A handler of `P2PMessengerImpl` ran up to the signal that it is about to queue. -/
def recorded (page : ChatPage L) (handler : Program L Unit) : ChatPage L :=
  let s := after (handler.run ⟨{ Node.initial L with chat_history_ := page.chat_history_ }, []⟩)
  { page with chat_history_ := s.node.chat_history_, workers := page.workers ++ s.effects.filterMap Effect.signal }

def update_chat_with_sent_message (page : ChatPage L) (message : Message) : ChatPage L :=
  if message.source_public_key = message.destination_public_key then page
  else { page with chatTextEdit := page.chatTextEdit ++ [chatLine message.source_login message.payload.text] }

/-- A source key that does not parse throws, here or in `notify`, which leaves the lines
    alone. -/
def update_chat_with_received_message (page : ChatPage L) (message : Message) : Option (ChatPage L) :=
  match page.currentItem, L.publicKey message.source_public_key with
  | _, none => none
  | none, some _ => some page
  | some contact, some public_key =>
    if contact.public_key_id ≠ L.getId public_key then some page
    else some { page with chatTextEdit := page.chatTextEdit ++ [chatLine message.source_login message.payload.text] }

/-- The conversation of a key id, as it is shown. -/
def lines (page : ChatPage L) (id : L.InfoHash) : List Bytes :=
  (page.chat_history_.entries id).map fun entry => chatLine entry.1 entry.2

def on_contactsListWidget_itemClicked (page : ChatPage L) (contact : Contact L) : ChatPage L :=
  { page with currentItem := some contact, chatTextEdit := page.lines contact.public_key_id }

end ChatPage

/-- What can happen next. -/
inductive Turn (L : Libraries) where
  /-- A worker sent a message and records it. -/
  | send_handler (message : Message)
  /-- A worker received a message and records it. -/
  | receive_handler (message : Message)
  /-- The worker with this number queues its signal. -/
  | queue (i : Nat)
  /-- The first signal of the queue reaches its slot. -/
  | process
  | click (contact : Contact L)

def converse (config : Config L) (page : ChatPage L) : Turn L → Option (ChatPage L)
  | .send_handler message => some (page.recorded (send_handler message))
  | .receive_handler message => some (page.recorded (receive_handler config message))
  | .queue i =>
    match page.workers[i]? with
    | some signal => some { page with workers := page.workers.eraseIdx i, queue := page.queue ++ [signal] }
    | none => none
  | .process =>
    match page.queue with
    | [] => none
    | .message_sent message :: queue => some ({ page with queue := queue }.update_chat_with_sent_message message)
    | .message_received message :: queue => { page with queue := queue }.update_chat_with_received_message message
  | .click contact => some (page.on_contactsListWidget_itemClicked contact)

/-- The conversation that a signal's message is recorded in. -/
def Signal.conversation : Signal → Option L.InfoHash
  | .message_sent message => (L.publicKey message.destination_public_key).map L.getId
  | .message_received message => (L.publicKey message.source_public_key).map L.getId

/-- The conversation that a signal shows a line for: none for a message to oneself, which
    is shown when it is received. -/
def Signal.shown : Signal → Option L.InfoHash
  | .message_sent message =>
    if message.source_public_key = message.destination_public_key then none
    else (L.publicKey message.destination_public_key).map L.getId
  | .message_received message => (L.publicKey message.source_public_key).map L.getId

/-- The slot shows a line without asking which contact is selected. -/
def Signal.unasked : Signal → Bool
  | .message_sent message => message.source_public_key ≠ message.destination_public_key
  | .message_received _ => false

namespace ChatPage

/-- The key id of the selected contact. -/
def selected (page : ChatPage L) : Option L.InfoHash := page.currentItem.map (·.public_key_id)

/-- The signals that are queued or about to be. -/
def pending (page : ChatPage L) : List Signal := page.queue ++ page.workers

/-- The turns that the page can follow: a message to oneself is recorded while another
    contact or none is selected, the lines of the selected conversation are queued in the
    order of its history, the signal of a sent message is processed while its
    destination or none is selected, and a contact is clicked when no line of its
    conversation is still to come. -/
def Orderly (page : ChatPage L) : Turn L → Prop
  | .send_handler message =>
    message.source_public_key = message.destination_public_key →
      ∀ id ∈ page.selected, (Signal.message_sent message).conversation ≠ some id
  | .receive_handler _ => True
  | .queue i =>
    ∀ signal ∈ page.workers[i]?, ∀ id ∈ page.selected, signal.shown = some id →
      ∀ earlier ∈ page.workers.take i, earlier.shown = some id → earlier.line = signal.line
  | .process =>
    ∀ signal ∈ page.queue.head?, signal.unasked = true → ∀ id ∈ page.selected, signal.shown = some id
  | .click contact => ∀ signal ∈ page.pending, signal.shown ≠ some contact.public_key_id

instance (page : ChatPage L) : ∀ turn, Decidable (page.Orderly turn)
  | .send_handler message =>
    inferInstanceAs (Decidable (message.source_public_key = message.destination_public_key →
      ∀ id ∈ page.selected, (Signal.message_sent message).conversation ≠ some id))
  | .receive_handler _ => isTrue trivial
  | .queue i =>
    inferInstanceAs (Decidable (∀ signal ∈ page.workers[i]?, ∀ id ∈ page.selected, signal.shown = some id →
      ∀ earlier ∈ page.workers.take i, earlier.shown = some id → earlier.line = signal.line))
  | .process =>
    inferInstanceAs (Decidable (∀ signal ∈ page.queue.head?, signal.unasked = true →
      ∀ id ∈ page.selected, signal.shown = some id))
  | .click contact => inferInstanceAs (Decidable (∀ signal ∈ page.pending, signal.shown ≠ some contact.public_key_id))

/-- The lines that some signals show in a conversation. -/
def linesFor (id : L.InfoHash) (signals : List Signal) : List Bytes :=
  (signals.filter fun signal => signal.shown = some id).map Signal.line

/-- The lines that are still to come in a conversation. -/
def waiting (page : ChatPage L) (id : L.InfoHash) : List Bytes := linesFor id page.pending

/-- The page shows the selected conversation but for the lines that are still to come. -/
def InStep (page : ChatPage L) : Prop := ∀ id ∈ page.selected, page.chatTextEdit ++ page.waiting id = page.lines id

/-- A worker records a message under a key id. -/
def record (page : ChatPage L) (id : L.InfoHash) (signal : Signal) : ChatPage L :=
  { page with
    chat_history_ := page.chat_history_.append id signal.message.source_login signal.message.payload.text
    workers := page.workers ++ [signal] }

/-! ## One turn -/

/-- A handler that throws before it records leaves the page as it was. -/
theorem nothing_recorded (page : ChatPage L) : { page with workers := page.workers ++ [] } = page := by
  rw [List.append_nil]

/-- The sender's handler records the message in the conversation of its destination. -/
theorem recorded_send_handler (page : ChatPage L) (message : Message) :
    (page.recorded (send_handler message) = page ∧ (Signal.message_sent message).conversation = (none : Option L.InfoHash)) ∨
      ∃ id, (Signal.message_sent message).conversation = some id ∧
        page.recorded (send_handler message) = page.record id (.message_sent message) := by
  unfold recorded send_handler Signal.conversation
  simp only [EStateM.run_bind, run_emit, run_library]
  cases L.publicKey message.destination_public_key with
  | none => exact .inl ⟨nothing_recorded page, rfl⟩
  | some public_key => exact .inr ⟨L.getId public_key, rfl, rfl⟩

theorem recorded_receive_handler (config : Config L) (page : ChatPage L) (message : Message) :
    page.recorded (receive_handler config message) = page ∨
      ∃ id, (Signal.message_received message).conversation = some id ∧
        page.recorded (receive_handler config message) = page.record id (.message_received message) := by
  unfold recorded receive_handler Signal.conversation
  simp only [EStateM.run_bind, run_emit, run_library]
  cases L.publicKey message.destination_public_key with
  | none => exact .inl (nothing_recorded page)
  | some destination =>
    simp only [run_ite]
    by_cases mine : destination = config.public_key
    · simp only [if_pos mine, EStateM.run_bind, run_library]
      cases L.publicKey message.source_public_key with
      | none => exact .inl (nothing_recorded page)
      | some source => exact .inr ⟨L.getId source, rfl, rfl⟩
    · simp only [if_neg mine]
      exact .inl (nothing_recorded page)

theorem conversation_of_shown {signal : Signal} {id : L.InfoHash} (shown : signal.shown = some id) :
    signal.conversation = some id := by
  cases signal with
  | message_sent message =>
    simp only [Signal.shown] at shown
    split_ifs at shown
    exact shown
  | message_received message => exact shown

theorem linesFor_nil (id : L.InfoHash) : linesFor id [] = [] := rfl

theorem linesFor_append (id : L.InfoHash) (one two : List Signal) :
    linesFor id (one ++ two) = linesFor id one ++ linesFor id two := by
  simp [linesFor]

theorem linesFor_cons (id : L.InfoHash) (signal : Signal) (signals : List Signal) :
    linesFor id (signal :: signals) = (if signal.shown = some id then [signal.line] else []) ++ linesFor id signals := by
  by_cases shown : signal.shown = some id
  · simp [linesFor, shown]
  · simp [linesFor, shown]

theorem mem_linesFor {id : L.InfoHash} {signals : List Signal} {line : Bytes} :
    line ∈ linesFor id signals ↔ ∃ signal ∈ signals, signal.shown = some id ∧ signal.line = line := by
  simp [linesFor, and_assoc]

theorem waiting_record (page : ChatPage L) (id other : L.InfoHash) (signal : Signal) :
    (page.record id signal).waiting other =
      page.waiting other ++ if signal.shown = some other then [signal.line] else [] := by
  unfold waiting pending record
  rw [← List.append_assoc, linesFor_append, linesFor_cons, linesFor_nil, List.append_nil]

theorem lines_record (page : ChatPage L) (id other : L.InfoHash) (signal : Signal) :
    (page.record id signal).lines other = page.lines other ++ if other = id then [signal.line] else [] := by
  unfold lines record
  rw [ChatHistory.entries_append]
  by_cases same : other = id
  · simp [same, Signal.line]
  · simp [same]

/-- Recording a message is right when its line will be shown, or when its conversation is
    not the selected one. -/
theorem inStep_record_iff {page : ChatPage L} (step : page.InStep) {id : L.InfoHash} {signal : Signal}
    (recorded : signal.conversation = some id) :
    (page.record id signal).InStep ↔ (id ∈ page.selected → signal.shown = some id) := by
  constructor
  · intro after selected
    have before := step id selected
    have next := after id selected
    rw [waiting_record, lines_record, ← List.append_assoc] at next
    change (page.chatTextEdit ++ page.waiting id) ++ _ = _ at next
    rw [before, List.append_cancel_left_eq] at next
    by_contra hidden
    rw [if_neg hidden, if_pos rfl] at next
    cases next
  · intro shown other selected
    have before := step other selected
    rw [waiting_record, lines_record, ← List.append_assoc]
    change (page.chatTextEdit ++ page.waiting other) ++ _ = _
    rw [before]
    by_cases same : other = id
    · subst same
      rw [if_pos (shown selected), if_pos rfl]
    · have elsewhere : signal.shown ≠ some other := by
        intro shows
        rw [conversation_of_shown shows] at recorded
        exact same (Option.some.inj recorded)
      rw [if_neg elsewhere, if_neg same]

/-- A line may move to the front of others that are equal to it, and of no others. -/
theorem append_singleton_comm_iff {α : Type} (list : List α) (a : α) : list ++ [a] = a :: list ↔ ∀ b ∈ list, b = a := by
  induction list with
  | nil => simp
  | cons b list ih =>
    rw [List.cons_append, List.cons.injEq, List.forall_mem_cons]
    constructor
    · rintro ⟨rfl, rest⟩
      exact ⟨rfl, ih.mp rest⟩
    · rintro ⟨rfl, rest⟩
      exact ⟨rfl, ih.mpr rest⟩

/-- Queueing a signal is right when it does not change the order in which the selected
    conversation's lines are to come. -/
theorem inStep_queue_iff {page : ChatPage L} (step : page.InStep) {i : Nat} {signal : Signal}
    (at_i : page.workers[i]? = some signal) :
    InStep { page with workers := page.workers.eraseIdx i, queue := page.queue ++ [signal] } ↔
      ∀ id ∈ page.selected, signal.shown = some id →
        ∀ earlier ∈ page.workers.take i, earlier.shown = some id → earlier.line = signal.line := by
  obtain ⟨inside, here⟩ := List.getElem?_eq_some_iff.mp at_i
  have parts : page.workers = page.workers.take i ++ signal :: page.workers.drop (i + 1) := by
    rw [← here, List.cons_getElem_drop_succ, List.take_append_drop]
  refine forall_congr' fun id => forall_congr' fun selected => ?_
  have before := step id selected
  have old : page.waiting id = linesFor id page.queue ++ (linesFor id (page.workers.take i) ++
      linesFor id (signal :: page.workers.drop (i + 1))) := by
    rw [← linesFor_append, ← linesFor_append, ← parts]
    rfl
  have new : waiting { page with workers := page.workers.eraseIdx i, queue := page.queue ++ [signal] } id =
      linesFor id page.queue ++ (linesFor id [signal] ++ (linesFor id (page.workers.take i) ++
        linesFor id (page.workers.drop (i + 1)))) := by
    unfold waiting pending
    rw [List.eraseIdx_eq_take_drop_succ, linesFor_append, linesFor_append, linesFor_append, List.append_assoc]
  change page.chatTextEdit ++ waiting _ id = page.lines id ↔ _
  rw [new, ← before, old, List.append_cancel_left_eq, List.append_cancel_left_eq, linesFor_cons, linesFor_cons]
  by_cases shown : signal.shown = some id
  · rw [if_pos shown, linesFor_nil, List.append_nil, ← List.append_assoc, ← List.append_assoc,
      List.append_cancel_right_eq, List.singleton_append, eq_comm, append_singleton_comm_iff]
    constructor
    · intro same _ earlier member shows
      exact same _ (mem_linesFor.mpr ⟨earlier, member, shows, rfl⟩)
    · intro same line member
      obtain ⟨earlier, before, shows, rfl⟩ := mem_linesFor.mp member
      exact same shown earlier before shows
  · simp [shown, linesFor_nil]

theorem waiting_of_queue {page : ChatPage L} {signal : Signal} {queue : List Signal} (head : page.queue = signal :: queue)
    (id : L.InfoHash) :
    page.waiting id = (if signal.shown = some id then [signal.line] else []) ++ waiting { page with queue := queue } id := by
  unfold waiting pending
  rw [head, List.cons_append, linesFor_cons]

/-- A slot that shows nothing is right when its signal is not for the selected conversation. -/
theorem inStep_silent_iff {page : ChatPage L} (step : page.InStep) {signal : Signal} {queue : List Signal}
    (head : page.queue = signal :: queue) :
    InStep { page with queue := queue } ↔ ∀ id ∈ page.selected, signal.shown ≠ some id := by
  refine forall_congr' fun id => forall_congr' fun selected => ?_
  have before := step id selected
  rw [waiting_of_queue head] at before
  change page.chatTextEdit ++ waiting _ id = page.lines id ↔ _
  by_cases shown : signal.shown = some id
  · rw [← before]
    simp [shown]
  · rw [if_neg shown, List.nil_append] at before
    simp [before, shown]

/-- A slot that shows a line is right when its signal is for the selected conversation. -/
theorem inStep_shows_iff {page : ChatPage L} (step : page.InStep) {signal : Signal} {queue : List Signal}
    (head : page.queue = signal :: queue) :
    InStep { page with queue := queue, chatTextEdit := page.chatTextEdit ++ [signal.line] } ↔
      ∀ id ∈ page.selected, signal.shown = some id := by
  refine forall_congr' fun id => forall_congr' fun selected => ?_
  have before := step id selected
  rw [waiting_of_queue head] at before
  change (page.chatTextEdit ++ [signal.line]) ++ waiting { page with queue := queue } id = page.lines id ↔ _
  by_cases shown : signal.shown = some id
  · rw [if_pos shown, ← List.append_assoc] at before
    simp [before, shown]
  · rw [if_neg shown, List.nil_append] at before
    rw [← before]
    simp [shown]

/-- The slot of a sent message keeps the page in step when the message is to oneself, or
    for the selected conversation. -/
theorem inStep_sent_iff {page : ChatPage L} (step : page.InStep) {message : Message} {queue : List Signal}
    (head : page.queue = .message_sent message :: queue) :
    (update_chat_with_sent_message { page with queue := queue } message).InStep ↔
      ((Signal.message_sent message).unasked = true → ∀ id ∈ page.selected, (Signal.message_sent message).shown = some id) := by
  unfold update_chat_with_sent_message
  by_cases self : message.source_public_key = message.destination_public_key
  · rw [if_pos self, inStep_silent_iff step head]
    simp [Signal.unasked, Signal.shown, self]
  · rw [if_neg self, show chatLine message.source_login message.payload.text = (Signal.message_sent message).line from rfl,
      inStep_shows_iff step head]
    simp [Signal.unasked, self]

/-- The slot of a received message asks which contact is selected. -/
theorem update_chat_with_received_message_cases {page next : ChatPage L} {message : Message}
    (updated : page.update_chat_with_received_message message = some next) :
    ∃ public_key, L.publicKey message.source_public_key = some public_key ∧
      (page.selected ≠ some (L.getId public_key) ∧ next = page ∨
        page.selected = some (L.getId public_key) ∧
          next = { page with chatTextEdit := page.chatTextEdit ++ [(Signal.message_received message).line] }) := by
  obtain ⟨chat_history_, workers, queue, currentItem, chatTextEdit⟩ := page
  unfold update_chat_with_received_message at updated
  cases parsed : L.publicKey message.source_public_key with
  | none => simp [parsed] at updated
  | some public_key =>
    refine ⟨public_key, rfl, ?_⟩
    cases currentItem with
    | none =>
      simp only [parsed, Option.some.injEq] at updated
      exact .inl ⟨by simp [selected], updated.symm⟩
    | some contact =>
      simp only [parsed] at updated
      by_cases same : contact.public_key_id = L.getId public_key
      · rw [if_neg (not_not.mpr same), Option.some.injEq] at updated
        exact .inr ⟨by simp [selected, same], updated.symm⟩
      · rw [if_pos same, Option.some.injEq] at updated
        exact .inl ⟨by simp [selected, same], updated.symm⟩

/-- So it always keeps the page in step. -/
theorem inStep_received {page next : ChatPage L} (step : page.InStep) {message : Message} {queue : List Signal}
    (head : page.queue = .message_received message :: queue)
    (updated : update_chat_with_received_message { page with queue := queue } message = some next) : next.InStep := by
  obtain ⟨public_key, parsed, ⟨other, rfl⟩ | ⟨mine, rfl⟩⟩ := update_chat_with_received_message_cases updated
  · refine (inStep_silent_iff step head).mpr fun id selected shown => ?_
    rw [Signal.shown, parsed] at shown
    exact other (selected.trans shown.symm)
  · refine (inStep_shows_iff step head).mpr fun id selected => ?_
    rw [Signal.shown, parsed]
    exact mine.symm.trans selected

/-- A click replays the whole conversation, so nothing of it may still be to come. -/
theorem inStep_click_iff (page : ChatPage L) (contact : Contact L) :
    (page.on_contactsListWidget_itemClicked contact).InStep ↔
      ∀ signal ∈ page.pending, signal.shown ≠ some contact.public_key_id := by
  have replayed : (page.on_contactsListWidget_itemClicked contact).InStep ↔ page.waiting contact.public_key_id = [] := by
    constructor
    · intro after
      have next := after contact.public_key_id rfl
      exact List.append_right_eq_self.mp next
    · intro none id selected
      obtain rfl := Option.some.inj selected
      exact List.append_right_eq_self.mpr none
  rw [replayed, waiting, linesFor, List.map_eq_nil_iff, List.filter_eq_nil_iff]
  simp

/-- The page stays in step exactly when the turn is one that it can follow. -/
theorem inStep_converse_iff {config : Config L} {page next : ChatPage L} {turn : Turn L} (step : page.InStep)
    (taken : converse config page turn = some next) : next.InStep ↔ page.Orderly turn := by
  cases turn with
  | send_handler message =>
    obtain rfl := Option.some.inj taken
    rcases recorded_send_handler page message with ⟨same, nowhere⟩ | ⟨id, conversation, same⟩
    · rw [same]
      exact ⟨fun _ _ id _ conversation => absurd (conversation.symm.trans nowhere) (by simp), fun _ => step⟩
    · rw [same, inStep_record_iff step conversation]
      by_cases self : message.source_public_key = message.destination_public_key
      · have hidden : (Signal.message_sent message).shown ≠ some id := by simp [Signal.shown, self]
        constructor
        · intro shows _ other selected here
          obtain rfl := Option.some.inj (conversation.symm.trans here)
          exact hidden (shows selected)
        · intro orderly selected
          exact absurd conversation (orderly self id selected)
      · have shows : (Signal.message_sent message).shown = some id := by
          rw [Signal.shown, if_neg self]
          exact conversation
        exact ⟨fun _ self' => absurd self' self, fun _ _ => shows⟩
  | receive_handler message =>
    obtain rfl := Option.some.inj taken
    rcases recorded_receive_handler config page message with same | ⟨id, conversation, same⟩
    · rw [same]
      exact ⟨fun _ => trivial, fun _ => step⟩
    · rw [same, inStep_record_iff step conversation]
      exact ⟨fun _ => trivial, fun _ _ => conversation⟩
  | queue i =>
    simp only [P2PMessenger.converse] at taken
    cases at_i : page.workers[i]? with
    | none => simp [at_i] at taken
    | some signal =>
      simp only [at_i, Option.some.injEq] at taken
      subst taken
      rw [inStep_queue_iff step at_i]
      simp [Orderly, at_i]
  | process =>
    cases head : page.queue with
    | nil => simp [P2PMessenger.converse, head] at taken
    | cons signal queue =>
      cases signal with
      | message_sent message =>
        simp only [P2PMessenger.converse, head, Option.some.injEq] at taken
        subst taken
        rw [inStep_sent_iff step head]
        simp [Orderly, head]
      | message_received message =>
        simp only [P2PMessenger.converse, head] at taken
        refine ⟨fun _ => ?_, fun _ => inStep_received step head taken⟩
        simp [Orderly, head, Signal.unasked]
  | click contact =>
    obtain rfl := Option.some.inj taken
    exact inStep_click_iff page contact

end ChatPage

theorem inStep_of_reaches {config : Config L} {page : ChatPage L}
    (reaches : Reaches (converse config) ChatPage.Orderly (ChatPage.initial L) page) : page.InStep :=
  reaches.invariant (fun _ selected => by cases selected) fun _ _ _ step orderly taken => (ChatPage.inStep_converse_iff step taken).mpr orderly

/-- Whenever a contact is selected and no signal is pending, the page shows what it would
    show if the contact were clicked again. -/
def ChatPage.Agrees (page : ChatPage L) : Prop :=
  ∀ contact, page.currentItem = some contact → page.pending = [] →
    page.chatTextEdit = (page.on_contactsListWidget_itemClicked contact).chatTextEdit

/-- When no signal is pending, agreeing is being in step. -/
theorem agrees_iff_inStep {page : ChatPage L} (drained : page.pending = []) : page.Agrees ↔ page.InStep := by
  have nothing : ∀ id : L.InfoHash, page.waiting id = [] := by
    intro id
    rw [ChatPage.waiting, drained, ChatPage.linesFor_nil]
  constructor
  · intro agrees id selected
    obtain ⟨contact, item, rfl⟩ := Option.map_eq_some_iff.mp selected
    rw [nothing, List.append_nil]
    exact agrees contact item drained
  · intro step contact item _
    have shown := step contact.public_key_id (by simp [ChatPage.selected, item])
    rw [nothing, List.append_nil] at shown
    exact shown

/-- As long as every turn is one that the page can follow, the page agrees with the
    history, and before the last signal is processed the lines shown and the lines still to
    come are the history. The turns it cannot follow are those after which they are not. -/
theorem page_agrees_with_history {config : Config L} {page : ChatPage L}
    (reaches : Reaches (converse config) ChatPage.Orderly (ChatPage.initial L) page) :
    page.Agrees ∧ page.InStep ∧
      ∀ turn next, converse config page turn = some next → (next.InStep ↔ page.Orderly turn) := by
  have step := inStep_of_reaches reaches
  refine ⟨fun contact item drained => ?_, step, fun turn next taken => ChatPage.inStep_converse_iff step taken⟩
  exact (agrees_iff_inStep drained).mpr step contact item drained

/-- The contact with this key. -/
def contactOf (key : UInt8) : Contact Sample.libraries := ⟨[98, 111, 98], key⟩

/-- A message of the sample receiver to the owner of this key. -/
def messageTo (key : UInt8) : Message :=
  { Sample.message with source_public_key := [9], destination_public_key := [key], payload := ⟨0, [104, 105]⟩ }

/-- A conversation with the sample sender: each line is shown before the next turn. -/
def orderlyTurns : List (Turn Sample.libraries) :=
  [.click (contactOf 7), .receive_handler Sample.message, .queue 0, .process, .send_handler (messageTo 7), .queue 0, .process]

theorem page_agrees_with_history_sample :
    ∃ page, run (converse Sample.receiver) (ChatPage.initial _) orderlyTurns = some page ∧
      page.chatTextEdit = [(Signal.message_received Sample.message).line, (Signal.message_sent (messageTo 7)).line] ∧
      page.Agrees := by
  have shown : (run (converse Sample.receiver) (ChatPage.initial _) orderlyTurns).map (·.chatTextEdit) =
      some [(Signal.message_received Sample.message).line, (Signal.message_sent (messageTo 7)).line] := by decide +kernel
  obtain ⟨page, taken, lines⟩ := Option.map_eq_some_iff.mp shown
  have orderly : Guarded (converse Sample.receiver) ChatPage.Orderly (ChatPage.initial _) orderlyTurns := by decide +kernel
  exact ⟨page, taken, lines, (page_agrees_with_history (reaches_of_guarded .start orderly taken)).1⟩

/-- The line of a message is shown in another conversation. -/
def foreignTurns : List (Turn Sample.libraries) :=
  [.click (contactOf 7), .send_handler (messageTo 7), .queue 0, .click (contactOf 5), .process]

/-- A message is shown by a click and by its signal. -/
def twiceTurns : List (Turn Sample.libraries) :=
  [.receive_handler Sample.message, .queue 0, .click (contactOf 7), .process]

/-- A message to oneself is recorded twice and shown once. -/
def selfTurns : List (Turn Sample.libraries) :=
  [.click (contactOf 9), .send_handler (messageTo 9), .queue 0, .process, .receive_handler (messageTo 9), .queue 0, .process]

/-- Two workers queue their signals in the other order. -/
def swappedTurns : List (Turn Sample.libraries) :=
  [.click (contactOf 7), .send_handler (messageTo 7), .receive_handler Sample.message, .queue 1, .queue 0, .process, .process]

/-- What is shown at the end of a run, and what a click on the selected contact would show. -/
def shownAndReplayed (page : ChatPage Sample.libraries) : Option (List Bytes × List Bytes) :=
  if page.pending = [] then
    page.currentItem.map fun contact =>
      (page.chatTextEdit, (page.on_contactsListWidget_itemClicked contact).chatTextEdit)
  else none

theorem not_agrees_of_shown {page : ChatPage Sample.libraries} {both : List Bytes × List Bytes}
    (shown : shownAndReplayed page = some both) (differ : both.1 ≠ both.2) : ¬ page.Agrees := by
  intro agrees
  unfold shownAndReplayed at shown
  split_ifs at shown with drained
  obtain ⟨contact, item, rfl⟩ := Option.map_eq_some_iff.mp shown
  exact differ (agrees contact item drained)

theorem not_agrees_of_run {turns : List (Turn Sample.libraries)}
    (differ : ((run (converse Sample.receiver) (ChatPage.initial _) turns).bind shownAndReplayed).any
      (fun both => both.1 ≠ both.2) = true) :
    ∃ page, run (converse Sample.receiver) (ChatPage.initial _) turns = some page ∧ ¬ page.Agrees := by
  obtain ⟨both, shown, apart⟩ := (Option.any_eq_true _ _).mp differ
  obtain ⟨page, taken, shown⟩ := Option.bind_eq_some_iff.mp shown
  exact ⟨page, taken, not_agrees_of_shown shown (of_decide_eq_true apart)⟩

/-- Without any one of the four conditions the page and the history part. -/
theorem page_differs_from_history :
    (∃ page, run (converse Sample.receiver) (ChatPage.initial _) foreignTurns = some page ∧ ¬ page.Agrees) ∧
    (∃ page, run (converse Sample.receiver) (ChatPage.initial _) twiceTurns = some page ∧ ¬ page.Agrees) ∧
    (∃ page, run (converse Sample.receiver) (ChatPage.initial _) selfTurns = some page ∧ ¬ page.Agrees) ∧
    ∃ page, run (converse Sample.receiver) (ChatPage.initial _) swappedTurns = some page ∧ ¬ page.Agrees := by
  refine ⟨?_, ?_, ?_, ?_⟩
  · exact not_agrees_of_run (by decide +kernel)
  · exact not_agrees_of_run (by decide +kernel)
  · exact not_agrees_of_run (by decide +kernel)
  · exact not_agrees_of_run (by decide +kernel)

end P2PMessenger
