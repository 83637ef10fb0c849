import P2PMessenger.ChatPage

/-!
`chatpage.cpp`: the list of contacts. An item is known by its text, which holds the id and
the login of a contact; the id stands in brackets in front, so whatever the login is it
reads back.
-/
namespace P2PMessenger
open Octets Throwing Runs

variable {L : Libraries}

/-- How ids are written and read, and Qt's strings. -/
structure Texts (L : Libraries) where
  /-- `InfoHash::toString`. -/
  idToString : L.InfoHash → Bytes
  /-- The constructor `InfoHash(const std::string&)`. -/
  infoHash : Bytes → Option L.InfoHash
  /-- `InfoHash::operator bool`. -/
  isSet : L.InfoHash → Bool
  QString : Type
  [decQString : DecidableEq QString]
  fromStdString : Bytes → QString
  toStdString : QString → Bytes
  /-- The order of the list, `QListWidgetItem::operator<`. -/
  lessThan : QString → QString → Bool

attribute [instance] Texts.decQString

/-- A hexadecimal digit. -/
def isxdigit (c : UInt8) : Bool := isdigit c || (65 ≤ c && c ≤ 70) || (97 ≤ c && c ≤ 102)

variable (T : Texts L)

/-- Ids are written in hexadecimal digits. -/
def Texts.HexadecimalIds : Prop := ∀ id, ∀ c ∈ T.idToString id, isxdigit c = true

/-- The text of an id is read as that id. -/
def Texts.IdOfToString : Prop := ∀ id, T.infoHash (T.idToString id) = some id

/-- Nothing is lost on the way to Qt and back. -/
def Texts.LosslessQString : Prop := ∀ text, T.toStdString (T.fromStdString text) = text

def contact_to_string (contact : Contact L) : Bytes :=
  [91] ++ T.idToString contact.public_key_id ++ [93, 32] ++ contact.login

/-- The first '[' and the first ']' delimit the id, and the login begins two octets after
    the ']'; `substr` throws when its first position is past the end. -/
def contact_from_string (str_contact : Bytes) : Except Exception (Contact L) :=
  match str_contact.findIdx? (· == 91), str_contact.findIdx? (· == 93) with
  | some first, some last =>
    if last ≤ first then .error (.invalid_argument "Invalid contact format")
    else if str_contact.length < last + 2 then .error (.out_of_range "basic_string::substr")
    else do
      let public_key_str := (str_contact.drop (first + 1)).take (last - first - 1)
      let login := str_contact.drop (last + 2)
      let public_key_id ← orThrow (.invalid_argument "InfoHash") (T.infoHash public_key_str)
      return ⟨login, public_key_id⟩
  | _, _ => .error (.invalid_argument "Invalid contact format")

/-- The text of a contact's item. -/
def itemText (contact : Contact L) : T.QString := T.fromStdString (contact_to_string T contact)

variable {T}

theorem bracket_notMem (hex : T.HexadecimalIds) (id : L.InfoHash) : 93 ∉ [91] ++ T.idToString id := by
  intro member
  have digit := hex id 93 (List.mem_of_ne_of_mem (by decide) member)
  revert digit
  decide

/-- The text of a contact is read as that contact. -/
theorem contact_from_string_to_string (hex : T.HexadecimalIds) (inverse : T.IdOfToString) (contact : Contact L) :
    contact_from_string T (contact_to_string T contact) = .ok contact := by
  have opens : (contact_to_string T contact).findIdx? (· == 91) = some 0 :=
    findIdx?_of_split List.not_mem_nil (T.idToString contact.public_key_id ++ [93, 32] ++ contact.login)
  have closes : (contact_to_string T contact).findIdx? (· == 93) = some ((T.idToString contact.public_key_id).length + 1) := by
    have split : contact_to_string T contact =
        [91] ++ T.idToString contact.public_key_id ++ [93] ++ ([32] ++ contact.login) := by simp [contact_to_string]
    rw [split]
    exact findIdx?_of_split (bracket_notMem hex contact.public_key_id) ([32] ++ contact.login)
  have long : ¬ (contact_to_string T contact).length < (T.idToString contact.public_key_id).length + 1 + 2 := by
    simp [contact_to_string]
  have id : ((contact_to_string T contact).drop (0 + 1)).take ((T.idToString contact.public_key_id).length + 1 - 0 - 1) =
      T.idToString contact.public_key_id := by
    simp [contact_to_string]
  have login : (contact_to_string T contact).drop ((T.idToString contact.public_key_id).length + 1 + 2) = contact.login :=
    List.drop_left' (by simp)
  unfold contact_from_string
  simp only [opens, closes]
  rw [if_neg (by omega), if_neg long, id, login, inverse]
  rfl

theorem itemText_inj (hex : T.HexadecimalIds) (inverse : T.IdOfToString) (lossless : T.LosslessQString)
    {one two : Contact L} : itemText T one = itemText T two ↔ one = two := by
  constructor
  · intro same
    have texts : contact_to_string T one = contact_to_string T two := by
      rw [← lossless (contact_to_string T one), ← lossless (contact_to_string T two)]
      exact congrArg T.toStdString same
    have read := contact_from_string_to_string hex inverse one
    rw [texts, contact_from_string_to_string hex inverse two] at read
    exact (Except.ok.inj read).symm
  · rintro rfl
    rfl

/-! ## The list -/

structure Item (T : Texts L) where
  text : T.QString
  bold : Bool
  deriving DecidableEq

/-- `findItems` with `Qt::MatchExactly`. -/
def findItems (items : List (Item T)) (text : T.QString) : List (Item T) := items.filter fun item => item.text = text

/-- The text of a contact reads back, no two contacts share it, and the items found by it
    are those of the contact. -/
theorem contact_text_round_trip (hex : T.HexadecimalIds) (inverse : T.IdOfToString) (lossless : T.LosslessQString) :
    (∀ contact, contact_from_string T (contact_to_string T contact) = .ok contact) ∧
    (∀ contact, contact_from_string T (T.toStdString (itemText T contact)) = .ok contact) ∧
    (∀ one two, itemText T one = itemText T two ↔ one = two) ∧
    ∀ (contacts : List (Contact L × Bool)) (contact : Contact L),
      findItems (contacts.map fun c => ⟨itemText T c.1, c.2⟩) (itemText T contact) =
        (contacts.filter fun c => c.1 = contact).map fun c => ⟨itemText T c.1, c.2⟩ := by
  have read := contact_from_string_to_string hex inverse
  refine ⟨read, ?_, fun _ _ => itemText_inj hex inverse lossless, ?_⟩
  · intro contact
    rw [itemText, lossless]
    exact read contact
  · intro contacts contact
    unfold findItems
    rw [List.filter_map]
    refine congrArg _ (List.filter_congr fun c _ => ?_)
    simp [itemText_inj hex inverse lossless]

namespace Sample

/-- A hexadecimal digit as OpenDHT writes it. -/
def hexDigit (n : Nat) : UInt8 := UInt8.ofNat (if n < 10 then 48 + n else 87 + n)

def hexValue (c : UInt8) : Option Nat :=
  if isdigit c then some (c.toNat - 48)
  else if 97 ≤ c && c ≤ 102 then some (c.toNat - 87)
  else if 65 ≤ c && c ≤ 70 then some (c.toNat - 55)
  else none

/-- Ids of one octet, in two hexadecimal digits. -/
@[reducible] def texts : Texts libraries where
  idToString id := [hexDigit (id.toNat / 16), hexDigit (id.toNat % 16)]
  infoHash
    | high :: low :: _ => (hexValue high).bind fun high => (hexValue low).map fun low => UInt8.ofNat (16 * high + low)
    | _ => none
  isSet id := id != 0
  QString := Bytes
  fromStdString := id
  toStdString := id
  lessThan one two := decide (one < two)

theorem hexDigit_spec {n : Nat} (digit : n < 16) : isxdigit (hexDigit n) = true ∧ hexValue (hexDigit n) = some n := by
  interval_cases n <;> decide

theorem hexDigits_lt (id : UInt8) : id.toNat / 16 < 16 ∧ id.toNat % 16 < 16 :=
  ⟨Nat.div_lt_of_lt_mul id.toNat_lt, Nat.mod_lt _ (by decide)⟩

theorem hexadecimalIds : texts.HexadecimalIds := by
  intro id c member
  obtain ⟨high, low⟩ := hexDigits_lt id
  rcases List.mem_cons.mp member with rfl | member
  · exact (hexDigit_spec high).1
  · obtain rfl := List.mem_singleton.mp member
    exact (hexDigit_spec low).1

theorem idOfToString : texts.IdOfToString := by
  intro id
  obtain ⟨high, low⟩ := hexDigits_lt id
  show (hexValue (hexDigit (id.toNat / 16))).bind (fun high => (hexValue (hexDigit (id.toNat % 16))).map
    fun low => UInt8.ofNat (16 * high + low)) = some id
  rw [(hexDigit_spec high).2, (hexDigit_spec low).2, Option.bind_some, Option.map_some, Nat.div_add_mod,
    UInt8.ofNat_toNat]

theorem losslessQString : texts.LosslessQString := fun _ => rfl

end Sample

/-- The login "[] x" of another user reads back from "[07] [] x". -/
theorem contact_text_round_trip_sample :
    contact_to_string Sample.texts ⟨[91, 93, 32, 120], (7 : UInt8)⟩ = [91, 48, 55, 93, 32, 91, 93, 32, 120] ∧
      contact_from_string Sample.texts [91, 48, 55, 93, 32, 91, 93, 32, 120] = .ok ⟨[91, 93, 32, 120], (7 : UInt8)⟩ :=
  ⟨rfl, (contact_text_round_trip Sample.hexadecimalIds Sample.idOfToString Sample.losslessQString).1
    ⟨[91, 93, 32, 120], (7 : UInt8)⟩⟩

/-! ## The slots -/

/-- `addItem` of a list that is kept sorted. -/
def addItem (items : List (Item T)) (text : T.QString) : List (Item T) :=
  items.orderedInsert (fun one two => T.lessThan two.text one.text = false) ⟨text, false⟩

/-- The first item with this text is set in bold. -/
def boldFirst (text : T.QString) : List (Item T) → List (Item T)
  | [] => []
  | item :: items => if item.text = text then { item with bold := true } :: items else item :: boldFirst text items

/-- The contact list of the page. -/
structure ContactList (T : Texts L) where
  items : List (Item T)
  /-- The text of `currentItem()`. -/
  currentItem : Option T.QString
  /-- `p2p_messenger_impl_` is not null. -/
  logged_in : Bool

/-- The item of a message's contact, when its source key parses. -/
def messageItem (T : Texts L) (message : Message) : Option T.QString :=
  (L.publicKey message.source_public_key).map fun public_key => itemText T ⟨message.source_login, L.getId public_key⟩

namespace ContactList

/-- The items are looked up before the missing one is added, and not again. -/
def notify (list : ContactList T) (message : Message) : Except Fault (ContactList T) :=
  match messageItem T message with
  | none => .error (.thrown .crypto_exception)
  | some str_item =>
    let items := findItems list.items str_item
    let list := if items = [] then { list with items := addItem list.items str_item } else list
    match items with
    | [] => .error .first_of_empty
    | item :: _ => .ok { list with items := boldFirst item.text list.items }

/-- A message of the selected contact is shown in the chat, and the list stays as it is. -/
def update_chat_with_received_message (list : ContactList T) (message : Message) : Except Fault (ContactList T) :=
  match list.currentItem with
  | none => list.notify message
  | some text =>
    match contact_from_string T (T.toStdString text), L.publicKey message.source_public_key with
    | .error e, _ => .error (.thrown e)
    | .ok _, none => .error (.thrown .crypto_exception)
    | .ok contact, some public_key =>
      if contact.public_key_id ≠ L.getId public_key then list.notify message else .ok list

def update_contacts_list_with_received_contact (list : ContactList T) (contact : Contact L) :
    Except Fault (ContactList T) :=
  if T.isSet contact.public_key_id = true then
    let item := itemText T contact
    let added := if findItems list.items item = [] then addItem list.items item else list.items
    -- the address of the selected contact is looked up through `p2p_messenger_impl_`
    if list.currentItem = some item ∧ list.logged_in = false then .error .null_pointer
    else .ok { list with items := added }
  else .ok list

def on_contactsListWidget_itemClicked (list : ContactList T) (i : Nat) : Except Fault (ContactList T) :=
  match list.items[i]? with
  | none => .ok list
  | some item =>
    match contact_from_string T (T.toStdString item.text) with
    | .error e => .error (.thrown e)
    | .ok _ =>
      if list.logged_in = false then .error .null_pointer
      else .ok { list with items := list.items.set i { item with bold := false }, currentItem := some item.text }

def on_logoutPushButton_clicked (_ : ContactList T) : ContactList T := ⟨[], none, false⟩

def log_in (list : ContactList T) : ContactList T := { list with logged_in := true }

end ContactList

/-- What happens in the GUI thread. -/
inductive GuiEvent (L : Libraries) where
  | contact_received (contact : Contact L)
  | message_received (message : Message)
  /-- A click on the item at this place. -/
  | click (i : Nat)
  | logout
  | login

def occur (list : ContactList T) : GuiEvent L → Except Fault (ContactList T)
  | .contact_received contact => list.update_contacts_list_with_received_contact contact
  | .message_received message => list.update_chat_with_received_message message
  | .click i => list.on_contactsListWidget_itemClicked i
  | .logout => .ok list.on_logoutPushButton_clicked
  | .login => .ok list.log_in

/-- The list after an event whose slot returned. -/
def occurred (list : ContactList T) (event : GuiEvent L) : Option (ContactList T) := (occur list event).toOption

namespace ContactList

/-- The slot of a received message calls `notify`: no contact is selected, or another one. -/
def Notifies (list : ContactList T) (message : Message) : Prop :=
  ∀ text ∈ list.currentItem, ∃ contact public_key, contact_from_string T (T.toStdString text) = .ok contact ∧
    L.publicKey message.source_public_key = some public_key ∧ contact.public_key_id ≠ L.getId public_key

/-- `notify` does not take the first of nothing, and when it returns the item of the
    message's contact stands in the list once and is bold. -/
def Notified (list : ContactList T) (message : Message) : Prop :=
  list.notify message ≠ .error .first_of_empty ∧
    ∀ t, list.notify message = .ok t → ∀ text ∈ messageItem T message, findItems t.items text = [⟨text, true⟩]

/-- `notify` does what it should whenever it is called. -/
def NotifySafe (list : ContactList T) (events : List (GuiEvent L)) : Prop :=
  ∀ before message later t, events = before ++ .message_received message :: later →
    run occurred list before = some t → t.Notifies message → t.Notified message

/-- How often a text stands in the list. -/
def count (list : ContactList T) (text : T.QString) : Nat := (list.items.map Item.text).count text

end ContactList

/-- How often a text stands in the list after an event, told from the event alone. -/
def listedAfter (T : Texts L) (text : T.QString) (n : Nat) : GuiEvent L → Nat
  | .contact_received contact => if T.isSet contact.public_key_id = true ∧ itemText T contact = text ∧ n = 0 then 1 else n
  | .logout => 0
  | _ => n

/-- How often a text stands in the list after some events. -/
def listed (T : Texts L) (text : T.QString) (n : Nat) (events : List (GuiEvent L)) : Nat :=
  events.foldl (listedAfter T text) n

/-! ## Counting items -/

theorem findItems_length (items : List (Item T)) (text : T.QString) :
    (findItems items text).length = (items.map Item.text).count text := by
  rw [findItems, List.count_eq_countP, List.countP_map, List.countP_eq_length_filter]
  congr 1

theorem findItems_eq_nil_iff (items : List (Item T)) (text : T.QString) :
    findItems items text = [] ↔ (items.map Item.text).count text = 0 := by
  rw [← findItems_length, List.length_eq_zero_iff]

theorem count_addItem (items : List (Item T)) (added text : T.QString) :
    ((addItem items added).map Item.text).count text =
      (items.map Item.text).count text + if added = text then 1 else 0 := by
  have perm := (List.perm_orderedInsert (fun one two : Item T => T.lessThan two.text one.text = false)
    ⟨added, false⟩ items).map Item.text
  rw [addItem, perm.count_eq, List.map_cons, List.count_cons]
  simp only [beq_iff_eq]

theorem texts_boldFirst (text : T.QString) (items : List (Item T)) :
    (boldFirst text items).map Item.text = items.map Item.text := by
  induction items with
  | nil => rfl
  | cons item items ih =>
    rw [boldFirst]
    by_cases same : item.text = text
    · rw [if_pos same]
      rfl
    · rw [if_neg same, List.map_cons, ih, List.map_cons]

theorem findItems_boldFirst {items : List (Item T)} {text : T.QString} {item : Item T} {rest : List (Item T)}
    (found : findItems items text = item :: rest) :
    findItems (boldFirst text items) text = { item with bold := true } :: rest := by
  induction items with
  | nil => cases found
  | cons first items ih =>
    rw [boldFirst]
    by_cases same : first.text = text
    · rw [findItems, List.filter_cons_of_pos (by simp [same])] at found
      obtain ⟨rfl, rfl⟩ := List.cons.inj found
      rw [if_pos same, findItems, List.filter_cons_of_pos (by simp [same])]
    · rw [findItems, List.filter_cons_of_neg (by simp [same])] at found
      rw [if_neg same, findItems, List.filter_cons_of_neg (by simp [same])]
      exact ih found

theorem text_of_found {items : List (Item T)} {text : T.QString} {item : Item T} {rest : List (Item T)}
    (found : findItems items text = item :: rest) : item.text = text := by
  have member : item ∈ findItems items text := by rw [found]; exact List.mem_cons_self
  simpa using (List.mem_filter.mp member).2

namespace ContactList

/-- `notify` does its work exactly when the item of the message's contact stands in the
    list once. -/
theorem notified_iff (list : ContactList T) (message : Message) :
    list.Notified message ↔ ∀ text ∈ messageItem T message, list.count text = 1 := by
  unfold Notified notify
  cases item : messageItem T message with
  | none =>
    constructor
    · rintro - text ⟨⟩
    · intro _
      refine ⟨by simp, ?_⟩
      rintro t ⟨⟩
  | some text =>
    simp only [Option.mem_some_iff, forall_eq', count]
    rw [← findItems_length]
    cases found : findItems list.items text with
    | nil => simp
    | cons first rest =>
      have named := text_of_found found
      have bold := findItems_boldFirst found
      simp only [reduceCtorEq, not_false_eq_true, ne_eq, true_and, if_false, named, List.length_cons]
      constructor
      · intro shown
        have after := shown _ rfl
        rw [bold] at after
        rw [(List.cons.inj after).2]
        rfl
      · rintro one t ⟨⟩
        rw [bold, List.length_eq_zero_iff.mp (Nat.succ.inj one), named]

theorem count_notify {list t : ContactList T} {message : Message} (notified : list.notify message = .ok t)
    (text : T.QString) : t.count text = list.count text := by
  unfold notify at notified
  cases item : messageItem T message with
  | none => simp [item] at notified
  | some str_item =>
    simp only [item] at notified
    cases found : findItems list.items str_item with
    | nil => simp [found] at notified
    | cons first rest =>
      simp only [found, reduceCtorEq, if_false, Except.ok.injEq] at notified
      subst notified
      rw [count, texts_boldFirst, count]

/-- The slot calls `notify`, or it leaves the list as it is or throws. -/
theorem update_chat_cases (list : ContactList T) (message : Message) :
    (list.Notifies message ∧ list.update_chat_with_received_message message = list.notify message) ∨
      ¬ list.Notifies message ∧
        (list.update_chat_with_received_message message = .ok list ∨
          ∃ e, list.update_chat_with_received_message message = .error (.thrown e)) := by
  unfold update_chat_with_received_message Notifies
  cases selected : list.currentItem with
  | none => exact .inl ⟨by rintro text ⟨⟩, rfl⟩
  | some text =>
    simp only [Option.mem_some_iff, forall_eq']
    cases parsed : contact_from_string T (T.toStdString text) with
    | error e => exact .inr ⟨by simp, .inr ⟨e, rfl⟩⟩
    | ok contact =>
      cases L.publicKey message.source_public_key with
      | none => exact .inr ⟨by simp, .inr ⟨_, rfl⟩⟩
      | some public_key =>
        by_cases same : contact.public_key_id = L.getId public_key
        · exact .inr ⟨by simp [same], .inl (if_neg (not_not.mpr same))⟩
        · exact .inl ⟨⟨contact, public_key, rfl, rfl, same⟩, if_pos same⟩

theorem count_update_chat {list t : ContactList T} {message : Message}
    (updated : list.update_chat_with_received_message message = .ok t) (text : T.QString) : t.count text = list.count text := by
  rcases list.update_chat_cases message with ⟨-, called⟩ | ⟨-, kept | ⟨e, thrown⟩⟩
  · rw [called] at updated
    exact count_notify updated text
  · rw [kept] at updated
    cases updated
    rfl
  · rw [thrown] at updated
    cases updated

theorem count_update_contacts {list t : ContactList T} {contact : Contact L}
    (updated : list.update_contacts_list_with_received_contact contact = .ok t) (text : T.QString) :
    t.count text = listedAfter T text (list.count text) (.contact_received contact) := by
  unfold update_contacts_list_with_received_contact at updated
  simp only [listedAfter]
  by_cases set : T.isSet contact.public_key_id = true
  · simp only [set, if_true, true_and] at updated ⊢
    by_cases out : list.currentItem = some (itemText T contact) ∧ list.logged_in = false
    · rw [if_pos out] at updated
      cases updated
    · rw [if_neg out] at updated
      cases updated
      by_cases missing : findItems list.items (itemText T contact) = []
      · have none : list.count (itemText T contact) = 0 := (findItems_eq_nil_iff _ _).mp missing
        have added : ((addItem list.items (itemText T contact)).map Item.text).count text =
            list.count text + if itemText T contact = text then 1 else 0 := count_addItem _ _ _
        simp only [if_pos missing]
        refine added.trans ?_
        by_cases same : itemText T contact = text
        · subst same
          simp [none]
        · simp [same]
      · have some : list.count (itemText T contact) ≠ 0 := mt (findItems_eq_nil_iff _ _).mpr missing
        simp only [if_neg missing]
        by_cases same : itemText T contact = text
        · subst same
          simp [some]
        · simp [same]
  · simp only [set] at updated ⊢
    cases updated
    simp

theorem count_click {list t : ContactList T} {i : Nat} (clicked : list.on_contactsListWidget_itemClicked i = .ok t)
    (text : T.QString) : t.count text = list.count text := by
  unfold on_contactsListWidget_itemClicked at clicked
  cases here : list.items[i]? with
  | none =>
    simp only [here] at clicked
    cases clicked
    rfl
  | some item =>
    simp only [here] at clicked
    cases parsed : contact_from_string T (T.toStdString item.text) with
    | error e => simp [parsed] at clicked
    | ok contact =>
      simp only [parsed] at clicked
      split_ifs at clicked with out
      cases clicked
      have texts : (list.items.set i { item with bold := false }).map Item.text = list.items.map Item.text := by
        obtain ⟨inside, rfl⟩ := List.getElem?_eq_some_iff.mp here
        rw [List.map_set, ← List.getElem_map Item.text (h := by simpa using inside), List.set_getElem_self]
      rw [count, texts, count]

/-- What an event makes of how often a text is listed is told from the event. -/
theorem count_occurred {list t : ContactList T} {event : GuiEvent L} (happened : occurred list event = some t)
    (text : T.QString) : t.count text = listedAfter T text (list.count text) event := by
  have returned : occur list event = .ok t := by
    unfold occurred at happened
    cases result : occur list event with
    | error e => simp [result, Except.toOption] at happened
    | ok u =>
      rw [result] at happened
      rw [Option.some.inj happened]
  cases event with
  | contact_received contact => exact count_update_contacts returned text
  | message_received message => exact count_update_chat returned text
  | click i => exact count_click returned text
  | logout =>
    cases returned
    rfl
  | login =>
    cases returned
    rfl

theorem count_run {list t : ContactList T} {events : List (GuiEvent L)} (happened : run occurred list events = some t)
    (text : T.QString) : t.count text = listed T text (list.count text) events := by
  induction events generalizing list with
  | nil =>
    cases happened
    rfl
  | cons event events ih =>
    obtain ⟨next, first, rest⟩ := Option.bind_eq_some_iff.mp happened
    rw [ih rest, count_occurred first]
    rfl

end ContactList

/-! ## Runs -/

theorem listed_append (T : Texts L) (text : T.QString) (n : Nat) (one two : List (GuiEvent L)) :
    listed T text n (one ++ two) = listed T text (listed T text n one) two := List.foldl_append

theorem listedAfter_le_one (T : Texts L) (text : T.QString) {n : Nat} (once : n ≤ 1) (event : GuiEvent L) :
    listedAfter T text n event ≤ 1 := by
  cases event with
  | contact_received contact =>
    simp only [listedAfter]
    split_ifs
    · exact Nat.le_refl 1
    · exact once
  | logout => exact Nat.zero_le 1
  | _ => exact once

theorem listed_le_one (T : Texts L) (text : T.QString) {n : Nat} (once : n ≤ 1) (events : List (GuiEvent L)) :
    listed T text n events ≤ 1 := by
  induction events generalizing n with
  | nil => exact once
  | cons event events ih => exact ih (listedAfter_le_one T text once event)

/-- Only a logout takes an item away. -/
theorem le_listed (T : Texts L) (text : T.QString) (n : Nat) {events : List (GuiEvent L)}
    (staying : ∀ event ∈ events, event ≠ .logout) : n ≤ listed T text n events := by
  induction events generalizing n with
  | nil => exact Nat.le_refl n
  | cons event events ih =>
    obtain ⟨stays, rest⟩ := List.forall_mem_cons.mp staying
    have one : n ≤ listedAfter T text n event := by
      cases event with
      | contact_received contact =>
        simp only [listedAfter]
        split_ifs with added
        · omega
        · exact Nat.le_refl n
      | logout => exact absurd rfl stays
      | _ => exact Nat.le_refl n
    exact Nat.le_trans one (ih (listedAfter T text n event) rest)

/-- A contact that was received since the last logout is listed once, in a list that had it
    once at most. -/
theorem listed_of_received (T : Texts L) {contact : Contact L} (set : T.isSet contact.public_key_id = true) {n : Nat}
    (once : n ≤ 1) (earlier : List (GuiEvent L)) {since : List (GuiEvent L)}
    (staying : ∀ event ∈ since, event ≠ .logout) :
    listed T (itemText T contact) n (earlier ++ .contact_received contact :: since) = 1 := by
  have most := listed_le_one T (itemText T contact) once (earlier ++ .contact_received contact :: since)
  have received : 1 ≤ listedAfter T (itemText T contact) (listed T (itemText T contact) n earlier)
      (.contact_received contact) := by
    simp only [listedAfter, set, true_and]
    split_ifs with none
    · exact Nat.le_refl 1
    · exact Nat.one_le_iff_ne_zero.mpr none
  have stayed := le_listed T (itemText T contact)
    (listedAfter T (itemText T contact) (listed T (itemText T contact) n earlier) (.contact_received contact)) staying
  rw [listed_append] at most ⊢
  exact Nat.le_antisymm most (Nat.le_trans received stayed)

/-- Every message is received after its contact was, with events of some kind between. -/
def Announced (between : GuiEvent L → Prop) (events : List (GuiEvent L)) : Prop :=
  ∀ before message later, events = before ++ .message_received message :: later →
    ∀ public_key, L.publicKey message.source_public_key = some public_key →
      ∃ earlier since, before = earlier ++ .contact_received ⟨message.source_login, L.getId public_key⟩ :: since ∧
        ∀ event ∈ since, between event

theorem notifySafe_iff (list : ContactList T) (events : List (GuiEvent L)) :
    list.NotifySafe events ↔
      ∀ before message later t, events = before ++ .message_received message :: later →
        run occurred list before = some t → t.Notifies message →
        ∀ text ∈ messageItem T message, listed T text (list.count text) before = 1 := by
  refine forall₄_congr fun before message later t => ?_
  refine forall₂_congr fun split happened => forall_congr' fun _ => ?_
  rw [ContactList.notified_iff]
  refine forall₂_congr fun text _ => ?_
  rw [ContactList.count_run happened]

/-- `notify` is safe in a run exactly when, each time it is called, the events tell that the
    item of the message's contact is listed once: it was when the run began, or its contact
    was received, and there was no logout since. In particular it is when every message is
    received after its contact without a logout between. -/
theorem notify_is_safe_iff (list : ContactList T) (events : List (GuiEvent L)) :
    (list.NotifySafe events ↔
      ∀ before message later t, events = before ++ .message_received message :: later →
        run occurred list before = some t → t.Notifies message →
        ∀ text ∈ messageItem T message, listed T text (list.count text) before = 1) ∧
    ((∀ text, list.count text ≤ 1) →
      (∀ contact, .contact_received contact ∈ events → T.isSet contact.public_key_id = true) →
      Announced (· ≠ .logout) events → list.NotifySafe events) := by
  refine ⟨notifySafe_iff list events, ?_⟩
  intro once set announced
  rw [notifySafe_iff]
  intro before message later t split _ _ text named
  obtain ⟨public_key, parsed, rfl⟩ := Option.map_eq_some_iff.mp named
  obtain ⟨earlier, since, rfl, staying⟩ := announced before message later split public_key parsed
  have received : .contact_received ⟨message.source_login, L.getId public_key⟩ ∈ events := by
    rw [split]
    simp
  exact listed_of_received T (set _ received) (once _) earlier staying

/-- The contact of the sample message is received, and then the message. -/
def promptMessage : List (GuiEvent Sample.libraries) :=
  [.contact_received ⟨Sample.message.source_login, (7 : UInt8)⟩, .message_received Sample.message]

theorem notify_is_safe_iff_sample : (⟨[], none, true⟩ : ContactList Sample.texts).NotifySafe promptMessage := by
  refine (notify_is_safe_iff (⟨[], none, true⟩ : ContactList Sample.texts) promptMessage).2 (fun _ => Nat.zero_le 1) ?_ ?_
  · intro contact member
    simp only [promptMessage, List.mem_cons, GuiEvent.contact_received.injEq, reduceCtorEq, List.not_mem_nil, or_false] at member
    rw [member]
    rfl
  · intro before message later split public_key parsed
    have same : message = Sample.message ∧ before = promptMessage.take 1 := by
      unfold promptMessage at split
      rcases before with _ | ⟨one, _ | ⟨two, before⟩⟩
      · cases split
      · cases split
        exact ⟨rfl, rfl⟩
      · simp at split
    obtain ⟨rfl, rfl⟩ := same
    obtain rfl : (7 : UInt8) = public_key := Option.some.inj parsed
    exact ⟨[], [], rfl, by simp⟩

/-- The contact of the sample message is received, the user logs out, and then the message,
    which was already on its way, is received. -/
def lateMessage : List (GuiEvent Sample.libraries) :=
  [.contact_received ⟨Sample.message.source_login, (7 : UInt8)⟩, .logout, .message_received Sample.message]

theorem notify_takes_first_of_empty :
    Announced (fun _ => True) lateMessage ∧
      ¬ (⟨[], none, true⟩ : ContactList Sample.texts).NotifySafe lateMessage ∧
      (⟨[], none, false⟩ : ContactList Sample.texts).notify Sample.message = .error .first_of_empty := by
  have empty : (⟨[], none, false⟩ : ContactList Sample.texts).notify Sample.message = .error .first_of_empty := rfl
  refine ⟨?_, ?_, empty⟩
  · intro before message later split public_key parsed
    have same : message = Sample.message ∧ before = lateMessage.take 2 := by
      unfold lateMessage at split
      rcases before with _ | ⟨one, _ | ⟨two, _ | ⟨three, before⟩⟩⟩
      · cases split
      · cases split
      · cases split
        exact ⟨rfl, rfl⟩
      · simp at split
    obtain ⟨rfl, rfl⟩ := same
    obtain rfl : (7 : UInt8) = public_key := Option.some.inj parsed
    exact ⟨[], [.logout], rfl, fun _ _ => trivial⟩
  · intro safe
    have called : (⟨[], none, false⟩ : ContactList Sample.texts).Notifies Sample.message := by
      intro text absent
      cases absent
    exact (safe (lateMessage.take 2) Sample.message [] ⟨[], none, false⟩ rfl rfl called).1 empty

end P2PMessenger
