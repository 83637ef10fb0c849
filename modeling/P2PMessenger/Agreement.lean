import P2PMessenger.Narrowing
import P2PMessenger.Network

/-!
Agreement against an active network: what a node has received under the key of an
honest node, that node has sent to it. The invariant is that everything signed was
composed by a call. A received message then has its octets in common with a composed
one, and the layout lets two messages with the same octets differ in nothing but the
fields that the encoder cut.
-/
namespace P2PMessenger
open Octets Memory Layout Throwing Runs

variable {ν : Type} {L : Libraries}

/-- A node that accepts the octets of a call is the one the call was for, and reads the
    caller's login and text. -/
theorem accepted_is_composed {sender receiver : Config L} {env : Environment L}
    {destination_address destination_login text inner payload_buffer : Bytes} {public_key : L.PublicKey}
    {message composedMessage : Message}
    (keys : L.DecryptUndoesEncrypt receiver.public_key receiver.private_key_) (strings : L.PublicKeyOfToString)
    (json : L.ParseUndoesSerializeOrThrows) (login : sender.my_login_.length ≤ 255) (short : inner.length ≤ 65535)
    (built : composed sender env destination_address destination_login public_key text = .ok (composedMessage, inner))
    (starts : Starts messageLayout (message.fields payload_buffer) inner)
    (mine : message.destination_public_key = receiver.public_key_string)
    (opens : openPayload L receiver.private_key_ message.header payload_buffer = .ok message) :
    public_key = receiver.public_key ∧ message.source_login = sender.my_login_ ∧ message.payload.text = text := by
  -- The octets start with the narrowed message, so these are the values read.
  obtain ⟨encrypted_buffer, encrypted, written⟩ := composed_starts built short
  obtain ⟨ip, port, -, -, rfl, -, -⟩ := composed_eq_ok built
  have same := starts_unique starts written
  simp only [Message.fields, Message.narrowed, List.cons.injEq, Config.message] at same
  obtain ⟨-, -, -, sameLogin, -, -, -, -, sameKey, samePayload, -⟩ := same
  rw [(narrowed_eq_self_iff _).mpr login] at sameLogin
  have key : public_key = receiver.public_key := by
    refine toString_injective strings ?_
    rw [← sameKey, mine]
    rfl
  refine ⟨key, sameLogin, ?_⟩
  subst key samePayload
  unfold openPayload at opens
  obtain ⟨opened, decrypted, parses⟩ := bind_eq_ok opens
  obtain ⟨payload, parsed, returned⟩ := bind_eq_ok parses
  rw [decrypt, keys _ _ _ (orThrow_eq_ok.mp encrypted), orThrow_some, Except.ok.injEq] at decrypted
  subst decrypted
  have payloadIs := payload_round_trip_or_throws json parsed
  rw [← Except.ok.inj returned, payloadIs]
  rfl

/-! ## The guard on the network -/

/-- Whatever a node decodes, a signature in it verifies under an honest node's key only
    if that node has signed just those octets. -/
def Unforged (setting : Setting ν L) (honest : ν → Prop) (s : Network ν L) : Action ν L → Prop
  | .receive _ env packet _ => ∀ a, honest a → ∀ signed_message,
      signed_message_from_buffer packet.buffer env.beyond = .ok signed_message →
      L.checkSignature (setting.config a).public_key signed_message.message signed_message.signature = some true →
      ∃ call, .did a call (.sign signed_message.message) ∈ s.log
  | _ => True

/-- A node's call of `send_message`, for a key and with a text. -/
def Called (log : List (Event ν L)) (a : ν) (public_key : L.PublicKey) (text : Bytes) : Prop :=
  ∃ call destination_address destination_login,
    .called a call destination_address destination_login public_key text ∈ log

/-- Octets that a call of a node composed. -/
def Composed (setting : Setting ν L) (log : List (Event ν L)) (a : ν) (inner : Bytes) : Prop :=
  ∃ env call destination_address destination_login public_key text message,
    .called a call destination_address destination_login public_key text ∈ log ∧
    composed (setting.config a) env destination_address destination_login public_key text = .ok (message, inner)

/-- An entry that a receive handler appended under an honest node's id goes back to a
    call of that node. -/
def Backed (setting : Setting ν L) (honest : ν → Prop) (before : List (Event ν L)) (event : Event ν L) : Prop :=
  ∀ a b call login text, honest a →
    event = .did b call (.append .received (L.getId (setting.config a).public_key) login text) →
    login = (setting.config a).my_login_ ∧ Called before a (setting.config b).public_key text

structure Authentic (setting : Setting ν L) (honest : ν → Prop) (s : Network ν L) : Prop where
  signs : ∀ a call inner, .did a call (.sign inner) ∈ s.log → Composed setting s.log a inner
  appends : Justified (Backed setting honest) s.log

theorem Composed.mono {setting : Setting ν L} {log : List (Event ν L)} {a : ν} {inner : Bytes}
    (composed : Composed setting log a inner) (more : List (Event ν L)) : Composed setting (log ++ more) a inner := by
  obtain ⟨env, call, address, login, key, text, message, called, built⟩ := composed
  exact ⟨env, call, address, login, key, text, message, List.mem_append_left _ called, built⟩

theorem Backed.mono {setting : Setting ν L} {honest : ν → Prop} (before more : List (Event ν L)) (event : Event ν L)
    (backed : Backed setting honest before event) : Backed setting honest (before ++ more) event := by
  intro a b call login text good same
  obtain ⟨loginIs, number, address, destination_login, called⟩ := backed a b call login text good same
  exact ⟨loginIs, number, address, destination_login, List.mem_append_left _ called⟩

/-- Events that neither sign nor append what was received change nothing. -/
theorem Authentic.quiet {setting : Setting ν L} {honest : ν → Prop} {s t : Network ν L} {added : List (Event ν L)}
    (authentic : Authentic setting honest s) (log : t.log = s.log ++ added)
    (silent : ∀ a call inner, .did a call (.sign inner) ∉ added)
    (backed : ∀ event ∈ added, Backed setting honest s.log event) : Authentic setting honest t where
  signs a call inner member := by
    rw [log] at member ⊢
    rcases List.mem_append.mp member with old | new
    · exact (authentic.signs a call inner old).mono added
    · exact absurd new (silent a call inner)
  appends := by
    rw [log]
    exact authentic.appends.append Backed.mono backed

theorem authentic_initial (setting : Setting ν L) (honest : ν → Prop) :
    Authentic setting honest (Network.initial ν L) := ⟨by simp [Network.initial], justified_nil _⟩

/-- A call signs what it composes, and appends nothing as received. -/
theorem Authentic.called {setting : Setting ν L} {honest : ν → Prop} {s t : Network ν L} {n : ν} {env : Environment L}
    {address login : Bytes} {key : L.PublicKey} {text : Bytes} {added : List (Effect L)}
    (authentic : Authentic setting honest s)
    (effects : match composed (setting.config n) env address login key text with
      | .error _ => added = []
      | .ok (message, inner) => Cut added ((setting.config n).callEffects message inner))
    (ran : Network.Ran { s with
        calls := s.calls + 1
        log := s.log ++ [.called n s.calls address login key text] } t n (some s.calls) added) :
    Authentic setting honest t := by
  have log : t.log = s.log ++ (.called n s.calls address login key text :: added.map (.did n (some s.calls))) := by
    rw [ran.log, List.append_assoc]
    rfl
  constructor
  · intro a call inner member
    rw [log] at member ⊢
    rcases List.mem_append.mp member with old | new
    · exact (authentic.signs a call inner old).mono _
    rcases List.mem_cons.mp new with first | new
    · cases first
    obtain ⟨effect, there, same⟩ := List.mem_map.mp new
    cases same
    obtain ⟨message, octets, built, -, whole⟩ := mem_callEffects_of_mem effects there
    obtain rfl := mem_callEffects_sign whole
    exact ⟨env, s.calls, address, login, key, text, message, List.mem_append_right _ List.mem_cons_self, built⟩
  · rw [log]
    refine authentic.appends.append Backed.mono ?_
    intro event new a b call appended entry good same
    subst same
    rcases List.mem_cons.mp new with first | new
    · cases first
    obtain ⟨effect, there, same⟩ := List.mem_map.mp new
    cases same
    obtain ⟨message, octets, -, -, whole⟩ := mem_callEffects_of_mem effects there
    cases mem_callEffects_append whole

/-- A receive handler appends, under an honest node's id, only what that node has signed. -/
theorem Authentic.received {setting : Setting ν L} {honest : ν → Prop} {s t : Network ν L} {n : ν} {env : Environment L}
    {packet : Packet L} {packets : List (Packet L)} {remote_endpoint : Endpoint L} {resolver : MetadataIpResolver L}
    {added : List (Effect L)} (authentic : Authentic setting honest s)
    (keys : L.DecryptUndoesEncrypt (setting.config n).public_key (setting.config n).private_key_)
    (strings : L.PublicKeyOfToString) (ids : L.DistinctIds) (json : L.ParseUndoesSerializeOrThrows)
    (logins : ∀ a, honest a → (setting.config a).my_login_.length ≤ 255)
    (unforged : Unforged setting honest s (.receive n env packet remote_endpoint))
    (handling : Handling (setting.config n) resolver packet.buffer added)
    (ran : Network.Ran { s with packets := packets } t n packet.call added) : Authentic setting honest t := by
  refine authentic.quiet ran.log ?_ ?_
  · intro a call inner member
    obtain ⟨effect, new, same⟩ := List.mem_map.mp member
    cases same
    exact handling.not_sign new
  · intro event member a b call login text good same
    obtain ⟨effect, new, did⟩ := List.mem_map.mp member
    rw [same] at did
    cases did
    obtain ⟨message, public_key, accepts, id, rfl, rfl⟩ := handling.mem_append new
    obtain rfl := ids id
    obtain ⟨signed_message, payload_buffer, frame, starts, mine, opens, -, verified⟩ := accepts
    -- The guard gives the signature, and the signature the call.
    obtain ⟨number, signed⟩ := unforged a good signed_message (signed_message_from_buffer_of_starts frame _) verified
    obtain ⟨env', call', address, destination_login, key, text, sent, called, built⟩ := authentic.signs _ _ _ signed
    have short : signed_message.message.length ≤ 65535 := (signed_message.fits_iff.mp frame.1).1
    obtain ⟨keyIs, loginIs, textIs⟩ :=
      accepted_is_composed keys strings json (logins a good) short built starts mine opens
    refine ⟨loginIs, call', address, destination_login, ?_⟩
    rw [← keyIs, textIs]
    exact called

variable [DecidableEq ν]

theorem authentic_step {setting : Setting ν L} {honest : ν → Prop}
    (keys : ∀ b, L.DecryptUndoesEncrypt (setting.config b).public_key (setting.config b).private_key_)
    (strings : L.PublicKeyOfToString) (ids : L.DistinctIds) (json : L.ParseUndoesSerializeOrThrows)
    (logins : ∀ a, honest a → (setting.config a).my_login_.length ≤ 255) (s : Network ν L) (action : Action ν L)
    (t : Network ν L) (authentic : Authentic setting honest s) (unforged : Unforged setting honest s action)
    (taken : step setting s action = some t) : Authentic setting honest t := by
  cases takes_of_step taken with
  | called added effects ran => exact authentic.called effects ran
  | @received n env packet remote_endpoint added there owned handling ran =>
    exact authentic.received (keys n) strings ids json logins unforged handling ran
  | punched added punches ran =>
    refine authentic.quiet ran.log ?_ ?_
    · intro a call inner member
      obtain ⟨effect, new, same⟩ := List.mem_map.mp member
      cases same
      obtain ⟨endpoint, punch⟩ := punches _ new
      cases punch
    · intro event member a b call login text good same
      obtain ⟨effect, new, did⟩ := List.mem_map.mp member
      rw [same] at did
      cases did
      obtain ⟨endpoint, punch⟩ := punches _ new
      cases punch
  | dropped there same =>
    subst same
    exact ⟨authentic.signs, authentic.appends⟩
  | duplicated there same =>
    subst same
    exact ⟨authentic.signs, authentic.appends⟩
  | injected same =>
    subst same
    exact ⟨authentic.signs, authentic.appends⟩

/-- Every history holds only what was appended at its node, and what a receive handler
    appended under the id of an honest node, that node has sent before: to the key of the
    node that received it, under its own login and with the same text. -/
theorem agreement {setting : Setting ν L} {honest : ν → Prop}
    (keys : ∀ b, L.DecryptUndoesEncrypt (setting.config b).public_key (setting.config b).private_key_)
    (strings : L.PublicKeyOfToString) (ids : L.DistinctIds) (json : L.ParseUndoesSerializeOrThrows)
    (logins : ∀ a, honest a → (setting.config a).my_login_.length ≤ 255) {s : Network ν L}
    (reaches : Reaches (step setting) (Unforged setting honest) (Network.initial ν L) s) :
    (∀ n id login text, (login, text) ∈ (s.nodes n).chat_history_.entries id →
      ∃ call origin, .did n call (.append origin id login text) ∈ s.log) ∧
    ∀ a b call login text before later, honest a →
      s.log = before ++ .did b call (.append .received (L.getId (setting.config a).public_key) login text) :: later →
      login = (setting.config a).my_login_ ∧
        ∃ number destination_address destination_login,
          .called a number destination_address destination_login (setting.config b).public_key text ∈ before := by
  have recorded : s.Recorded := reaches.invariant recorded_initial fun _ _ _ recorded _ taken => recorded_step recorded taken
  have authentic : Authentic setting honest s :=
    reaches.invariant (authentic_initial setting honest) (authentic_step keys strings ids json logins)
  constructor
  · intro n id login text entry
    exact recorded.appended entry
  · intro a b call login text before later good split
    exact authentic.appends before _ later split a b call login text good rfl

theorem agreement_sample :
    ∃ s before later,
      run (step Sample.setting) (Network.initial _ _)
        [Sample.call, .receive .receiver Sample.environment Sample.direct Sample.elsewhere] = some s ∧
      s.log = before ++ .did .receiver (some 0) (.append .received (Sample.sender.public_key)
        Sample.message.source_login Sample.message.payload.text) :: later ∧
      ∃ number destination_address destination_login,
        .called .sender number destination_address destination_login Sample.receiver.public_key
          Sample.message.payload.text ∈ before := by
  have sent : ((step Sample.setting (Network.initial _ _) Sample.call).map (·.log)) =
      some (Sample.delivered.take 7) := by decide +kernel
  have handled : (run (step Sample.setting) (Network.initial _ _)
      [Sample.call, .receive .receiver Sample.environment Sample.direct Sample.elsewhere]).map (·.log) =
      some Sample.delivered := by decide +kernel
  obtain ⟨s, taken, sentLog⟩ := Option.map_eq_some_iff.mp sent
  obtain ⟨t, ran, log⟩ := Option.map_eq_some_iff.mp handled
  have received : step Sample.setting s (.receive .receiver Sample.environment Sample.direct Sample.elsewhere) = some t := by
    simpa only [run, taken, Option.bind_some, Option.bind_fun_some] using ran
  -- The only key that verifies the signature is the sender's, and the sender has signed.
  have unforged : Unforged Sample.setting (fun n => n = .sender) s
      (.receive .receiver Sample.environment Sample.direct Sample.elsewhere) := by
    rintro a rfl signed_message decoded -
    have frame : signed_message_from_buffer Sample.datagram Sample.environment.beyond =
      .ok ⟨Sample.inner, 7 :: Sample.inner⟩ := by decide +kernel
    obtain rfl := Except.ok.inj (frame.symm.trans decoded)
    refine ⟨some 0, ?_⟩
    rw [sentLog]
    decide +kernel
  have first : Reaches (step Sample.setting) (Unforged Sample.setting (fun n => n = .sender)) (Network.initial _ _) s :=
    Reaches.start.step (a := Sample.call) True.intro taken
  have reaches := first.step unforged received
  have split : t.log = Sample.delivered.take 9 ++ .did .receiver (some 0) (.append .received (Sample.sender.public_key)
      Sample.message.source_login Sample.message.payload.text) :: Sample.delivered.drop 10 := by
    rw [log]
    decide +kernel
  have keys : ∀ n, Sample.libraries.DecryptUndoesEncrypt (Sample.setting.config n).public_key
      (Sample.setting.config n).private_key_ := fun n => Sample.decryptUndoesEncrypt _
  obtain ⟨-, calls⟩ := agreement keys Sample.publicKeyOfToString Sample.distinctIds
    (fun payload => .inl (Sample.parseUndoesSerialize payload)) (by rintro a rfl; decide) reaches
  exact ⟨t, _, _, ran, split, (calls .sender .receiver _ _ _ _ _ rfl split).2⟩

end P2PMessenger
