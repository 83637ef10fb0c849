import P2PMessenger.Addresses
import P2PMessenger.Streams

/-!
How the login page finds the node's IP: it asks a web server and reads the reply with the
stream operators. Reading stops with the piece of the reply that has the end of the header,
and what has come of the body until then is the IP.
-/
namespace P2PMessenger
open Octets Streams

/-- `>>` of an `unsigned int`. A stream that has nothing left leaves the variable alone. -/
def readUnsigned (status_code : UInt32) (s : Stream UInt8) : UInt32 × Stream UInt8 :=
  let s := s.sentry isspace
  if s.good then
    let negative := s.rest.head? == some 45
    let unsigned := if negative || s.rest.head? == some 43 then s.rest.tail else s.rest
    let (digits, s) := ({ s with rest := unsigned } : Stream UInt8).take isdigit
    if digits.isEmpty then (0, { s with fail := true })
    else if 2 ^ 32 ≤ digitsValue digits then (UInt32.ofNat (2 ^ 32 - 1), { s with fail := true })
    else (if negative then 0 - UInt32.ofNat (digitsValue digits) else UInt32.ofNat (digitsValue digits), s)
  else (status_code, s)

/-- `boost::algorithm::trim`. -/
def trim (text : Bytes) : Bytes := ((text.dropWhile isspace).reverse.dropWhile isspace).reverse

/-- The octets `\r\n\r\n`. -/
def headerEnd : Bytes := [13, 10, 13, 10]

/-- The text that `LoginPage::on_resolvePushButton_clicked` sets, if it sets one, for a reply that
    comes in these pieces. The first argument is what is in `status_code` before it is read. -/
def on_resolvePushButton_clicked (status_code : UInt32) (pieces : List Bytes) : Option Bytes :=
  match readUntil headerEnd [] pieces with
  | none => none
  | some response =>
    let (_, s) := (Stream.opened response).word isspace
    let (status_code, s) := readUnsigned status_code s
    let (_, s) := s.getline 10
    let s := s.skipLines 10 [13] (s.rest.length + 1)
    if status_code = 200 then some (trim s.rest) else none

/-- The loop has come to its end in the steps it is given. -/
theorem header_loop_ends (s : Stream UInt8) (more : Nat) :
    s.skipLines 10 [13] (s.rest.length + 1 + more) = s.skipLines 10 [13] (s.rest.length + 1) :=
  Stream.skipLines_of_lt 10 [13] (Nat.lt_succ_self _) more

/-- A number is read up to what is no digit. -/
theorem readUnsigned_append (status_code code : UInt32) {stop : UInt8} (stops : isdigit stop = false) (rest : Bytes) :
    readUnsigned status_code (.opened (32 :: (to_string code.toNat ++ stop :: rest))) = (code, .opened (stop :: rest)) := by
  have digits := to_string_digits code.toNat
  have value := digitsValue_to_string code.toNat
  have small := code.toNat_lt
  cases spelled : to_string code.toNat with
  | nil => exact absurd spelled (to_string_ne_nil _)
  | cons first more =>
    rw [spelled] at digits value
    have digit := digits first List.mem_cons_self
    have ready : (Stream.opened (32 :: (first :: more ++ stop :: rest))).sentry isspace =
        .opened (first :: more ++ stop :: rest) :=
      Stream.sentry_append (show ∀ c ∈ [32], isspace c = true by decide +kernel) (isspace_of_isdigit digit) _
    have no_sign : first ≠ 45 ∧ first ≠ 43 := by
      constructor <;> rintro rfl <;> exact absurd digit (by decide)
    have taken := Stream.take_append isdigit digits stops rest
    have sign : ((Stream.opened (first :: more ++ stop :: rest)).rest.head? == some 45) = false ∧
        ((Stream.opened (first :: more ++ stop :: rest)).rest.head? == some 43) = false := by
      simpa [Stream.opened] using no_sign
    unfold readUnsigned
    rw [ready]
    simp only [sign.1, sign.2, Bool.or_self, Bool.false_eq_true, if_false]
    rw [show ({ Stream.opened (first :: more ++ stop :: rest) with
      rest := (Stream.opened (first :: more ++ stop :: rest)).rest } : Stream UInt8) = .opened (first :: more ++ stop :: rest) from rfl,
      taken, value, if_neg (Nat.not_le.mpr small), UInt32.ofNat_toNat]
    rfl

/-- A reply of a server: the words of its status line, the lines of its header and a body. -/
structure Reply where
  version : Bytes
  code : UInt32
  /-- What comes after the code. -/
  reason : Bytes
  headers : List Bytes
  body : Bytes
  version_ne : version ≠ []
  version_plain : ∀ c ∈ version, isspace c = false
  reason_plain : 10 ∉ reason
  reason_head : ∀ c ∈ reason.head?, isdigit c = false
  headers_plain : ∀ header ∈ headers, 10 ∉ header ∧ header ≠ []

namespace Reply
variable (reply : Reply)

def status_line : Bytes := reply.version ++ [32] ++ to_string reply.code.toNat ++ reply.reason ++ [13]

def lines : List Bytes := reply.status_line :: reply.headers.map (· ++ [13])

/-- Everything before the body. -/
def head : Bytes := Stream.unlines 10 reply.lines ++ [13, 10]

def octets : Bytes := reply.head ++ reply.body

theorem isdigit_ne_newline {c : UInt8} (digit : isdigit c = true) : c ≠ 10 := by
  rintro rfl
  exact absurd digit (by decide)

theorem newline_notMem_status_line : 10 ∉ reply.status_line := by
  unfold status_line
  simp only [List.mem_append, List.mem_singleton, not_or]
  refine ⟨⟨⟨⟨fun member => ?_, by decide⟩, fun member => ?_⟩, reply.reason_plain⟩, by decide⟩
  · exact absurd (reply.version_plain 10 member) (by decide)
  · exact isdigit_ne_newline (to_string_digits _ 10 member) rfl

theorem lines_plain : ∀ line ∈ reply.lines, 10 ∉ line ∧ line ≠ [13] := by
  intro line member
  rcases List.mem_cons.mp member with rfl | member
  · refine ⟨reply.newline_notMem_status_line, fun same => ?_⟩
    have length := congrArg List.length same
    simp only [status_line, List.length_append, List.length_cons, List.length_nil] at length
    omega
  · obtain ⟨header, inside, rfl⟩ := List.mem_map.mp member
    obtain ⟨plain, some_header⟩ := reply.headers_plain header inside
    refine ⟨by simpa using plain, fun same => some_header ?_⟩
    simpa using same

/-- Every line of the head ends in a carriage return, so the head ends in the end of the header. -/
theorem head_eq : ∃ before, reply.head = before ++ headerEnd := by
  obtain ⟨first, last, split⟩ : ∃ first last, reply.lines = first ++ [last ++ [13]] := by
    rcases List.eq_nil_or_concat reply.headers with none | ⟨headers, header, some_headers⟩
    · exact ⟨[], reply.version ++ [32] ++ to_string reply.code.toNat ++ reply.reason, by simp [lines, status_line, none]⟩
    · exact ⟨reply.status_line :: headers.map (· ++ [13]), header, by simp [lines, some_headers]⟩
  refine ⟨Stream.unlines 10 first ++ last, ?_⟩
  simp [head, split, Stream.unlines, headerEnd]

/-- The header is complete with the head, and not before. -/
theorem headerEnd_infix_iff {arrived : Bytes} (begins : arrived <+: reply.octets) :
    headerEnd <:+: arrived ↔ reply.head.length ≤ arrived.length := by
  constructor
  · rintro ⟨before, after, rfl⟩
    have split : before ++ [13] ++ 10 :: ([13] ++ [10]) <+: Stream.unlines 10 reply.lines ++ ([13] ++ 10 :: reply.body) := by
      have same : before ++ [13] ++ 10 :: ([13] ++ [10]) = before ++ headerEnd := by simp [headerEnd]
      have whole : Stream.unlines 10 reply.lines ++ ([13] ++ 10 :: reply.body) = reply.octets := by simp [octets, head]
      rw [same, whole]
      exact (List.prefix_append _ after).trans begins
    have late := Stream.unlines_length_le (by decide) reply.lines_plain split
    simp only [head, headerEnd, List.length_append, List.length_cons, List.length_nil] at late ⊢
    omega
  · intro enough
    obtain ⟨before, ends⟩ := reply.head_eq
    have inside : reply.head <+: arrived := List.prefix_of_prefix_length_le (List.prefix_append _ _) begins enough
    rw [ends] at inside
    exact (List.infix_append before headerEnd []).trans (by simpa using inside.isInfix)

/-- The stream operators take the head apart. -/
theorem read_head (status_code : UInt32) (rest : Bytes) :
    let (_, s) := (Stream.opened (reply.head ++ rest)).word isspace
    let (found, s) := readUnsigned status_code s
    let (_, s) := s.getline 10
    found = reply.code ∧ s.skipLines 10 [13] (s.rest.length + 1) = .opened rest := by
  let more := Stream.unlines 10 (reply.headers.map (· ++ [13])) ++ ([13] ++ 10 :: rest)
  obtain ⟨stop, tail, ends, stops⟩ : ∃ stop tail, reply.reason ++ [13] = stop :: tail ∧ isdigit stop = false := by
    cases spelled : reply.reason with
    | nil => exact ⟨13, [], rfl, by decide⟩
    | cons first tail => exact ⟨first, tail ++ [13], rfl, reply.reason_head first (by rw [spelled]; rfl)⟩
  obtain ⟨first, letters, version⟩ := List.exists_cons_of_ne_nil reply.version_ne
  have plain := reply.version_plain
  rw [version] at plain
  have whole : reply.head ++ rest = first :: letters ++ 32 :: (to_string reply.code.toNat ++ stop :: (tail ++ 10 :: more)) := by
    have line : reply.status_line = first :: letters ++ 32 :: (to_string reply.code.toNat ++ stop :: tail) := by
      rw [← ends, ← version]
      simp [status_line]
    rw [head, lines, Stream.unlines_cons, line]
    simp [more]
  have word := Stream.word_append plain (show isspace 32 = true by decide) (to_string reply.code.toNat ++ stop :: (tail ++ 10 :: more))
  have number := readUnsigned_append status_code reply.code stops (tail ++ 10 :: more)
  have plain_tail : 10 ∉ stop :: tail := by
    rw [← ends]
    simpa using reply.reason_plain
  have line := Stream.getline_append plain_tail more
  have skipped : (Stream.opened more).skipLines 10 [13] (more.length + 1) = .opened rest := by
    refine Stream.skipLines_unlines (by decide) (fun line member => reply.lines_plain line (List.mem_cons_of_mem _ member)) rest ?_
    have fewer := Stream.length_le_unlines 10 (reply.headers.map (· ++ [13]))
    simp only [more, List.length_append]
    omega
  rw [whole, word]
  simp only [number]
  rw [show stop :: (tail ++ 10 :: more) = stop :: tail ++ 10 :: more from rfl, line]
  exact ⟨trivial, skipped⟩

end Reply

/-- A reply sets nothing before its head is there. The piece that completes the head is the last
    one that is read, and what it has of the body is taken for the IP. -/
theorem reply_is_read (reply : Reply) (status_code : UInt32) {pieces : List Bytes} (begins : pieces.flatten <+: reply.octets) :
    (pieces.flatten.length < reply.head.length → on_resolvePushButton_clicked status_code pieces = none) ∧
    (reply.head.length ≤ pieces.flatten.length → ∃ one two, pieces = one ++ two ∧ reply.head.length ≤ one.flatten.length ∧
      (∀ few last, one = few ++ [last] → few.flatten.length < reply.head.length) ∧
      on_resolvePushButton_clicked status_code pieces =
        if reply.code = 200 then some (trim (reply.body.take (one.flatten.length - reply.head.length))) else none) := by
  have complete : headerEnd <:+: [] ++ pieces.flatten ↔ reply.head.length ≤ pieces.flatten.length :=
    reply.headerEnd_infix_iff begins
  constructor
  · intro early
    have none_read := readUntil_eq_none_iff.mpr (complete.not.mpr (Nat.not_le.mpr early))
    simp only [on_resolvePushButton_clicked, none_read]
  · intro enough
    cases read : readUntil headerEnd [] pieces with
    | none => exact absurd (complete.mpr enough) (readUntil_eq_none_iff.mp read)
    | some response =>
      obtain ⟨whole, one, two, rfl, found, first⟩ := readUntil_eq_some read
      rw [List.nil_append] at found
      subst found
      have begins_one : one.flatten <+: reply.octets := by
        rw [List.flatten_append] at begins
        exact (List.prefix_append _ _).trans begins
      have head_in := (reply.headerEnd_infix_iff begins_one).mp whole
      refine ⟨one, two, rfl, head_in, fun few last same => ?_, ?_⟩
      · have begins_few : few.flatten <+: reply.octets := by
          rw [same, List.flatten_append] at begins_one
          exact (List.prefix_append _ _).trans begins_one
        exact Nat.not_le.mp fun there => first few last same ((reply.headerEnd_infix_iff begins_few).mpr there)
      · have split : one.flatten = reply.head ++ reply.body.take (one.flatten.length - reply.head.length) := by
          conv_lhs => rw [List.prefix_iff_eq_take.mp begins_one, Reply.octets]
          rw [List.take_append, List.take_of_length_le head_in]
        have taken := reply.read_head status_code (reply.body.take (one.flatten.length - reply.head.length))
        rw [← split] at taken
        simp only at taken
        simp only [on_resolvePushButton_clicked, read]
        rw [taken.1, taken.2]
        rfl

/-- `HTTP/1.1 200 OK`, one header and `1.2.3.4` with a newline. -/
def Reply.sample : Reply where
  version := [72, 84, 84, 80, 47, 49, 46, 49]
  code := 200
  reason := [32, 79, 75]
  headers := [[86, 97, 114, 121, 58, 32, 42]]
  body := [49, 46, 50, 46, 51, 46, 52, 10]
  version_ne := by decide
  version_plain := by decide +kernel
  reason_plain := by decide
  reason_head := by decide +kernel
  headers_plain := by decide

/-- The IP line is emptied when the body comes in a piece of its own. -/
theorem reply_is_read_sample :
    on_resolvePushButton_clicked 0 [Reply.sample.head, Reply.sample.body] = some [] ∧
      on_resolvePushButton_clicked 0 [Reply.sample.octets] = some [49, 46, 50, 46, 51, 46, 52] := by
  constructor
  · obtain ⟨one, two, split, head_in, first, result⟩ := (reply_is_read Reply.sample 0
      (show [Reply.sample.head, Reply.sample.body].flatten <+: Reply.sample.octets by simp [Reply.octets])).2 (by simp)
    rcases one with - | ⟨head, - | ⟨body, more⟩⟩
    · exact absurd head_in (by decide)
    · obtain ⟨rfl, -⟩ := List.cons.inj split
      simpa [Reply.sample, trim] using result
    · obtain ⟨rfl, rest⟩ := List.cons.inj split
      obtain ⟨rfl, none⟩ := List.cons.inj rest
      obtain ⟨rfl, -⟩ := List.append_eq_nil_iff.mp none.symm
      exact absurd (first [_] _ rfl) (by simp)
  · decide +kernel

/-- Nothing is read after a failure, so that the page goes by what was in `status_code`. -/
theorem resolved_of_blank {pieces : List Bytes} {response : Bytes} (read : readUntil headerEnd [] pieces = some response)
    (blank : ∀ c ∈ Stream.afterWord isspace response, isspace c = true) (status_code : UInt32) :
    on_resolvePushButton_clicked status_code pieces = if status_code = 200 then some [] else none := by
  have at_end := Stream.sentry_word_of_blank blank
  have kept : readUnsigned status_code ((Stream.opened response).word isspace).2 = (status_code, ⟨[], true, true⟩) := by
    unfold readUnsigned
    rw [at_end]
    rfl
  simp only [on_resolvePushButton_clicked, read, kept]
  rfl

/-- The page goes by what happened to be in `status_code` exactly for the replies that have no
    second word. -/
theorem garbage_matters_iff (pieces : List Bytes) :
    (∃ one other, on_resolvePushButton_clicked one pieces ≠ on_resolvePushButton_clicked other pieces) ↔
      ∃ response, readUntil headerEnd [] pieces = some response ∧
        ∀ c ∈ Stream.afterWord isspace response, isspace c = true := by
  constructor
  · rintro ⟨one, other, differ⟩
    cases read : readUntil headerEnd [] pieces with
    | none => exact absurd (by simp only [on_resolvePushButton_clicked, read]) differ
    | some response =>
      refine ⟨response, rfl, ?_⟩
      by_contra more
      have word : ∃ c ∈ Stream.afterWord isspace response, isspace c = false := by simpa using more
      have ready := Stream.good_sentry_word word
      have same : readUnsigned one ((Stream.opened response).word isspace).2 =
          readUnsigned other ((Stream.opened response).word isspace).2 := by
        simp only [readUnsigned, if_pos ready]
      exact differ (by simp only [on_resolvePushButton_clicked, read, same])
  · rintro ⟨response, read, blank⟩
    refine ⟨200, 0, ?_⟩
    rw [resolved_of_blank read blank, resolved_of_blank read blank]
    decide

end P2PMessenger
