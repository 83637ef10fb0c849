import Mathlib.Tactic
import Mathlib.Data.List.TakeWhile

/-!
Reading from a source that comes in pieces. Pieces are put together until a delimiter is
among them, and what there is then is read as a stream: words and lines, with a flag for
its end and one for a failure, after which nothing is read any more.
-/
namespace Streams

variable {α : Type}

/-! ## Pieces -/

/-- What has been read when the delimiter is in it, piece by piece. -/
def readUntil [DecidableEq α] (delimiter : List α) : List α → List (List α) → Option (List α)
  | buffered, [] => if delimiter <:+: buffered then some buffered else none
  | buffered, piece :: pieces =>
    if delimiter <:+: buffered then some buffered else readUntil delimiter (buffered ++ piece) pieces

section
variable [DecidableEq α] {delimiter buffered : List α} {pieces : List (List α)}

theorem readUntil_of_found (there : delimiter <:+: buffered) : readUntil delimiter buffered pieces = some buffered := by
  cases pieces <;> exact if_pos there

/-- Where the delimiter is, reading stops with the piece that completes it. -/
theorem readUntil_eq_some {found : List α} (read : readUntil delimiter buffered pieces = some found) :
    delimiter <:+: found ∧ ∃ one two, pieces = one ++ two ∧ found = buffered ++ one.flatten ∧
      ∀ few last, one = few ++ [last] → ¬ delimiter <:+: buffered ++ few.flatten := by
  induction pieces generalizing buffered with
  | nil =>
    unfold readUntil at read
    split_ifs at read with there
    cases read
    exact ⟨there, [], [], rfl, (List.append_nil _).symm, fun few last same => by simp at same⟩
  | cons piece pieces ih =>
    by_cases there : delimiter <:+: buffered
    · rw [readUntil_of_found there] at read
      cases read
      exact ⟨there, [], _, rfl, (List.append_nil _).symm, fun few last same => by simp at same⟩
    · rw [readUntil, if_neg there] at read
      obtain ⟨whole, one, two, rfl, rfl, first⟩ := ih read
      refine ⟨whole, piece :: one, two, rfl, by simp, fun few last same => ?_⟩
      cases few with
      | nil => simpa using there
      | cons head few =>
        obtain ⟨rfl, rest⟩ := List.cons.inj same
        simpa using first few last rest

theorem readUntil_eq_none_iff : readUntil delimiter buffered pieces = none ↔ ¬ delimiter <:+: buffered ++ pieces.flatten := by
  induction pieces generalizing buffered with
  | nil => simp [readUntil]
  | cons piece pieces ih =>
    rw [List.flatten_cons]
    by_cases there : delimiter <:+: buffered
    · have still : delimiter <:+: buffered ++ (piece ++ pieces.flatten) := there.trans (List.infix_append' [] buffered _)
      rw [readUntil_of_found there]
      exact iff_of_false (Option.some_ne_none _) (not_not_intro still)
    · rw [readUntil, if_neg there, ih, List.append_assoc]

end

/-! ## Streams -/

structure Stream (α : Type) where
  rest : List α
  eof : Bool
  fail : Bool
  deriving DecidableEq

namespace Stream

def opened (octets : List α) : Stream α := ⟨octets, false, false⟩

def good (s : Stream α) : Bool := !s.eof && !s.fail

/-- What comes before a formatted read: white space is skipped, and something has to be left. -/
def sentry (space : α → Bool) (s : Stream α) : Stream α :=
  if s.good then
    match s.rest.dropWhile space with
    | [] => ⟨[], true, true⟩
    | first :: rest => ⟨first :: rest, false, false⟩
  else { s with fail := true }

/-- Everything up to the first element that is not wanted. -/
def take (wanted : α → Bool) (s : Stream α) : List α × Stream α :=
  (s.rest.takeWhile wanted, { s with rest := s.rest.dropWhile wanted, eof := (s.rest.dropWhile wanted).isEmpty })

/-- The next word. -/
def word (space : α → Bool) (s : Stream α) : Option (List α) × Stream α :=
  let s := s.sentry space
  if s.good then
    let (word, s) := s.take fun c => !space c
    (some word, s)
  else (none, s)

/-- The next line, without what ends it. -/
def getline [DecidableEq α] (newline : α) (s : Stream α) : Option (List α) × Stream α :=
  if s.good then
    match s.rest.dropWhile (· ≠ newline) with
    | _ :: rest => (some (s.rest.takeWhile (· ≠ newline)), opened rest)
    | [] => if s.rest.isEmpty then (none, ⟨[], true, true⟩) else (some s.rest, ⟨[], true, false⟩)
  else (none, { s with fail := true })

/-- Lines are read up to one that is `last`. -/
def skipLines [DecidableEq α] (newline : α) (last : List α) : Nat → Stream α → Stream α
  | 0, s => s
  | fuel + 1, s =>
    match s.getline newline with
    | (some line, s) => if line = last then s else skipLines newline last fuel s
    | (none, s) => s

/-! ## What is read -/

variable {space : α → Bool}

theorem sentry_append {blanks : List α} (blank : ∀ c ∈ blanks, space c = true) {first : α} (plain : space first = false)
    (rest : List α) : (opened (blanks ++ first :: rest)).sentry space = opened (first :: rest) := by
  have left : (blanks ++ first :: rest).dropWhile space = first :: rest := by
    rw [List.dropWhile_append_of_pos blank, List.dropWhile_cons_of_neg (by simp [plain])]
  simp [sentry, opened, good, left]

/-- Nothing but white space is the end. -/
theorem sentry_blank {octets : List α} (blank : ∀ c ∈ octets, space c = true) :
    (opened octets).sentry space = ⟨[], true, true⟩ := by
  simp [sentry, opened, good, List.dropWhile_eq_nil_iff.mpr blank]

theorem take_append (wanted : α → Bool) {some_of : List α} {stop : α} (all : ∀ c ∈ some_of, wanted c = true)
    (stops : wanted stop = false) (rest : List α) :
    (opened (some_of ++ stop :: rest)).take wanted = (some_of, opened (stop :: rest)) := by
  have left : (some_of ++ stop :: rest).dropWhile wanted = stop :: rest := by
    rw [List.dropWhile_append_of_pos all, List.dropWhile_cons_of_neg (by simp [stops])]
  have taken : (some_of ++ stop :: rest).takeWhile wanted = some_of := by
    rw [List.takeWhile_append_of_pos all, List.takeWhile_cons_of_neg (by simp [stops]), List.append_nil]
  simp [take, opened, left, taken]

theorem word_append {first stop : α} {letters : List α} (plain : ∀ c ∈ first :: letters, space c = false)
    (stops : space stop = true) (rest : List α) :
    (opened (first :: letters ++ stop :: rest)).word space = (some (first :: letters), opened (stop :: rest)) := by
  have ready : (opened (first :: letters ++ stop :: rest)).sentry space = opened (first :: letters ++ stop :: rest) :=
    sentry_append (fun c member => absurd member List.not_mem_nil) (plain first List.mem_cons_self) _
  have all : ∀ c ∈ first :: letters, (!space c) = true := fun c member => by rw [plain c member]; rfl
  have taken := take_append (fun c => !space c) all (by rw [stops]; rfl) rest
  rw [word, ready]
  simp only [taken]
  rfl

/-- What is left when the first word has been read. -/
def afterWord (space : α → Bool) (octets : List α) : List α := (octets.dropWhile space).dropWhile fun c => !space c

/-- Only white space is left after the first word: nothing more can be read. -/
theorem sentry_word_of_blank {octets : List α} (blank : ∀ c ∈ afterWord space octets, space c = true) :
    ((opened octets).word space).2.sentry space = ⟨[], true, true⟩ := by
  cases text : octets.dropWhile space with
  | nil =>
    have none_read : (opened octets).sentry space = ⟨[], true, true⟩ := by simp [sentry, opened, good, text]
    rw [word, none_read]
    rfl
  | cons first more =>
    have ready : (opened octets).sentry space = opened (first :: more) := by simp [sentry, opened, good, text]
    rw [afterWord, text] at blank
    rw [word, ready]
    cases left : (first :: more).dropWhile fun c => !space c with
    | nil => simp [opened, good, take, sentry, left]
    | cons stop rest =>
      rw [left] at blank
      have at_end := sentry_blank blank
      simpa [opened, good, take, left] using at_end

/-- Something is left after the first word, and it can be read. -/
theorem good_sentry_word {octets : List α} (more : ∃ c ∈ afterWord space octets, space c = false) :
    (((opened octets).word space).2.sentry space).good = true := by
  obtain ⟨c, member, plain⟩ := more
  obtain ⟨first, text, spelled⟩ : ∃ first text, octets.dropWhile space = first :: text := by
    cases spelled : octets.dropWhile space with
    | nil => simp [afterWord, spelled] at member
    | cons first text => exact ⟨first, text, rfl⟩
  have ready : (opened octets).sentry space = opened (first :: text) := by simp [sentry, opened, good, spelled]
  rw [afterWord, spelled] at member
  have some_left : ((first :: text).dropWhile fun c => !space c).isEmpty = false := by
    rw [List.isEmpty_eq_false_iff]
    exact List.ne_nil_of_mem member
  rw [word, ready]
  cases left : ((first :: text).dropWhile fun c => !space c).dropWhile space with
  | nil => exact absurd (List.dropWhile_eq_nil_iff.mp left c member) (by simp [plain])
  | cons next rest => simp [opened, good, take, sentry, some_left, left]

variable [DecidableEq α] {newline : α}

theorem getline_append {line : List α} (plain : newline ∉ line) (rest : List α) :
    (opened (line ++ newline :: rest)).getline newline = (some line, opened rest) := by
  have all : ∀ c ∈ line, decide (c ≠ newline) = true := fun c member => decide_eq_true fun same => plain (same ▸ member)
  have left : (line ++ newline :: rest).dropWhile (· ≠ newline) = newline :: rest := by
    rw [List.dropWhile_append_of_pos all, List.dropWhile_cons_of_neg (by simp)]
  have taken : (line ++ newline :: rest).takeWhile (· ≠ newline) = line := by
    rw [List.takeWhile_append_of_pos all, List.takeWhile_cons_of_neg (by simp), List.append_nil]
  simp only [getline, opened, left, taken]
  rfl

/-- A line that is read has used something up. -/
theorem getline_length_lt {s t : Stream α} {line : List α} (read : s.getline newline = (some line, t)) :
    t.rest.length < s.rest.length := by
  have shorter := (List.dropWhile_suffix (l := s.rest) fun c => decide (c ≠ newline)).length_le
  unfold getline at read
  by_cases ready : s.good = true
  · rw [if_pos ready] at read
    cases left : s.rest.dropWhile fun c => decide (c ≠ newline) with
    | cons first rest =>
      simp only [left] at read
      obtain ⟨-, rfl⟩ := Prod.mk.inj read
      rw [left, List.length_cons] at shorter
      exact shorter
    | nil =>
      simp only [left] at read
      by_cases empty : s.rest.isEmpty = true
      · rw [if_pos empty] at read
        cases read
      · rw [if_neg empty] at read
        obtain ⟨-, rfl⟩ := Prod.mk.inj read
        exact List.length_pos_iff.mpr fun none => empty (by rw [none]; rfl)
  · rw [if_neg ready] at read
    cases read

/-- With more steps than there is to read, the loop has ended by itself. -/
theorem skipLines_of_lt (newline : α) (last : List α) {fuel : Nat} {s : Stream α} (enough : s.rest.length < fuel) (more : Nat) :
    skipLines newline last (fuel + more) s = skipLines newline last fuel s := by
  induction fuel generalizing s with
  | zero => cases enough
  | succ fuel ih =>
    rw [Nat.add_right_comm, skipLines, skipLines]
    cases read : s.getline newline with
    | mk line t =>
      cases line with
      | none => rfl
      | some line =>
        simp only
        by_cases ends : line = last
        · rw [if_pos ends, if_pos ends]
        · rw [if_neg ends, if_neg ends]
          have shorter := getline_length_lt read
          exact ih (by omega)

/-- The text of some lines. -/
def unlines (newline : α) (lines : List (List α)) : List α := (lines.map (· ++ [newline])).flatten

omit [DecidableEq α] in
theorem unlines_cons (line : List α) (lines : List (List α)) :
    unlines newline (line :: lines) = line ++ newline :: unlines newline lines := by
  simp [unlines]

omit [DecidableEq α] in
theorem length_le_unlines (newline : α) (lines : List (List α)) : lines.length ≤ (unlines newline lines).length := by
  induction lines with
  | nil => exact Nat.zero_le _
  | cons line lines ih =>
    rw [unlines_cons, List.length_cons, List.length_append, List.length_cons]
    omega

/-- Lines before the last one are passed over. -/
theorem skipLines_unlines {last : List α} (plain_last : newline ∉ last) {lines : List (List α)}
    (plain : ∀ line ∈ lines, newline ∉ line ∧ line ≠ last) (rest : List α) {fuel : Nat} (enough : lines.length < fuel) :
    skipLines newline last fuel (opened (unlines newline lines ++ (last ++ newline :: rest))) = opened rest := by
  induction lines generalizing fuel with
  | nil =>
    obtain ⟨fuel, rfl⟩ := Nat.exists_eq_add_of_lt enough
    have read := getline_append plain_last rest
    simp only [unlines, List.map_nil, List.flatten_nil, List.nil_append, skipLines, read, if_true]
  | cons line lines ih =>
    obtain ⟨here, other⟩ := plain line List.mem_cons_self
    cases fuel with
    | zero => cases enough
    | succ fuel =>
      rw [unlines_cons, List.append_assoc, List.cons_append, skipLines, getline_append here]
      simp only [if_neg other]
      exact ih (fun line member => plain line (List.mem_cons_of_mem _ member)) (Nat.lt_of_succ_lt_succ enough)

/-! ## Where the last line ends -/

omit [DecidableEq α] in
/-- A newline is the first one of the text, or it comes after it. -/
theorem split_at_newline {line before after rest : List α} (plain : newline ∉ line)
    (begins : before ++ newline :: after <+: line ++ newline :: rest) :
    before = line ∧ after <+: rest ∨ ∃ more, before = line ++ newline :: more ∧ more ++ newline :: after <+: rest := by
  induction line generalizing before with
  | nil =>
    cases before with
    | nil => exact .inl ⟨rfl, (List.cons_prefix_cons.mp begins).2⟩
    | cons first more =>
      obtain ⟨rfl, begins⟩ := List.cons_prefix_cons.mp begins
      exact .inr ⟨more, rfl, begins⟩
  | cons c line ih =>
    cases before with
    | nil => exact absurd (List.mem_cons.mpr (.inl (List.cons_prefix_cons.mp begins).1)) plain
    | cons first before =>
      obtain ⟨rfl, left⟩ := List.cons_prefix_cons.mp begins
      rcases ih (fun member => plain (List.mem_cons_of_mem _ member)) left with ⟨rfl, after⟩ | ⟨more, rfl, after⟩
      · exact .inl ⟨rfl, after⟩
      · exact .inr ⟨more, rfl, after⟩

omit [DecidableEq α] in
/-- The first line that is `last` and comes after another line is where the lines end. -/
theorem unlines_length_le {last : List α} (plain_last : newline ∉ last) {lines : List (List α)}
    (plain : ∀ line ∈ lines, newline ∉ line ∧ line ≠ last) {rest before : List α}
    (begins : before ++ newline :: (last ++ [newline]) <+: unlines newline lines ++ (last ++ newline :: rest)) :
    (unlines newline lines).length ≤ before.length + 1 := by
  induction lines generalizing before with
  | nil => exact Nat.zero_le _
  | cons line lines ih =>
    have plain_rest : ∀ line ∈ lines, newline ∉ line ∧ line ≠ last := fun line member => plain line (List.mem_cons_of_mem _ member)
    rw [unlines_cons, List.append_assoc, List.cons_append] at begins
    rw [unlines_cons, List.length_append, List.length_cons]
    rcases split_at_newline (plain line List.mem_cons_self).1 begins with ⟨rfl, after⟩ | ⟨more, rfl, after⟩
    · cases lines with
      | nil => simp [unlines]
      | cons next lines =>
        obtain ⟨plain_next, other⟩ := plain_rest next List.mem_cons_self
        rw [unlines_cons, List.append_assoc, List.cons_append] at after
        rcases split_at_newline plain_next after with ⟨same, -⟩ | ⟨more, same, -⟩
        · exact absurd same.symm other
        · refine absurd ?_ plain_last
          rw [same]
          exact List.mem_append_right _ List.mem_cons_self
    · have shorter := ih plain_rest after
      rw [List.length_append, List.length_cons]
      omega

end Stream

end Streams
