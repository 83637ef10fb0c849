import P2PMessenger.Octets

/-!
Raw memory behind a byte vector, read and written through a moving pointer that
nothing checks. A vector is followed by memory that it does not own, so a read
past its end sees whatever lies there. Every access is recorded, and an access is
inside a vector when it touches no offset at or past its size.
-/
namespace Memory
open Octets

/-- The octet seen at each offset from the first octet of a vector. -/
abbrev Contents := Nat → UInt8

/-- A vector followed by memory that it does not own. A read through an empty vector, whose
    pointer is null, is a fault before it sees any of it (`ThroughNull`). -/
def view (vector : Bytes) (beyond : Contents) : Contents :=
  fun i => (vector[i]?).getD (beyond (i - vector.length))

/-- The `n` octets from an offset. -/
def slice (memory : Contents) : Nat → Nat → Bytes
  | _, 0 => []
  | offset, n + 1 => memory offset :: slice memory (offset + 1) n

@[simp] theorem slice_length (memory : Contents) (start n : Nat) : (slice memory start n).length = n := by
  induction n generalizing start with
  | zero => rfl
  | succ n ih => simp [slice, ih]

theorem slice_add (memory : Contents) (start m n : Nat) :
    slice memory start (m + n) = slice memory start m ++ slice memory (start + m) n := by
  induction m generalizing start with
  | zero => simp [slice]
  | succ m ih =>
    rw [Nat.succ_add, slice, slice, ih, Nat.add_assoc, Nat.add_comm 1 m]
    rfl

/-- Inside the vector, a slice is the octets of the vector. -/
theorem slice_view {vector : Bytes} (beyond : Contents) {start n : Nat}
    (inside : start + n ≤ vector.length) :
    slice (view vector beyond) start n = (vector.drop start).take n := by
  induction n generalizing start with
  | zero => simp [slice]
  | succ n ih =>
    have bound : start < vector.length := by omega
    have head : view vector beyond start = vector[start] := by
      simp [view, List.getElem?_eq_getElem bound]
    rw [slice, ih (by omega), head, List.drop_eq_getElem_cons bound, List.take_succ_cons]

theorem view_append (one two : Bytes) (beyond : Contents) : view (one ++ two) beyond = view one (view two beyond) := by
  funext i
  simp only [view, List.length_append, ← Nat.sub_sub]
  by_cases inside : i < one.length
  · rw [List.getElem?_append_left inside, List.getElem?_eq_getElem inside]
    rfl
  · rw [List.getElem?_append_right (by omega), List.getElem?_eq_none (show one.length ≤ i by omega), Option.getD_none]

theorem slice_getElem? (memory : Contents) (start n i : Nat) :
    (slice memory start n)[i]? = if i < n then some (memory (start + i)) else none := by
  induction n generalizing start i with
  | zero => simp [slice]
  | succ n ih =>
    cases i with
    | zero => simp [slice]
    | succ i => simp [slice, ih, Nat.add_assoc, Nat.add_comm 1 i]

/-- Memory is its first octets followed by the rest. -/
theorem view_slice (memory : Contents) (n : Nat) : view (slice memory 0 n) (fun i => memory (i + n)) = memory := by
  funext i
  rw [view, slice_getElem?, slice_length, Nat.zero_add]
  by_cases inside : i < n
  · simp [inside]
  · rw [if_neg inside, Option.getD_none, Nat.sub_add_cancel (by omega)]

/-- A run of accesses: the offset and the number of octets of each. -/
abbrev Accesses := List (Nat × Nat)

/-- No access touches an offset at or past the size. -/
def Inside (size : Nat) (accesses : Accesses) : Prop :=
  ∀ access ∈ accesses, access.2 = 0 ∨ access.1 + access.2 ≤ size

instance (size : Nat) (accesses : Accesses) : Decidable (Inside size accesses) :=
  inferInstanceAs (Decidable (∀ access ∈ accesses, _))

/-- The pointer of an empty vector is null, and octets are accessed through it. -/
def ThroughNull (vector : Bytes) (accesses : Accesses) : Prop := vector = [] ∧ ∃ access ∈ accesses, access.2 ≠ 0

instance (vector : Bytes) (accesses : Accesses) : Decidable (ThroughNull vector accesses) :=
  inferInstanceAs (Decidable (vector = [] ∧ ∃ access ∈ accesses, access.2 ≠ 0))

/-! ## Reading -/

/-- A pointer into a vector that is being read. -/
structure Cursor where
  memory : Contents
  ptr : Nat
  reads : Accesses

/-- A pointer to the first octet of a vector. -/
def start (vector : Bytes) (beyond : Contents) : Cursor := ⟨view vector beyond, 0, []⟩

variable {ε : Type}

/-- Copies the next `n` octets and moves the pointer past them. -/
def read (n : Nat) : EStateM ε Cursor Bytes := fun c =>
  .ok (slice c.memory c.ptr n) { c with ptr := c.ptr + n, reads := c.reads ++ [(c.ptr, n)] }

/-- Copies an unsigned integer of `width` octets. -/
def readUint (width : Nat) : EStateM ε Cursor Nat := ofLE <$> read width

/-- Copies a count of `width` octets and then that many octets. -/
def readCounted (width : Nat) : EStateM ε Cursor Bytes := do
  let count ← readUint width
  read count

/-- Moves the pointer without reading. -/
def skip (n : Nat) : EStateM ε Cursor Unit := fun c => .ok () { c with ptr := c.ptr + n }

theorem run_read (n : Nat) (c : Cursor) :
    (read n : EStateM ε Cursor Bytes).run c =
      .ok (slice c.memory c.ptr n) { c with ptr := c.ptr + n, reads := c.reads ++ [(c.ptr, n)] } := rfl

/-- The outcome of a reading program, without the pointer it leaves. -/
def outcome {α : Type} : EStateM.Result ε Cursor α → Except ε α
  | .ok a _ => .ok a
  | .error e _ => .error e

/-- The accesses of a reading program, also of one that throws. -/
def accesses {α : Type} : EStateM.Result ε Cursor α → Accesses
  | .ok _ c => c.reads
  | .error _ c => c.reads

/-! ## Writing -/

/-- A vector that is being written through a pointer: its size, the octets at each
    offset, the offset of the pointer and the accesses made. -/
structure Block where
  size : Nat
  memory : Contents
  ptr : Nat
  writes : Accesses

/-- A new vector of `size` zeros, with the pointer on its first octet. -/
def Block.alloc (size : Nat) : Block := ⟨size, fun _ => 0, 0, []⟩

/-- Copies octets to the pointer and moves it past them. -/
def Block.write (block : Block) (octets : Bytes) : Block where
  size := block.size
  memory := fun i =>
    if block.ptr ≤ i ∧ i < block.ptr + octets.length then (octets[i - block.ptr]?).getD 0 else block.memory i
  ptr := block.ptr + octets.length
  writes := block.writes ++ [(block.ptr, octets.length)]

/-- The vector as its owner sees it: what was written past its size is not in it. -/
def Block.vector (block : Block) : Bytes := slice block.memory 0 block.size

def write (octets : Bytes) : StateM Block Unit := modify (·.write octets)

/-- Writes the count of some octets, cast to an unsigned integer of `width` octets,
    and then as many of the octets as the cast count says. -/
def writeCounted (width : Nat) (octets : Bytes) : StateM Block Unit := do
  let count := octets.length % 256 ^ width
  write (toLE width count)
  write (octets.take count)

/-- The block that a writing program leaves from a new vector. -/
def filled (size : Nat) (program : StateM Block Unit) : Block := (program.run (Block.alloc size)).2

/-- What writing from a new vector on leaves: the pointer stands after the octets
    written, memory holds them followed by zeros, and the accesses are theirs. -/
structure Written (block : Block) (octets : Bytes) : Prop where
  ptr : block.ptr = octets.length
  memory : ∀ i, block.memory i = (octets[i]?).getD 0
  inside : ∀ size, Inside size block.writes ↔ octets.length ≤ size

theorem written_alloc (size : Nat) : Written (Block.alloc size) [] :=
  ⟨rfl, fun _ => rfl, fun size => by simp [Inside, Block.alloc]⟩

theorem Written.write {block : Block} {octets : Bytes} (written : Written block octets) (piece : Bytes) :
    Written (block.write piece) (octets ++ piece) where
  ptr := by simp [Block.write, written.ptr]
  memory i := by
    simp only [Block.write, written.ptr, written.memory]
    by_cases before : i < octets.length
    · rw [if_neg (by omega), List.getElem?_append_left before]
    · rw [List.getElem?_append_right (by omega)]
      split
      · rfl
      · rw [List.getElem?_eq_none (by omega), List.getElem?_eq_none (by omega)]
  inside size := by
    have old := written.inside size
    have split : Inside size (block.write piece).writes ↔
        Inside size block.writes ∧ (piece.length = 0 ∨ block.ptr + piece.length ≤ size) := by
      simp [Inside, Block.write, or_imp, forall_and]
    rw [split, old, written.ptr, List.length_append]
    omega

/-- Running the program writes these octets at the pointer, one after the other,
    and keeps the size of the vector. -/
structure Writes (program : StateM Block Unit) (octets : Bytes) : Prop where
  written : ∀ {block before}, Written block before → Written (program.run block).2 (before ++ octets)
  size : ∀ block, (program.run block).2.size = block.size

theorem writes_pure : Writes (pure ()) [] :=
  ⟨fun written => by rw [List.append_nil]; exact written, fun _ => rfl⟩

theorem writes_write (octets : Bytes) : Writes (write octets) octets :=
  ⟨fun written => written.write octets, fun _ => rfl⟩

theorem Writes.bind {one two : StateM Block Unit} {first second : Bytes} (head : Writes one first)
    (tail : Writes two second) : Writes (one >>= fun _ => two) (first ++ second) where
  written start := by
    rw [← List.append_assoc]
    exact tail.written (head.written start)
  size block := (tail.size _).trans (head.size block)

theorem writes_writeCounted (width : Nat) (octets : Bytes) :
    Writes (writeCounted width octets)
      (toLE width (octets.length % 256 ^ width) ++ octets.take (octets.length % 256 ^ width)) :=
  (writes_write _).bind (writes_write _)

theorem Writes.filled {program : StateM Block Unit} {octets : Bytes} (writes : Writes program octets) (size : Nat) :
    Written (Memory.filled size program) octets := by
  have written := writes.written (written_alloc size)
  rwa [List.nil_append] at written

@[simp] theorem Writes.filled_size {program : StateM Block Unit} {octets : Bytes} (writes : Writes program octets)
    (size : Nat) : (Memory.filled size program).size = size := writes.size _

/-- The number of octets that the accesses write. -/
def Block.written (block : Block) : Nat := (block.writes.map Prod.snd).sum

/-- Every write of the program moves the pointer by as many octets as it writes. -/
def Counts (program : StateM Block Unit) : Prop :=
  ∀ block, (program.run block).2.written + block.ptr = block.written + (program.run block).2.ptr

theorem counts_pure : Counts (pure ()) := fun _ => rfl

theorem counts_write (octets : Bytes) : Counts (write octets) := by
  intro block
  show (block.write octets).written + block.ptr = block.written + (block.write octets).ptr
  simp only [Block.written, Block.write, List.map_append, List.map_cons, List.map_nil, List.sum_append, List.sum_cons,
    List.sum_nil]
  omega

theorem Counts.bind {one two : StateM Block Unit} (head : Counts one) (tail : Counts two) :
    Counts (one >>= fun _ => two) := by
  intro block
  have first := head block
  have second := tail (one.run block).2
  show (two.run (one.run block).2).2.written + block.ptr = block.written + (two.run (one.run block).2).2.ptr
  omega

/-- From a new vector on, the program writes as many octets as it leaves behind the
    pointer. -/
theorem Counts.filled {program : StateM Block Unit} (counts : Counts program) (size : Nat) :
    (Memory.filled size program).written = (Memory.filled size program).ptr := by
  have total := counts (Block.alloc size)
  rw [show (Block.alloc size).ptr = 0 from rfl, show (Block.alloc size).written = 0 from rfl] at total
  rw [Memory.filled]
  omega

/-- The vector keeps the octets written inside its size. -/
theorem Written.vector_eq_take {block : Block} {octets : Bytes} (written : Written block octets)
    (full : block.size ≤ octets.length) : block.vector = octets.take block.size := by
  have seen : block.memory = view octets (fun _ => 0) := by
    funext i
    simp [written.memory, view]
  rw [Block.vector, seen, slice_view _ (by omega), List.drop_zero]

/-- A block that is larger than what was written starts with it. -/
theorem Written.vector_begins {block : Block} {octets : Bytes} (written : Written block octets)
    (room : octets.length ≤ block.size) : ∃ rest, block.vector = octets ++ rest := by
  obtain ⟨more, size⟩ := Nat.exists_eq_add_of_le room
  have seen : block.memory = view octets (fun _ => 0) := by
    funext i
    simp [written.memory, view]
  refine ⟨slice block.memory (0 + octets.length) more, ?_⟩
  rw [Block.vector, size, slice_add, seen, slice_view _ (by omega), List.drop_zero, List.take_length]

/-- A block whose size is the number of octets written is the vector of them. -/
theorem Written.vector_eq {block : Block} {octets : Bytes} (written : Written block octets)
    (full : octets.length = block.size) : block.vector = octets := by
  rw [written.vector_eq_take (by omega), ← full, List.take_length]

end Memory
