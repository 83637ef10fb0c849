import P2PMessenger.Memory

/-!
Layouts of fixed and length-prefixed fields, and decoders that read such a layout
through an unchecked pointer. A field's count may be garbage and send the pointer
past the end of the vector, where it reads memory that the vector does not own.
The pointer never moves back, so when it ends inside the vector every read was
inside it, and when it ends outside no value of the layout starts the vector
(`scan_cases`). A decoder that compares the final pointer with the size of the
vector therefore accepts exactly the layout, whatever lies past the end.
-/
namespace Layout
open Octets Memory

/-- A field of fixed width, or a count of `width` octets followed by that many octets. -/
inductive Field where
  | fixed (width : Nat)
  | counted (width : Nat)

/-- The octets of a value of the field. -/
def Field.encode : Field → Bytes → Bytes
  | .fixed _, value => value
  | .counted width, value => toLE width value.length ++ value

/-- The values that the field can hold. -/
def Field.Fits : Field → Bytes → Prop
  | .fixed width, value => value.length = width
  | .counted width, value => value.length < 256 ^ width

/-- The octets of a value that belong to the layout whatever the value is. -/
def Field.width : Field → Nat
  | .fixed width => width
  | .counted width => width

/-- The value that is left when the count is cast to the width of the field. -/
def Field.narrow : Field → Bytes → Bytes
  | .fixed _, value => value
  | .counted width, value => value.take (value.length % 256 ^ width)

/-- Writes a value of a field at the pointer of a block. -/
def Field.write : Field → Bytes → StateM Block Unit
  | .fixed _, value => Memory.write value
  | .counted width, value => writeCounted width value

/-- Reads a field at a pointer: its value and the pointer after it. -/
def Field.scan (memory : Contents) (ptr : Nat) : Field → Bytes × Nat
  | .fixed width => (slice memory ptr width, ptr + width)
  | .counted width =>
    (slice memory (ptr + width) (ofLE (slice memory ptr width)), ptr + width + ofLE (slice memory ptr width))

def encode : List Field → List Bytes → Bytes
  | field :: layout, value :: values => field.encode value ++ encode layout values
  | _, _ => []

def Fits (layout : List Field) (values : List Bytes) : Prop := List.Forall₂ Field.Fits layout values

/-- The values that are left when every count is cast to the width of its field. -/
def narrow (layout : List Field) (values : List Bytes) : List Bytes := List.zipWith Field.narrow layout values

/-- Writes the values of a layout one after the other. -/
def writeFields : List Field → List Bytes → StateM Block Unit
  | field :: layout, value :: values => do
    field.write value
    writeFields layout values
  | _, _ => pure ()

/-- Reads the fields of a layout one after the other: their values and the pointer
    after the last. -/
def scan : List Field → Contents → Nat → List Bytes × Nat
  | [], _, ptr => ([], ptr)
  | field :: layout, memory, ptr =>
    let head := field.scan memory ptr
    let tail := scan layout memory head.2
    (head.1 :: tail.1, tail.2)

/-- The vector starts with these values of the layout. -/
def Starts (layout : List Field) (values : List Bytes) (vector : Bytes) : Prop :=
  Fits layout values ∧ ∃ rest, vector = encode layout values ++ rest

theorem Field.narrow_length (width : Nat) (value : Bytes) :
    ((Field.counted width).narrow value).length = value.length % 256 ^ width := by
  simp [Field.narrow, Nat.mod_le]

/-- What writing a counted value writes is a value of the field. -/
theorem Field.encode_narrow (width : Nat) (value : Bytes) :
    (Field.counted width).encode ((Field.counted width).narrow value) =
      toLE width (value.length % 256 ^ width) ++ value.take (value.length % 256 ^ width) := by
  rw [Field.encode, Field.narrow_length, Field.narrow]

theorem Field.narrow_of_fits {field : Field} {value : Bytes} (fits : field.Fits value) : field.narrow value = value := by
  cases field with
  | fixed width => rfl
  | counted width =>
    simp only [Field.Fits] at fits
    rw [Field.narrow, Nat.mod_eq_of_lt fits, List.take_length]

theorem Field.fits_narrow (width : Nat) (value : Bytes) :
    (Field.counted width).Fits ((Field.counted width).narrow value) := by
  rw [Field.Fits, Field.narrow_length]
  exact Nat.mod_lt _ (by positivity)

theorem narrow_of_fits {layout : List Field} {values : List Bytes} (fits : Fits layout values) :
    narrow layout values = values := by
  induction fits with
  | nil => rfl
  | cons fit _ ih =>
    rw [narrow] at ih
    rw [narrow, List.zipWith_cons_cons, Field.narrow_of_fits fit, ih]

/-- Casting counts makes a layout no longer. -/
theorem encode_narrow_length_le (layout : List Field) (values : List Bytes) :
    (encode layout (narrow layout values)).length ≤ (encode layout values).length := by
  induction layout generalizing values with
  | nil => exact Nat.le_refl _
  | cons field layout ih =>
    cases values with
    | nil => exact Nat.le_refl _
    | cons value values =>
      have rest := ih values
      rw [narrow] at rest
      rw [narrow, List.zipWith_cons_cons, encode, encode, List.length_append, List.length_append]
      cases field with
      | fixed width =>
        simp only [Field.narrow, Field.encode]
        omega
      | counted width =>
        have cut := Field.narrow_length width value
        have less := Nat.mod_le value.length (256 ^ width)
        simp only [Field.encode, List.length_append, toLE_length, cut]
        omega

theorem Field.writes (field : Field) (value : Bytes) : Writes (field.write value) (field.encode (field.narrow value)) := by
  cases field with
  | fixed width => exact writes_write value
  | counted width =>
    rw [Field.encode_narrow]
    exact writes_writeCounted width value

/-- Casting counts keeps the length of a layout only if it keeps every value. -/
theorem encode_narrow_length_eq {layout : List Field} {values : List Bytes} (shape : layout.length = values.length)
    (same : (encode layout (narrow layout values)).length = (encode layout values).length) :
    narrow layout values = values := by
  induction layout generalizing values with
  | nil =>
    cases values with
    | nil => rfl
    | cons value values => cases shape
  | cons field layout ih =>
    cases values with
    | nil => cases shape
    | cons value values =>
      have less := encode_narrow_length_le layout values
      have rest := ih (Nat.succ.inj shape)
      rw [narrow] at less rest
      rw [narrow, List.zipWith_cons_cons, encode, encode, List.length_append, List.length_append] at same
      rw [narrow, List.zipWith_cons_cons]
      cases field with
      | fixed width =>
        simp only [Field.narrow, Field.encode] at same ⊢
        rw [rest (by omega)]
      | counted width =>
        have cut := Field.narrow_length width value
        have low := Nat.mod_le value.length (256 ^ width)
        simp only [Field.encode, List.length_append, toLE_length, cut] at same
        have whole : value.length % 256 ^ width = value.length := by omega
        rw [rest (by omega), Field.narrow, whole, List.take_length]

/-- What is written is the layout with every count cast, whatever the lengths are. -/
theorem writes_fields (layout : List Field) (values : List Bytes) :
    Writes (writeFields layout values) (encode layout (narrow layout values)) := by
  induction layout generalizing values with
  | nil => exact writes_pure
  | cons field layout ih =>
    cases values with
    | nil => exact writes_pure
    | cons value values => exact (field.writes value).bind (ih values)

theorem counts_fields (layout : List Field) (values : List Bytes) : Counts (writeFields layout values) := by
  induction layout generalizing values with
  | nil => exact counts_pure
  | cons field layout ih =>
    cases values with
    | nil => exact counts_pure
    | cons value values =>
      refine Counts.bind ?_ (ih values)
      cases field with
      | fixed width => exact counts_write value
      | counted width => exact (counts_write _).bind (counts_write _)

theorem Field.le_scan (field : Field) (memory : Contents) (ptr : Nat) :
    ptr + field.width ≤ (field.scan memory ptr).2 := by
  cases field <;> simp [Field.scan, Field.width]

/-- The pointer moves at least past the octets every value has. -/
theorem le_scan (layout : List Field) (memory : Contents) (ptr : Nat) :
    ptr + (layout.map Field.width).sum ≤ (scan layout memory ptr).2 := by
  induction layout generalizing ptr with
  | nil => simp [scan]
  | cons field layout ih =>
    have head := field.le_scan memory ptr
    have tail := ih (field.scan memory ptr).2
    simp only [scan, List.map_cons, List.sum_cons]
    omega

/-- Reading a value that is there gives it, whatever lies past the end. -/
theorem Field.scan_encode {field : Field} {value : Bytes} (fits : field.Fits value) {vector rest : Bytes} {ptr : Nat}
    (bound : ptr ≤ vector.length) (there : vector.drop ptr = field.encode value ++ rest) (beyond : Contents) :
    field.scan (view vector beyond) ptr = (value, ptr + (field.encode value).length) := by
  have room := congrArg List.length there
  simp only [List.length_drop, List.length_append] at room
  cases field with
  | fixed width =>
    simp only [Field.Fits] at fits
    simp only [Field.encode] at there room
    simp only [Field.scan, Field.encode, fits]
    rw [slice_view beyond (by omega), there, List.take_left' fits]
  | counted width =>
    simp only [Field.Fits] at fits
    simp only [Field.encode, List.length_append, toLE_length, List.append_assoc] at there room
    have count : ofLE (slice (view vector beyond) ptr width) = value.length := by
      rw [slice_view beyond (by omega), there, List.take_left' (toLE_length _ _), ofLE_toLE_of_lt fits]
    have body : slice (view vector beyond) (ptr + width) value.length = value := by
      rw [slice_view beyond (by omega), ← List.drop_drop, there, List.drop_left' (toLE_length _ _),
        List.take_left' rfl]
    simp only [Field.scan, Field.encode, count, body, List.length_append, toLE_length, Nat.add_assoc]

/-- A field whose end is inside the vector holds the value that was read. -/
theorem Field.scan_inside (field : Field) {vector : Bytes} (beyond : Contents) {ptr : Nat}
    (inside : (field.scan (view vector beyond) ptr).2 ≤ vector.length) :
    field.Fits (field.scan (view vector beyond) ptr).1 ∧
      vector.drop ptr =
        field.encode (field.scan (view vector beyond) ptr).1 ++ vector.drop (field.scan (view vector beyond) ptr).2 := by
  cases field with
  | fixed width =>
    simp only [Field.scan] at inside
    refine ⟨by simp [Field.Fits, Field.scan], ?_⟩
    simp only [Field.scan, Field.encode]
    rw [slice_view beyond inside, ← List.drop_drop, List.take_append_drop]
  | counted width =>
    simp only [Field.scan] at inside
    set count := ofLE (slice (view vector beyond) ptr width) with countIs
    have header : slice (view vector beyond) ptr width = toLE width count :=
      (toLE_ofLE_of_length (slice_length _ _ _)).symm
    refine ⟨?_, ?_⟩
    · simp only [Field.Fits, Field.scan, slice_length]
      simpa using ofLE_lt (slice (view vector beyond) ptr width)
    · simp only [Field.scan, Field.encode, slice_length, ← countIs]
      have after : vector.drop (ptr + width + count) = ((vector.drop ptr).drop width).drop count := by
        simp only [List.drop_drop]
      rw [← header, slice_view beyond (by omega), slice_view beyond (by omega), after, ← List.drop_drop,
        List.append_assoc, List.take_append_drop, List.take_append_drop]

theorem scan_encode {layout : List Field} {values : List Bytes} (fits : Fits layout values) {vector rest : Bytes}
    {ptr : Nat} (bound : ptr ≤ vector.length) (there : vector.drop ptr = encode layout values ++ rest)
    (beyond : Contents) :
    scan layout (view vector beyond) ptr = (values, ptr + (encode layout values).length) := by
  induction fits generalizing ptr with
  | nil => rfl
  | @cons field value layout values fit fits ih =>
    rw [encode, List.append_assoc] at there
    have head := Field.scan_encode fit bound there beyond
    have after : vector.drop (ptr + (field.encode value).length) = encode layout values ++ rest := by
      rw [← List.drop_drop, there, List.drop_left' rfl]
    have room := congrArg List.length there
    simp only [List.length_drop, List.length_append] at room
    simp only [scan, head, ih (by omega) after, encode, List.length_append, Nat.add_assoc]

theorem scan_inside (layout : List Field) {vector : Bytes} (beyond : Contents) {ptr : Nat}
    (inside : (scan layout (view vector beyond) ptr).2 ≤ vector.length) :
    Fits layout (scan layout (view vector beyond) ptr).1 ∧
      vector.drop ptr =
        encode layout (scan layout (view vector beyond) ptr).1 ++
          vector.drop (scan layout (view vector beyond) ptr).2 := by
  induction layout generalizing ptr with
  | nil => exact ⟨.nil, rfl⟩
  | cons field layout ih =>
    simp only [scan] at inside
    have bound := le_scan layout (view vector beyond) (field.scan (view vector beyond) ptr).2
    have first : (field.scan (view vector beyond) ptr).2 ≤ vector.length := by omega
    obtain ⟨fit, head⟩ := field.scan_inside beyond first
    obtain ⟨fits, tail⟩ := ih inside
    refine ⟨.cons fit fits, ?_⟩
    simp only [scan, encode, List.append_assoc]
    rw [← tail]
    exact head

/-- The pointer moves by the octets of the value read. -/
theorem Field.scan_end (field : Field) (memory : Contents) (ptr : Nat) :
    (field.scan memory ptr).2 = ptr + (field.encode (field.scan memory ptr).1).length := by
  cases field <;> simp [Field.scan, Field.encode, Nat.add_assoc]

theorem scan_end (layout : List Field) (memory : Contents) (ptr : Nat) :
    (scan layout memory ptr).2 = ptr + (encode layout (scan layout memory ptr).1).length := by
  induction layout generalizing ptr with
  | nil => rfl
  | cons field layout ih =>
    have head := field.scan_end memory ptr
    simp only [scan, encode, List.length_append]
    rw [ih, head, Nat.add_assoc]

@[simp] theorem Field.scan_fixed_length (width : Nat) (memory : Contents) (ptr : Nat) :
    ((Field.fixed width).scan memory ptr).1.length = width := by
  simp [Field.scan]

/-- A counted value is as long as the count, read as a field of its own, says. -/
theorem Field.scan_counted_length (width : Nat) (memory : Contents) (ptr : Nat) :
    ((Field.counted width).scan memory ptr).1.length = ofLE ((Field.fixed width).scan memory ptr).1 :=
  slice_length _ _ _

/-! ## Reading programs -/

/-- The cursor after a field was read. -/
def Field.past (field : Field) (c : Cursor) : Cursor where
  memory := c.memory
  ptr := (field.scan c.memory c.ptr).2
  reads := match field with
    | .fixed width => c.reads ++ [(c.ptr, width)]
    | .counted width =>
      c.reads ++ [(c.ptr, width)] ++ [(c.ptr + width, ofLE (slice c.memory c.ptr width))]

/-- The cursor after the fields of a layout were read. -/
def past (layout : List Field) (c : Cursor) : Cursor := layout.foldl (fun c field => field.past c) c

theorem run_readUint {ε : Type} (width : Nat) (c : Cursor) :
    (readUint width : EStateM ε Cursor Nat).run c =
      .ok (ofLE ((Field.fixed width).scan c.memory c.ptr).1) ((Field.fixed width).past c) := rfl

theorem run_readCounted {ε : Type} (width : Nat) (c : Cursor) :
    (readCounted width : EStateM ε Cursor Bytes).run c =
      .ok ((Field.counted width).scan c.memory c.ptr).1 ((Field.counted width).past c) := rfl

/-- The final pointer is inside the vector exactly when the vector starts with a
    value of the layout, which is then the value read. -/
theorem scan_iff (layout : List Field) (values : List Bytes) (vector : Bytes) (beyond : Contents) :
    Starts layout values vector ↔
      (scan layout (view vector beyond) 0).2 ≤ vector.length ∧ (scan layout (view vector beyond) 0).1 = values := by
  constructor
  · rintro ⟨fits, rest, rfl⟩
    have there : (encode layout values ++ rest).drop 0 = encode layout values ++ rest := List.drop_zero
    rw [scan_encode fits (Nat.zero_le _) there beyond]
    simp
  · rintro ⟨inside, rfl⟩
    obtain ⟨fits, contents⟩ := scan_inside layout beyond inside
    exact ⟨fits, _, contents⟩

/-- A vector starts with a value of the layout, which is read whatever lies past the
    end, or with none, and then the final pointer is outside the vector. -/
theorem scan_cases (layout : List Field) (vector : Bytes) :
    (∃ values, Starts layout values vector ∧ ∀ beyond, (scan layout (view vector beyond) 0).2 ≤ vector.length ∧
      (scan layout (view vector beyond) 0).1 = values) ∨
    ((∀ values, ¬ Starts layout values vector) ∧
      ∀ beyond, vector.length < (scan layout (view vector beyond) 0).2) := by
  by_cases some : ∃ values, Starts layout values vector
  · obtain ⟨values, starts⟩ := some
    exact .inl ⟨values, starts, fun beyond => (scan_iff layout values vector beyond).mp starts⟩
  · refine .inr ⟨fun values starts => some ⟨values, starts⟩, fun beyond => ?_⟩
    by_contra outside
    exact some ⟨_, (scan_iff layout _ vector beyond).mpr ⟨by omega, rfl⟩⟩

/-- What is read through some memory is what the vector starts with when some octets are
    put behind it. -/
theorem read_iff_completes (layout : List Field) (values : List Bytes) (vector : Bytes) :
    (∃ beyond, (scan layout (view vector beyond) 0).1 = values) ↔ ∃ more, Starts layout values (vector ++ more) := by
  constructor
  · rintro ⟨beyond, read⟩
    -- As many octets as the pointer moves are enough.
    let n := (scan layout (view vector beyond) 0).2
    refine ⟨slice beyond 0 n, (scan_iff _ _ _ fun i => beyond (i + n)).mpr ?_⟩
    rw [view_append, view_slice]
    refine ⟨?_, read⟩
    rw [List.length_append, slice_length]
    exact Nat.le_add_left _ _
  · rintro ⟨more, starts⟩
    have read := ((scan_iff _ _ _ fun _ => 0).mp starts).2
    rw [view_append] at read
    exact ⟨_, read⟩

/-- What starts a vector starts it also with octets behind it. -/
theorem Starts.append {layout : List Field} {values : List Bytes} {vector : Bytes} (starts : Starts layout values vector)
    (more : Bytes) : Starts layout values (vector ++ more) := by
  obtain ⟨fits, rest, rfl⟩ := starts
  exact ⟨fits, rest ++ more, List.append_assoc _ _ _⟩

theorem starts_append {layout : List Field} {values : List Bytes} (fits : Fits layout values) (rest : Bytes) :
    Starts layout values (encode layout values ++ rest) := ⟨fits, rest, rfl⟩

/-- A vector starts with at most one value of a layout. -/
theorem starts_unique {layout : List Field} {values others : List Bytes} {vector : Bytes}
    (one : Starts layout values vector) (two : Starts layout others vector) : values = others := by
  have first := (scan_iff layout values vector (fun _ => 0)).mp one
  have second := (scan_iff layout others vector (fun _ => 0)).mp two
  rw [← first.2, second.2]

/-- A value does not start its encoding cut short, and neither does any other. -/
theorem not_starts_of_cut {layout : List Field} {values : List Bytes} (fits : Fits layout values) {vector rest : Bytes}
    (cut : vector ++ rest = encode layout values) (short : rest ≠ []) (others : List Bytes) :
    ¬ Starts layout others vector := by
  rintro ⟨otherFits, more, rfl⟩
  have whole : Starts layout others (encode layout values) := ⟨otherFits, more ++ rest, by rw [← cut, List.append_assoc]⟩
  have same : values = others := by
    refine starts_unique ?_ whole
    exact ⟨fits, [], (List.append_nil _).symm⟩
  subst same
  have lengths := congrArg List.length cut
  simp only [List.length_append] at lengths
  exact short (List.eq_nil_of_length_eq_zero (by omega))

theorem Field.inside_past (field : Field) (wide : 0 < field.width) (size : Nat) (c : Cursor) :
    Inside size (field.past c).reads ↔ Inside size c.reads ∧ (field.past c).ptr ≤ size := by
  cases field with
  | fixed width =>
    simp only [Field.width] at wide
    simp only [Field.past, Field.scan, Inside, List.forall_mem_append, List.forall_mem_singleton]
    refine and_congr_right fun _ => ?_
    omega
  | counted width =>
    simp only [Field.width] at wide
    simp only [Field.past, Field.scan, Inside, List.forall_mem_append, List.forall_mem_singleton, and_assoc]
    refine and_congr_right fun _ => ?_
    omega

theorem inside_of_inside_past {layout : List Field} (wide : ∀ field ∈ layout, 0 < field.width) {size : Nat} {c : Cursor}
    (inside : Inside size (past layout c).reads) : Inside size c.reads := by
  induction layout generalizing c with
  | nil => exact inside
  | cons field layout ih =>
    have after := ih (fun other member => wide other (List.mem_cons_of_mem _ member)) inside
    exact ((field.inside_past (wide field List.mem_cons_self) size c).mp after).1

/-- When every read is inside the vector, the pointer ends inside it. -/
theorem past_ptr_le {layout : List Field} (wide : ∀ field ∈ layout, 0 < field.width) {size : Nat} {c : Cursor}
    (bound : c.ptr ≤ size) (inside : Inside size (past layout c).reads) : (past layout c).ptr ≤ size := by
  induction layout generalizing c with
  | nil => exact bound
  | cons field layout ih =>
    have rest : ∀ other ∈ layout, 0 < other.width := fun other member => wide other (List.mem_cons_of_mem _ member)
    have after : Inside size (field.past c).reads := inside_of_inside_past rest inside
    exact ih rest ((field.inside_past (wide field List.mem_cons_self) size c).mp after).2 inside

theorem ptr_le_past (layout : List Field) (c : Cursor) : c.ptr ≤ (past layout c).ptr := by
  induction layout generalizing c with
  | nil => exact Nat.le_refl _
  | cons field layout ih =>
    have head := field.le_scan c.memory c.ptr
    exact Nat.le_trans (Nat.le_trans (Nat.le_add_right _ _) head) (ih (field.past c))

/-- When the pointer ends inside the vector, every read is inside it. -/
theorem inside_past {layout : List Field} (wide : ∀ field ∈ layout, 0 < field.width) {size : Nat} {c : Cursor}
    (inside : Inside size c.reads) (ends : (past layout c).ptr ≤ size) : Inside size (past layout c).reads := by
  induction layout generalizing c with
  | nil => exact inside
  | cons field layout ih =>
    have rest : ∀ other ∈ layout, 0 < other.width := fun other member => wide other (List.mem_cons_of_mem _ member)
    have first : (field.past c).ptr ≤ size := Nat.le_trans (ptr_le_past layout (field.past c)) ends
    exact ih rest ((field.inside_past (wide field List.mem_cons_self) size c).mpr ⟨inside, first⟩) ends

theorem past_ptr (layout : List Field) (c : Cursor) : (past layout c).ptr = (scan layout c.memory c.ptr).2 := by
  induction layout generalizing c with
  | nil => rfl
  | cons field layout ih => exact ih (field.past c)

end Layout
