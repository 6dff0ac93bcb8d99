import TypedQuery.Proofs.ColumnStorage
import TypedQuery.Proofs.ExactNumbers
import TypedQuery.Proofs.NumericWire

/-!
# Integers read from cells

An integer that is read from a cell is the number in the cell, with one exception.  An
exact decimal that has places, or that does not fit sixty-four bits, becomes a double
first: when doubles do not hold it, a neighbour of it is read, and the neighbour may be
an integer although the decimal is another one or none.
-/

namespace TypedQuery

namespace BigEndian

theorem decode_lt (bytes : Bytes) : decode bytes < 256 ^ bytes.length := by
  induction bytes with
  | nil => exact Nat.one_pos
  | cons byte rest ih =>
      have hbyte := byte.toNat_lt
      calc decode (byte :: rest)
          < byte.toNat * 256 ^ rest.length + 256 ^ rest.length := Nat.add_lt_add_left ih _
        _ = (byte.toNat + 1) * 256 ^ rest.length := (Nat.succ_mul _ _).symm
        _ ≤ 256 * 256 ^ rest.length := Nat.mul_le_mul_right _ hbyte
        _ = 256 ^ (byte :: rest).length := by
            rw [List.length_cons, Nat.pow_succ, Nat.mul_comm]

/-- Up to eight bytes are an integer of sixty-four bits. -/
theorem toInt_ofInt_decodeInt {bytes : Bytes} (h : bytes.length ≤ 8) :
    (Int64.ofInt (decodeInt bytes)).toInt = decodeInt bytes := by
  have hlt := decode_lt bytes
  have hbound : 256 ^ bytes.length ≤ 256 ^ (8 : Nat) := Nat.pow_le_pow_right (by decide) h
  have hlarge : (256 : Nat) ^ 8 = 2 * 2 ^ 63 := by decide
  apply Int64.toInt_ofInt_of_le
  · rw [decodeInt]
    split <;> omega
  · rw [decodeInt]
    split <;> omega

theorem decode_pair {n : Nat} (h : n < 256 ^ (2 : Nat)) :
    decode [byteAt n 1, byteAt n 0] = n := by
  have hpair : encode 2 n = [byteAt n 1, byteAt n 0] := rfl
  rw [← hpair, decode_encode, Nat.mod_eq_of_lt h]

end BigEndian

/-! ## Exact decimals -/

namespace Postgres.Numeric

def number (numeric : Numeric) : Rat :=
  scaledRatio numeric.negative 10 numeric.coefficient (-(numeric.scale : Int))

/-- The number that groups denote, the highest first. -/
def groupsNumber (groups : List Nat) : Nat :=
  groups.foldl (fun n group => n * 10000 + group) 0

/-- The number that is written on the wire: the first group counts powers of ten
thousand up to the weight. -/
def Fields.number (fields : Fields) (negative : Bool) : Rat :=
  scaledRatio negative 10000 (groupsNumber fields.kept)
    (fields.weight + 1 - fields.kept.length)

/-- The bytes are a form of the decimal.  It need not be the one that this library
writes: zeros may stand before and after the groups. -/
def IsWritten (numeric : Numeric) (bytes : Bytes) : Prop :=
  ∃ fields : Fields, fields.HasRoom ∧ fields.kept.length < 256 ^ (2 : Nat) ∧
    fields.sign = (if numeric.negative then negativeSign else 0) ∧
    fields.scale = numeric.scale ∧
    fields.number numeric.negative = numeric.number ∧
    bytes = fields.bytes

/-- The integer or the double that a decimal becomes is the decimal: it is an integer of
sixty-four bits without places, or doubles hold it. -/
def IsKept (numeric : Numeric) : Prop :=
  numeric.toInt64?.isSome = true ∨
    FloatFormat.double.Represents numeric.coefficient (10 ^ numeric.scale)

theorem readGroups?_flatMap {groups : List Nat}
    (h : ∀ group ∈ groups, group < 256 ^ (2 : Nat)) :
    readGroups? groups.length (groups.flatMap (BigEndian.encode 2)) = some groups := by
  induction groups with
  | nil => rfl
  | cons group groups ih =>
      obtain ⟨hgroup, hgroups⟩ := List.forall_mem_cons.mp h
      have hbytes : (group :: groups).flatMap (BigEndian.encode 2) =
          BigEndian.byteAt group 1 :: BigEndian.byteAt group 0 ::
            groups.flatMap (BigEndian.encode 2) := rfl
      rw [hbytes, List.length_cons, readGroups?, ih hgroups, BigEndian.decode_pair hgroup,
        Option.map_some]

theorem decode?_bytes {fields : Fields} (h : fields.HasRoom)
    (hkept : fields.kept.length < 256 ^ (2 : Nat)) :
    decode? fields.bytes =
      ofGroups? (fields.sign = negativeSign) fields.weight fields.scale fields.kept := by
  have hcount := BigEndian.decode_pair hkept
  have hweight : BigEndian.decodeInt
      [BigEndian.byteAt (fields.weight % (256 ^ (2 : Nat) : Nat)).toNat 1,
        BigEndian.byteAt (fields.weight % (256 ^ (2 : Nat) : Nat)).toNat 0] =
        fields.weight :=
    BigEndian.decodeInt_encodeInt h.weight
  have hsign := BigEndian.decode_pair h.sign
  have hscale := BigEndian.decode_pair h.scale
  have hgroups := readGroups?_flatMap h.kept
  rw [← hcount] at hgroups
  rw [Fields.bytes]
  generalize fields.kept.flatMap (BigEndian.encode 2) = rest at hgroups ⊢
  simp only [BigEndian.encodeInt, BigEndian.encode, List.cons_append, List.nil_append,
    decode?, hgroups, hweight, hsign, hscale]
  rfl

theorem shorten_eq_self {bound coefficient scale : Nat} (hbound : coefficient < bound)
    (hscale : scale ≤ maxScale) :
    shorten bound coefficient scale = (coefficient, scale) := by
  cases scale with
  | zero => rfl
  | succ scale =>
      rw [shorten, if_neg]
      rintro (hmany | hlarge)
      · omega
      · omega

/-- A whole number of units is not rounded. -/
theorem ofGroups?_eq_some {numeric : Numeric} (hheld : numeric.IsHeld) {weight : Int}
    {groups : List Nat} {shift : Int}
    (hshift : shift = 4 * (weight + 1 - groups.length) + numeric.scale)
    (hunits : groupsNumber groups * 10 ^ shift.toNat =
      numeric.coefficient * 10 ^ (-shift).toNat) :
    ofGroups? numeric.negative weight numeric.scale groups = some numeric := by
  have hdivisor : 0 < 10 ^ (-shift).toNat := Nat.pow_pos (by decide)
  have hremainder : ¬10 ^ (-shift).toNat ≤
      2 * (numeric.coefficient * 10 ^ (-shift).toNat % 10 ^ (-shift).toNat) := by
    rw [Nat.mul_mod_left, Nat.mul_zero]
    omega
  have hshort := shorten_eq_self hheld.1 hheld.2
  rw [groupsNumber] at hunits
  unfold ofGroups?
  simp only [← hshift, hunits, if_neg hremainder, Nat.mul_div_cancel _ hdivisor,
    Nat.add_zero, hshort, if_pos hheld.1]

/-- The groups of a form count the units of the decimal. -/
theorem units_of_number_eq {numeric : Numeric} {fields : Fields} {shift : Int}
    (hshift : shift = 4 * (fields.weight + 1 - fields.kept.length) + numeric.scale)
    (hnumber : fields.number numeric.negative = numeric.number) :
    groupsNumber fields.kept * 10 ^ shift.toNat =
      numeric.coefficient * 10 ^ (-shift).toNat := by
  have hten : ∀ n : Nat, 10000 ^ n = 10 ^ (4 * n) := fun n => (Nat.pow_mul 10 4 n).symm
  have hpositive : ∀ n : Nat, (10 : Nat) ^ n ≠ 0 :=
    fun n => Nat.ne_of_gt (Nat.pow_pos (by decide))
  generalize hpower : fields.weight + 1 - fields.kept.length = power at hshift
  rw [Fields.number, number, scaledRatio, scaledRatio, hpower, hten, hten,
    signedRatio_eq_iff (hpositive _) (hpositive _), Nat.mul_assoc, Nat.mul_assoc,
    ← Nat.pow_add, ← Nat.pow_add] at hnumber
  have hsum : 4 * power.toNat + (- -(numeric.scale : Int)).toNat + (-shift).toNat =
      (-(numeric.scale : Int)).toNat + 4 * (-power).toNat + shift.toNat := by
    omega
  -- The two numbers are equal crosswise; the powers that are left over are cancelled.
  apply Nat.eq_of_mul_eq_mul_right
    (Nat.pos_of_ne_zero (hpositive ((-(numeric.scale : Int)).toNat + 4 * (-power).toNat)))
  rw [Nat.mul_assoc, ← Nat.pow_add, Nat.add_comm shift.toNat, ← hsum, Nat.pow_add,
    ← Nat.mul_assoc, hnumber, Nat.mul_right_comm]

/-- Decimals that are held are read exactly. -/
theorem decode?_of_isWritten {numeric : Numeric} {bytes : Bytes}
    (hheld : numeric.IsHeld) (hwritten : numeric.IsWritten bytes) :
    decode? bytes = some numeric := by
  obtain ⟨fields, hroom, hkept, hsign, hscale, hnumber, rfl⟩ := hwritten
  have hnegative : decide (fields.sign = negativeSign) = numeric.negative := by
    rw [hsign]
    cases numeric.negative <;> rfl
  rw [decode?_bytes hroom hkept, hnegative, hscale]
  exact ofGroups?_eq_some hheld rfl (units_of_number_eq rfl hnumber)

/-- An integer without places is the decimal. -/
theorem number_of_toInt64? {numeric : Numeric} {i : Int64} (h : numeric.toInt64? = some i) :
    numeric.number = wholeRatio i.toInt := by
  unfold toInt64? at h
  generalize hsigned : (if numeric.negative = true then -(numeric.coefficient : Int)
    else numeric.coefficient) = signed at h
  dsimp only at h
  by_cases hfits : numeric.scale = 0 ∧ BigEndian.fits 8 signed = true
  · rw [if_pos hfits] at h
    obtain ⟨hscale, hfits⟩ := hfits
    rw [BigEndian.fits, Bool.and_eq_true, decide_eq_true_eq, decide_eq_true_eq] at hfits
    have hi : i.toInt = signed := by
      rw [← Option.some.inj h]
      apply Int64.toInt_ofInt_of_le <;> omega
    rw [hi, number, hscale, scaledRatio, signedRatio_eq_whole_iff (by decide), ← hsigned]
    simp
  · rw [if_neg hfits] at h
    cases h

/-- The double that a decimal is rounded to is the decimal if doubles hold it. -/
theorem number?_toReal_iff (numeric : Numeric) :
    numeric.toReal.number? = some numeric.number ↔
      FloatFormat.double.Represents numeric.coefficient (10 ^ numeric.scale) := by
  have hnumerator : numeric.coefficient * 10 ^ (-(numeric.scale : Int)).toNat =
      numeric.coefficient := by
    rw [Int.toNat_of_nonpos (by omega), Nat.pow_zero, Nat.mul_one]
  have hdenominator : (- -(numeric.scale : Int)).toNat = numeric.scale := by omega
  rw [toReal, FloatFormat.roundDecimal, number, scaledRatio, hnumerator, hdenominator]
  exact Binary64.number?_ofCode_roundRatio_iff
    (Nat.ne_of_gt (Nat.pow_pos (by decide))) numeric.negative

/-- A decimal becomes a value that denotes it if it is kept, and another one if not. -/
theorem number?_ofNumeric_iff (numeric : Numeric) :
    (Cell.ofNumeric numeric).number? = some numeric.number ↔ numeric.IsKept := by
  rw [Cell.ofNumeric, IsKept]
  cases hwhole : numeric.toInt64? with
  | some i => simp [Value.number?, number_of_toInt64? hwhole]
  | none =>
      have hreal := number?_toReal_iff numeric
      simpa [Value.number?] using hreal

end Postgres.Numeric

/-! ## Reading integers -/

namespace Kind

/-- Integers have no further check. -/
theorem read_eq_ok_iff {kind : Kind} (hkind : kind.isInteger = true) {value : Value}
    {outcome : Option kind.Carrier} :
    kind.read value = .ok outcome ↔ kind.decode value = .ok outcome := by
  have hcheck : ∀ v, kind.checkOption v = .ok v := by
    intro v
    cases kind with
    | integer type => cases v <;> rfl
    | foreignKey target => cases v <;> rfl
    | _ => cases hkind
  rw [read]
  cases kind.decode value with
  | error error => rfl
  | ok v => rw [ok_bind, hcheck]

theorem number?_of_read {kind : Kind} (hkind : kind.isInteger = true) {value : Value}
    (hvalue : value ≠ .null) {outcome : Option kind.Carrier}
    (h : kind.read value = .ok outcome) :
    ∃ v, outcome = some v ∧ value.number? = some (wholeRatio (kind.wholeOf v)) := by
  rw [read_eq_ok_iff hkind] at h
  cases kind with
  | integer type => exact number?_of_decodeInteger hvalue h
  | foreignKey target => exact number?_of_decodeInteger hvalue h
  | _ => cases hkind

/-- An integer that a value other than a text denotes is read. -/
theorem read_of_number? {kind : Kind} (hkind : kind.isInteger = true) {value : Value}
    (htext : ∀ s, value ≠ .text s) {v : kind.Carrier}
    (h : value.number? = some (wholeRatio (kind.wholeOf v))) :
    kind.read value = .ok (some v) := by
  rw [read_eq_ok_iff hkind]
  cases kind with
  | integer type => exact decodeInteger_of_number? htext h
  | foreignKey target => exact decodeInteger_of_number? htext h
  | _ => cases hkind

end Kind

/-! ## Cells of the two backends -/

namespace Sqlite.Storage

/-- The number in a cell: an integer, a finite double, or a text that denotes one. -/
def number? : Storage → Option Rat
  | integer i => some (wholeRatio i.toInt)
  | real r => r.number?
  | text bytes => (Utf8.decode bytes).toOption.bind numberOfText?
  | _ => none

theorem number?_toValue (cell : Storage) : cell.toValue.number? = cell.number? := by
  cases cell with
  | text bytes =>
      rw [toValue, number?]
      cases Utf8.decode bytes <;> rfl
  | _ => rfl

theorem toValue_ne_null {cell : Storage} (h : cell ≠ .null) : cell.toValue ≠ .null := by
  cases cell with
  | null => exact absurd rfl h
  | text bytes =>
      rw [toValue]
      split
      · exact Value.noConfusion
      · exact Value.noConfusion
  | _ => exact Value.noConfusion

theorem toValue_ne_text {cell : Storage} (h : ∀ bytes, cell ≠ .text bytes) (s : String) :
    cell.toValue ≠ .text s := by
  cases cell with
  | text bytes => exact absurd rfl (h bytes)
  | _ => exact Value.noConfusion

end Sqlite.Storage

namespace Postgres.Cell

/-- The bytes of a cell hold a number. -/
inductive Holds : WireType → Bytes → Rat → Prop where
  | integer {type : WireType} {bytes : Bytes} {width : Nat}
      (hwidth : type.integerWidth? = some width) (hlength : bytes.length = width) :
      Holds type bytes (wholeRatio (BigEndian.decodeInt bytes))
  | single {bytes : Bytes} {number : Rat} (hlength : bytes.length = 4)
      (h : Binary32.number? ⟨UInt32.ofNat (BigEndian.decode bytes)⟩ = some number) :
      Holds .float4 bytes number
  | double {bytes : Bytes} {number : Rat} (hlength : bytes.length = 8)
      (h : Binary64.number? ⟨UInt64.ofNat (BigEndian.decode bytes)⟩ = some number) :
      Holds .float8 bytes number
  | numeric {bytes : Bytes} {numeric : Numeric} (hheld : numeric.IsHeld)
      (h : numeric.IsWritten bytes) : Holds .numeric bytes numeric.number
  | text {type : WireType} {bytes : Bytes} {s : String} {number : Rat}
      (htype : type.isText = true) (hs : Utf8.decode bytes = .ok s)
      (h : numberOfText? s = some number) : Holds type bytes number

/-- Reading the cell does not change its number: it is no exact decimal, or one that is
kept. -/
def Keeps (type : WireType) (bytes : Bytes) : Prop :=
  ∀ numeric : Numeric, type = .numeric → numeric.IsHeld → numeric.IsWritten bytes →
    numeric.IsKept

theorem keeps_of_ne {type : WireType} (h : type ≠ .numeric) (bytes : Bytes) :
    Keeps type bytes :=
  fun _ htype => absurd htype h

theorem keeps_numeric_iff {numeric : Numeric} {bytes : Bytes} (hheld : numeric.IsHeld)
    (hwritten : numeric.IsWritten bytes) : Keeps .numeric bytes ↔ numeric.IsKept := by
  constructor
  · intro h
    exact h numeric rfl hheld hwritten
  · intro h other _ hother hwritten'
    have hsame := (Numeric.decode?_of_isWritten hheld hwritten).symm.trans
      (Numeric.decode?_of_isWritten hother hwritten')
    rwa [← Option.some.inj hsame]

/-- A cell is read as a value that is a text in columns of texts only, and that denotes
the number just if the number is kept. -/
def IsReadAs (type : WireType) (bytes : Bytes) (number : Rat) (value : Value) : Prop :=
  value ≠ .null ∧
    (type.isText = false → ∀ s, value ≠ .text s) ∧
    (value.number? = some number ↔ Keeps type bytes)

theorem isReadAs_of_number?
    {type : WireType} (hne : type ≠ .numeric) (bytes : Bytes)
    {value : Value} (htext : type.isText = false → ∀ s, value ≠ .text s)
    {number : Rat} (hnumber : value.number? = some number) :
    IsReadAs type bytes number value := by
  refine ⟨?_, htext, iff_of_true hnumber (keeps_of_ne hne bytes)⟩
  rintro rfl
  cases hnumber

theorem isReadAs_ofNumeric
    {numeric : Numeric} (hheld : numeric.IsHeld)
    {bytes : Bytes} (hwritten : numeric.IsWritten bytes) :
    IsReadAs .numeric bytes numeric.number (ofNumeric numeric) := by
  have hkeeps := keeps_numeric_iff hheld hwritten
  refine ⟨?_, ?_, (numeric.number?_ofNumeric_iff).trans hkeeps.symm⟩
  · rw [ofNumeric]
    split
    · exact Value.noConfusion
    · exact Value.noConfusion
  · intro _ s
    rw [ofNumeric]
    split
    · exact Value.noConfusion
    · exact Value.noConfusion

theorem Holds.exists_read
    {type : WireType} {bytes : Bytes} {number : Rat}
    (h : Holds type bytes number) (hknown : type ≠ .unknown) (index : Nat) :
    ∃ value, read index type (some bytes) = .ok value ∧
      IsReadAs type bytes number value := by
  cases h with
  | @integer _ _ width hwidth hlength =>
      have hshort : bytes.length ≤ 8 := by
        cases type <;> cases hwidth <;> omega
      have hvalue : integer? width bytes =
          some (.integer (Int64.ofInt (BigEndian.decodeInt bytes))) :=
        if_pos hlength
      have hnumber : Value.number? (.integer (Int64.ofInt (BigEndian.decodeInt bytes))) =
          some (wholeRatio (BigEndian.decodeInt bytes)) := by
        rw [Value.number?, BigEndian.toInt_ofInt_decodeInt hshort]
      -- The width decides which types are left, and each of them is read alike.
      refine ⟨_, ?_, isReadAs_of_number? ?_ bytes (fun _ _ => Value.noConfusion) hnumber⟩
      · cases type <;> cases hwidth <;> exact read_eq_ok rfl hvalue index
      · rintro rfl
        cases hwidth
  | single hlength hsingle =>
      have hnumber : Value.number?
          (.real (Binary32.toBinary64 ⟨UInt32.ofNat (BigEndian.decode bytes)⟩)) =
            some number :=
        (Binary32.number?_toBinary64 _).trans hsingle
      exact ⟨_, read_eq_ok rfl (if_pos hlength) index,
        isReadAs_of_number? (by decide) bytes (fun _ _ => Value.noConfusion) hnumber⟩
  | double hlength hdouble =>
      have hnumber : Value.number? (.real ⟨UInt64.ofNat (BigEndian.decode bytes)⟩) =
          some number :=
        hdouble
      exact ⟨_, read_eq_ok rfl (if_pos hlength) index,
        isReadAs_of_number? (by decide) bytes (fun _ _ => Value.noConfusion) hnumber⟩
  | @numeric _ numeric hheld hwritten =>
      have hvalue : (Numeric.decode? bytes).map ofNumeric = some (ofNumeric numeric) := by
        rw [Numeric.decode?_of_isWritten hheld hwritten, Option.map_some]
      exact ⟨_, read_eq_ok rfl hvalue index, isReadAs_ofNumeric hheld hwritten⟩
  | @text _ _ s _ htype hs hnumber =>
      have hvalue : text? bytes = some (.text s) := by
        rw [text?, hs]
        rfl
      refine ⟨.text s, ?_, isReadAs_of_number? ?_ bytes ?_ hnumber⟩
      · cases type with
        | text | varchar | bpchar | name => exact read_eq_ok rfl hvalue index
        | unknown => exact absurd rfl hknown
        | _ => cases htype
      · rintro rfl
        cases htype
      · intro hfalse
        rw [htype] at hfalse
        cases hfalse

end Postgres.Cell

/-! ## Reading integers from cells -/

namespace Kind

/-- An integer that is read from a cell of a server is the number in the cell just if
reading the cell keeps the number. -/
theorem read_cell_of_holds
    {kind : Kind} (hkind : kind.isInteger = true)
    {index : Nat} {type : Postgres.WireType} {bytes : Bytes} {number : Rat}
    (hholds : Postgres.Cell.Holds type bytes number)
    {outcome : Option kind.Carrier}
    (h : (Postgres.Cell.read index type (some bytes) >>= kind.read) = .ok outcome) :
    ∃ v, outcome = some v ∧
      (number = wholeRatio (kind.wholeOf v) ↔ Postgres.Cell.Keeps type bytes) := by
  have hknown : type ≠ .unknown := by
    rintro rfl
    cases h
  obtain ⟨value, hread, hnull, -, hkeeps⟩ := hholds.exists_read hknown index
  rw [hread, ok_bind] at h
  obtain ⟨v, rfl, hv⟩ := number?_of_read hkind hnull h
  refine ⟨v, rfl, ?_⟩
  rw [← hkeeps, hv, Option.some.injEq, eq_comm]

/-- An integer that is kept in a cell of a server is read, unless the cell is a text. -/
theorem read_cell_of_keeps
    {kind : Kind} (hkind : kind.isInteger = true)
    {index : Nat} {type : Postgres.WireType} {bytes : Bytes} {v : kind.Carrier}
    (htype : type.isText = false)
    (hholds : Postgres.Cell.Holds type bytes (wholeRatio (kind.wholeOf v)))
    (hkeeps : Postgres.Cell.Keeps type bytes) :
    (Postgres.Cell.read index type (some bytes) >>= kind.read) = .ok (some v) := by
  have hknown : type ≠ .unknown := by
    rintro rfl
    cases htype
  obtain ⟨value, hread, -, htext, hnumber⟩ := hholds.exists_read hknown index
  rw [hread, ok_bind]
  exact read_of_number? hkind (htext htype) (hnumber.mpr hkeeps)

/-- What an integer column reads from a cell is an integer, never a null.  From an
embedded engine it is the number in the cell.  From a server it is the number in the
cell just if reading the cell keeps the number.  Every number of the column that a cell
other than a text holds and keeps is read. -/
theorem integer_of_cell_iff_keeps
    {kind : Kind} (hkind : kind.isInteger = true) :
    (∀ (cell : Sqlite.Storage) (outcome : Option kind.Carrier),
      cell ≠ .null → kind.read cell.toValue = .ok outcome →
        ∃ v, outcome = some v ∧ cell.number? = some (wholeRatio (kind.wholeOf v))) ∧
    (∀ (cell : Sqlite.Storage) (v : kind.Carrier),
      (∀ bytes, cell ≠ .text bytes) → cell.number? = some (wholeRatio (kind.wholeOf v)) →
        kind.read cell.toValue = .ok (some v)) ∧
    (∀ (index : Nat) (type : Postgres.WireType) (bytes : Bytes) (number : Rat)
      (outcome : Option kind.Carrier),
      Postgres.Cell.Holds type bytes number →
      (Postgres.Cell.read index type (some bytes) >>= kind.read) = .ok outcome →
        ∃ v, outcome = some v ∧
          (number = wholeRatio (kind.wholeOf v) ↔ Postgres.Cell.Keeps type bytes)) ∧
    (∀ (index : Nat) (type : Postgres.WireType) (bytes : Bytes) (v : kind.Carrier),
      type.isText = false →
      Postgres.Cell.Holds type bytes (wholeRatio (kind.wholeOf v)) →
      Postgres.Cell.Keeps type bytes →
        (Postgres.Cell.read index type (some bytes) >>= kind.read) = .ok (some v)) := by
  refine ⟨?_, ?_, ?_, ?_⟩
  · intro cell outcome hcell h
    have hvalue := Sqlite.Storage.toValue_ne_null hcell
    obtain ⟨v, rfl, hv⟩ := number?_of_read hkind hvalue h
    exact ⟨v, rfl, by rw [← Sqlite.Storage.number?_toValue, hv]⟩
  · intro cell v htext hnumber
    rw [← Sqlite.Storage.number?_toValue] at hnumber
    exact read_of_number? hkind (Sqlite.Storage.toValue_ne_text htext) hnumber
  · intro index type bytes number outcome hholds h
    exact read_cell_of_holds hkind hholds h
  · intro index type bytes v htype hholds hkeeps
    exact read_cell_of_keeps hkind htype hholds hkeeps

/-- The decimal 3.00 in one group of digits. -/
def threeBytes : Bytes :=
  [0, 1, 0, 0, 0, 0, 0, 2, 0, 3]

theorem integer_of_cell_iff_keeps_three :
    (Kind.integer .int64).isInteger = true ∧
    (∃ v, (Kind.integer .int64).read (Sqlite.Storage.real ⟨0x4008000000000000⟩).toValue =
        .ok (some v) ∧ v.val = 3) ∧
    (Sqlite.Storage.real ⟨0x4008000000000000⟩).number? = some (wholeRatio 3) ∧
    (∃ v, (Postgres.Cell.read 0 .numeric (some threeBytes) >>=
        (Kind.integer .int64).read) = .ok (some v) ∧ v.val = 3) ∧
    Postgres.Cell.Keeps .numeric threeBytes := by
  have hkind : (Kind.integer .int64).isInteger = true := rfl
  obtain ⟨hreal, hnumber, hcell, hkept⟩ := integer_of_cell_iff_keeps hkind
  let three : IntegerType.int64.Number := ⟨3, by decide, by decide⟩
  have hthree : (Sqlite.Storage.real ⟨0x4008000000000000⟩).number? =
      some (wholeRatio three.val) := by
    decide +kernel
  have hread := hnumber (.real ⟨0x4008000000000000⟩) three
    (fun _ => Sqlite.Storage.noConfusion) hthree
  obtain ⟨_, hsame, hwhole⟩ := hreal _ _ Sqlite.Storage.noConfusion hread
  cases hsame
  have hheld : Postgres.Numeric.IsHeld ⟨false, 300, 2⟩ := by
    constructor <;> decide
  have hwritten : Postgres.Numeric.IsWritten ⟨false, 300, 2⟩ threeBytes := by
    refine ⟨⟨0, 0, 2, [3]⟩, ?_, by decide, rfl, rfl, by decide +kernel, rfl⟩
    constructor <;> decide
  have hholds : Postgres.Cell.Holds .numeric threeBytes (wholeRatio three.val) := by
    have hvalue : Postgres.Numeric.number ⟨false, 300, 2⟩ = wholeRatio three.val := by
      decide +kernel
    rw [← hvalue]
    exact .numeric hheld hwritten
  have hkeeps : Postgres.Cell.Keeps .numeric threeBytes := by
    rw [Postgres.Cell.keeps_numeric_iff hheld hwritten]
    exact Or.inr ⟨0x4008000000000000, by decide +kernel, by decide +kernel⟩
  have hsent := hkept 0 _ _ three rfl hholds hkeeps
  obtain ⟨_, hsame, hiff⟩ := hcell 0 _ _ _ _ hholds hsent
  cases hsame
  exact ⟨hkind, ⟨three, hread, rfl⟩, hwhole, ⟨three, hsent, rfl⟩, hiff.mp rfl⟩

/-- The decimal 9007199254740993.0, halfway between two doubles. -/
def halfwayBytes : Bytes :=
  [0, 4, 0, 3, 0, 0, 0, 1, 0x23, 0x2F, 0x07, 0xC8, 0x15, 0x62, 0x03, 0xE1]

/-- The integer below is read. -/
theorem integer_of_cell_halfway :
    Postgres.Cell.Holds .numeric halfwayBytes (wholeRatio 9007199254740993) ∧
    (Postgres.Cell.read 0 .numeric (some halfwayBytes) >>=
      (Kind.integer .int64).read) =
        .ok (some ⟨9007199254740992, by decide, by decide⟩) ∧
    wholeRatio 9007199254740993 ≠ wholeRatio 9007199254740992 := by
  have hheld : Postgres.Numeric.IsHeld ⟨false, 90071992547409930, 1⟩ := by
    constructor <;> decide
  have hwritten : Postgres.Numeric.IsWritten ⟨false, 90071992547409930, 1⟩
      halfwayBytes := by
    refine ⟨⟨3, 0, 1, [9007, 1992, 5474, 993]⟩, ?_, by decide, rfl, rfl,
      by decide +kernel, rfl⟩
    constructor <;> decide
  refine ⟨?_, ?_, ?_⟩
  · have hvalue : Postgres.Numeric.number ⟨false, 90071992547409930, 1⟩ =
        wholeRatio 9007199254740993 := by
      decide +kernel
    rw [← hvalue]
    exact .numeric hheld hwritten
  · have hdouble : Postgres.Cell.ofNumeric ⟨false, 90071992547409930, 1⟩ =
        .real ⟨0x4340000000000000⟩ := by
      decide +kernel
    have hvalue : (Postgres.Numeric.decode? halfwayBytes).map Postgres.Cell.ofNumeric =
        some (.real ⟨0x4340000000000000⟩) := by
      rw [Postgres.Numeric.decode?_of_isWritten hheld hwritten, Option.map_some, hdouble]
    rw [Postgres.Cell.read_eq_ok rfl hvalue 0, ok_bind]
    exact read_of_number? rfl (fun _ => Value.noConfusion) (by decide +kernel)
  · rw [Ne, wholeRatio_inj]
    decide

end Kind

end TypedQuery
