import TypedQuery.Postgres.Cell
import TypedQuery.Proofs.Calendar
import TypedQuery.Proofs.StoredRecords
import TypedQuery.Schema.Basic

/-!
# Values survive in columns of their own type

A value of a kind is sent to a column whose type is the one that the kind declares,
and it is read back from there.  Three tables must agree for this: the words of
table definitions, the forms of parameters, and the readers of cells.  Integers
must fit the width that was declared for them, and timestamps the microseconds
that the server counts.
-/

namespace TypedQuery

namespace Postgres

/-! ## Declared types -/

/-- The type that the values of a column have, by the word that declares it. -/
def WireType.ofColumnWord? : String → Option WireType
  | "SMALLINT" | "SMALLSERIAL" => some int2
  | "INTEGER" | "SERIAL" => some int4
  | "BIGINT" | "BIGSERIAL" => some int8
  | "DOUBLE PRECISION" => some float8
  | "BOOLEAN" => some bool
  | "TEXT" => some text
  | "BYTEA" => some bytea
  | "TIMESTAMP" => some timestamp
  | _ => none

/-- The number of bytes of the integers of a type. -/
def WireType.integerWidth? : WireType → Option Nat
  | int2 => some 2
  | int4 => some 4
  | int8 => some 8
  | _ => none

end Postgres

open Postgres

/-- An integer column is declared with a type that has room for its numbers. -/
theorem IntegerType.exists_columnWidth
    (type : IntegerType) (counting : Bool) :
    ∃ wire width,
      WireType.ofColumnWord? (ColumnType.integerWord type.bits type.signed counting) =
        some wire ∧
      wire.integerWidth? = some width ∧
      ∀ n : type.Number, BigEndian.fits width n.val = true := by
  have hroom : ∀ width, -(256 ^ width : Nat) ≤ 2 * type.lower →
      2 * type.upper < (256 ^ width : Nat) →
      ∀ n : type.Number, BigEndian.fits width n.val = true := by
    intro width hlower hupper n
    have hlow := n.lower_le
    have hhigh := n.le_upper
    rw [BigEndian.fits, Bool.and_eq_true, decide_eq_true_eq, decide_eq_true_eq]
    constructor
    · omega
    · omega
  cases type
  case int8 | int16 | uint8 =>
      cases counting <;> exact ⟨.int2, 2, rfl, rfl, hroom 2 (by decide) (by decide)⟩
  case int32 | uint16 =>
      cases counting <;> exact ⟨.int4, 4, rfl, rfl, hroom 4 (by decide) (by decide)⟩
  case int64 | uint32 =>
      cases counting <;> exact ⟨.int8, 8, rfl, rfl, hroom 8 (by decide) (by decide)⟩

namespace Postgres

/-! ## Sent and read back -/

theorem Cell.read_eq_ok
    {type : WireType} {reader : Bytes → Option Value} {bytes : Bytes} {value : Value}
    (hreader : Cell.reader? type = some reader) (h : reader bytes = some value)
    (index : Nat) :
    Cell.read index type (some bytes) = .ok value := by
  simp only [Cell.read, hreader, h]

/-- A value is sent as a type, and what was sent is read as the value. -/
def Returns (type : WireType) (value : Value) : Prop :=
  ∃ bytes, Parameter.encode? type value = some (some bytes) ∧
    ∀ index, Cell.read index type (some bytes) = .ok value

theorem returns_integer
    {type : WireType} {width : Nat} {i : Int64} (hwidth : type.integerWidth? = some width)
    (hfits : BigEndian.fits width i.toInt = true) :
    Returns type (.integer i) := by
  have hsent : Parameter.integer? width i.toInt =
      some (BigEndian.encodeInt width i.toInt) :=
    if_pos hfits
  have hlength := BigEndian.length_encodeInt width i.toInt
  have hread : Cell.integer? width (BigEndian.encodeInt width i.toInt) =
      some (.integer i) := by
    rw [Cell.integer?, if_pos hlength, BigEndian.decodeInt_encodeInt hfits,
      Int64.ofInt_toInt]
  refine ⟨BigEndian.encodeInt width i.toInt, ?_, ?_⟩
  · cases type <;> cases hwidth <;>
      simp only [Parameter.encode?, Parameter.ofInteger?, hsent, Option.map_some]
  · cases type <;> cases hwidth <;> exact Cell.read_eq_ok rfl hread

theorem returns_boolean (b : Bool) : Returns .bool (.boolean b) := by
  refine ⟨[if b then 1 else 0], rfl, Cell.read_eq_ok rfl ?_⟩
  cases b <;> rfl

theorem returns_real (r : Binary64) : Returns .float8 (.real r) := by
  have hlength : (Parameter.double r).length = 8 := BigEndian.length_encode 8 _
  have hbits : UInt64.ofNat (BigEndian.decode (Parameter.double r)) = r.bits := by
    have hlt : r.bits.toNat < 256 ^ (8 : Nat) := r.bits.toNat_lt
    rw [Parameter.double, BigEndian.decode_encode, Nat.mod_eq_of_lt hlt,
      UInt64.ofNat_toNat]
  refine ⟨Parameter.double r, rfl, Cell.read_eq_ok rfl ?_⟩
  rw [if_pos hlength, hbits]

theorem returns_text (s : String) : Returns .text (.text s) := by
  refine ⟨Utf8.encode s, rfl, Cell.read_eq_ok rfl ?_⟩
  rw [Cell.text?, Utf8.decode_encode]
  rfl

theorem returns_blob (bytes : Bytes) : Returns .bytea (.blob bytes) :=
  ⟨bytes, rfl, fun _ => rfl⟩

end Postgres

namespace Timestamp

/-- The time is a whole number of microseconds and not in a leap second. -/
def IsWholeMicros (t : Timestamp) : Prop :=
  t.time.isLeapSecond = false ∧ t.time.nano % nanosPerMicro = 0

end Timestamp

namespace Postgres

theorem dvd_nanosSince_epoch {t : Timestamp} (h : t.IsWholeMicros) :
    (nanosPerMicro : Int) ∣ t.nanosSince epoch := by
  obtain ⟨-, hnano⟩ := h
  have hday : (nanosPerMicro : Int) ∣ Timestamp.nanosPerDay := by decide
  have hsecond : nanosPerMicro ∣ nanosPerSecond := by decide
  have htime : nanosPerMicro ∣ t.time.nanos :=
    Nat.dvd_add (Nat.dvd_mul_left_of_dvd hsecond _) (Nat.dvd_of_mod_eq_zero hnano)
  exact Int.dvd_add (Int.dvd_mul_of_dvd_right hday) (Int.natCast_dvd_natCast.mpr htime)

theorem micros_mul {t : Timestamp} (h : t.IsWholeMicros) :
    Parameter.micros t * nanosPerMicro = t.nanosSince epoch :=
  Int.tdiv_mul_cancel (dvd_nanosSince_epoch h)

theorem dayNumber_epoch : epoch.dayNumber = 730484 := by decide

/-- The nanoseconds to every timestamp are a thousand numbers of sixty-four bits
at most. -/
theorem nanosSince_epoch_bounds (t : Timestamp) :
    -9223372036854775808000 < t.nanosSince epoch ∧
      t.nanosSince epoch < 9223372036854775807000 := by
  obtain ⟨hfirst, hlast, -⟩ := t.date.isDate
  obtain ⟨hhour, hminute, hsecond, hnano⟩ := t.time.isTime
  obtain ⟨hafter, hbefore⟩ := t.date.dayNumber_bounds
  have htime : t.time.nanos < 86401000000000 := by
    unfold TimeOfDay.nanos TimeOfDay.seconds
    unfold nanosPerSecond at hnano ⊢
    omega
  have hdays : -95746398 ≤ t.date.dayNumber ∧ t.date.dayNumber ≤ 95746400 := by
    simp only [Date.daysBeforeYear, firstYear, lastYear] at hfirst hlast hafter hbefore
    omega
  have hday : Timestamp.nanosPerDay = 86400000000000 := rfl
  rw [Timestamp.nanosSince, dayNumber_epoch, hday]
  omega

/-- The microseconds to every timestamp fit sixty-four bits. -/
theorem fits_micros (t : Timestamp) : BigEndian.fits 8 (Parameter.micros t) = true := by
  have hbounds := nanosSince_epoch_bounds t
  have hsum := Int.mul_tdiv_add_tmod (t.nanosSince epoch) nanosPerMicro
  have hpositive : (0 : Int) < nanosPerMicro := by decide
  have hlow := Int.lt_tmod_of_pos (t.nanosSince epoch) hpositive
  have hhigh := Int.tmod_lt_of_pos (t.nanosSince epoch) hpositive
  have hmicro : (nanosPerMicro : Int) = 1000 := rfl
  rw [hmicro] at hsum hlow hhigh
  rw [BigEndian.fits, Bool.and_eq_true, decide_eq_true_eq, decide_eq_true_eq,
    Parameter.micros, hmicro]
  constructor
  · omega
  · omega

theorem returns_timestamp {t : Timestamp} (h : t.IsWholeMicros) :
    Returns .timestamp (.timestamp t) := by
  have hsent : Parameter.integer? 8 (Parameter.micros t) =
      some (BigEndian.encodeInt 8 (Parameter.micros t)) := by
    rw [Parameter.integer?, if_pos (fits_micros t)]
  have hlength := BigEndian.length_encodeInt 8 (Parameter.micros t)
  have hread : Cell.timestamp? (BigEndian.encodeInt 8 (Parameter.micros t)) =
      some (.timestamp t) := by
    rw [Cell.timestamp?, if_pos hlength, BigEndian.decodeInt_encodeInt (fits_micros t),
      micros_mul h, Timestamp.addNanos?_nanosSince h.1, Option.map_some]
  refine ⟨BigEndian.encodeInt 8 (Parameter.micros t), ?_, Cell.read_eq_ok rfl hread⟩
  rw [Parameter.encode?, Parameter.ofTimestamp?, hsent, Option.map_some]

end Postgres

namespace Kind

/-- A column of the kind's own type has room for the value: timestamps are kept to
the microsecond and without leap seconds. -/
def HasRoom : (kind : Kind) → kind.Carrier → Prop
  | dateTime, t => t.IsWholeMicros
  | _, _ => True

/-- A value comes back from a column of its own type as it was encoded. -/
theorem exists_returns_encode
    (kind : Kind) (constraints : Constraints) {value : kind.Carrier}
    (h : kind.HasRoom value) :
    ∃ type,
      WireType.ofColumnWord? (kind.columnType.word .postgresql constraints) = some type ∧
      Returns type (kind.encode value) := by
  have hinteger : ∀ (type : IntegerType) (counting : Bool) (n : type.Number),
      ∃ wire,
        WireType.ofColumnWord?
            (ColumnType.integerWord type.bits type.signed counting) = some wire ∧
        Returns wire (.integer (Int64.ofInt n.val)) := by
    intro type counting n
    obtain ⟨wire, width, hword, hwidth, hfits⟩ := type.exists_columnWidth counting
    have hroom := hfits n
    rw [← n.toInt_ofInt] at hroom
    exact ⟨wire, hword, returns_integer hwidth hroom⟩
  cases kind with
  | integer type => exact hinteger type constraints.autoIncrement value
  | foreignKey target => exact hinteger .int64 false value
  | decimal => exact ⟨.float8, rfl, returns_real value⟩
  | boolean => exact ⟨.bool, rfl, returns_boolean value⟩
  | text => exact ⟨.text, rfl, returns_text value⟩
  | binary => exact ⟨.bytea, rfl, returns_blob value⟩
  | dateTime => exact ⟨.timestamp, rfl, returns_timestamp h⟩

theorem read_encode
    {kind : Kind} {value : kind.Carrier} (h : kind.InDomain value) :
    kind.read (kind.encode value) = .ok (some value) := by
  have hdecode : kind.decode (kind.encode value) = .ok (some value) := by
    cases kind with
    | integer type => exact decodeInteger_encode value
    | foreignKey target => exact decodeInteger_encode value
    | decimal | boolean | text | binary | dateTime => rfl
  have hcheck := check_eq_ok_iff.mpr h
  rw [read, hdecode, ok_bind, checkOption, hcheck]
  rfl

/-- A value of any kind survives in a column that is declared for the kind, under
any constraints.  The declared type takes the value when it is bound, and the bytes
that are sent for it are read back, at any place of a row, as the value. -/
theorem read_declared_column
    (kind : Kind) (constraints : Constraints) (value : kind.Carrier)
    (hdomain : kind.InDomain value) (hroom : kind.HasRoom value) :
    ∃ type bytes,
      WireType.ofColumnWord? (kind.columnType.word .postgresql constraints) =
        some type ∧
      kind.bind value = .ok (kind.encode value) ∧
      Parameter.encode? type (kind.encode value) = some (some bytes) ∧
      ∀ index, ∃ cell,
        Cell.read index type (some bytes) = .ok cell ∧
        kind.read cell = .ok (some value) := by
  obtain ⟨type, hword, bytes, hsent, hread⟩ := exists_returns_encode kind constraints hroom
  have hbind : kind.bind value = .ok (kind.encode value) := by
    rw [bind, check_eq_ok_iff.mpr hdomain]
    rfl
  refine ⟨type, bytes, hword, hbind, hsent, ?_⟩
  intro index
  exact ⟨kind.encode value, hread index, read_encode hdomain⟩

/-- The last microsecond before the first second of the calendar ends. -/
def earliest : Timestamp :=
  ⟨⟨-262143, 1, 1, by decide⟩, ⟨0, 0, 0, 999999000, by decide⟩⟩

theorem read_declared_column_earliest :
    dateTime.InDomain earliest ∧ dateTime.HasRoom earliest ∧
      ∃ type bytes,
        WireType.ofColumnWord? (dateTime.columnType.word .postgresql {}) = some type ∧
        Parameter.encode? type (.timestamp earliest) = some (some bytes) ∧
        ∃ cell, Cell.read 0 type (some bytes) = .ok cell ∧
          dateTime.read cell = .ok (some earliest) := by
  have hroom : dateTime.HasRoom earliest := by
    constructor
    · decide
    · decide
  obtain ⟨type, bytes, hword, -, hsent, hread⟩ :=
    read_declared_column .dateTime {} earliest trivial hroom
  exact ⟨trivial, hroom, type, bytes, hword, hsent, hread 0⟩

end Kind

end TypedQuery
