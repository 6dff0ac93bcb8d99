import TypedQuery.Kind.Codec
import TypedQuery.Proofs.Coercions
import TypedQuery.Proofs.TextOrder

/-!
# Bytes in hexadecimal

A column of bytes reads the texts of an even number of hexadecimal digits, of either
case, and no other texts.  What it reads is written as the text in lower case, and what
it writes is read back.  A text is refused for its odd length, or else for its first
byte that is no digit.
-/

namespace TypedQuery

namespace Utf8

/-! ## ASCII texts -/

def character (byte : UInt8) : Char :=
  Char.ofNat byte.toNat

theorem toNat_ofNat_of_lt : ∀ n < 128, (Char.ofNat n).toNat = n := by
  decide +kernel

theorem toList_of_ascii {text : String} (h : ∀ byte ∈ encode text, byte.toNat < 128) :
    text.toList = (encode text).map character := by
  have hself : ∀ byte ∈ encode text, (character byte).toNat = byte.toNat :=
    fun byte hbyte => toNat_ofNat_of_lt _ (h byte hbyte)
  have hascii : IsAscii ((encode text).map character) := by
    rw [IsAscii, List.forall_mem_map]
    intro byte hbyte
    rw [hself byte hbyte]
    exact h byte hbyte
  have hbytes : encode (String.ofList ((encode text).map character)) = encode text := by
    rw [encode_ofList hascii, List.map_map]
    refine (List.map_congr_left ?_).trans (List.map_id _)
    intro byte hbyte
    change UInt8.ofNat (character byte).toNat = byte
    rw [hself byte hbyte, UInt8.ofNat_toNat]
  rw [← String.toList_ofList (l := (encode text).map character), encode_inj.mp hbytes]

end Utf8

namespace Hex

/-! ## Digits -/

def digits : Bytes :=
  Utf8.encode "0123456789abcdefABCDEF"

def IsDigit (byte : UInt8) : Prop :=
  byte ∈ digits

instance (byte : UInt8) : Decidable (IsDigit byte) :=
  inferInstanceAs (Decidable (byte ∈ digits))

theorem toNat_lt_of_mem_digits : ∀ byte ∈ digits, byte.toNat < 128 := by
  decide +kernel

theorem isSome_of_mem_digits : ∀ byte ∈ digits, (digitValue? byte).isSome := by
  decide +kernel

theorem digitValue?_bytes :
    ∀ n < 256, ∀ value ∈ digitValue? (UInt8.ofNat n),
      IsDigit (UInt8.ofNat n) ∧ value.toNat < 16 ∧
        digit value.toNat = (Utf8.character (UInt8.ofNat n)).toLower := by
  decide +kernel

theorem digitValue?_digit :
    ∀ n < 16, digitValue? (UInt8.ofNat (digit n).toNat) = some (UInt8.ofNat n) := by
  decide +kernel

theorem toNat_digit_lt : ∀ n < 16, (digit n).toNat < 128 := by
  decide +kernel

theorem toLower_digit : ∀ n < 16, (digit n).toLower = digit n := by
  decide +kernel

theorem of_digitValue? {byte value : UInt8} (h : digitValue? byte = some value) :
    IsDigit byte ∧ value.toNat < 16 ∧ digit value.toNat = (Utf8.character byte).toLower := by
  have htable := digitValue?_bytes byte.toNat byte.toNat_lt value
  rw [UInt8.ofNat_toNat] at htable
  exact htable h

/-- A byte has the number below sixteen whose digit it is, but for its case. -/
theorem digitValue_eq_ok_iff {byte : UInt8} {n : Nat} (hn : n < 16) :
    digitValue byte = .ok (UInt8.ofNat n) ↔
      IsDigit byte ∧ digit n = (Utf8.character byte).toLower := by
  unfold digitValue
  cases hvalue : digitValue? byte with
  | none =>
      constructor
      · intro h
        cases h
      · rintro ⟨hdigit, -⟩
        have hsome := isSome_of_mem_digits byte hdigit
        rw [hvalue] at hsome
        cases hsome
  | some value =>
      obtain ⟨hdigit, hlt, hlower⟩ := of_digitValue? hvalue
      constructor
      · intro h
        obtain rfl := Except.ok.inj h
        rw [UInt8.toNat_ofNat_of_lt' (Nat.lt_trans hn (by decide))] at hlower
        exact ⟨hdigit, hlower⟩
      · rintro ⟨-, hn'⟩
        -- The two numbers have one digit, which has one number.
        have hsame := digitValue?_digit value.toNat hlt
        rw [hlower, ← hn', digitValue?_digit n hn, UInt8.ofNat_toNat] at hsame
        exact congrArg Except.ok (Option.some.inj hsame).symm

/-- Every value is a number below sixteen. -/
theorem exists_of_digitValue_eq_ok {byte value : UInt8} (h : digitValue byte = .ok value) :
    ∃ n < 16, value = UInt8.ofNat n := by
  unfold digitValue at h
  cases hvalue : digitValue? byte with
  | none =>
      rw [hvalue] at h
      cases h
  | some found =>
      rw [hvalue] at h
      obtain rfl := Except.ok.inj h
      exact ⟨found.toNat, (of_digitValue? hvalue).2.1, UInt8.ofNat_toNat.symm⟩

theorem digitValue_of_isDigit {byte : UInt8} (h : IsDigit byte) :
    ∃ value, digitValue byte = .ok value := by
  obtain ⟨value, hvalue⟩ := Option.isSome_iff_exists.mp (isSome_of_mem_digits byte h)
  exact ⟨value, by rw [digitValue, hvalue]⟩

theorem digitValue_of_not_isDigit {byte : UInt8} (h : ¬IsDigit byte) :
    digitValue byte = .error (.notADigit byte) := by
  unfold digitValue
  cases hvalue : digitValue? byte with
  | none => rfl
  | some value => exact absurd (of_digitValue? hvalue).1 h

/-! ## Pairs of digits -/

/-- The bytes come two by two. -/
inductive Paired : Bytes → Prop where
  | nil : Paired []
  | cons (high low : UInt8) {rest : Bytes} (hrest : Paired rest) : Paired (high :: low :: rest)

theorem paired_of_even {text : Bytes} (h : text.length % 2 = 0) : Paired text := by
  match text with
  | [] => exact .nil
  | [_] => cases h
  | high :: low :: rest =>
    rw [List.length_cons, List.length_cons, Nat.add_assoc, Nat.add_mod_right] at h
    exact .cons high low (paired_of_even h)

/-- The two digits of a byte, the high half first. -/
def halves (byte : UInt8) : List Char :=
  [digit (byte.toNat / 16), digit (byte.toNat % 16)]

theorem halves_lt (byte : UInt8) : byte.toNat / 16 < 16 ∧ byte.toNat % 16 < 16 :=
  ⟨Nat.div_lt_of_lt_mul byte.toNat_lt, Nat.mod_lt _ (by decide)⟩

theorem encode_eq (bytes : Bytes) : encode bytes = String.ofList (bytes.flatMap halves) :=
  rfl

/-- A half moved up and the other beside it make the byte. -/
theorem toNat_join {high low : Nat} (hhigh : high < 16) (hlow : low < 16) :
    (UInt8.ofNat high <<< 4 ||| UInt8.ofNat low).toNat = high * 16 + low := by
  have hbyte : high <<< 4 < 2 ^ (8 : Nat) := by
    rw [Nat.shiftLeft_eq]
    omega
  rw [UInt8.toNat_or, UInt8.toNat_shiftLeft,
    UInt8.toNat_ofNat_of_lt' (Nat.lt_trans hhigh (by decide)),
    UInt8.toNat_ofNat_of_lt' (Nat.lt_trans hlow (by decide))]
  change high <<< 4 % 2 ^ (8 : Nat) ||| low = _
  rw [Nat.mod_eq_of_lt hbyte, ← Nat.shiftLeft_add_eq_or_of_lt (i := 4) hlow, Nat.shiftLeft_eq]

theorem join_eq_iff {high low : Nat} (hhigh : high < 16) (hlow : low < 16) {byte : UInt8} :
    UInt8.ofNat high <<< 4 ||| UInt8.ofNat low = byte ↔
      high = byte.toNat / 16 ∧ low = byte.toNat % 16 := by
  rw [← UInt8.toNat_inj, toNat_join hhigh hlow]
  omega

/-- The reader takes one byte from two digits. -/
theorem pairs_cons_eq_ok_iff {high low : UInt8} {rest bytes : Bytes} :
    pairs (high :: low :: rest) = .ok bytes ↔
      ∃ byte tail, bytes = byte :: tail ∧
        (IsDigit high ∧ digit (byte.toNat / 16) = (Utf8.character high).toLower) ∧
        (IsDigit low ∧ digit (byte.toNat % 16) = (Utf8.character low).toLower) ∧
        pairs rest = .ok tail := by
  simp only [pairs, bind_eq_ok_iff, ← digitValue_eq_ok_iff (halves_lt _).1,
    ← digitValue_eq_ok_iff (halves_lt _).2]
  constructor
  · rintro ⟨a, ha, b, hb, tail, htail, h⟩
    obtain ⟨n, hn, rfl⟩ := exists_of_digitValue_eq_ok ha
    obtain ⟨m, hm, rfl⟩ := exists_of_digitValue_eq_ok hb
    obtain ⟨hnhigh, hmlow⟩ := (join_eq_iff hn hm).mp rfl
    refine ⟨_, tail, (Except.ok.inj h).symm, ?_, ?_, htail⟩
    · rwa [← hnhigh]
    · rwa [← hmlow]
  · rintro ⟨byte, tail, rfl, ha, hb, htail⟩
    have hbyte := (join_eq_iff (halves_lt byte).1 (halves_lt byte).2).mpr ⟨rfl, rfl⟩
    refine ⟨_, ha, _, hb, tail, htail, ?_⟩
    rw [hbyte]
    rfl

/-- The reader takes the digits that are, in lower case, the halves of the bytes. -/
theorem pairs_eq_ok_iff {text bytes : Bytes} (h : Paired text) :
    pairs text = .ok bytes ↔
      (∀ byte ∈ text, IsDigit byte) ∧
        bytes.flatMap halves = text.map fun byte => (Utf8.character byte).toLower := by
  induction h generalizing bytes with
  | nil =>
      constructor
      · intro h
        obtain rfl := Except.ok.inj h
        exact ⟨List.forall_mem_nil _, rfl⟩
      · rintro ⟨-, hhalves⟩
        cases bytes with
        | nil => rfl
        | cons byte tail => cases hhalves
  | cons high low hpaired ih =>
      rw [pairs_cons_eq_ok_iff]
      simp only [ih, List.forall_mem_cons, List.map_cons]
      constructor
      · rintro ⟨byte, tail, rfl, ⟨hhigh, hfirst⟩, ⟨hlow, hsecond⟩, hrest, htail⟩
        refine ⟨⟨hhigh, hlow, hrest⟩, ?_⟩
        rw [List.flatMap_cons, halves, hfirst, hsecond, htail]
        rfl
      · rintro ⟨⟨hhigh, hlow, hrest⟩, hhalves⟩
        cases bytes with
        | nil => cases hhalves
        | cons byte tail =>
            rw [List.flatMap_cons, halves, List.cons_append, List.cons_append,
              List.nil_append, List.cons.injEq, List.cons.injEq] at hhalves
            obtain ⟨hfirst, hsecond, htail⟩ := hhalves
            exact ⟨byte, tail, rfl, ⟨hhigh, hfirst⟩, ⟨hlow, hsecond⟩, hrest, htail⟩

def firstNonDigit? (bytes : Bytes) : Option UInt8 :=
  bytes.find? fun byte => !decide (IsDigit byte)

theorem firstNonDigit?_cons_of_isDigit {byte : UInt8} (h : IsDigit byte) (bytes : Bytes) :
    firstNonDigit? (byte :: bytes) = firstNonDigit? bytes :=
  List.find?_cons_of_neg (by simpa using h)

theorem firstNonDigit?_cons_of_not {byte : UInt8} (h : ¬IsDigit byte) (bytes : Bytes) :
    firstNonDigit? (byte :: bytes) = some byte :=
  List.find?_cons_of_pos (by simpa using h)

/-- The reader names the first byte that is no digit. -/
theorem pairs_eq_error_iff {text : Bytes} (h : Paired text) {fault : Fault} :
    pairs text = .error fault ↔
      ∃ byte, firstNonDigit? text = some byte ∧ .notADigit byte = fault := by
  induction h with
  | nil =>
      constructor
      · intro h
        cases h
      · rintro ⟨byte, h, -⟩
        cases h
  | cons high low hpaired ih =>
      by_cases hhigh : IsDigit high
      · obtain ⟨a, ha⟩ := digitValue_of_isDigit hhigh
        rw [firstNonDigit?_cons_of_isDigit hhigh, pairs, ha, ok_bind]
        by_cases hlow : IsDigit low
        · obtain ⟨b, hb⟩ := digitValue_of_isDigit hlow
          rw [firstNonDigit?_cons_of_isDigit hlow, hb, ok_bind, ← ih, bind_eq_error_iff]
          constructor
          · rintro (h | ⟨tail, -, h⟩)
            · exact h
            · cases h
          · exact .inl
        · rw [firstNonDigit?_cons_of_not hlow, digitValue_of_not_isDigit hlow]
          simp [bind, Except.bind]
      · rw [firstNonDigit?_cons_of_not hhigh, pairs, digitValue_of_not_isDigit hhigh]
        simp [bind, Except.bind]

/-! ## Texts -/

/-- The text is an even number of hexadecimal digits. -/
structure IsHex (text : String) : Prop where
  length_even : (Utf8.encode text).length % 2 = 0
  isDigit : ∀ byte ∈ Utf8.encode text, IsDigit byte

/-- Why a text is refused: its length comes first. -/
inductive Refuses (text : String) : Fault → Prop where
  | oddLength (hodd : (Utf8.encode text).length % 2 = 1) :
      Refuses text (.oddLength (Utf8.encode text).length)
  | notADigit (heven : (Utf8.encode text).length % 2 = 0) {byte : UInt8}
      (hfirst : firstNonDigit? (Utf8.encode text) = some byte) :
      Refuses text (.notADigit byte)

theorem Refuses.not_isHex {text : String} {fault : Fault} (h : Refuses text fault) :
    ¬IsHex text := by
  intro hhex
  cases h with
  | oddLength hodd => exact absurd (hodd.symm.trans hhex.length_even) (by decide)
  | notADigit _ hfirst =>
      have hmem := hhex.isDigit _ (List.mem_of_find?_eq_some hfirst)
      simpa [hmem] using List.find?_some hfirst

theorem toList_toLower (text : String) : text.toLower.toList = text.toList.map Char.toLower :=
  String.toList_map

theorem decode_of_odd {text : String} (hodd : (Utf8.encode text).length % 2 = 1) :
    decode text = .error (.oddLength (Utf8.encode text).length) :=
  if_pos (Nat.mod_two_ne_zero.mpr hodd)

theorem decode_of_even {text : String} (heven : (Utf8.encode text).length % 2 = 0) :
    decode text = pairs (Utf8.encode text) :=
  if_neg (Decidable.not_not.mpr heven)

/-- What is read of a text is written as the text in lower case. -/
theorem decode_eq_ok_iff {text : String} {bytes : Bytes} :
    decode text = .ok bytes ↔ IsHex text ∧ encode bytes = text.toLower := by
  have hwritten (hdigits : ∀ byte ∈ Utf8.encode text, IsDigit byte) :
      encode bytes = text.toLower ↔
        bytes.flatMap halves =
          (Utf8.encode text).map fun byte => (Utf8.character byte).toLower := by
    have hascii : ∀ byte ∈ Utf8.encode text, byte.toNat < 128 :=
      fun byte hbyte => toNat_lt_of_mem_digits byte (hdigits byte hbyte)
    rw [← String.toList_inj, toList_toLower, Utf8.toList_of_ascii hascii,
      List.map_map, encode_eq, String.toList_ofList]
    rfl
  obtain heven | hodd := Nat.mod_two_eq_zero_or_one (Utf8.encode text).length
  · rw [decode_of_even heven, pairs_eq_ok_iff (paired_of_even heven)]
    constructor
    · rintro ⟨hdigits, hhalves⟩
      exact ⟨⟨heven, hdigits⟩, (hwritten hdigits).mpr hhalves⟩
    · rintro ⟨hhex, hlower⟩
      exact ⟨hhex.isDigit, (hwritten hhex.isDigit).mp hlower⟩
  · rw [decode_of_odd hodd]
    constructor
    · intro h
      cases h
    · rintro ⟨hhex, -⟩
      exact absurd hhex (Refuses.oddLength hodd).not_isHex

/-- A text is refused for its length, or else for its first byte that is no digit. -/
theorem decode_eq_error_iff {text : String} {fault : Fault} :
    decode text = .error fault ↔ Refuses text fault := by
  obtain heven | hodd := Nat.mod_two_eq_zero_or_one (Utf8.encode text).length
  · rw [decode_of_even heven, pairs_eq_error_iff (paired_of_even heven)]
    constructor
    · rintro ⟨byte, hfirst, rfl⟩
      exact .notADigit heven hfirst
    · intro h
      cases h with
      | oddLength hodd => exact absurd (hodd.symm.trans heven) (by decide)
      | notADigit _ hfirst => exact ⟨_, hfirst, rfl⟩
  · rw [decode_of_odd hodd]
    constructor
    · intro h
      obtain rfl := Except.error.inj h
      exact .oddLength hodd
    · intro h
      cases h with
      | oddLength => rfl
      | notADigit heven => exact absurd (hodd.symm.trans heven) (by decide)

/-- A text is read just if it is hexadecimal. -/
theorem exists_decode_iff {text : String} :
    (∃ bytes, decode text = .ok bytes) ↔ IsHex text := by
  constructor
  · rintro ⟨bytes, h⟩
    exact (decode_eq_ok_iff.mp h).1
  · intro hhex
    cases h : decode text with
    | ok bytes => exact ⟨bytes, rfl⟩
    | error fault => exact absurd hhex (decode_eq_error_iff.mp h).not_isHex

/-! ## Written bytes -/

theorem length_halves (bytes : Bytes) : (bytes.flatMap halves).length = 2 * bytes.length := by
  induction bytes with
  | nil => rfl
  | cons byte bytes ih =>
      rw [List.flatMap_cons, List.length_append, ih, List.length_cons]
      change 2 + _ = _
      omega

/-- Every character of written bytes is the digit of a number below sixteen. -/
theorem exists_of_mem_halves {bytes : Bytes} {c : Char} (h : c ∈ bytes.flatMap halves) :
    ∃ n < 16, digit n = c := by
  obtain ⟨byte, -, hc⟩ := List.mem_flatMap.mp h
  simp only [halves, List.mem_cons, List.not_mem_nil, or_false] at hc
  obtain rfl | rfl := hc
  · exact ⟨_, (halves_lt byte).1, rfl⟩
  · exact ⟨_, (halves_lt byte).2, rfl⟩

theorem utf8_encode (bytes : Bytes) :
    Utf8.encode (encode bytes) = (bytes.flatMap halves).map fun c => UInt8.ofNat c.toNat := by
  apply Utf8.encode_ofList
  intro c hc
  obtain ⟨n, hn, rfl⟩ := exists_of_mem_halves hc
  exact toNat_digit_lt n hn

theorem isHex_encode (bytes : Bytes) : IsHex (encode bytes) := by
  constructor
  · rw [utf8_encode, List.length_map, length_halves, Nat.mul_mod_right]
  · rw [utf8_encode, List.forall_mem_map]
    intro c hc
    obtain ⟨n, hn, rfl⟩ := exists_of_mem_halves hc
    exact (of_digitValue? (digitValue?_digit n hn)).1

theorem toLower_encode (bytes : Bytes) : (encode bytes).toLower = encode bytes := by
  rw [← String.toList_inj, toList_toLower, encode_eq, String.toList_ofList]
  refine (List.map_congr_left ?_).trans (List.map_id _)
  intro c hc
  obtain ⟨n, hn, rfl⟩ := exists_of_mem_halves hc
  exact toLower_digit n hn

/-- What is written is read back. -/
theorem decode_encode (bytes : Bytes) : decode (encode bytes) = .ok bytes :=
  decode_eq_ok_iff.mpr ⟨isHex_encode bytes, (toLower_encode bytes).symm⟩

end Hex

namespace Kind

theorem parse_binary_eq_ok_iff {text : String} {bytes : Bytes} :
    binary.parse text = .ok bytes ↔ Hex.decode text = .ok bytes := by
  change parseBinary text = _ ↔ _
  unfold parseBinary
  cases Hex.decode text with
  | ok found => rw [Except.ok.injEq, Except.ok.injEq]
  | error fault =>
      constructor
      all_goals
        intro h
        cases h

theorem parse_binary_eq_error_iff {text : String} {error : Error} :
    binary.parse text = .error error ↔
      ∃ fault, Hex.decode text = .error fault ∧ error = ⟨.conversion, fault.message⟩ := by
  change parseBinary text = _ ↔ _
  unfold parseBinary
  cases Hex.decode text with
  | ok found =>
      constructor
      · intro h
        cases h
      · rintro ⟨fault, h, -⟩
        cases h
  | error fault =>
      constructor
      · intro h
        exact ⟨fault, rfl, (Except.error.inj h).symm⟩
      · rintro ⟨found, h, rfl⟩
        obtain rfl := Except.error.inj h
        rfl

/-- A column of bytes reads the even numbers of hexadecimal digits and no other texts.
What it reads, it writes as the text in lower case, and what it writes, it reads back.
A text of an odd number of bytes is refused for that, and another for its first byte
that is no digit. -/
theorem parse_binary_iff_isHex :
    (∀ text, (∃ bytes, binary.parse text = .ok bytes) ↔ Hex.IsHex text) ∧
    (∀ text error, binary.parse text = .error error ↔
      ∃ fault, Hex.Refuses text fault ∧ error = ⟨.conversion, fault.message⟩) ∧
    (∀ bytes, binary.parse (binary.format bytes) = .ok bytes) ∧
    (∀ text bytes, binary.parse text = .ok bytes ↔
      Hex.IsHex text ∧ binary.format bytes = text.toLower) := by
  refine ⟨?_, ?_, ?_, ?_⟩
  · intro text
    exact (exists_congr fun _ => parse_binary_eq_ok_iff).trans Hex.exists_decode_iff
  · intro text error
    rw [parse_binary_eq_error_iff]
    exact exists_congr fun fault => and_congr_left' Hex.decode_eq_error_iff
  · intro bytes
    exact parse_binary_eq_ok_iff.mpr (Hex.decode_encode bytes)
  · intro text bytes
    exact parse_binary_eq_ok_iff.trans Hex.decode_eq_ok_iff

-- Two bytes make one character, and the first of them is shown.
example : parseBinary "é" = .error ⟨.conversion, "`Ã` is not a hex digit"⟩ := by
  rfl

end Kind

end TypedQuery
