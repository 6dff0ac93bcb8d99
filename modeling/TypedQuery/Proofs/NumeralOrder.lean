import TypedQuery.Proofs.TimestampText

/-!
# Numerals in the order of texts

Texts are compared at their first difference.  Numerals of one width compare as their
numbers.  Of numerals that end at a mark the first digits decide, so they compare as decimal
fractions, and of two that begin alike the shorter one comes first.  In ASCII, where a
character is one byte, the order of the bytes is that of the characters.
-/

namespace TypedQuery

/-! ## Texts in order -/

/-- Lists are compared at their first difference, by a code of the entries.  A list
precedes its continuations. -/
def Precedes {α : Type} (code : α → Nat) (a b : List α) : Prop :=
  List.Lex (fun x y => code x < code y) a b

section Precedes

variable {α : Type} {code : α → Nat}

instance [DecidableEq α] (a b : List α) : Decidable (Precedes code a b) :=
  inferInstanceAs (Decidable (List.Lex (fun x y => code x < code y) a b))

theorem precedes_cons_iff {x y : α} {a b : List α} :
    Precedes code (x :: a) (y :: b) ↔ code x < code y ∨ (x = y ∧ Precedes code a b) :=
  List.cons_lex_cons_iff

theorem precedes_cons_self (x : α) {a b : List α} :
    Precedes code (x :: a) (x :: b) ↔ Precedes code a b := by
  rw [precedes_cons_iff]
  constructor
  · rintro (hlt | ⟨-, h⟩)
    · exact absurd hlt (Nat.lt_irrefl _)
    · exact h
  · intro h
    exact Or.inr ⟨rfl, h⟩

/-- What comes after parts of one length is compared when the parts are the same. -/
theorem precedes_append_iff {u v a b : List α} (h : u.length = v.length) :
    Precedes code (u ++ a) (v ++ b) ↔
      Precedes code u v ∨ (u = v ∧ Precedes code a b) := by
  induction u generalizing v with
  | nil =>
      obtain rfl := List.length_eq_zero_iff.mp h.symm
      have hnil : ¬ Precedes code ([] : List α) [] := List.not_lex_nil
      simp [hnil]
  | cons x u ih =>
      cases v with
      | nil => cases h
      | cons y v =>
          rw [List.cons_append, List.cons_append, precedes_cons_iff, precedes_cons_iff,
            ih (Nat.succ.inj h), List.cons.injEq, and_or_left, and_assoc, or_assoc]

end Precedes

/-! ## Numerals in order -/

namespace Digits

theorem value_append (u v : List Char) :
    value (u ++ v) = value u * 10 ^ v.length + value v := by
  rw [value, Nat.ofDigitChars_append, Nat.ofDigitChars_eq_ofDigitChars_zero,
    Nat.mul_comm]
  rfl

theorem value_cons (c : Char) (digits : List Char) :
    value (c :: digits) = value [c] * 10 ^ digits.length + value digits :=
  value_append [c] digits

theorem value_singleton {c : Char} (h : c.isDigit = true) :
    value [c] + 48 = c.toNat ∧ value [c] < 10 := by
  have hbounds : 48 ≤ c.toNat ∧ c.toNat ≤ 57 := by
    rw [Char.isDigit, Bool.and_eq_true, decide_eq_true_eq, decide_eq_true_eq] at h
    exact h
  have hvalue : value [c] = c.toNat - 48 := by
    rw [value, Nat.ofDigitChars_cons, Nat.ofDigitChars_nil, Nat.mul_zero, Nat.zero_add]
    rfl
  omega

theorem value_lt {digits : List Char} (h : ∀ c ∈ digits, c.isDigit = true) :
    value digits < 10 ^ digits.length := by
  induction digits with
  | nil => decide
  | cons c digits ih =>
      rw [List.forall_mem_cons] at h
      have hrest := ih h.2
      have hfirst : value [c] + 1 ≤ 10 := (value_singleton h.1).2
      have hmul := Nat.mul_le_mul_right (10 ^ digits.length) hfirst
      rw [Nat.succ_mul] at hmul
      rw [value_cons, List.length_cons, Nat.pow_succ]
      omega

theorem digit_lt_iff {c d : Char} (hc : c.isDigit = true) (hd : d.isDigit = true) :
    c.toNat < d.toNat ↔ value [c] < value [d] := by
  have hc' := (value_singleton hc).1
  have hd' := (value_singleton hd).1
  omega

theorem digit_inj {c d : Char} (hc : c.isDigit = true) (hd : d.isDigit = true) :
    c = d ↔ value [c] = value [d] := by
  have hc' := (value_singleton hc).1
  have hd' := (value_singleton hd).1
  rw [← Char.toNat_inj]
  omega

/-- Numbers of two places are compared place by place. -/
theorem mul_add_lt_iff {place x y a b : Nat} (ha : a < place) (hb : b < place) :
    x * place + a < y * place + b ↔ x < y ∨ (x = y ∧ a < b) := by
  rcases Nat.lt_trichotomy x y with hlt | rfl | hgt
  · have hmul := Nat.mul_le_mul_right place hlt
    rw [Nat.succ_mul] at hmul
    omega
  · omega
  · have hmul := Nat.mul_le_mul_right place hgt
    rw [Nat.succ_mul] at hmul
    omega

theorem mul_add_inj {place x y a b : Nat} (ha : a < place) (hb : b < place) :
    x * place + a = y * place + b ↔ x = y ∧ a = b := by
  have hlt := mul_add_lt_iff (x := x) (y := y) ha hb
  have hgt := mul_add_lt_iff (x := y) (y := x) hb ha
  omega

/-- Numerals of one width are in order when their numbers are. -/
theorem precedes_iff_value_lt
    {u v : List Char} (hu : ∀ c ∈ u, c.isDigit = true) (hv : ∀ c ∈ v, c.isDigit = true)
    (hlength : u.length = v.length) :
    Precedes Char.toNat u v ↔ value u < value v := by
  induction u generalizing v with
  | nil =>
      obtain rfl := List.length_eq_zero_iff.mp hlength.symm
      constructor
      · intro h
        exact absurd h List.not_lex_nil
      · intro h
        exact absurd h (Nat.lt_irrefl _)
  | cons c u ih =>
      cases v with
      | nil => cases hlength
      | cons d v =>
          rw [List.forall_mem_cons] at hu hv
          have hsame : u.length = v.length := Nat.succ.inj hlength
          have hrest := ih hu.2 hv.2 hsame
          have hltu := value_lt hu.2
          rw [hsame] at hltu
          rw [precedes_cons_iff, hrest, digit_lt_iff hu.1 hv.1, digit_inj hu.1 hv.1,
            value_cons c u, value_cons d v, hsame, mul_add_lt_iff hltu (value_lt hv.2)]

/-- A numeral of a width is found again from its number. -/
theorem eq_of_value_eq
    {u v : List Char} (hu : ∀ c ∈ u, c.isDigit = true) (hv : ∀ c ∈ v, c.isDigit = true)
    (hlength : u.length = v.length) (h : value u = value v) : u = v := by
  induction u generalizing v with
  | nil => exact (List.length_eq_zero_iff.mp hlength.symm).symm
  | cons c u ih =>
      cases v with
      | nil => cases hlength
      | cons d v =>
          rw [List.forall_mem_cons] at hu hv
          have hsame : u.length = v.length := Nat.succ.inj hlength
          have hltu := value_lt hu.2
          rw [hsame] at hltu
          rw [value_cons c u, value_cons d v, hsame, mul_add_inj hltu (value_lt hv.2),
            ← digit_inj hu.1 hv.1] at h
          rw [h.1, ih hu.2 hv.2 hsame h.2]

/-- Numerals that end at a mark are in order when they are as decimal fractions.  Of two
that are the same fraction the shorter one comes first. -/
theorem precedes_mark_iff
    {u v : List Char} (hu : ∀ c ∈ u, c.isDigit = true) (hv : ∀ c ∈ v, c.isDigit = true)
    {mark : Char} (hmark : mark.toNat < 48) (a b : List Char) :
    Precedes Char.toNat (u ++ mark :: a) (v ++ mark :: b) ↔
      value u * 10 ^ v.length < value v * 10 ^ u.length ∨
      (value u * 10 ^ v.length = value v * 10 ^ u.length ∧ u.length < v.length) ∨
      (u = v ∧ Precedes Char.toNat a b) := by
  have hzero : value [] = 0 := rfl
  induction u generalizing v with
  | nil =>
      cases v with
      | nil => simp [hzero, precedes_cons_self]
      | cons d v =>
          have hd := (value_singleton (List.forall_mem_cons.mp hv).1).1
          have hfirst : Precedes Char.toNat (mark :: a) (d :: v ++ mark :: b) := by
            rw [List.cons_append, precedes_cons_iff]
            left
            omega
          have hshort : ([] : List Char).length < (d :: v).length := Nat.succ_pos _
          rw [List.nil_append, hzero]
          simp only [Nat.zero_mul, List.length_nil, Nat.pow_zero, Nat.mul_one]
          constructor
          · intro _
            rcases Nat.eq_zero_or_pos (value (d :: v)) with heq | hpos
            · exact Or.inr (Or.inl ⟨heq.symm, hshort⟩)
            · exact Or.inl hpos
          · intro _
            exact hfirst
  | cons c u ih =>
      have hc := (value_singleton (List.forall_mem_cons.mp hu).1).1
      cases v with
      | nil =>
          rw [List.nil_append, List.cons_append, precedes_cons_iff, hzero]
          constructor
          · rintro (hlt | ⟨rfl, -⟩)
            · omega
            · omega
          · simp
      | cons d v =>
          rw [List.forall_mem_cons] at hu hv
          have hltu := Nat.mul_lt_mul_of_pos_right (value_lt hu.2)
            (Nat.pow_pos (by decide) : 0 < 10 ^ v.length)
          have hltv := Nat.mul_lt_mul_of_pos_right (value_lt hv.2)
            (Nat.pow_pos (by decide) : 0 < 10 ^ u.length)
          have hscaled : ∀ (x : Nat) (w z : List Char),
              (x * 10 ^ w.length + value w) * 10 ^ (z.length + 1) =
                (x * (10 ^ w.length * 10 ^ z.length) + value w * 10 ^ z.length) * 10 := by
            intro x w z
            rw [Nat.pow_succ, ← Nat.mul_assoc, Nat.add_mul, Nat.mul_assoc x]
          rw [Nat.mul_comm (10 ^ v.length)] at hltv
          -- Brought to one denominator, the first digits are the upper place of the two
          -- fractions and the rests are the lower one.
          have hrest : Precedes Char.toNat (u ++ mark :: a) (v ++ mark :: b) ↔ _ :=
            ih hu.2 hv.2
          rw [List.cons_append, List.cons_append, precedes_cons_iff, hrest,
            value_cons c u, value_cons d v, List.length_cons, List.length_cons, hscaled,
            hscaled, Nat.mul_comm (10 ^ v.length) (10 ^ u.length),
            Nat.mul_lt_mul_right (by decide), mul_add_lt_iff hltu hltv,
            Nat.mul_right_cancel_iff (by decide), mul_add_inj hltu hltv,
            digit_lt_iff hu.1 hv.1, List.cons.injEq, digit_inj hu.1 hv.1,
            Nat.add_lt_add_iff_right, and_or_left, and_or_left, or_assoc, and_assoc,
            and_assoc]

/-- A padded numeral is made of the numerals of its upper and its lower places. -/
theorem padded_add
    {upper lower n : Nat} (hupper : 0 < upper) (hlower : 0 < lower)
    (h : n < 10 ^ (upper + lower)) :
    padded (upper + lower) n =
      padded upper (n / 10 ^ lower) ++ padded lower (n % 10 ^ lower) := by
  have hpositive : 0 < 10 ^ lower := Nat.pow_pos (by decide)
  have hhigh : n / 10 ^ lower < 10 ^ upper := by
    rw [Nat.div_lt_iff_lt_mul hpositive, ← Nat.pow_add]
    exact h
  have hlow : n % 10 ^ lower < 10 ^ lower := Nat.mod_lt _ hpositive
  apply eq_of_value_eq
  · intro c
    exact isDigit_of_mem_padded
  · intro c hc
    exact (List.mem_append.mp hc).elim isDigit_of_mem_padded isDigit_of_mem_padded
  · rw [List.length_append, length_padded (by omega) h, length_padded hupper hhigh,
      length_padded hlower hlow]
  · rw [value_append, length_padded hlower hlow, value_padded, value_padded, value_padded,
      Nat.div_add_mod']

theorem padded_inj {width n m : Nat} : padded width n = padded width m ↔ n = m := by
  constructor
  · intro h
    rw [← value_padded width n, h, value_padded]
  · rintro rfl
    rfl

/-- Padded numerals of one width, with what comes after them, are in order when the
numbers are. -/
theorem precedes_padded_iff
    {width n m : Nat} (hwidth : 0 < width) (hn : n < 10 ^ width) (hm : m < 10 ^ width)
    {a b : List Char} :
    Precedes Char.toNat (padded width n ++ a) (padded width m ++ b) ↔
      n < m ∨ (n = m ∧ Precedes Char.toNat a b) := by
  have hlength : (padded width n).length = (padded width m).length := by
    rw [length_padded hwidth hn, length_padded hwidth hm]
  rw [precedes_append_iff hlength, padded_inj, precedes_iff_value_lt
    (fun c => isDigit_of_mem_padded) (fun c => isDigit_of_mem_padded) hlength,
    value_padded, value_padded]

/-- The places of a numeral that is filled up to four, for numbers of up to six. -/
def placesFrom4 (n : Nat) : Nat :=
  if n < 10 ^ (4 : Nat) then 4 else if n < 10 ^ (5 : Nat) then 5 else 6

theorem placesFrom4_cases (n : Nat) :
    placesFrom4 n = 4 ∨ placesFrom4 n = 5 ∨ placesFrom4 n = 6 := by
  unfold placesFrom4
  split
  · exact Or.inl rfl
  · split
    · exact Or.inr (Or.inl rfl)
    · exact Or.inr (Or.inr rfl)

theorem length_padded_four {n : Nat} (h : n < 10 ^ (6 : Nat)) :
    (padded 4 n).length = placesFrom4 n := by
  have hlength : ∀ k, 0 < k → ((natural n).length ≤ k ↔ n < 10 ^ k) :=
    fun k hk => Nat.length_toDigits_le_iff (by decide) hk
  have hfour := hlength 4 (by decide)
  have hfive := hlength 5 (by decide)
  have hsix := (hlength 6 (by decide)).mpr h
  rw [padded, List.length_append, List.length_replicate, placesFrom4]
  split
  · omega
  · split
    · omega
    · omega

/-- Where a number stands among the others as a numeral of at least four places: by its
digits from the left, and the shorter of two numerals that begin alike first. -/
def leftRank (n : Nat) : Nat :=
  n * 10 ^ (6 - placesFrom4 n) * 10 + placesFrom4 n

theorem leftRank_lt {n : Nat} (h : n < 10 ^ (6 : Nat)) :
    leftRank n < 10 ^ (7 : Nat) := by
  unfold leftRank placesFrom4
  split
  · omega
  · split
    · omega
    · omega

theorem leftRank_of_lt {n : Nat} (h : n < 10 ^ (4 : Nat)) :
    leftRank n = n * 1000 + 4 := by
  rw [leftRank, placesFrom4, if_pos h]
  omega

theorem precedes_padded_four_iff
    {n m : Nat} (hn : n < 10 ^ (6 : Nat)) (hm : m < 10 ^ (6 : Nat))
    {mark : Char} (hmark : mark.toNat < 48) (a b : List Char) :
    Precedes Char.toNat (padded 4 n ++ mark :: a) (padded 4 m ++ mark :: b) ↔
      leftRank n < leftRank m ∨ (n = m ∧ Precedes Char.toNat a b) := by
  rw [precedes_mark_iff (fun c => isDigit_of_mem_padded) (fun c => isDigit_of_mem_padded)
    hmark, padded_inj, value_padded, value_padded, length_padded_four hn,
    length_padded_four hm, ← or_assoc]
  apply or_congr_left
  rw [leftRank, leftRank]
  rcases placesFrom4_cases n with h | h | h <;>
    rcases placesFrom4_cases m with h' | h' | h' <;>
    rw [h, h'] <;> omega

end Digits

/-! ## Bytes in order -/

namespace Utf8

/-- Every character is one byte long. -/
def IsAscii (chars : List Char) : Prop :=
  ∀ c ∈ chars, c.toNat < 128

theorem encode_ofList {chars : List Char} (h : IsAscii chars) :
    encode (String.ofList chars) = chars.map fun c => UInt8.ofNat c.toNat := by
  rw [encode, String.toByteArray_ofList]
  induction chars with
  | nil => rfl
  | cons c chars ih =>
      obtain ⟨hc, hrest⟩ := List.forall_mem_cons.mp h
      have hsize : c.utf8Size = 1 := Char.utf8Size_eq_one_iff.mpr (by
        rw [UInt32.le_iff_toNat_le]
        exact Nat.le_of_lt_succ hc)
      rw [List.utf8Encode_cons, List.utf8Encode_singleton,
        String.utf8EncodeChar_eq_singleton hsize]
      rw [ByteArray.data_append, Array.toList_append, ih hrest, List.data_toByteArray]
      rfl

end Utf8

/-- One byte for each character keeps the order. -/
theorem precedes_map_iff
    {a b : List Char} (ha : Utf8.IsAscii a) (hb : Utf8.IsAscii b) :
    Precedes UInt8.toNat (a.map fun c => UInt8.ofNat c.toNat)
        (b.map fun c => UInt8.ofNat c.toNat) ↔
      Precedes Char.toNat a b := by
  induction b generalizing a with
  | nil =>
      constructor
      · intro h
        exact absurd h List.not_lex_nil
      · intro h
        exact absurd h List.not_lex_nil
  | cons d b ih =>
      cases a with
      | nil =>
          constructor
          · intro _
            exact List.Lex.nil
          · intro _
            exact List.Lex.nil
      | cons c a =>
          obtain ⟨hc, ha⟩ := List.forall_mem_cons.mp ha
          obtain ⟨hd, hb⟩ := List.forall_mem_cons.mp hb
          have hbyte : ∀ n : Nat, n < 128 → (UInt8.ofNat n).toNat = n := by
            intro n hn
            rw [UInt8.toNat_ofNat']
            exact Nat.mod_eq_of_lt (by omega)
          have hsame : UInt8.ofNat c.toNat = UInt8.ofNat d.toNat ↔ c = d := by
            constructor
            · intro h
              have hcode := congrArg UInt8.toNat h
              rw [hbyte _ hc, hbyte _ hd] at hcode
              exact Char.toNat_inj.mp hcode
            · rintro rfl
              rfl
          rw [List.map_cons, List.map_cons, precedes_cons_iff, precedes_cons_iff,
            hbyte _ hc, hbyte _ hd, hsame, ih ha hb]

end TypedQuery
