import Mathlib.Tactic.SplitIfs
import TypedQuery.Proofs.StoredRecords

/-!
# The bytes of texts

A character is written as one to four bytes, and a text as the bytes of its characters.
The reader goes by a table: the first byte of a character tells which tests the bytes
after it have to pass.  What passes is exactly a character, so a byte string is read just
as the text that it is the bytes of, and every other one is refused where its characters
end and none goes on.
-/

namespace TypedQuery

namespace Utf8

/-! ## Characters as bytes -/

/-- A byte that carries the six low bits of a number on. -/
def trail (n : Nat) : UInt8 :=
  UInt8.ofNat (0x80 + n % 64)

/-- The bytes of a character: its number in as few groups of bits as hold it, of which
the first tells how many follow. -/
def charBytes (c : Char) : Bytes :=
  if c.toNat < 0x80 then [UInt8.ofNat c.toNat]
  else if c.toNat < 0x800 then [UInt8.ofNat (0xC0 + c.toNat / 64), trail c.toNat]
  else if c.toNat < 0x10000 then
    [UInt8.ofNat (0xE0 + c.toNat / 4096), trail (c.toNat / 64), trail c.toNat]
  else
    [UInt8.ofNat (0xF0 + c.toNat / 262144), trail (c.toNat / 4096), trail (c.toNat / 64),
      trail c.toNat]

/-- The bytes of a text: those of its characters in turn. -/
def textBytes (text : String) : Bytes :=
  text.toList.flatMap charBytes

/-- The numbers of characters leave out the surrogates, and they end. -/
theorem toNat_bounds (c : Char) :
    c.toNat < 0xD800 ∨ 0xDFFF < c.toNat ∧ c.toNat < 0x110000 :=
  c.valid

theorem exists_char {n : Nat} (h : n < 0xD800 ∨ 0xDFFF < n ∧ n < 0x110000) :
    ∃ c : Char, c.toNat = n :=
  ⟨Char.ofNatAux n h, rfl⟩

theorem toNat_ofNat {n : Nat} (h : n < 256) : (UInt8.ofNat n).toNat = n :=
  Nat.mod_eq_of_lt h

theorem toNat_trail (n : Nat) : (trail n).toNat = 0x80 + n % 64 :=
  toNat_ofNat (by omega)

/-- The bytes are those that texts are made of. -/
theorem utf8EncodeChar_eq (c : Char) : String.utf8EncodeChar c = charBytes c := by
  have hbounds := toNat_bounds c
  have htrail : ∀ n, UInt8.ofNat (n % 64 + 0x80) = trail n :=
    fun n => congrArg UInt8.ofNat (Nat.add_comm _ _)
  have hlead : ∀ base group count, group < count →
      UInt8.ofNat (group % count + base) = UInt8.ofNat (base + group) := by
    intro base group count h
    rw [Nat.mod_eq_of_lt h, Nat.add_comm]
  have hnumber : c.val.toNat = c.toNat := rfl
  unfold String.utf8EncodeChar charBytes
  simp only [hnumber, htrail]
  generalize c.toNat = n at hbounds
  by_cases hone : n < 0x80
  · rw [if_pos hone, if_pos (by omega)]
  · rw [if_neg hone, if_neg (by omega)]
    by_cases htwo : n < 0x800
    · rw [if_pos htwo, if_pos (by omega), hlead _ _ _ (by omega)]
    · rw [if_neg htwo, if_neg (by omega)]
      by_cases hthree : n < 0x10000
      · rw [if_pos hthree, if_pos (by omega), hlead _ _ _ (by omega)]
      · rw [if_neg hthree, if_neg (by omega), hlead _ _ _ (by omega)]

theorem encode_eq (text : String) : encode text = textBytes text := by
  have hchars : String.utf8EncodeChar = charBytes := funext utf8EncodeChar_eq
  rw [encode, textBytes, ← hchars]
  have htext : text.toByteArray = text.toList.utf8Encode := by
    rw [← String.toByteArray_ofList, String.ofList_toList]
  rw [htext, List.utf8Encode, List.data_toByteArray]

/-! ## The table of lead bytes -/

/-- The bytes between two numbers. -/
def range (low high : Nat) (byte : UInt8) : Bool :=
  decide (low ≤ byte.toNat) && decide (byte.toNat ≤ high)

theorem range_iff {low high : Nat} {byte : UInt8} :
    range low high byte = true ↔ low ≤ byte.toNat ∧ byte.toNat ≤ high := by
  rw [range, Bool.and_eq_true, decide_eq_true_eq, decide_eq_true_eq]

theorem exists_range {low high : Nat} (hle : low ≤ high) (hlow : low < 256) :
    ∃ byte, range low high byte = true := by
  refine ⟨UInt8.ofNat low, ?_⟩
  rw [range_iff, toNat_ofNat hlow]
  exact ⟨Nat.le_refl _, hle⟩

/-- The table in numbers. -/
theorem followers_eq (lead : UInt8) :
    followers lead =
      if lead.toNat ≤ 0x7F then some []
      else if 0xC2 ≤ lead.toNat ∧ lead.toNat ≤ 0xDF then some [range 0x80 0xBF]
      else if lead.toNat = 0xE0 then some [range 0xA0 0xBF, range 0x80 0xBF]
      else if lead.toNat = 0xED then some [range 0x80 0x9F, range 0x80 0xBF]
      else if 0xE1 ≤ lead.toNat ∧ lead.toNat ≤ 0xEF then
        some [range 0x80 0xBF, range 0x80 0xBF]
      else if lead.toNat = 0xF0 then
        some [range 0x90 0xBF, range 0x80 0xBF, range 0x80 0xBF]
      else if 0xF1 ≤ lead.toNat ∧ lead.toNat ≤ 0xF3 then
        some [range 0x80 0xBF, range 0x80 0xBF, range 0x80 0xBF]
      else if lead.toNat = 0xF4 then
        some [range 0x80 0x8F, range 0x80 0xBF, range 0x80 0xBF]
      else none := by
  unfold followers
  simp only [UInt8.le_iff_toNat_le, Bool.and_eq_true, decide_eq_true_eq, ← UInt8.toNat_inj,
    UInt8.reduceToNat]
  rfl

/-! ## The bytes after a lead byte -/

/-- The bytes pass the first of the tests, each its own. -/
inductive Passes : List (UInt8 → Bool) → Bytes → Prop where
  | nil (tests : List (UInt8 → Bool)) : Passes tests []
  | cons {test : UInt8 → Bool} {tests : List (UInt8 → Bool)} {byte : UInt8} {bytes : Bytes}
      (h : test byte = true) (hrest : Passes tests bytes) :
      Passes (test :: tests) (byte :: bytes)

theorem passes_cons_iff {test : UInt8 → Bool} {tests : List (UInt8 → Bool)} {byte : UInt8}
    {bytes : Bytes} :
    Passes (test :: tests) (byte :: bytes) ↔ test byte = true ∧ Passes tests bytes := by
  constructor
  · intro h
    cases h with
    | cons hbyte hrest => exact ⟨hbyte, hrest⟩
  · rintro ⟨hbyte, hrest⟩
    exact .cons hbyte hrest

theorem Passes.of_append {tests : List (UInt8 → Bool)} {first rest : Bytes}
    (h : Passes tests (first ++ rest)) : Passes tests first := by
  induction first generalizing tests with
  | nil => exact .nil tests
  | cons byte first ih =>
      cases h with
      | cons hbyte hrest => exact .cons hbyte (ih hrest)

theorem Passes.length_le {tests : List (UInt8 → Bool)} {bytes : Bytes}
    (h : Passes tests bytes) : bytes.length ≤ tests.length := by
  induction h with
  | nil => exact Nat.zero_le _
  | cons _ _ ih => exact Nat.succ_le_succ ih

theorem continuation_of_passes {tests : List (UInt8 → Bool)} {follow : Bytes}
    (h : Passes tests follow) (hlength : follow.length = tests.length)
    (accepted : Nat) (rest : Bytes) :
    continuation accepted tests (follow ++ rest) = .complete rest := by
  induction h generalizing accepted with
  | nil =>
      rw [List.eq_nil_of_length_eq_zero hlength.symm]
      rfl
  | cons hbyte _ ih =>
      rw [List.cons_append, continuation, if_pos hbyte]
      exact ih (Nat.succ.inj hlength) _

theorem continuation_of_not_passes {tests : List (UInt8 → Bool)} {follow : Bytes}
    (h : Passes tests follow) {byte : UInt8} (hlength : follow.length < tests.length)
    (hbyte : ¬Passes tests (follow ++ [byte])) (accepted : Nat) (rest : Bytes) :
    continuation accepted tests (follow ++ byte :: rest) =
      .broken (accepted + follow.length) := by
  induction h generalizing accepted with
  | nil tests =>
      cases tests with
      | nil => exact absurd hlength (Nat.lt_irrefl 0)
      | cons test tests =>
          have htest : ¬test byte = true := fun hpass => hbyte (.cons hpass (.nil tests))
          rw [List.nil_append, continuation, if_neg htest]
          rfl
  | cons hfirst _ ih =>
      rw [List.cons_append, continuation, if_pos hfirst,
        ih (Nat.lt_of_succ_lt_succ hlength) fun hpass => hbyte (.cons hfirst hpass),
        List.length_cons]
      congr 1
      omega

theorem continuation_of_ended {tests : List (UInt8 → Bool)} {follow : Bytes}
    (h : Passes tests follow) (hlength : follow.length < tests.length) (accepted : Nat) :
    continuation accepted tests follow = .ended := by
  induction h generalizing accepted with
  | nil tests =>
      cases tests with
      | nil => exact absurd hlength (Nat.lt_irrefl 0)
      | cons test tests => rfl
  | cons hfirst _ ih =>
      rw [continuation, if_pos hfirst]
      exact ih (Nat.lt_of_succ_lt_succ hlength) _

/-- Bytes pass all tests, or one of them fails its own, or they end before. -/
theorem passes_cases (tests : List (UInt8 → Bool)) (bytes : Bytes) :
    (∃ follow rest, bytes = follow ++ rest ∧ Passes tests follow ∧
      follow.length = tests.length) ∨
    (∃ follow byte rest, bytes = follow ++ byte :: rest ∧ Passes tests follow ∧
      follow.length < tests.length ∧ ¬Passes tests (follow ++ [byte])) ∨
    (Passes tests bytes ∧ bytes.length < tests.length) := by
  induction tests generalizing bytes with
  | nil => exact .inl ⟨[], bytes, rfl, .nil [], rfl⟩
  | cons test tests ih =>
      cases bytes with
      | nil => exact .inr (.inr ⟨.nil _, Nat.succ_pos _⟩)
      | cons byte bytes =>
          by_cases htest : test byte = true
          · rcases ih bytes with ⟨follow, rest, rfl, hpasses, hlength⟩ |
              ⟨follow, next, rest, rfl, hpasses, hlength, hnext⟩ | ⟨hpasses, hlength⟩
            · exact .inl ⟨byte :: follow, rest, rfl, .cons htest hpasses,
                congrArg Nat.succ hlength⟩
            · refine .inr (.inl ⟨byte :: follow, next, rest, rfl, .cons htest hpasses,
                Nat.succ_lt_succ hlength, ?_⟩)
              intro hall
              exact hnext (passes_cons_iff.mp hall).2
            · exact .inr (.inr ⟨.cons htest hpasses, Nat.succ_lt_succ hlength⟩)
          · refine .inr (.inl ⟨[], byte, bytes, rfl, .nil _, Nat.succ_pos _, ?_⟩)
            intro hall
            exact htest (passes_cons_iff.mp hall).1

theorem Passes.uncons {test : UInt8 → Bool} {tests : List (UInt8 → Bool)} {follow : Bytes}
    (h : Passes (test :: tests) follow) (hlength : follow.length = tests.length + 1) :
    ∃ byte rest, follow = byte :: rest ∧ test byte = true ∧ Passes tests rest ∧
      rest.length = tests.length := by
  cases h with
  | nil => cases hlength
  | cons hbyte hrest => exact ⟨_, _, rfl, hbyte, hrest, Nat.succ.inj hlength⟩

theorem Passes.one {low high : Nat} {follow : Bytes}
    (h : Passes [range low high] follow) (hlength : follow.length = 1) :
    ∃ first, follow = [first] ∧ low ≤ first.toNat ∧ first.toNat ≤ high := by
  obtain ⟨first, rest, rfl, hfirst, -, hrest⟩ := h.uncons hlength
  rw [List.eq_nil_of_length_eq_zero hrest]
  exact ⟨first, rfl, range_iff.mp hfirst⟩

theorem Passes.two {low high low' high' : Nat} {follow : Bytes}
    (h : Passes [range low high, range low' high'] follow) (hlength : follow.length = 2) :
    ∃ first second, follow = [first, second] ∧
      (low ≤ first.toNat ∧ first.toNat ≤ high) ∧
      low' ≤ second.toNat ∧ second.toNat ≤ high' := by
  obtain ⟨first, rest, rfl, hfirst, hpasses, hrest⟩ := h.uncons hlength
  obtain ⟨second, rfl, hsecond⟩ := hpasses.one hrest
  exact ⟨first, second, rfl, range_iff.mp hfirst, hsecond⟩

theorem Passes.three {low high low' high' low'' high'' : Nat} {follow : Bytes}
    (h : Passes [range low high, range low' high', range low'' high''] follow)
    (hlength : follow.length = 3) :
    ∃ first second third, follow = [first, second, third] ∧
      (low ≤ first.toNat ∧ first.toNat ≤ high) ∧
      (low' ≤ second.toNat ∧ second.toNat ≤ high') ∧
      low'' ≤ third.toNat ∧ third.toNat ≤ high'' := by
  obtain ⟨first, rest, rfl, hfirst, hpasses, hrest⟩ := h.uncons hlength
  obtain ⟨second, third, rfl, hsecond, hthird⟩ := hpasses.two hrest
  exact ⟨first, second, third, rfl, range_iff.mp hfirst, hsecond, hthird⟩

/-! ## What passes is a character -/

theorem eq_ofNat (byte : UInt8) {n : Nat} (h : byte.toNat = n) : byte = UInt8.ofNat n := by
  rw [← h, UInt8.ofNat_toNat]

theorem eq_trail (byte : UInt8) {n : Nat} (h : byte.toNat = 0x80 + n % 64) :
    byte = trail n :=
  eq_ofNat byte h

theorem exists_char_one {lead : UInt8} (hlead : lead.toNat ≤ 0x7F) :
    ∃ c, charBytes c = [lead] := by
  obtain ⟨c, hc⟩ := exists_char (n := lead.toNat) (by omega)
  refine ⟨c, ?_⟩
  rw [charBytes, hc, if_pos (by omega), UInt8.ofNat_toNat]

theorem exists_char_two {lead first : UInt8}
    (hlead : 0xC2 ≤ lead.toNat ∧ lead.toNat ≤ 0xDF)
    (hfirst : 0x80 ≤ first.toNat ∧ first.toNat ≤ 0xBF) :
    ∃ c, charBytes c = [lead, first] := by
  obtain ⟨c, hc⟩ := exists_char
    (n := (lead.toNat - 0xC0) * 64 + (first.toNat - 0x80)) (by omega)
  refine ⟨c, ?_⟩
  rw [charBytes, hc, if_neg (by omega), if_pos (by omega)]
  rw [← eq_ofNat lead (by omega), ← eq_trail first (by omega)]

/-- The first byte that follows rules out numbers of fewer bytes and surrogates. -/
theorem exists_char_three {lead first second : UInt8}
    (hlead : 0xE0 ≤ lead.toNat ∧ lead.toNat ≤ 0xEF)
    (hfirst : 0x80 ≤ first.toNat ∧ first.toNat ≤ 0xBF)
    (hsecond : 0x80 ≤ second.toNat ∧ second.toNat ≤ 0xBF)
    (hlong : lead.toNat = 0xE0 → 0xA0 ≤ first.toNat)
    (hsurrogate : lead.toNat = 0xED → first.toNat ≤ 0x9F) :
    ∃ c, charBytes c = [lead, first, second] := by
  obtain ⟨c, hc⟩ := exists_char
    (n := (lead.toNat - 0xE0) * 4096 + (first.toNat - 0x80) * 64 + (second.toNat - 0x80))
    (by omega)
  refine ⟨c, ?_⟩
  rw [charBytes, hc, if_neg (by omega), if_neg (by omega), if_pos (by omega)]
  rw [← eq_ofNat lead (by omega), ← eq_trail first (by omega),
    ← eq_trail second (by omega)]

/-- The first byte that follows rules out numbers of fewer bytes and those beyond the last
character. -/
theorem exists_char_four {lead first second third : UInt8}
    (hlead : 0xF0 ≤ lead.toNat ∧ lead.toNat ≤ 0xF4)
    (hfirst : 0x80 ≤ first.toNat ∧ first.toNat ≤ 0xBF)
    (hsecond : 0x80 ≤ second.toNat ∧ second.toNat ≤ 0xBF)
    (hthird : 0x80 ≤ third.toNat ∧ third.toNat ≤ 0xBF)
    (hlong : lead.toNat = 0xF0 → 0x90 ≤ first.toNat)
    (hlast : lead.toNat = 0xF4 → first.toNat ≤ 0x8F) :
    ∃ c, charBytes c = [lead, first, second, third] := by
  obtain ⟨c, hc⟩ := exists_char
    (n := (lead.toNat - 0xF0) * 262144 + (first.toNat - 0x80) * 4096 +
      (second.toNat - 0x80) * 64 + (third.toNat - 0x80))
    (by omega)
  refine ⟨c, ?_⟩
  rw [charBytes, hc, if_neg (by omega), if_neg (by omega), if_neg (by omega)]
  rw [← eq_ofNat lead (by omega), ← eq_trail first (by omega),
    ← eq_trail second (by omega), ← eq_trail third (by omega)]

/-- A lead byte and bytes that pass all its tests are the bytes of a character. -/
theorem exists_char_of_passes {lead : UInt8} {tests : List (UInt8 → Bool)} {follow : Bytes}
    (h : followers lead = some tests) (hpasses : Passes tests follow)
    (hlength : follow.length = tests.length) : ∃ c, charBytes c = lead :: follow := by
  rw [followers_eq] at h
  split_ifs at h with hone htwo hshort hsurrogate hthree hlong hfour hlast <;>
    obtain rfl := Option.some.inj h
  · rw [List.eq_nil_of_length_eq_zero hlength]
    exact exists_char_one hone
  · obtain ⟨first, rfl, hfirst⟩ := hpasses.one hlength
    exact exists_char_two htwo hfirst
  · obtain ⟨first, second, rfl, hfirst, hsecond⟩ := hpasses.two hlength
    exact exists_char_three (by omega) (by omega) hsecond (by omega) (by omega)
  · obtain ⟨first, second, rfl, hfirst, hsecond⟩ := hpasses.two hlength
    exact exists_char_three (by omega) (by omega) hsecond (by omega) (by omega)
  · obtain ⟨first, second, rfl, hfirst, hsecond⟩ := hpasses.two hlength
    exact exists_char_three (by omega) (by omega) hsecond (by omega) (by omega)
  · obtain ⟨first, second, third, rfl, hfirst, hsecond, hthird⟩ := hpasses.three hlength
    exact exists_char_four (by omega) (by omega) hsecond hthird (by omega) (by omega)
  · obtain ⟨first, second, third, rfl, hfirst, hsecond, hthird⟩ := hpasses.three hlength
    exact exists_char_four (by omega) (by omega) hsecond hthird (by omega) (by omega)
  · obtain ⟨first, second, third, rfl, hfirst, hsecond, hthird⟩ := hpasses.three hlength
    exact exists_char_four (by omega) (by omega) hsecond hthird (by omega) (by omega)

/-! ## Characters pass -/

theorem exists_followers_three (lead first : UInt8)
    (hlead : 0xE0 ≤ lead.toNat ∧ lead.toNat ≤ 0xEF)
    (hfirst : 0x80 ≤ first.toNat ∧ first.toNat ≤ 0xBF)
    (hlong : lead.toNat = 0xE0 → 0xA0 ≤ first.toNat)
    (hsurrogate : lead.toNat = 0xED → first.toNat ≤ 0x9F) :
    ∃ low high, followers lead = some [range low high, range 0x80 0xBF] ∧
      low ≤ first.toNat ∧ first.toNat ≤ high := by
  rw [followers_eq, if_neg (by omega), if_neg (by omega)]
  by_cases hleast : lead.toNat = 0xE0
  · rw [if_pos hleast]
    exact ⟨_, _, rfl, by omega⟩
  · rw [if_neg hleast]
    by_cases hsplit : lead.toNat = 0xED
    · rw [if_pos hsplit]
      exact ⟨_, _, rfl, by omega⟩
    · rw [if_neg hsplit, if_pos (by omega)]
      exact ⟨_, _, rfl, by omega⟩

theorem exists_followers_four (lead first : UInt8)
    (hlead : 0xF0 ≤ lead.toNat ∧ lead.toNat ≤ 0xF4)
    (hfirst : 0x80 ≤ first.toNat ∧ first.toNat ≤ 0xBF)
    (hlong : lead.toNat = 0xF0 → 0x90 ≤ first.toNat)
    (hlast : lead.toNat = 0xF4 → first.toNat ≤ 0x8F) :
    ∃ low high, followers lead =
        some [range low high, range 0x80 0xBF, range 0x80 0xBF] ∧
      low ≤ first.toNat ∧ first.toNat ≤ high := by
  rw [followers_eq, if_neg (by omega), if_neg (by omega), if_neg (by omega),
    if_neg (by omega), if_neg (by omega)]
  by_cases hleast : lead.toNat = 0xF0
  · rw [if_pos hleast]
    exact ⟨_, _, rfl, by omega⟩
  · rw [if_neg hleast]
    by_cases hmost : lead.toNat = 0xF4
    · rw [if_neg (by omega), if_pos hmost]
      exact ⟨_, _, rfl, by omega⟩
    · rw [if_pos (by omega)]
      exact ⟨_, _, rfl, by omega⟩

theorem passes_trail (n : Nat) : range 0x80 0xBF (trail n) = true := by
  rw [range_iff, toNat_trail]
  omega

/-- The bytes of a character pass the tests of the first of them. -/
theorem exists_passes (c : Char) :
    ∃ lead follow tests, charBytes c = lead :: follow ∧ followers lead = some tests ∧
      Passes tests follow ∧ follow.length = tests.length := by
  have hbounds := toNat_bounds c
  unfold charBytes
  generalize c.toNat = n at hbounds ⊢
  by_cases hone : n < 0x80
  · have hlead : (UInt8.ofNat n).toNat = n := toNat_ofNat (by omega)
    rw [if_pos hone]
    refine ⟨_, _, [], rfl, ?_, .nil _, rfl⟩
    rw [followers_eq, hlead, if_pos (by omega)]
  · rw [if_neg hone]
    by_cases htwo : n < 0x800
    · have hlead : (UInt8.ofNat (0xC0 + n / 64)).toNat = 0xC0 + n / 64 :=
        toNat_ofNat (by omega)
      rw [if_pos htwo]
      refine ⟨_, _, [range 0x80 0xBF], rfl, ?_, .cons (passes_trail n) (.nil _), rfl⟩
      rw [followers_eq, hlead, if_neg (by omega), if_pos (by omega)]
    · rw [if_neg htwo]
      by_cases hthree : n < 0x10000
      · have hlead : (UInt8.ofNat (0xE0 + n / 4096)).toNat = 0xE0 + n / 4096 :=
          toNat_ofNat (by omega)
        have hfirst := toNat_trail (n / 64)
        obtain ⟨low, high, hfollowers, hrange⟩ := exists_followers_three
          (UInt8.ofNat (0xE0 + n / 4096)) (trail (n / 64))
          (by omega) (by omega) (by omega) (by omega)
        rw [if_pos hthree]
        exact ⟨_, _, _, rfl, hfollowers,
          .cons (range_iff.mpr hrange) (.cons (passes_trail n) (.nil _)), rfl⟩
      · have hlead : (UInt8.ofNat (0xF0 + n / 262144)).toNat = 0xF0 + n / 262144 :=
          toNat_ofNat (by omega)
        have hfirst := toNat_trail (n / 4096)
        obtain ⟨low, high, hfollowers, hrange⟩ := exists_followers_four
          (UInt8.ofNat (0xF0 + n / 262144)) (trail (n / 4096))
          (by omega) (by omega) (by omega) (by omega)
        rw [if_neg hthree]
        exact ⟨_, _, _, rfl, hfollowers, .cons (range_iff.mpr hrange)
          (.cons (passes_trail (n / 64)) (.cons (passes_trail n) (.nil _))), rfl⟩

/-! ## The scanner -/

theorem fault?_of_none {lead : UInt8} (h : followers lead = none) (index : Nat)
    (bytes : Bytes) : fault? index (lead :: bytes) = some (.invalid 1 index) := by
  rw [fault?]
  simp only [h]

theorem fault?_of_some {lead : UInt8} {tests : List (UInt8 → Bool)}
    (h : followers lead = some tests) (index : Nat) (bytes : Bytes) :
    fault? index (lead :: bytes) =
      match continuation 0 tests bytes with
      | .complete rest => fault? (index + 1 + tests.length) rest
      | .broken accepted => some (.invalid (accepted + 1) index)
      | .ended => some (.incomplete index) := by
  rw [fault?]
  simp only [h]
  split
  · rename_i hcomplete
    rw [hcomplete]
  · rename_i hbroken
    rw [hbroken]
  · rename_i hended
    rw [hended]

/-- The scanner goes past a character. -/
theorem fault?_char_append (c : Char) (index : Nat) (bytes : Bytes) :
    fault? index (charBytes c ++ bytes) = fault? (index + (charBytes c).length) bytes := by
  obtain ⟨lead, follow, tests, hchar, hfollowers, hpasses, hlength⟩ := exists_passes c
  rw [hchar, List.cons_append, fault?_of_some hfollowers,
    continuation_of_passes hpasses hlength]
  dsimp only
  rw [List.length_cons, hlength, Nat.add_right_comm, Nat.add_assoc]

theorem fault?_text_append (chars : List Char) (index : Nat) (bytes : Bytes) :
    fault? index (chars.flatMap charBytes ++ bytes) =
      fault? (index + (chars.flatMap charBytes).length) bytes := by
  induction chars generalizing index with
  | nil => rfl
  | cons c chars ih =>
      rw [List.flatMap_cons, List.append_assoc, fault?_char_append, ih, List.length_append,
        Nat.add_assoc]

/-! ## Where bytes stop being text -/

/-- A character begins with the bytes. -/
def Begins (bytes : Bytes) : Prop :=
  ∃ c, bytes <+: charBytes c

/-- Why no character stands at the beginning of bytes that are a text up to the index. -/
inductive Stops (index : Nat) : Bytes → Fault → Prop where
  /-- No character begins with the first byte. -/
  | atLead {lead : UInt8} (rest : Bytes) (h : ¬Begins [lead]) :
      Stops index (lead :: rest) (.invalid 1 index)
  /-- A character begins with the first bytes, which are none yet, but none goes on with
  the next byte. -/
  | inside {first : Bytes} {next : UInt8} (rest : Bytes) (hne : first ≠ [])
      (hbegins : Begins first) (hpartial : ∀ c, charBytes c ≠ first)
      (hnext : ¬Begins (first ++ [next])) :
      Stops index (first ++ next :: rest) (.invalid first.length index)
  /-- A character begins with the bytes, and they end before it does. -/
  | atEnd {first : Bytes} (hne : first ≠ []) (hbegins : Begins first)
      (hpartial : ∀ c, charBytes c ≠ first) : Stops index first (.incomplete index)

/-- The bytes are a text up to where they stop with the fault. -/
def StopsAt (bytes : Bytes) (fault : Fault) : Prop :=
  ∃ text rest, bytes = textBytes text ++ rest ∧ Stops (textBytes text).length rest fault

/-- Every test of the table is passed by some byte. -/
theorem exists_of_mem_followers {lead : UInt8} {tests : List (UInt8 → Bool)}
    (h : followers lead = some tests) : ∀ test ∈ tests, ∃ byte, test byte = true := by
  have hany := @exists_range 0x80 0xBF (by decide) (by decide)
  rw [followers_eq] at h
  split_ifs at h <;> obtain rfl := Option.some.inj h <;>
    simp only [List.forall_mem_cons, List.not_mem_nil, false_imp_iff, implies_true, and_true,
      hany] <;>
    exact exists_range (by decide) (by decide)

theorem Passes.exists_append {tests : List (UInt8 → Bool)} {bytes : Bytes}
    (h : Passes tests bytes) (hmeet : ∀ test ∈ tests, ∃ byte, test byte = true) :
    ∃ more, Passes tests (bytes ++ more) ∧ (bytes ++ more).length = tests.length := by
  induction h with
  | nil tests =>
      induction tests with
      | nil => exact ⟨[], .nil [], rfl⟩
      | cons test tests ih =>
          obtain ⟨⟨byte, hbyte⟩, hrest⟩ := List.forall_mem_cons.mp hmeet
          obtain ⟨more, hmore, hlength⟩ := ih hrest
          exact ⟨byte :: more, .cons hbyte hmore, congrArg Nat.succ hlength⟩
  | cons hbyte _ ih =>
      obtain ⟨more, hmore, hlength⟩ := ih (List.forall_mem_cons.mp hmeet).2
      exact ⟨more, .cons hbyte hmore, congrArg Nat.succ hlength⟩

/-- The tests tell how characters begin. -/
theorem begins_cons_iff {lead : UInt8} {follow : Bytes} :
    Begins (lead :: follow) ↔ ∃ tests, followers lead = some tests ∧ Passes tests follow := by
  constructor
  · rintro ⟨c, hprefix⟩
    obtain ⟨lead', follow', tests, hchar, hfollowers, hpasses, -⟩ := exists_passes c
    rw [hchar, List.cons_prefix_cons] at hprefix
    obtain ⟨rfl, more, rfl⟩ := hprefix
    exact ⟨tests, hfollowers, hpasses.of_append⟩
  · rintro ⟨tests, hfollowers, hpasses⟩
    obtain ⟨more, hmore, hlength⟩ :=
      hpasses.exists_append (exists_of_mem_followers hfollowers)
    obtain ⟨c, hchar⟩ := exists_char_of_passes hfollowers hmore hlength
    refine ⟨c, more, ?_⟩
    rw [hchar, List.cons_append]

theorem followers_eq_none_iff {lead : UInt8} : followers lead = none ↔ ¬Begins [lead] := by
  rw [begins_cons_iff, Option.eq_none_iff_forall_ne_some]
  constructor
  · rintro hnone ⟨tests, htests, -⟩
    exact hnone tests htests
  · intro hbegins tests htests
    exact hbegins ⟨tests, htests, .nil tests⟩

/-- What begins a character but is none has passed only some of the tests. -/
theorem exists_of_partial {bytes : Bytes} (hne : bytes ≠ []) (hbegins : Begins bytes)
    (hpartial : ∀ c, charBytes c ≠ bytes) :
    ∃ lead follow tests, bytes = lead :: follow ∧ followers lead = some tests ∧
      Passes tests follow ∧ follow.length < tests.length := by
  obtain ⟨lead, follow, rfl⟩ := List.exists_cons_of_ne_nil hne
  obtain ⟨tests, hfollowers, hpasses⟩ := begins_cons_iff.mp hbegins
  refine ⟨lead, follow, tests, rfl, hfollowers, hpasses, ?_⟩
  apply Nat.lt_of_le_of_ne hpasses.length_le
  intro hlength
  obtain ⟨c, hchar⟩ := exists_char_of_passes hfollowers hpasses hlength
  exact hpartial c hchar

theorem charBytes_ne_of_lt {lead : UInt8} {follow : Bytes} {tests : List (UInt8 → Bool)}
    (hfollowers : followers lead = some tests) (hlength : follow.length < tests.length)
    (c : Char) : charBytes c ≠ lead :: follow := by
  intro hsame
  obtain ⟨lead', follow', tests', hchar, hfollowers', -, hlength'⟩ := exists_passes c
  rw [hchar] at hsame
  obtain ⟨rfl, rfl⟩ := List.cons.inj hsame
  rw [hfollowers] at hfollowers'
  obtain rfl := Option.some.inj hfollowers'
  exact Nat.lt_irrefl _ (hlength' ▸ hlength)

/-- The scanner finds the fault. -/
theorem fault?_of_stops {index : Nat} {bytes : Bytes} {fault : Fault}
    (h : Stops index bytes fault) : fault? index bytes = some fault := by
  cases h with
  | atLead rest h => exact fault?_of_none (followers_eq_none_iff.mpr h) index rest
  | @inside first next rest hne hbegins hpartial hnext =>
      obtain ⟨lead, follow, tests, rfl, hfollowers, hpasses, hlength⟩ :=
        exists_of_partial hne hbegins hpartial
      have hfails : ¬Passes tests (follow ++ [next]) := by
        intro hall
        exact hnext (begins_cons_iff.mpr ⟨tests, hfollowers, hall⟩)
      rw [List.cons_append, fault?_of_some hfollowers,
        continuation_of_not_passes hpasses hlength hfails, Nat.zero_add]
      rfl
  | atEnd hne hbegins hpartial =>
      obtain ⟨lead, follow, tests, rfl, hfollowers, hpasses, hlength⟩ :=
        exists_of_partial hne hbegins hpartial
      rw [fault?_of_some hfollowers, continuation_of_ended hpasses hlength]

/-- Bytes begin with a character, or there is a reason why they do not. -/
theorem char_or_stops (index : Nat) {bytes : Bytes} (hne : bytes ≠ []) :
    (∃ c rest, bytes = charBytes c ++ rest) ∨ ∃ fault, Stops index bytes fault := by
  obtain ⟨lead, bytes, rfl⟩ := List.exists_cons_of_ne_nil hne
  cases hfollowers : followers lead with
  | none => exact .inr ⟨_, .atLead bytes (followers_eq_none_iff.mp hfollowers)⟩
  | some tests =>
      rcases passes_cases tests bytes with ⟨follow, rest, rfl, hpasses, hlength⟩ |
        ⟨follow, next, rest, rfl, hpasses, hlength, hnext⟩ | ⟨hpasses, hlength⟩
      · obtain ⟨c, hchar⟩ := exists_char_of_passes hfollowers hpasses hlength
        refine .inl ⟨c, rest, ?_⟩
        rw [hchar, List.cons_append]
      · refine .inr ⟨_, .inside rest (List.cons_ne_nil lead follow)
          (begins_cons_iff.mpr ⟨tests, hfollowers, hpasses⟩)
          (charBytes_ne_of_lt hfollowers hlength) ?_⟩
        rw [List.cons_append, begins_cons_iff]
        rintro ⟨tests', hfollowers', hall⟩
        rw [hfollowers] at hfollowers'
        obtain rfl := Option.some.inj hfollowers'
        exact hnext hall
      · exact .inr ⟨_, .atEnd (List.cons_ne_nil lead bytes)
          (begins_cons_iff.mpr ⟨tests, hfollowers, hpasses⟩)
          (charBytes_ne_of_lt hfollowers hlength)⟩

theorem textBytes_ofList (chars : List Char) :
    textBytes (String.ofList chars) = chars.flatMap charBytes := by
  rw [textBytes, String.toList_ofList]

theorem charBytes_ne_nil (c : Char) : charBytes c ≠ [] := by
  obtain ⟨lead, follow, -, hchar, -⟩ := exists_passes c
  rw [hchar]
  exact List.cons_ne_nil lead follow

/-- One character after the other is taken off, until the bytes end or stop. -/
theorem chars_or_stops (index : Nat) (bytes : Bytes) :
    (∃ chars : List Char, bytes = chars.flatMap charBytes) ∨
      ∃ (chars : List Char) (rest : Bytes) (fault : Fault),
        bytes = chars.flatMap charBytes ++ rest ∧
        Stops (index + (chars.flatMap charBytes).length) rest fault := by
  induction hlength : bytes.length using Nat.strongRecOn generalizing bytes index with
  | ind n ih =>
      by_cases hne : bytes = []
      · exact .inl ⟨[], hne⟩
      · rcases char_or_stops index hne with ⟨c, rest, rfl⟩ | ⟨fault, hstops⟩
        · have hpositive := List.length_pos_iff.mpr (charBytes_ne_nil c)
          rw [List.length_append] at hlength
          rcases ih rest.length (by omega) (index + (charBytes c).length) rest rfl with
            ⟨chars, hrest⟩ | ⟨chars, tail, fault, hrest, hstops⟩
          · refine .inl ⟨c :: chars, ?_⟩
            rw [List.flatMap_cons, hrest]
          · refine .inr ⟨c :: chars, tail, fault, ?_, ?_⟩
            · rw [List.flatMap_cons, hrest, List.append_assoc]
            · rwa [List.flatMap_cons, List.length_append, ← Nat.add_assoc]
        · exact .inr ⟨[], bytes, fault, rfl, hstops⟩

theorem text_or_stopsAt (bytes : Bytes) :
    (∃ text, bytes = textBytes text) ∨ ∃ fault, StopsAt bytes fault := by
  rcases chars_or_stops 0 bytes with ⟨chars, hbytes⟩ | ⟨chars, rest, fault, hbytes, hstops⟩
  · refine .inl ⟨String.ofList chars, ?_⟩
    rw [textBytes_ofList, hbytes]
  · refine .inr ⟨fault, String.ofList chars, rest, ?_, ?_⟩
    · rw [textBytes_ofList, hbytes]
    · rwa [textBytes_ofList, ← Nat.zero_add (chars.flatMap charBytes).length]

theorem fault?_of_stopsAt {bytes : Bytes} {fault : Fault} (h : StopsAt bytes fault) :
    fault? 0 bytes = some fault := by
  obtain ⟨text, rest, rfl, hstops⟩ := h
  rw [textBytes, fault?_text_append, Nat.zero_add]
  exact fault?_of_stops hstops

theorem fault?_textBytes (text : String) : fault? 0 (textBytes text) = none := by
  have hend := fault?_text_append text.toList 0 []
  rw [List.append_nil] at hend
  rw [textBytes, hend, fault?]

/-! ## Reading bytes as text -/

theorem decode_eq_ok_iff {bytes : Bytes} {text : String} :
    decode bytes = .ok text ↔ bytes = textBytes text := by
  rw [← encode_eq]
  constructor
  · intro h
    rw [decode, String.fromUTF8?] at h
    by_cases hvalid : ByteArray.IsValidUTF8 ⟨bytes.toArray⟩
    · rw [dif_pos hvalid] at h
      obtain rfl := Except.ok.inj h
      rfl
    · rw [dif_neg hvalid] at h
      cases h
  · rintro rfl
    exact decode_encode text

/-- Bytes that are no text are refused with their fault. -/
theorem decode_of_stopsAt {bytes : Bytes} {fault : Fault} (h : StopsAt bytes fault) :
    decode bytes = .error fault := by
  have hfault := fault?_of_stopsAt h
  cases hdecode : decode bytes with
  | ok text =>
      rw [decode_eq_ok_iff.mp hdecode, fault?_textBytes] at hfault
      cases hfault
  | error found =>
      rw [decode, hfault] at hdecode
      split at hdecode
      · cases hdecode
      · exact hdecode.symm

end Utf8

namespace Kind

open Utf8 (textBytes StopsAt)

/-! ## Columns of text and of bytes -/

def malformed (fault : Utf8.Fault) : Error :=
  ⟨.conversion, "invalid UTF-8 in text column: " ++ fault.message⟩

theorem textOfBytes_textBytes (s : String) : textOfBytes (textBytes s) = .ok s := by
  rw [textOfBytes, Utf8.decode_eq_ok_iff.mpr rfl]

theorem textOfBytes_of_stopsAt {bytes : Bytes} {fault : Utf8.Fault}
    (h : StopsAt bytes fault) : textOfBytes bytes = .error (malformed fault) := by
  rw [textOfBytes, Utf8.decode_of_stopsAt h]
  rfl

theorem textOfBytes_eq_ok_iff {bytes : Bytes} {s : String} :
    textOfBytes bytes = .ok s ↔ bytes = textBytes s := by
  constructor
  · intro h
    rcases Utf8.text_or_stopsAt bytes with ⟨read, rfl⟩ | ⟨fault, hstops⟩
    · rw [textOfBytes_textBytes] at h
      rw [Except.ok.inj h]
    · rw [textOfBytes_of_stopsAt hstops] at h
      cases h
  · rintro rfl
    exact textOfBytes_textBytes s

theorem textOfBytes_eq_error_iff {bytes : Bytes} {error : Error} :
    textOfBytes bytes = .error error ↔
      ∃ fault, StopsAt bytes fault ∧ error = malformed fault := by
  constructor
  · intro h
    rcases Utf8.text_or_stopsAt bytes with ⟨read, rfl⟩ | ⟨fault, hstops⟩
    · rw [textOfBytes_textBytes] at h
      cases h
    · rw [textOfBytes_of_stopsAt hstops] at h
      exact ⟨fault, hstops, (Except.error.inj h).symm⟩
  · rintro ⟨fault, hstops, rfl⟩
    exact textOfBytes_of_stopsAt hstops

/-- What a database reads a cell of text as has the text of the bytes in the cell. -/
theorem decode_text_toValue (bytes : Bytes) :
    text.decode (Sqlite.Storage.text bytes).toValue = text.decode (.blob bytes) := by
  rw [Sqlite.Storage.toValue]
  rcases Utf8.text_or_stopsAt bytes with ⟨s, rfl⟩ | ⟨fault, hstops⟩
  · rw [Utf8.decode_eq_ok_iff.mpr rfl, decode, decode, textOfBytes_textBytes]
    rfl
  · rw [Utf8.decode_of_stopsAt hstops]

/-- A column of text reads the bytes of texts, each as its text, and refuses all others
with the fault where they stop being text.  A cell of text gives the same as its bytes do,
and a column of bytes reads a text as the bytes that are read back as the text. -/
theorem decode_text_iff_textBytes :
    (∀ bytes s, text.decode (.blob bytes) = .ok (some s) ↔ bytes = textBytes s) ∧
    (∀ bytes error, text.decode (.blob bytes) = .error error ↔
      ∃ fault, StopsAt bytes fault ∧ error = malformed fault) ∧
    (∀ bytes, (∃ fault, StopsAt bytes fault) ↔ ¬∃ s, bytes = textBytes s) ∧
    (∀ bytes, text.decode (Sqlite.Storage.text bytes).toValue = text.decode (.blob bytes)) ∧
    ∀ s, binary.decode (.text s) = .ok (some (textBytes s)) ∧
      text.decode (.blob (textBytes s)) = .ok (some s) := by
  have hdecode : ∀ bytes, text.decode (.blob bytes) = some <$> textOfBytes bytes :=
    fun _ => rfl
  refine ⟨?_, ?_, ?_, decode_text_toValue, ?_⟩
  · intro bytes s
    rw [hdecode, map_eq_ok_iff, ← textOfBytes_eq_ok_iff]
    simp only [Option.some.injEq, exists_eq_right]
  · intro bytes error
    rw [hdecode, map_eq_error_iff, textOfBytes_eq_error_iff]
  · intro bytes
    constructor
    · rintro ⟨fault, hstops⟩ ⟨s, rfl⟩
      have hread := textOfBytes_of_stopsAt hstops
      rw [textOfBytes_textBytes] at hread
      cases hread
    · exact (Utf8.text_or_stopsAt bytes).resolve_left
  · intro s
    refine ⟨?_, ?_⟩
    · rw [decode, Utf8.encode_eq]
    · rw [hdecode, textOfBytes_textBytes]
      rfl

end Kind

end TypedQuery
