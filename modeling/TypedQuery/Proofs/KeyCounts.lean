import Mathlib.Algebra.BigOperators.Group.List.Lemmas
import Mathlib.Data.List.Perm.Basic
import TypedQuery.Proofs.DecodedRows

/-!
# Rows counted by keys

Several rows of a response can have one key, because there are groups that the key says
nothing about, and because different cells are read as one value.  Their numbers are
added up as the rows come in.  No row is lost and none is counted twice, so in the end
it does not matter in which order they came.
-/

namespace TypedQuery

/-! ## Rows of keys and numbers -/

/-- The cell holds a number of rows: an integer that is not negative, or null for
none. -/
def CountsRows (cell : Value) (n : UInt64) : Prop :=
  ∃ number : Option IntegerType.int64.Number,
    Kind.decodeInteger .int64 cell = .ok number ∧ number.elim 0 (·.val) = (n.toNat : Int)

/-- The row consists of the cells of a key and of one more that holds a number. -/
def IsCountRow (keys : RowShape) (entry : Row × UInt64) (cells : List Value) : Prop :=
  ∃ keyCells cell,
    cells = keyCells ++ [cell] ∧ entry.1.IsRead keys keyCells ∧ CountsRows cell entry.2

namespace Terminal

/-- An integer that is no number of rows is refused. -/
theorem naturalCount_eq_ok_iff {i : Int} (hlt : i < (UInt64.size : Int)) {n : UInt64} :
    (if i < 0 then .error (negativeCount i) else .ok (UInt64.ofNat i.toNat) :
      Result UInt64) = .ok n ↔ i = (n.toNat : Int) := by
  by_cases hi : i < 0
  · rw [if_pos hi]
    refine iff_of_false nofun ?_
    omega
  · rw [if_neg hi]
    constructor
    · intro h
      rw [← Except.ok.inj h, UInt64.toNat_ofNat_of_lt' (by omega)]
      omega
    · rintro rfl
      rw [Int.toNat_natCast, UInt64.ofNat_toNat]

theorem readCount_eq_ok_iff {cell : Value} {n : UInt64} :
    readCount cell = .ok n ↔ CountsRows cell n := by
  rw [readCount, bind_eq_ok_iff]
  refine exists_congr fun number => and_congr_right fun _ => ?_
  cases number with
  | none =>
      have hzero : (0 : Int) < (UInt64.size : Int) := by decide
      exact naturalCount_eq_ok_iff hzero
  | some number =>
      have hupper : IntegerType.int64.upper < (UInt64.size : Int) := by decide
      exact naturalCount_eq_ok_iff (Int.lt_of_le_of_lt number.le_upper hupper)

end Terminal

namespace RowReader

variable {keys : RowShape}

theorem sameRead_keys (hkeys : keys.IsColumnList) (cells : List Value) :
    SameRead keys.columns (keys.read .located (start cells))
      (keys.read .bare (start cells)) := by
  have hstep := inStep_read keys hkeys [] (start cells) rfl
  rwa [List.nil_append] at hstep

/-- After the cells of a key there is one that holds a number, and no more. -/
theorem readRow_readKeyCount_of_ok {cells rest : List Value} {key : Row} {position : Nat}
    (hread : keys.read .bare (start cells) = (.ok key, ⟨rest, position⟩))
    {entry : Row × UInt64} :
    readRow (Terminal.readKeyCount keys) cells = .ok entry ↔
      ∃ cell, rest = [cell] ∧ key = entry.1 ∧ CountsRows cell entry.2 := by
  simp only [readRow, ExceptT.run, Terminal.readKeyCount, Action.bind_apply, hread]
  cases rest with
  | nil =>
      constructor
      · intro h
        cases h
      · rintro ⟨cell, hcell, -⟩
        cases hcell
  | cons cell rest =>
      simp only [next]
      cases hcount : Terminal.readCount cell with
      | error error =>
          constructor
          · intro h
            cases h
          · rintro ⟨other, hother, -, hcell⟩
            obtain ⟨rfl, -⟩ := List.cons.inj hother
            rw [← Terminal.readCount_eq_ok_iff, hcount] at hcell
            cases hcell
      | ok n =>
          cases rest with
          | nil =>
              constructor
              · intro h
                obtain rfl := Except.ok.inj h
                exact ⟨cell, rfl, rfl, Terminal.readCount_eq_ok_iff.mp hcount⟩
              · rintro ⟨other, hother, rfl, hcell⟩
                obtain ⟨rfl, -⟩ := List.cons.inj hother
                rw [← Terminal.readCount_eq_ok_iff, hcount] at hcell
                obtain rfl := Except.ok.inj hcell
                rfl
          | cons more rest =>
              constructor
              · intro h
                cases h
              · rintro ⟨other, hother, -⟩
                cases hother

/-- A row of a key and a number is read exactly when it consists of them. -/
theorem readRow_readKeyCount_iff (hkeys : keys.IsColumnList) {cells : List Value}
    {entry : Row × UInt64} :
    readRow (Terminal.readKeyCount keys) cells = .ok entry ↔
      IsCountRow keys entry cells := by
  have hsame := sameRead_keys hkeys cells
  constructor
  · intro h
    rcases read_cases keys cells with
      ⟨own, rest, key, hcells, hkey, hread⟩ | ⟨error, after, hread⟩
    · obtain ⟨cell, rfl, rfl, hcell⟩ :=
        (readRow_readKeyCount_of_ok (hsame.eq_of_ok hread)).mp h
      exact ⟨own, cell, hcells, hkey, hcell⟩
    · obtain ⟨error', after', hbare⟩ := hsame.exists_error hread
      simp only [readRow, ExceptT.run, Terminal.readKeyCount, Action.bind_apply, hbare] at h
      cases h
  · rintro ⟨keyCells, cell, rfl, hkey, hcell⟩
    obtain ⟨key, hother, hread⟩ := exists_read_of_fits hkey.fits [cell]
    have hbare := hsame.eq_of_ok hread
    exact (readRow_readKeyCount_of_ok hbare).mpr ⟨cell, rfl, hother.eq hkey, hcell⟩

end RowReader

/-! ## Numbers by keys -/

/-- The sum of the numbers of all entries with a key. -/
def keyTotal (key : Row) (entries : List (Row × UInt64)) : Nat :=
  ((entries.filter fun entry => entry.1.leaves = key.leaves).map fun entry =>
    entry.2.toNat).sum

theorem keyTotal_cons (key : Row) (entry : Row × UInt64) (entries : List (Row × UInt64)) :
    keyTotal key (entry :: entries) =
      (if entry.1.leaves = key.leaves then entry.2.toNat else 0) + keyTotal key entries := by
  unfold keyTotal
  by_cases hkey : entry.1.leaves = key.leaves
  · simp [hkey]
  · simp [hkey]

theorem keyTotal_append (key : Row) (entries more : List (Row × UInt64)) :
    keyTotal key (entries ++ more) = keyTotal key entries + keyTotal key more := by
  simp only [keyTotal, List.filter_append, List.map_append, List.sum_append]

theorem keyTotal_perm {entries others : List (Row × UInt64)} (h : entries.Perm others)
    (key : Row) : keyTotal key entries = keyTotal key others :=
  ((h.filter _).map _).sum_eq

theorem keyTotal_eq_zero {key : Row} {entries : List (Row × UInt64)}
    (h : ∀ entry ∈ entries, entry.1.leaves ≠ key.leaves) : keyTotal key entries = 0 := by
  have hnone : entries.filter (fun entry => entry.1.leaves = key.leaves) = [] := by
    rw [List.filter_eq_nil_iff]
    intro entry hentry hkey
    exact h entry hentry (of_decide_eq_true hkey)
  rw [keyTotal, hnone]
  rfl

theorem keyTotal_singleton_self (entry : Row × UInt64) :
    keyTotal entry.1 [entry] = entry.2.toNat := by
  rw [keyTotal_cons, if_pos rfl]
  rfl

/-- A key among different ones counts a number once. -/
theorem sum_ite_of_nodup {keys : List Row} (hnodup : (keys.map Row.leaves).Nodup)
    {leaves : List Leaf} (hmem : leaves ∈ keys.map Row.leaves) (n : Nat) :
    (keys.map fun key => if leaves = key.leaves then n else 0).sum = n := by
  induction keys with
  | nil => cases hmem
  | cons key keys ih =>
      rw [List.map_cons, List.nodup_cons] at hnodup
      rw [List.map_cons, List.sum_cons]
      by_cases hkey : leaves = key.leaves
      · subst hkey
        have hrest : ∀ other ∈ keys, (if key.leaves = other.leaves then n else 0) = 0 := by
          intro other hother
          apply if_neg
          intro hsame
          exact hnodup.1 (hsame ▸ List.mem_map_of_mem hother)
        rw [if_pos rfl, List.map_congr_left hrest, List.map_const', List.sum_replicate]
        simp
      · rw [List.map_cons, List.mem_cons] at hmem
        rw [if_neg hkey, Nat.zero_add, ih hnodup.2 (hmem.resolve_left hkey)]

/-- The totals of different keys that are all there is add up to the sum of all
numbers. -/
theorem sum_keyTotal {keys : List Row} (hnodup : (keys.map Row.leaves).Nodup)
    {entries : List (Row × UInt64)}
    (hkeys : ∀ entry ∈ entries, entry.1.leaves ∈ keys.map Row.leaves) :
    (keys.map fun key => keyTotal key entries).sum =
      (entries.map fun entry => entry.2.toNat).sum := by
  induction entries with
  | nil =>
      have hzero : ∀ key ∈ keys, keyTotal key [] = 0 := fun _ _ => rfl
      rw [List.map_congr_left hzero, List.map_const', List.sum_replicate]
      simp
  | cons entry entries ih =>
      obtain ⟨hentry, hentries⟩ := List.forall_mem_cons.mp hkeys
      simp only [keyTotal_cons]
      rw [List.sum_map_add, sum_ite_of_nodup hnodup hentry, ih hentries, List.map_cons,
        List.sum_cons]

/-- Numbers by keys that stand for entries: there is one number for each key that occurs,
and it is the sum of the numbers of that key as far as a number goes. -/
structure Tallies (entries totals : List (Row × UInt64)) : Prop where
  nodup : (totals.map fun total => total.1.leaves).Nodup
  keys : ∀ key, key ∈ totals.map Prod.fst ↔ key ∈ entries.map Prod.fst
  sums : ∀ total ∈ totals, total.2 = UInt64.ofNat (keyTotal total.1 entries)

namespace Tallies

variable {entries totals : List (Row × UInt64)}

theorem key_mem (h : Tallies entries totals) {total : Row × UInt64} (htotal : total ∈ totals) :
    total.1 ∈ entries.map Prod.fst :=
  (h.keys total.1).mp (List.mem_map_of_mem htotal)

/-- A key that is not among the totals has not occurred. -/
theorem leaves_ne (h : Tallies entries totals) {key : Row}
    (hnew : ∀ total ∈ totals, total.1.leaves ≠ key.leaves) :
    ∀ entry ∈ entries, entry.1.leaves ≠ key.leaves := by
  intro entry hentry
  obtain ⟨total, htotal, hkey⟩ :=
    List.mem_map.mp ((h.keys entry.1).mpr (List.mem_map_of_mem hentry))
  rw [← hkey]
  exact hnew total htotal

/-- The total of a key stands for one more entry with another key. -/
theorem sum_of_leaves_ne (h : Tallies entries totals) {total entry : Row × UInt64}
    (htotal : total ∈ totals) (hne : total.1.leaves ≠ entry.1.leaves) :
    total.2 = UInt64.ofNat (keyTotal total.1 (entries ++ [entry])) := by
  have hother : keyTotal total.1 [entry] = 0 := by
    apply keyTotal_eq_zero
    intro other hmem
    rw [List.mem_singleton.mp hmem]
    exact hne.symm
  rw [keyTotal_append, hother, Nat.add_zero]
  exact h.sums total htotal

/-- An entry with a new key comes in. -/
theorem concat (h : Tallies entries totals) {entry : Row × UInt64}
    (hnew : ∀ total ∈ totals, total.1.leaves ≠ entry.1.leaves) :
    Tallies (entries ++ [entry]) (totals ++ [entry]) := by
  refine ⟨?_, ?_, ?_⟩
  · rw [List.map_append, List.nodup_append]
    refine ⟨h.nodup, List.nodup_singleton _, ?_⟩
    intro leaves hleaves other hother
    obtain ⟨total, htotal, rfl⟩ := List.mem_map.mp hleaves
    rw [List.map_singleton, List.mem_singleton] at hother
    rw [hother]
    exact hnew total htotal
  · intro key
    rw [List.map_append, List.map_append, List.mem_append, List.mem_append, h.keys]
  · intro total htotal
    rcases List.mem_append.mp htotal with htotal | htotal
    · exact h.sum_of_leaves_ne htotal (hnew total htotal)
    · rw [List.mem_singleton.mp htotal, keyTotal_append, keyTotal_eq_zero (h.leaves_ne hnew),
        keyTotal_singleton_self, Nat.zero_add, UInt64.ofNat_toNat]

/-- An entry is added to the total of its key. -/
theorem add {before after : List (Row × UInt64)} {key : Row} {number n : UInt64}
    (h : Tallies entries (before ++ (key, number) :: after)) :
    Tallies (entries ++ [(key, n)]) (before ++ (key, number + n) :: after) := by
  have hmem : (key, number) ∈ before ++ (key, number) :: after :=
    List.mem_append_right before List.mem_cons_self
  have hnodup := h.nodup
  rw [List.map_append, List.map_cons] at hnodup
  refine ⟨?_, ?_, ?_⟩
  · rw [List.map_append, List.map_cons]
    exact hnodup
  · intro other
    have hkeys : (before ++ (key, number + n) :: after).map Prod.fst =
        (before ++ (key, number) :: after).map Prod.fst := by
      rw [List.map_append, List.map_append, List.map_cons, List.map_cons]
    rw [hkeys, h.keys, List.map_append, List.mem_append, List.map_singleton,
      List.mem_singleton]
    constructor
    · exact Or.inl
    · rintro (hother | rfl)
      · exact hother
      · exact h.key_mem hmem
  · intro total htotal
    have hcases : total = (key, number + n) ∨ total ∈ before ++ after := by
      rw [List.mem_append, List.mem_cons] at htotal
      rw [List.mem_append]
      tauto
    rcases hcases with rfl | hother
    · have hold : number = UInt64.ofNat (keyTotal key entries) := h.sums _ hmem
      have hlast : keyTotal key [(key, n)] = n.toNat := keyTotal_singleton_self (key, n)
      rw [keyTotal_append, hlast, UInt64.ofNat_add, UInt64.ofNat_toNat, ← hold]
    · have htotal : total ∈ before ++ (key, number) :: after := by
        rw [List.mem_append] at hother
        rw [List.mem_append, List.mem_cons]
        tauto
      rw [List.nodup_middle, List.nodup_cons, ← List.map_append] at hnodup
      apply h.sum_of_leaves_ne htotal
      intro hleaves
      exact hnodup.1 (hleaves ▸ List.mem_map_of_mem hother)

/-- One more entry is counted. -/
theorem tally (h : Tallies entries totals) {entry : Row × UInt64}
    (hshape : ∀ earlier ∈ entries, earlier.1.shape = entry.1.shape) :
    Tallies (entries ++ [entry]) (Terminal.tally totals entry) := by
  rcases Terminal.tally_cases totals entry with
    ⟨hnew, htally⟩ | ⟨before, key, number, after, rfl, hkey, htally⟩
  · rw [htally]
    exact h.concat hnew
  -- Leaves that are the same make the keys the same only as the keys have one shape.
  · have hsame : key = entry.1 := by
      apply Row.eq_of_leaves key entry.1 _ hkey
      have hoccurs : key ∈ entries.map Prod.fst :=
        h.key_mem (List.mem_append_right before List.mem_cons_self)
      obtain ⟨earlier, hearlier, rfl⟩ := List.mem_map.mp hoccurs
      exact hshape earlier hearlier
    rw [htally]
    subst hsame
    exact h.add

/-- Counting entries of one shape gives their totals. -/
theorem foldl_tally {keys : RowShape} {entries : List (Row × UInt64)}
    (hkeys : ∀ entry ∈ entries, entry.1.shape = keys) :
    Tallies entries (entries.foldl Terminal.tally []) := by
  -- Entries come in at the end, so the induction takes the last one away.
  induction entries using List.reverseRecOn with
  | nil => exact ⟨List.nodup_nil, fun _ => Iff.rfl, List.forall_mem_nil _⟩
  | append_singleton entries entry ih =>
      obtain ⟨hentries, hentry⟩ := List.forall_mem_append.mp hkeys
      rw [List.foldl_append]
      apply (ih hentries).tally
      intro earlier hearlier
      rw [hentries earlier hearlier, hentry entry (List.mem_singleton_self entry)]

/-- The totals are decided by the entries but for their order. -/
theorem perm {others totals' : List (Row × UInt64)} (h : Tallies entries totals)
    (h' : Tallies others totals') (hperm : entries.Perm others) : totals.Perm totals' := by
  have hmem : ∀ {entries totals : List (Row × UInt64)}, Tallies entries totals →
      ∀ total, total ∈ totals ↔
        total.1 ∈ entries.map Prod.fst ∧
          total.2 = UInt64.ofNat (keyTotal total.1 entries) := by
    intro entries totals h total
    constructor
    · intro htotal
      exact ⟨(h.keys _).mp (List.mem_map_of_mem htotal), h.sums total htotal⟩
    · rintro ⟨hkey, hsum⟩
      obtain ⟨other, hother, hfst⟩ := List.mem_map.mp ((h.keys _).mpr hkey)
      have hother_sum := h.sums other hother
      rw [hfst, ← hsum] at hother_sum
      rwa [Prod.ext hfst hother_sum] at hother
  rw [List.perm_ext_iff_of_nodup h.nodup.of_map h'.nodup.of_map]
  intro total
  rw [hmem h, hmem h', keyTotal_perm hperm, (hperm.map Prod.fst).mem_iff]

end Tallies

/-- Numbers by keys that add up what entries count. -/
structure AddsUp (entries counts : List (Row × UInt64)) : Prop where
  /-- There is one number for each key. -/
  nodup : (counts.map Prod.fst).Nodup
  /-- The keys are those of the entries. -/
  keys : ∀ key, key ∈ counts.map Prod.fst ↔ key ∈ entries.map Prod.fst
  /-- The number of a key is the sum of its numbers in the entries. -/
  total : ∀ counted ∈ counts, counted.2.toNat = keyTotal counted.1 entries
  sum : (counts.map fun counted => counted.2.toNat).sum =
    (entries.map fun entry => entry.2.toNat).sum

/-- Totals that do not go beyond a number add up. -/
theorem Tallies.addsUp {entries totals : List (Row × UInt64)} (h : Tallies entries totals)
    (hsize : ∀ entry ∈ entries, keyTotal entry.1 entries < UInt64.size) :
    AddsUp entries totals := by
  have htotal : ∀ total ∈ totals, total.2.toNat = keyTotal total.1 entries := by
    intro total hmem
    obtain ⟨entry, hentry, hkey⟩ := List.mem_map.mp (h.key_mem hmem)
    rw [h.sums total hmem, ← hkey]
    exact UInt64.toNat_ofNat_of_lt' (hsize entry hentry)
  have hleaves : (totals.map Prod.fst).map Row.leaves =
      totals.map fun total => total.1.leaves := List.map_map
  have hnodup : ((totals.map Prod.fst).map Row.leaves).Nodup := hleaves ▸ h.nodup
  refine ⟨hnodup.of_map, h.keys, htotal, ?_⟩
  calc (totals.map fun total => total.2.toNat).sum
    _ = (totals.map fun total => keyTotal total.1 entries).sum := by
        rw [List.map_congr_left htotal]
    _ = ((totals.map Prod.fst).map fun key => keyTotal key entries).sum := by
        rw [List.map_map]
        rfl
    _ = (entries.map fun entry => entry.2.toNat).sum := by
        apply sum_keyTotal hnodup
        intro entry hentry
        have hkey := (h.keys entry.1).mpr (List.mem_map_of_mem hentry)
        exact List.mem_map_of_mem hkey

/-! ## Counting by keys -/

namespace Terminal

variable {keys : RowShape} (hkeys : keys.IsColumnList)

include hkeys

/-- The numbers of a response whose rows are read. -/
theorem readCounts_eq_ok_iff {result : Rows} {counts : List (Row × UInt64)} :
    readCounts keys result = .ok counts ↔
      ∃ entries, List.Forall₂ (IsCountRow keys) entries result.rows ∧
        counts = entries.foldl tally [] := by
  rw [readCounts, bind_eq_ok_iff]
  refine exists_congr fun entries => ?_
  simp only [mapM_eq_ok_iff, RowReader.readRow_readKeyCount_iff hkeys]
  refine and_congr_right fun _ => ?_
  constructor
  · intro h
    exact (Except.ok.inj h).symm
  · rintro rfl
    rfl

omit hkeys in
theorem exists_entries_iff {rows : List (List Value)} :
    (∃ entries, List.Forall₂ (IsCountRow keys) entries rows) ↔
      ∀ cells ∈ rows, ∃ keyCells cell,
        cells = keyCells ++ [cell] ∧
        Column.Fits keys.columns keyCells ∧
        ∃ n, CountsRows cell n := by
  rw [exists_forall₂_iff]
  refine forall₂_congr fun cells _ => ?_
  constructor
  · rintro ⟨entry, keyCells, cell, hcells, hkey, hcount⟩
    exact ⟨keyCells, cell, hcells, hkey.fits, entry.2, hcount⟩
  · rintro ⟨keyCells, cell, hcells, hfits, n, hcount⟩
    obtain ⟨key, hkey⟩ := RowReader.exists_isRead_iff.mpr hfits
    exact ⟨(key, n), keyCells, cell, hcells, hkey, hcount⟩

end Terminal

theorem IsCountRow.shape_eq {keys : RowShape} {entry : Row × UInt64} {cells : List Value}
    (h : IsCountRow keys entry cells) : entry.1.shape = keys := by
  obtain ⟨keyCells, cell, -, hkey, -⟩ := h
  exact hkey.shape_eq

namespace Relation

variable {σ : Type} [Adaptor σ]

theorem run_countBy {relation : Relation} (hphase : relation.phase ≠ .finalized)
    (hfault : relation.fault = none) (keys : RowShape) {before after : σ} {response : Rows}
    (hquery : Adaptor.query
      ((relation.countByFragment keys.columnRefs).render (Adaptor.dialect before)) before =
        (.ok response, after)) :
    (relation.run (.countBy keys) before).1 =
      .counts <$> Terminal.readCounts keys response := by
  have hplan : (Terminal.countBy keys).plan { relation with phase := .finalized } =
      .ok (.query (relation.countByFragment keys.columnRefs)) := rfl
  rw [run_eq_of_query_ok hphase hfault hplan hquery]
  rfl

/-- Counting by keys loses no row and invents none.  It succeeds exactly when every row
of the response consists of cells that are read as values of the key columns, in their
domain, and of one more cell that holds a number.  The numbers of rows with one key are
added up then: there is one number for each key that occurs, the sum of all its numbers,
and all of them together are the sum of all.  Where the rows come in another order the
numbers by keys are the same. -/
theorem countBy_adds_up
    (relation : Relation) (hphase : relation.phase ≠ .finalized)
    (hfault : relation.fault = none) (keys : RowShape) (hkeys : keys.IsColumnList)
    {before after : σ} {response : Rows}
    (hquery : Adaptor.query
      ((relation.countByFragment keys.columnRefs).render (Adaptor.dialect before)) before =
        (.ok response, after)) :
    ((∃ answer, (relation.run (.countBy keys) before).1 = .ok answer) ↔
      ∀ cells ∈ response.rows, ∃ keyCells cell,
        cells = keyCells ++ [cell] ∧
        Column.Fits keys.columns keyCells ∧
        ∃ n, CountsRows cell n) ∧
    ∀ entries,
      List.Forall₂ (IsCountRow keys) entries response.rows →
      (∀ entry ∈ entries, keyTotal entry.1 entries < UInt64.size) →
        ∃ counts,
          (relation.run (.countBy keys) before).1 = .ok (.counts counts) ∧
          AddsUp entries counts ∧
          ∀ (other afterwards : σ) (reordered : Rows),
            Adaptor.query
                ((relation.countByFragment keys.columnRefs).render
                  (Adaptor.dialect other)) other =
              (.ok reordered, afterwards) →
            reordered.rows.Perm response.rows →
              ∃ same,
                (relation.run (.countBy keys) other).1 = .ok (.counts same) ∧
                same.Perm counts := by
  have hrun := run_countBy hphase hfault keys hquery
  refine ⟨?_, ?_⟩
  · rw [hrun, ← Terminal.exists_entries_iff]
    constructor
    · rintro ⟨answer, hanswer⟩
      obtain ⟨counts, hcounts, -⟩ := map_eq_ok_iff.mp hanswer
      obtain ⟨entries, hentries, -⟩ := (Terminal.readCounts_eq_ok_iff hkeys).mp hcounts
      exact ⟨entries, hentries⟩
    · rintro ⟨entries, hentries⟩
      have hcounts := (Terminal.readCounts_eq_ok_iff hkeys).mpr ⟨entries, hentries, rfl⟩
      exact ⟨_, map_eq_ok_iff.mpr ⟨_, hcounts, rfl⟩⟩
  · intro entries hentries hsize
    have hshapes : ∀ entry ∈ entries, entry.1.shape = keys :=
      forall_mem_of_forall₂ (fun _ _ hrow => hrow.shape_eq) hentries
    have htallies := Tallies.foldl_tally hshapes
    have hcounts := (Terminal.readCounts_eq_ok_iff hkeys).mpr ⟨entries, hentries, rfl⟩
    refine ⟨_, hrun.trans (map_eq_ok_iff.mpr ⟨_, hcounts, rfl⟩), htallies.addsUp hsize, ?_⟩
    intro other afterwards reordered hother hperm
    -- The entries of the reordered response are those of the response, reordered.
    obtain ⟨others, hothers, hentries_perm⟩ :=
      List.perm_comp_forall₂ hperm hentries.flip
    have hreordered : List.Forall₂ (IsCountRow keys) others reordered.rows := hothers.flip
    have hothers_shapes : ∀ entry ∈ others, entry.1.shape = keys :=
      forall_mem_of_forall₂ (fun _ _ hrow => hrow.shape_eq) hreordered
    have hsame :=
      (Terminal.readCounts_eq_ok_iff hkeys).mpr ⟨others, hreordered, rfl⟩
    refine ⟨_, (run_countBy hphase hfault keys hother).trans
      (map_eq_ok_iff.mpr ⟨_, hsame, rfl⟩), ?_⟩
    exact (Tallies.foldl_tally hothers_shapes).perm htallies hentries_perm

def active : Column :=
  ⟨"users", "active", .boolean⟩

/-- The key of people who are active, or of those who are not. -/
def activity (value : Bool) : Row :=
  .attribute active ⟨some value⟩

/-- A connection that answers the number of active people in two rows, with different
cells for their key, and no number of others. -/
def threeGroups : Scripted :=
  { dialect := .sqlite
    queries := [.ok ⟨["active", "count"],
      [[.integer 1, .integer 2], [.boolean false, .null], [.integer 2, .integer 3]]⟩] }

theorem countBy_adds_up_active :
    (all Sample.user).phase ≠ .finalized ∧ (all Sample.user).fault = none ∧
    (RowShape.column active).IsColumnList ∧
    ∃ counts,
      ((all Sample.user).run (.countBy (.column active)) threeGroups).1 =
        .ok (.counts counts) ∧
      AddsUp [(activity true, 2), (activity false, 0), (activity true, 3)] counts ∧
      counts = [(activity true, 5), (activity false, 0)] := by
  have hphase : (all Sample.user).phase ≠ .finalized := Phase.noConfusion
  have hcells : ∀ value cell count n,
      (Attribute.ofCell cell : Result (Attribute .boolean)) = .ok ⟨some value⟩ →
      Terminal.readCount count = .ok n →
        IsCountRow (.column active) (activity value, n) [cell, count] := by
    intro value cell count n hcell hcount
    exact ⟨[cell], count, rfl, ⟨rfl, .cons hcell .nil⟩,
      Terminal.readCount_eq_ok_iff.mp hcount⟩
  have hentries : List.Forall₂ (IsCountRow (.column active))
      [(activity true, 2), (activity false, 0), (activity true, 3)]
      [[.integer 1, .integer 2], [.boolean false, .null], [.integer 2, .integer 3]] :=
    .cons (hcells _ _ _ _ rfl rfl)
      (.cons (hcells _ _ _ _ rfl rfl) (.cons (hcells _ _ _ _ rfl rfl) .nil))
  have hanswer : ((all Sample.user).run (.countBy (.column active)) threeGroups).1 =
      .ok (.counts [(activity true, 5), (activity false, 0)]) := rfl
  obtain ⟨-, hsums⟩ := @countBy_adds_up Scripted _ (all Sample.user) hphase rfl
    (.column active) trivial threeGroups _ _ rfl
  obtain ⟨counts, hcounts, hadds, -⟩ := hsums _ hentries (by decide)
  refine ⟨hphase, rfl, trivial, counts, hcounts, hadds, ?_⟩
  rw [hcounts] at hanswer
  exact Answer.counts.inj (Except.ok.inj hanswer)

end Relation

end TypedQuery
