import TypedQuery.Adaptor.Scripted
import TypedQuery.Proofs.Domain
import TypedQuery.Proofs.Handed
import TypedQuery.Sample

/-!
# Values that are released

Whatever a connection answers, the values that operations give out are in the range of
their kinds and pass the checks of their kinds.  Rows, records and keys are read cell by
cell, and no cell is taken for a value without a check.
-/

namespace TypedQuery

/-! ## Lawful values -/

namespace Kind

/-- An integer is between the bounds of its type, and a decimal is finite. -/
def InRange : (kind : Kind) → kind.Carrier → Prop
  | integer type, n => type.lower ≤ n.val ∧ n.val ≤ type.upper
  | foreignKey _, n => IntegerType.int64.lower ≤ n.val ∧ n.val ≤ IntegerType.int64.upper
  | decimal, value => value.isFinite = true
  | _, _ => True

theorem inRange_of_inDomain {kind : Kind} {value : kind.Carrier}
    (h : kind.InDomain value) : kind.InRange value := by
  cases kind with
  | integer type => exact ⟨value.lower_le, value.le_upper⟩
  | foreignKey target => exact ⟨value.lower_le, value.le_upper⟩
  | decimal => exact h
  | _ => trivial

end Kind

namespace Attribute

variable {kind : Kind}

/-- A present value passes the check of the kind and is in its range. -/
def IsLawful (attr : Attribute kind) : Prop :=
  ∀ value, attr.value = some value → kind.check value = .ok () ∧ kind.InRange value

theorem isLawful_of_inDomain {attr : Attribute kind} (h : attr.InDomain) :
    attr.IsLawful := by
  intro value hvalue
  have hdomain := h value hvalue
  exact ⟨Kind.check_eq_ok_iff.mpr hdomain, Kind.inRange_of_inDomain hdomain⟩

theorem isLawful_of_ofCell {cell : Value} {attr : Attribute kind}
    (h : ofCell cell = .ok attr) : attr.IsLawful :=
  isLawful_of_inDomain (inDomain_of_ofCell h)

theorem isLawful_of_read {cell : Value} {value : Option kind.Carrier}
    (h : kind.read cell = .ok value) : (mk value : Attribute kind).IsLawful := by
  have hcell : (ofCell cell : Result (Attribute kind)) = .ok ⟨value⟩ := by
    rw [ofCell_eq_read, h]
    rfl
  exact isLawful_of_ofCell hcell

end Attribute

namespace Record

def IsLawful : {fields : List Field} → Record fields → Prop
  | _, .nil => True
  | _, .cons attr rest => attr.IsLawful ∧ rest.IsLawful

theorem isLawful_iff {fields : List Field} (record : Record fields) (table : String) :
    record.IsLawful ↔ ∀ leaf ∈ record.leaves table, leaf.attr.IsLawful := by
  induction record with
  | nil => exact iff_of_true trivial (List.forall_mem_nil _)
  | cons attr rest ih =>
      rw [IsLawful, ih, leaves, List.forall_mem_cons]

end Record

namespace Row

/-- The row has the columns of a shape, in order, and a lawful value for each. -/
structure Conforms (shape : RowShape) (row : Row) : Prop where
  columns : row.leaves.map Leaf.column = shape.columns
  lawful : ∀ leaf ∈ row.leaves, leaf.attr.IsLawful

end Row

/-! ## What a reader yields -/

namespace Action

variable {σ α β : Type}

/-- The values with which the action succeeds have the property. -/
def Yields (action : Action σ α) (P : α → Prop) : Prop :=
  ∀ state value after, action state = (.ok value, after) → P value

theorem yields_pure {P : α → Prop} {value : α} (h : P value) :
    Yields (pure value : Action σ α) P := by
  intro state other after hpure
  cases hpure
  exact h

theorem Yields.bind {action : Action σ α} {next : α → Action σ β}
    {P : α → Prop} {Q : β → Prop} (h : action.Yields P)
    (hnext : ∀ value, P value → (next value).Yields Q) :
    (action >>= next).Yields Q := by
  intro state value after hbind
  rw [bind_apply] at hbind
  cases hfirst : action state with
  | mk result middle =>
      rw [hfirst] at hbind
      cases result with
      | error error => cases hbind
      | ok first => exact hnext first (h _ _ _ hfirst) _ _ _ hbind

theorem yields_true (action : Action σ α) : action.Yields fun _ => True :=
  fun _ _ _ _ => trivial

end Action

namespace RowShape

open TypedQuery.Action

theorem yields_readAttribute (name : String) (kind : Kind) :
    Yields (Column.readAttribute name kind) Attribute.IsLawful := by
  refine (yields_true _).bind fun reader _ => (yields_true _).bind fun cell _ => ?_
  intro state value after h
  cases hcell : (Attribute.ofCell cell : Result (Attribute kind)) with
  | error error =>
      rw [hcell] at h
      cases h
  | ok attr =>
      rw [hcell] at h
      cases h
      exact Attribute.isLawful_of_ofCell hcell

theorem yields_readValue (kind : Kind) :
    Yields (Column.readValue kind) Attribute.IsLawful := by
  refine (yields_true _).bind fun cell _ => ?_
  intro state value after h
  cases hcell : kind.read cell with
  | error error =>
      rw [hcell] at h
      cases h
  | ok read =>
      rw [hcell] at h
      cases h
      exact Attribute.isLawful_of_read hcell

theorem yields_readColumn (mode : CellMode) (column : Column) :
    Yields (readColumn mode column) Attribute.IsLawful := by
  cases mode with
  | located => exact yields_readAttribute column.name column.kind
  | bare => exact yields_readValue column.kind

theorem yields_readRecord (table : String) (fields : List Field) :
    Yields (Record.read fields) fun record : Record fields =>
      (record.leaves table).map Leaf.column =
        (fields.map fun field => ⟨table, field.name, field.kind⟩) ∧
      ∀ leaf ∈ record.leaves table, leaf.attr.IsLawful := by
  induction fields with
  | nil => exact yields_pure ⟨rfl, List.forall_mem_nil _⟩
  | cons field fields ih =>
      refine (yields_readAttribute field.name field.kind).bind fun attr hattr => ?_
      refine ih.bind fun record hrecord => yields_pure ⟨?_, ?_⟩
      · exact congrArg (List.cons _) hrecord.1
      · exact List.forall_mem_cons.mpr ⟨hattr, hrecord.2⟩

mutual

theorem yields_read (mode : CellMode) : (shape : RowShape) →
    Yields (shape.read mode) (Row.Conforms shape)
  | .column source => by
      refine (yields_readColumn mode source).bind fun attr hattr => yields_pure ⟨rfl, ?_⟩
      exact List.forall_mem_singleton.mpr hattr
  | .model table => by
      refine (yields_readRecord table.table table.fields).bind fun record hrecord => ?_
      exact yields_pure ⟨hrecord.1, hrecord.2⟩
  | .tuple parts => by
      refine (yields_readAll mode parts).bind fun rows hrows => ?_
      exact yields_pure ⟨hrows.1, hrows.2⟩

theorem yields_readAll (mode : CellMode) : (parts : List RowShape) →
    Yields (read.readAll mode parts) fun rows =>
      (Row.leaves.leavesOf rows).map Leaf.column = columns.columnsOf parts ∧
      ∀ leaf ∈ Row.leaves.leavesOf rows, leaf.attr.IsLawful
  | [] => yields_pure ⟨rfl, List.forall_mem_nil _⟩
  | part :: parts => by
      refine (yields_read mode part).bind fun row hrow => ?_
      refine (yields_readAll mode parts).bind fun rows hrows => yields_pure ⟨?_, ?_⟩
      · rw [Row.leaves.leavesOf, List.map_append, hrow.columns, hrows.1]
        rfl
      · exact List.forall_mem_append.mpr ⟨hrow.lawful, hrows.2⟩

end

end RowShape

/-! ## Answers -/

namespace RowReader

theorem of_readRow_eq_ok {α : Type} {read : Read α} {P : α → Prop}
    (h : Action.Yields read P) {cells : List Value} {value : α}
    (hrow : readRow read cells = .ok value) : P value := by
  have hall : Action.Yields (do
      let value ← read
      finish
      return value) P :=
    h.bind fun value hvalue => (Action.yields_true finish).bind fun _ _ =>
      Action.yields_pure hvalue
  exact hall (start cells) value _ (Prod.ext hrow rfl)

end RowReader

/-- What holds of all that is related to something holds of every entry on the left. -/
theorem forall_mem_of_forall₂
    {α β : Type} {relation : α → β → Prop} {property : α → Prop}
    (hproperty : ∀ entry entry', relation entry entry' → property entry)
    {entries : List α} {entries' : List β} (h : List.Forall₂ relation entries entries') :
    ∀ entry ∈ entries, property entry :=
  ((List.forall₂_and_left entries entries').mp
    (h.imp fun entry entry' hentry => ⟨hproperty entry entry' hentry, hentry⟩)).1

theorem exists_forall₂_iff {α β : Type} {relation : α → β → Prop} {entries : List β} :
    (∃ results, List.Forall₂ relation results entries) ↔
      ∀ entry ∈ entries, ∃ result, relation result entry := by
  induction entries with
  | nil => exact iff_of_true ⟨[], .nil⟩ (List.forall_mem_nil _)
  | cons entry entries ih =>
      rw [List.forall_mem_cons, ← ih]
      constructor
      · rintro ⟨results, hresults⟩
        cases hresults with
        | cons hfirst hrest => exact ⟨⟨_, hfirst⟩, ⟨_, hrest⟩⟩
      · rintro ⟨⟨result, hfirst⟩, ⟨results, hrest⟩⟩
        exact ⟨result :: results, .cons hfirst hrest⟩

/-- Checked steps succeed together when each of them does. -/
theorem mapM_eq_ok_iff {α β : Type} {f : α → Result β} {entries : List α}
    {results : List β} :
    entries.mapM f = .ok results ↔
      List.Forall₂ (fun result entry => f entry = .ok result) results entries := by
  induction entries generalizing results with
  | nil =>
      rw [List.forall₂_nil_right_iff]
      constructor
      · intro h
        exact (Except.ok.inj h).symm
      · rintro rfl
        rfl
  | cons entry entries ih =>
      rw [List.mapM_cons, List.forall₂_cons_right_iff]
      constructor
      · intro h
        obtain ⟨first, hfirst, h⟩ := bind_eq_ok_iff.mp h
        obtain ⟨rest, hrest, h⟩ := bind_eq_ok_iff.mp h
        exact ⟨first, rest, hfirst, ih.mp hrest, (Except.ok.inj h).symm⟩
      · rintro ⟨first, rest, hfirst, hrest, rfl⟩
        rw [hfirst, ih.mpr hrest]
        rfl

/-- The results of checked steps come each from one of them. -/
theorem exists_of_mapM_eq_ok {α β : Type} {f : α → Result β} {entries : List α}
    {results : List β} (h : entries.mapM f = .ok results) :
    ∀ result ∈ results, ∃ entry ∈ entries, f entry = .ok result := by
  have hall := mapM_eq_ok_iff.mp h
  clear h
  induction hall with
  | nil => exact List.forall_mem_nil _
  | @cons first entry results entries hfirst _ ih =>
      refine List.forall_mem_cons.mpr ⟨⟨entry, List.mem_cons_self, hfirst⟩, ?_⟩
      intro result hresult
      obtain ⟨later, hlater, hf⟩ := ih result hresult
      exact ⟨later, List.mem_cons_of_mem entry hlater, hf⟩

theorem Rows.conforms_of_decodeWith {mode : RowShape.CellMode} {result : Rows}
    {shape : RowShape} {rows : List Row} (h : result.decodeWith mode shape = .ok rows) :
    ∀ row ∈ rows, row.Conforms shape := by
  intro row hrow
  obtain ⟨cells, -, hcells⟩ := exists_of_mapM_eq_ok h row hrow
  exact RowReader.of_readRow_eq_ok (RowShape.yields_read mode shape) hcells

namespace Terminal

theorem yields_readKeyCount (keys : RowShape) :
    Action.Yields (readKeyCount keys) fun entry => entry.1.Conforms keys := by
  refine (RowShape.yields_read .bare keys).bind fun key hkey => ?_
  refine (Action.yields_true _).bind fun cell _ => ?_
  intro state entry after h
  cases hcount : readCount cell with
  | error error =>
      rw [hcount] at h
      cases h
  | ok n =>
      rw [hcount] at h
      cases h
      exact hkey

/-- An entry whose key is new comes to the end, and any other is added to the number of
its key. -/
theorem tally_cases (totals : List (Row × UInt64)) (entry : Row × UInt64) :
    ((∀ total ∈ totals, total.1.leaves ≠ entry.1.leaves) ∧
      tally totals entry = totals ++ [entry]) ∨
    ∃ before key number after,
      totals = before ++ (key, number) :: after ∧
      key.leaves = entry.1.leaves ∧
      tally totals entry = before ++ (key, number + entry.2) :: after := by
  induction totals with
  | nil => exact Or.inl ⟨List.forall_mem_nil _, rfl⟩
  | cons total totals ih =>
      obtain ⟨key, number⟩ := total
      rw [tally]
      by_cases hkey : key.leaves = entry.1.leaves
      · have hsame : key.sameLeaves entry.1 = true := beq_iff_eq.mpr hkey
        rw [if_pos hsame]
        exact Or.inr ⟨[], key, number, totals, rfl, hkey, rfl⟩
      · have hsame : ¬ key.sameLeaves entry.1 = true := fun h => hkey (beq_iff_eq.mp h)
        rw [if_neg hsame]
        rcases ih with ⟨hnew, htally⟩ | ⟨before, old, count, after, rfl, hold, htally⟩
        · exact Or.inl ⟨List.forall_mem_cons.mpr ⟨hkey, hnew⟩, congrArg _ htally⟩
        · exact Or.inr ⟨(key, number) :: before, old, count, after, rfl, hold,
            congrArg _ htally⟩

/-- Counting an entry brings in no key but its own. -/
theorem mem_tally {totals : List (Row × UInt64)} {entry counted : Row × UInt64}
    (h : counted ∈ tally totals entry) :
    counted.1 = entry.1 ∨ ∃ total ∈ totals, counted.1 = total.1 := by
  rcases tally_cases totals entry with
    ⟨-, htally⟩ | ⟨before, key, number, after, rfl, -, htally⟩
  · rw [htally, List.mem_append, List.mem_singleton] at h
    rcases h with h | rfl
    · exact Or.inr ⟨counted, h, rfl⟩
    · exact Or.inl rfl
  · rw [htally] at h
    right
    rcases List.mem_append.mp h with h | h
    · exact ⟨counted, List.mem_append_left _ h, rfl⟩
    · rcases List.mem_cons.mp h with rfl | h
      · exact ⟨(key, number), List.mem_append_right before List.mem_cons_self, rfl⟩
      · exact ⟨counted, List.mem_append_right before (List.mem_cons_of_mem _ h), rfl⟩

theorem forall_mem_foldl_tally {P : Row → Prop} {totals entries : List (Row × UInt64)}
    (htotals : ∀ total ∈ totals, P total.1) (hentries : ∀ entry ∈ entries, P entry.1) :
    ∀ counted ∈ entries.foldl tally totals, P counted.1 := by
  induction entries generalizing totals with
  | nil => exact htotals
  | cons entry entries ih =>
      obtain ⟨hentry, hentries⟩ := List.forall_mem_cons.mp hentries
      apply ih _ hentries
      intro counted hcounted
      rcases mem_tally hcounted with h | ⟨total, htotal, h⟩
      · rwa [h]
      · rw [h]
        exact htotals total htotal

/-- An answer of the sort that an operation gives on a relation whose rows have a shape.
All its values are lawful: those of the rows, the value of an aggregate and the keys of
counts. -/
def Releases (selected : RowShape) : Terminal → Answer → Prop
  | exec, .rows rows => ∀ row ∈ rows, row.Conforms selected
  | pluck shape, .rows rows => ∀ row ∈ rows, row.Conforms shape
  | sum column, .value kind attr | min column, .value kind attr
  | max column, .value kind attr => kind = column.kind ∧ attr.IsLawful
  | avg _, .value kind attr => kind = .decimal ∧ attr.IsLawful
  | count, .count _ | countOf _, .count _ => True
  | countBy keys, .counts counts => ∀ counted ∈ counts, counted.1.Conforms keys
  | update _, .count _ | updateAll _, .count _ => True
  | _, _ => False

theorem releases_of_readAnswer {relation : Relation} {terminal : Terminal}
    {fragment : Fragment} (hplan : terminal.plan relation = .ok (.query fragment))
    {result : Rows} {answer : Answer}
    (h : terminal.readAnswer relation result = .ok answer) :
    terminal.Releases relation.shape answer := by
  cases terminal with
  | exec =>
      obtain ⟨rows, hrows, rfl⟩ := map_eq_ok_iff.mp h
      exact Rows.conforms_of_decodeWith hrows
  | pluck shape =>
      obtain ⟨rows, hrows, rfl⟩ := map_eq_ok_iff.mp h
      exact Rows.conforms_of_decodeWith hrows
  | sum column =>
      obtain ⟨value, hvalue, rfl⟩ := map_eq_ok_iff.mp h
      exact ⟨rfl, Attribute.isLawful_of_read hvalue⟩
  | avg column =>
      obtain ⟨value, hvalue, rfl⟩ := map_eq_ok_iff.mp h
      exact ⟨rfl, Attribute.isLawful_of_read hvalue⟩
  | min column =>
      obtain ⟨value, hvalue, rfl⟩ := map_eq_ok_iff.mp h
      exact ⟨rfl, Attribute.isLawful_of_read hvalue⟩
  | max column =>
      obtain ⟨value, hvalue, rfl⟩ := map_eq_ok_iff.mp h
      exact ⟨rfl, Attribute.isLawful_of_read hvalue⟩
  | count =>
      obtain ⟨n, -, rfl⟩ := map_eq_ok_iff.mp h
      trivial
  | countOf column =>
      obtain ⟨n, -, rfl⟩ := map_eq_ok_iff.mp h
      trivial
  | countBy keys =>
      obtain ⟨counts, hcounts, rfl⟩ := map_eq_ok_iff.mp h
      obtain ⟨entries, hentries, hcounts⟩ := bind_eq_ok_iff.mp hcounts
      obtain rfl := Except.ok.inj hcounts
      have hkeys : ∀ entry ∈ entries, entry.1.Conforms keys := by
        intro entry hentry
        obtain ⟨cells, -, hcells⟩ := exists_of_mapM_eq_ok hentries entry hentry
        exact RowReader.of_readRow_eq_ok (yields_readKeyCount keys) hcells
      exact forall_mem_foldl_tally (List.forall_mem_nil _) hkeys
  | update assignments =>
      rw [plan] at hplan
      split at hplan
      · cases hplan
      · obtain ⟨_, -, hexecute⟩ := map_eq_ok_iff.mp hplan
        cases hexecute
  | updateAll assignments =>
      obtain ⟨_, -, hexecute⟩ := map_eq_ok_iff.mp hplan
      cases hexecute

theorem releases_of_execute {relation : Relation} {terminal : Terminal}
    {fragment : Fragment} (hplan : terminal.plan relation = .ok (.execute fragment))
    (n : UInt64) : terminal.Releases relation.shape (.count n) := by
  cases terminal with
  | exec => cases hplan
  | pluck shape => cases hplan
  | sum column =>
      obtain ⟨_, -, hquery⟩ := map_eq_ok_iff.mp hplan
      cases hquery
  | avg column =>
      obtain ⟨_, -, hquery⟩ := map_eq_ok_iff.mp hplan
      cases hquery
  | min column =>
      obtain ⟨_, -, hquery⟩ := map_eq_ok_iff.mp hplan
      cases hquery
  | max column =>
      obtain ⟨_, -, hquery⟩ := map_eq_ok_iff.mp hplan
      cases hquery
  | countBy keys => cases hplan
  | _ => trivial

end Terminal

namespace Relation

variable {σ : Type} [Adaptor σ]

theorem releases_of_answer {relation : Relation} {terminal : Terminal}
    {state after : σ} {answer : Answer}
    (h : relation.answer terminal state = (.ok answer, after)) :
    terminal.Releases relation.shape answer := by
  rw [answer_eq] at h
  cases hplan : terminal.plan relation with
  | error error =>
      rw [hplan] at h
      cases h
  | ok request =>
      rw [hplan] at h
      cases request with
      | query fragment =>
          dsimp only at h
          split at h
          · exact Terminal.releases_of_readAnswer hplan (congrArg Prod.fst h)
          · cases h
      | execute fragment =>
          dsimp only at h
          split at h
          · cases h
            exact Terminal.releases_of_execute hplan _
          · cases h

theorem shape_of_finalize {relation finalized : Relation}
    (h : relation.finalize = .ok finalized) : finalized.shape = relation.shape := by
  rw [finalize] at h
  split at h
  · cases h
  · split at h
    · cases h
    · cases h
      rfl

/-- Executing a relation releases lawful values. -/
theorem releases_of_run {relation : Relation} {terminal : Terminal} {state : σ}
    {answer : Answer} (h : (relation.run terminal state).1 = .ok answer) :
    terminal.Releases relation.shape answer := by
  cases hfinalize : relation.finalize with
  | error error =>
      rw [run_eq_of_finalize_error hfinalize] at h
      cases h
  | ok finalized =>
      rw [run_eq_of_finalize_ok hfinalize] at h
      rw [← shape_of_finalize hfinalize]
      exact releases_of_answer (Prod.ext h rfl)

theorem isLawful_of_firstRecord {relation : Relation} {model : Model} {state : σ}
    {record : Record model.fields}
    (h : (relation.firstRecord model state).1 = .ok (some record)) :
    record.IsLawful := by
  rw [firstRecord] at h
  split at h
  case h_1 row rows after phase hrun =>
      have hreleases := releases_of_run (congrArg Prod.fst hrun)
      have hrow := hreleases row List.mem_cons_self
      have hrecord := Except.ok.inj h
      unfold Row.record? at hrecord
      split at hrecord
      case h_1 table entry =>
          split at hrecord
          · subst table
            obtain rfl := Option.some.inj hrecord
            exact (entry.isLawful_iff model.table).mpr hrow.lawful
          · cases hrecord
      case h_2 => cases hrecord
  case h_2 => cases h
  case h_3 => cases h

end Relation

namespace Record

/-- Writing a text into a field changes no other, and what it writes is lawful. -/
theorem mem_or_isLawful_of_setText? {fields : List Field} {record changed : Record fields}
    {name text : String} (h : record.setText? name text = some (.ok changed))
    (table : String) :
    ∀ leaf ∈ changed.leaves table,
      leaf ∈ record.leaves table ∨ leaf.attr.IsLawful := by
  induction record with
  | nil => cases h
  | @cons field fields attr rest ih =>
      rw [setText?] at h
      by_cases hname : name = field.name
      · rw [if_pos hname] at h
        obtain ⟨attr, hattr, rfl⟩ := map_eq_ok_iff.mp (Option.some.inj h)
        have hlawful := Attribute.isLawful_of_inDomain (Attribute.inDomain_of_ofText hattr)
        refine List.forall_mem_cons.mpr ⟨Or.inr hlawful, ?_⟩
        exact fun leaf hleaf => Or.inl (List.mem_cons_of_mem _ hleaf)
      · rw [if_neg hname] at h
        obtain ⟨result, hresult, hmap⟩ := Option.map_eq_some_iff.mp h
        obtain ⟨rest, rfl, rfl⟩ := map_eq_ok_iff.mp hmap
        refine List.forall_mem_cons.mpr ⟨Or.inl List.mem_cons_self, ?_⟩
        intro leaf hleaf
        rcases ih hresult leaf hleaf with hkept | hlawful
        · exact Or.inl (List.mem_cons_of_mem _ hkept)
        · exact Or.inr hlawful

end Record

namespace Model

variable {σ : Type} [Adaptor σ]

/-- No value that breaks the check or the range of its kind gets out: not from an
operation on a relation, not from looking up records, not from any way to come by an
attribute, not from reading a row and not from writing a text into a record. -/
theorem released_values_lawful (model : Model) (relation : Relation)
    (terminal : Terminal) (state : σ) :
    (∀ answer, (relation.run terminal state).1 = .ok answer →
      terminal.Releases relation.shape answer) ∧
    (∀ record, (model.first state).1 = .ok (some record) → record.IsLawful) ∧
    (∀ key record, (model.find key state).1 = .ok (some record) → record.IsLawful) ∧
    (∀ kind, ∀ attr : Attribute kind, attr.Obtained → attr.IsLawful) ∧
    (∀ mode shape reader row, ((shape : RowShape).read mode reader).1 = .ok row →
      row.Conforms shape) ∧
    (∀ record name text changed, model.setText record name text = .ok changed →
      ∀ leaf ∈ changed.leaves model.table,
        leaf ∈ record.leaves model.table ∨ leaf.attr.IsLawful) := by
  refine ⟨?_, ?_, ?_, ?_, ?_, ?_⟩
  · intro answer h
    exact Relation.releases_of_run h
  · intro record h
    exact Relation.isLawful_of_firstRecord h
  · intro key record h
    rw [find] at h
    split at h
    · cases h
    · exact Relation.isLawful_of_firstRecord h
  · intro kind attr h
    exact Attribute.isLawful_of_inDomain h.inDomain
  · intro mode shape reader row h
    exact RowShape.yields_read mode shape reader row _ (Prod.ext h rfl)
  · intro record name text changed h
    rw [setText] at h
    cases hset : record.setText? name text with
    | none =>
        rw [hset] at h
        cases h
    | some result =>
        rw [hset, Option.getD_some] at h
        subst h
        exact Record.mem_or_isLawful_of_setText? hset model.table

end Model

namespace Sample

def score : Column :=
  ⟨"users", "score", .decimal⟩

def answering (cell : Value) : Scripted :=
  { dialect := .sqlite, queries := [.ok ⟨["score"], [[cell]]⟩] }

/-- Of two sums, one is released and the other, which is infinite, is refused. -/
theorem released_values_lawful_scores :
    ((Relation.all user).run (.sum score) (answering (.real ⟨0x3FF8000000000000⟩))).1 =
        .ok (.value .decimal ⟨some ⟨0x3FF8000000000000⟩⟩) ∧
      (Terminal.sum score).Releases (Relation.all user).shape
        (.value .decimal ⟨some ⟨0x3FF8000000000000⟩⟩) ∧
      ((Relation.all user).run (.sum score) (answering (.real ⟨0x7FF0000000000000⟩))).1 =
        .error (Kind.notFinite ⟨0x7FF0000000000000⟩) := by
  have hlawful := Model.released_values_lawful user (Relation.all user) (.sum score)
    (answering (.real ⟨0x3FF8000000000000⟩))
  exact ⟨rfl, hlawful.1 _ rfl, rfl⟩

end Sample

end TypedQuery
