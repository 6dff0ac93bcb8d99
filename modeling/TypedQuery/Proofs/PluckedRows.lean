import TypedQuery.Proofs.ReleasedValues
import TypedQuery.Proofs.SingleRun

/-!
# Selected rows and plucked rows

The columns of a relation can be selected, and then the relation executed, or they can
be plucked from it.  Cells are read in two ways then: with or without their place in
the message of what cannot be read.  The two readers go in step.  They take the same
cells in the same order, they give the same values, and the first cell that cannot be
read is the same one.
-/

namespace TypedQuery

namespace RowShape

/-- The shape consists of columns, in tuples nested in any way. -/
def IsColumnList : RowShape → Prop
  | .column _ => True
  | .model _ => False
  | .tuple parts => allColumnLists parts
where
  /-- All shapes consist of columns. -/
  allColumnLists : List RowShape → Prop
    | [] => True
    | part :: parts => part.IsColumnList ∧ allColumnLists parts

end RowShape

/-! ## One failure, said in two ways -/

/-- The errors of one failure, first with and then without its place.  Where a cell
could not be read as a value, the place is that of the cell and the column at it;
otherwise the errors are the same. -/
inductive SameFailure (columns : List Column) : Error → Error → Prop where
  | alike {error : Error} (hconversion : error.kind ≠ .conversion)
      (hdomain : error.kind ≠ .domain) :
      SameFailure columns error error
  | located {error : Error} {position : Nat} {column : Column}
      (hkind : error.kind = .conversion ∨ error.kind = .domain)
      (hcolumn : columns[position]? = some column) :
      SameFailure columns
        (error.withContext (Column.cellContext position column.name)) error

namespace SameFailure

variable {columns : List Column} {error bare : Error}

theorem kind_eq (h : SameFailure columns error bare) : error.kind = bare.kind := by
  cases h with
  | alike hconversion hdomain => rfl
  | located hkind hcolumn => exact Error.withContext_kind _ bare

theorem append (h : SameFailure columns error bare) (more : List Column) :
    SameFailure (columns ++ more) error bare := by
  cases h with
  | alike hconversion hdomain => exact .alike hconversion hdomain
  | located hkind hcolumn =>
      obtain ⟨hlt, -⟩ := List.getElem?_eq_some_iff.mp hcolumn
      exact .located hkind ((List.getElem?_append_left hlt).trans hcolumn)

/-- An error of a cell, with the column that the cell stands in. -/
theorem of_cell (error : Error) (before : List Column) (column : Column) :
    SameFailure (before ++ [column])
      (error.withContext (Column.cellContext before.length column.name)) error := by
  by_cases hkind : error.kind = .conversion ∨ error.kind = .domain
  · exact .located hkind List.getElem?_concat_length
  · have hsame : error.withContext (Column.cellContext before.length column.name) = error :=
      if_neg hkind
    rw [hsame]
    obtain ⟨hconversion, hdomain⟩ := not_or.mp hkind
    exact .alike hconversion hdomain

end SameFailure

/-- Results with the same value, or of the same failure. -/
inductive SameResult {α : Type} (columns : List Column) : Result α → Result α → Prop where
  | ok (value : α) : SameResult columns (.ok value) (.ok value)
  | error {error bare : Error} (h : SameFailure columns error bare) :
      SameResult columns (.error error) (.error bare)

/-! ## Readers in step -/

namespace RowReader

/-- What two readers of some columns come to: the same value and the same reader after
the columns, or the same failure. -/
inductive SameRead {α : Type} (columns : List Column) :
    Result α × RowReader → Result α × RowReader → Prop where
  | ok (value : α) {after : RowReader} (hposition : after.position = columns.length) :
      SameRead columns (.ok value, after) (.ok value, after)
  | error {error bare : Error} (h : SameFailure columns error bare)
      (after after' : RowReader) :
      SameRead columns (.error error, after) (.error bare, after')

theorem SameRead.sameResult
    {α : Type} {columns : List Column} {first second : Result α × RowReader}
    (h : SameRead columns first second) :
    SameResult columns first.1 second.1 := by
  cases h with
  | ok value hposition => exact .ok value
  | error hfailure after after' => exact .error hfailure

theorem SameRead.eq_of_ok {α : Type} {columns : List Column}
    {first second : Result α × RowReader} (h : SameRead columns first second) {value : α}
    {after : RowReader} (hfirst : first = (.ok value, after)) :
    second = (.ok value, after) := by
  cases h with
  | ok value hposition => exact hfirst
  | error hfailure after after' => cases hfirst

theorem SameRead.exists_error {α : Type} {columns : List Column}
    {first second : Result α × RowReader} (h : SameRead columns first second)
    {error : Error} {after : RowReader} (hfirst : first = (.error error, after)) :
    ∃ error' after', second = (.error error', after') := by
  cases h with
  | ok value hposition => cases hfirst
  | error hfailure after after' => exact ⟨_, _, rfl⟩

/-- Two ways to read some columns go in step, whatever columns were read before. -/
def InStep {α : Type} (columns : List Column) (located bare : Read α) : Prop :=
  ∀ (before : List Column) (reader : RowReader), reader.position = before.length →
    SameRead (before ++ columns) (located reader) (bare reader)

theorem inStep_pure {α : Type} (value : α) :
    InStep [] (pure value) (pure value) := by
  intro before reader hposition
  rw [List.append_nil]
  exact .ok value hposition

theorem InStep.bind
    {α β : Type} {columns more : List Column} {located bare : Read α}
    {nextLocated nextBare : α → Read β} (h : InStep columns located bare)
    (hnext : ∀ value, InStep more (nextLocated value) (nextBare value)) :
    InStep (columns ++ more) (located >>= nextLocated) (bare >>= nextBare) := by
  intro before reader hposition
  rw [Action.bind_apply, Action.bind_apply, ← List.append_assoc]
  have hfirst := h before reader hposition
  generalize located reader = first at hfirst
  generalize bare reader = second at hfirst
  cases hfirst with
  | ok value hafter => exact hnext value (before ++ columns) _ hafter
  | error hfailure after after' => exact .error (hfailure.append more) after after'

theorem inStep_finish : InStep [] finish finish := by
  intro before reader hposition
  rw [List.append_nil]
  unfold finish
  cases reader.cells with
  | nil => exact .ok () hposition
  | cons cell cells =>
      exact .error (.alike (nofun : ErrorKind.query ≠ .conversion)
        (nofun : ErrorKind.query ≠ .domain)) reader reader

theorem readColumn_nil (mode : RowShape.CellMode) (column : Column) (position : Nat) :
    RowShape.readColumn mode column ⟨[], position⟩ =
      (.error (tooShort position), ⟨[], position⟩) := by
  cases mode <;> rfl

theorem readColumn_located_cons
    (column : Column) (cell : Value) (cells : List Value) (position : Nat) :
    RowShape.readColumn .located column ⟨cell :: cells, position⟩ =
      ((Attribute.ofCell cell).mapError
        (Error.withContext (Column.cellContext position column.name)),
        ⟨cells, position + 1⟩) := by
  simp only [RowShape.readColumn, Column.readAttribute, Action.bind_apply, Action.get_apply,
    next]
  cases (Attribute.ofCell cell : Result (Attribute column.kind)) <;> rfl

theorem readColumn_bare_cons
    (column : Column) (cell : Value) (cells : List Value) (position : Nat) :
    RowShape.readColumn .bare column ⟨cell :: cells, position⟩ =
      (Attribute.ofCell cell, ⟨cells, position + 1⟩) := by
  simp only [RowShape.readColumn, Column.readValue, Action.bind_apply, next,
    Attribute.ofCell_eq_read]
  cases column.kind.read cell <;> rfl

/-- The two ways to read a cell for a column go in step. -/
theorem inStep_readColumn (column : Column) :
    InStep [column] (RowShape.readColumn .located column)
      (RowShape.readColumn .bare column) := by
  intro before reader hposition
  obtain ⟨cells, position⟩ := reader
  obtain rfl : position = before.length := hposition
  cases cells with
  | nil =>
      rw [readColumn_nil, readColumn_nil]
      exact .error (.alike (nofun : ErrorKind.query ≠ .conversion)
        (nofun : ErrorKind.query ≠ .domain)) _ _
  | cons cell cells =>
      rw [readColumn_located_cons, readColumn_bare_cons]
      cases (Attribute.ofCell cell : Result (Attribute column.kind)) with
      | ok attr => exact .ok attr (by rw [List.length_append]; rfl)
      | error error => exact .error (.of_cell error before column) _ _

mutual

/-- So do the two ways to read a row of columns. -/
theorem inStep_read : (shape : RowShape) → shape.IsColumnList →
    InStep shape.columns (shape.read .located) (shape.read .bare)
  | .column source, _ =>
      (inStep_readColumn source).bind fun attr => inStep_pure (Row.attribute source attr)
  | .model _, hshape => hshape.elim
  | .tuple parts, hshape => by
      have hparts := (inStep_readAll parts hshape).bind fun rows => inStep_pure (Row.tuple rows)
      rwa [List.append_nil] at hparts

theorem inStep_readAll : (parts : List RowShape) →
    RowShape.IsColumnList.allColumnLists parts →
    InStep (RowShape.columns.columnsOf parts) (RowShape.read.readAll .located parts)
      (RowShape.read.readAll .bare parts)
  | [], _ => inStep_pure []
  | part :: parts, hparts => by
      have hall := (inStep_read part hparts.1).bind fun row =>
        (inStep_readAll parts hparts.2).bind fun rows => inStep_pure (row :: rows)
      rwa [List.append_nil] at hall

end

/-- Whole rows are read alike: cells that are left over are no matter of their place. -/
theorem InStep.readRow
    {α : Type} {columns : List Column} {located bare : Read α}
    (h : InStep columns located bare) (cells : List Value) :
    SameResult columns (readRow located cells) (readRow bare cells) := by
  have hall := h.bind fun value => inStep_finish.bind fun _ => inStep_pure value
  rw [List.append_nil, List.append_nil] at hall
  have hstart := hall [] (start cells) rfl
  rw [List.nil_append] at hstart
  exact hstart.sameResult

end RowReader

namespace SameResult

variable {α β : Type} {columns : List Column}

theorem bind {located bare : Result α} (h : SameResult columns located bare)
    {nextLocated nextBare : α → Result β}
    (hnext : ∀ value, SameResult columns (nextLocated value) (nextBare value)) :
    SameResult columns (located >>= nextLocated) (bare >>= nextBare) := by
  cases h with
  | ok value => exact hnext value
  | error hfailure => exact .error hfailure

/-- Steps that agree entry by entry agree on the whole list. -/
theorem mapM {located bare : α → Result β}
    (h : ∀ entry, SameResult columns (located entry) (bare entry)) (entries : List α) :
    SameResult columns (entries.mapM located) (entries.mapM bare) := by
  induction entries with
  | nil => exact .ok []
  | cons entry entries ih =>
      rw [List.mapM_cons, List.mapM_cons]
      exact (h entry).bind fun first => ih.bind fun rest => .ok (first :: rest)

end SameResult

theorem length_of_mapM_eq_ok {α β : Type} {f : α → Result β} {entries : List α}
    {results : List β} (h : entries.mapM f = .ok results) :
    results.length = entries.length :=
  (mapM_eq_ok_iff.mp h).length_eq

/-- The rows of a response, with and without the places of their cells. -/
theorem Rows.sameResult_decode (response : Rows) {shape : RowShape}
    (hshape : shape.IsColumnList) :
    SameResult shape.columns (response.decode shape) (response.values shape) :=
  .mapM (fun cells => (RowReader.inStep_read shape hshape).readRow cells) response.rows

/-! ## Executing and plucking -/

namespace Relation

variable {σ : Type} [Adaptor σ]

/-- What two operations on a relation come to that send one statement and read rows of
some columns: the first with the places of the cells, the second without them. -/
inductive SameExecution (relation : Relation) (columns : List Column) (statement : Statement)
    (before : Handed σ) : Result Answer → Result Answer → Handed σ → Prop where
  /-- Nothing is sent because of an error that is remembered. -/
  | refused {error : Error} (hfault : relation.fault = some error) :
      SameExecution relation columns statement before (.error error) (.error error) before
  /-- The statement fails. -/
  | unanswered {error : Error} {after : Handed σ} (hfault : relation.fault = none)
      (hquery : Adaptor.query statement before = (.error error, after)) :
      SameExecution relation columns statement before (.error error) (.error error) after
  /-- Every row of the response is read. -/
  | read {response : Rows} {after : Handed σ} {rows : List Row}
      (hfault : relation.fault = none)
      (hquery : Adaptor.query statement before = (.ok response, after))
      (hlength : rows.length = response.rows.length) :
      SameExecution relation columns statement before (.ok (.rows rows)) (.ok (.rows rows))
        after
  /-- The response cannot be read, for one reason. -/
  | unread {response : Rows} {after : Handed σ} {error bare : Error}
      (hfault : relation.fault = none)
      (hquery : Adaptor.query statement before = (.ok response, after))
      (hfailure : SameFailure columns error bare) :
      SameExecution relation columns statement before (.error error) (.error bare) after

theorem SameExecution.kind_eq
    {relation : Relation} {columns : List Column} {statement : Statement}
    {before after : Handed σ} {error bare : Error}
    (h : SameExecution relation columns statement before (.error error) (.error bare) after) :
    error.kind = bare.kind := by
  cases h with
  | refused hfault => rfl
  | unanswered hfault hquery => rfl
  | unread hfault hquery hfailure => exact hfailure.kind_eq

section Planned

variable {relation : Relation} (hphase : relation.phase ≠ .finalized)
  (hfault : relation.fault = none) {terminal : Terminal} {fragment : Fragment}
  (hplan : terminal.plan { relation with phase := .finalized } = .ok (.query fragment))
  {before after : σ}

include hphase hfault hplan

theorem run_eq_of_query_error {error : Error}
    (hquery : Adaptor.query (fragment.render (Adaptor.dialect before)) before =
      (.error error, after)) :
    relation.run terminal before =
      (.error error, { relation with phase := .finalized }, after) := by
  rw [run_eq_of_finalize_ok (finalize_of_open hphase hfault), answer_eq, hplan]
  simp only [hquery]

/-- A planned query is sent, and its response is read. -/
theorem run_eq_of_query_ok {response : Rows}
    (hquery : Adaptor.query (fragment.render (Adaptor.dialect before)) before =
      (.ok response, after)) :
    relation.run terminal before =
      (terminal.readAnswer { relation with phase := .finalized } response,
        { relation with phase := .finalized }, after) := by
  rw [run_eq_of_finalize_ok (finalize_of_open hphase hfault), answer_eq, hplan]
  simp only [hquery]

end Planned

theorem run_of_fault
    {relation : Relation} {error : Error} (hfault : relation.fault = some error)
    (terminal : Terminal) (state : σ) :
    relation.run terminal state = (.error error, relation, state) := by
  apply run_eq_of_finalize_error
  rw [finalize, hfault]

/-- A newly selected shape changes nothing else in an open relation. -/
theorem add_select_of_open
    {relation : Relation} (hphase : relation.phase ≠ .finalized) (shape : RowShape) :
    relation.add (.select shape) =
      { relation with shape := shape, phase := relation.phase.later .shaping } := by
  rw [add, if_neg hphase]
  rfl

section Selected

variable {relation : Relation} {shape : RowShape}

theorem plan_exec_add_select (hphase : relation.phase ≠ .finalized) :
    Terminal.exec.plan { relation.add (.select shape) with phase := .finalized } =
      .ok (.query (relation.selectFragment shape.columnRefs)) := by
  rw [add_select_of_open hphase]
  rfl

theorem sameExecution_of_fault {error : Error} (hfault : relation.fault = some error)
    (columns : List Column) (statement : Statement) (before : Handed σ) :
    let selected := (relation.add (.select shape)).run .exec before
    let plucked := relation.run (.pluck shape) before
    selected.2.2 = plucked.2.2 ∧ plucked.2.2.statements = before.statements ∧
      SameExecution relation columns statement before selected.1 plucked.1
        plucked.2.2 := by
  have hselected : (relation.add (.select shape)).fault = some error :=
    fault_add_of_some hfault _
  rw [run_of_fault hselected, run_of_fault hfault]
  exact ⟨rfl, rfl, .refused hfault⟩

theorem sameExecution_of_faultless
    (hphase : relation.phase ≠ .finalized) (hfault : relation.fault = none)
    (hshape : shape.IsColumnList) (before : Handed σ) :
    let statement :=
      (relation.selectFragment shape.columnRefs).render (Adaptor.dialect before)
    let selected := (relation.add (.select shape)).run .exec before
    let plucked := relation.run (.pluck shape) before
    selected.2.2 = plucked.2.2 ∧
      plucked.2.2.statements = before.statements ++ [statement] ∧
      SameExecution relation shape.columns statement before selected.1 plucked.1
        plucked.2.2 := by
  intro statement selected plucked
  have hopen : (relation.add (.select shape)).phase ≠ .finalized := by
    rw [phase_add_of_open hphase]
    exact Phase.later_ne_finalized hphase (Clause.phase_ne_finalized _)
  have hsame : (relation.add (.select shape)).fault = none := by
    rw [add_select_of_open hphase, hfault]
  have hexec : Terminal.exec.plan { relation.add (.select shape) with phase := .finalized } =
      .ok (.query (relation.selectFragment shape.columnRefs)) := plan_exec_add_select hphase
  have hpluck : (Terminal.pluck shape).plan { relation with phase := .finalized } =
      .ok (.query (relation.selectFragment shape.columnRefs)) := rfl
  have hsent : (Adaptor.query statement before).2.statements =
      before.statements ++ [statement] := rfl
  rcases hquery : Adaptor.query statement before with ⟨result, after⟩
  rw [hquery] at hsent
  cases result with
  | error error =>
      have hselected : selected = _ := run_eq_of_query_error hopen hsame hexec hquery
      have hplucked : plucked = _ := run_eq_of_query_error hphase hfault hpluck hquery
      rw [hselected, hplucked]
      exact ⟨rfl, hsent, .unanswered hfault hquery⟩
  | ok response =>
      have hselected : selected = _ := run_eq_of_query_ok hopen hsame hexec hquery
      have hplucked : plucked = _ := run_eq_of_query_ok hphase hfault hpluck hquery
      have hshapes : (relation.add (.select shape)).shape = shape := by
        rw [add_select_of_open hphase]
      -- Both read the same response, so only the readers of its rows matter.
      have hrows := response.sameResult_decode hshape
      rw [hselected, hplucked]
      refine ⟨rfl, hsent, ?_⟩
      simp only [Terminal.readAnswer, hshapes]
      generalize hplaced : response.decode shape = placed at hrows ⊢
      generalize response.values shape = bare at hrows ⊢
      cases hrows with
      | ok rows => exact .read hfault hquery (length_of_mapM_eq_ok hplaced)
      | error hfailure => exact .unread hfault hquery hfailure

end Selected

/-- Selecting columns and executing comes to the same as plucking the columns, for every
open relation, whatever the connection answers.  The same statement is handed over, or
none because of the same error that is remembered, and the connection is the same
afterwards.  Where there is a response, both read as many rows as it has with the same
values, or both fail for the same reason.  Then the errors are of one kind, and they
are the same but for the place of a cell that could not be read. -/
theorem select_exec_agrees_with_pluck
    (relation : Relation) (hphase : relation.phase ≠ .finalized) (shape : RowShape)
    (hshape : shape.IsColumnList) (before : Handed σ) :
    let statement :=
      (relation.selectFragment shape.columnRefs).render (Adaptor.dialect before)
    let selected := (relation.add (.select shape)).run .exec before
    let plucked := relation.run (.pluck shape) before
    selected.2.2 = plucked.2.2 ∧
      plucked.2.2.statements =
        before.statements ++ (if relation.fault = none then [statement] else []) ∧
      SameExecution relation shape.columns statement before selected.1 plucked.1
        plucked.2.2 ∧
      ∀ error bare, selected.1 = .error error → plucked.1 = .error bare →
        error.kind = bare.kind := by
  intro statement selected plucked
  have hsame : selected.2.2 = plucked.2.2 ∧
      plucked.2.2.statements =
        before.statements ++ (if relation.fault = none then [statement] else []) ∧
      SameExecution relation shape.columns statement before selected.1 plucked.1
        plucked.2.2 := by
    cases hfault : relation.fault with
    | some error =>
        rw [if_neg (Option.some_ne_none error), List.append_nil]
        exact sameExecution_of_fault hfault shape.columns statement before
    | none =>
        rw [if_pos rfl]
        exact sameExecution_of_faultless hphase hfault hshape before
  obtain ⟨hconnection, hsent, hexecution⟩ := hsame
  refine ⟨hconnection, hsent, hexecution, ?_⟩
  intro error bare hselected hplucked
  rw [hselected, hplucked] at hexecution
  exact hexecution.kind_eq

def nameAndScore : RowShape :=
  .tuple [.column ⟨"users", "name", .text⟩, .tuple [.column Sample.score]]

/-- A connection that answers a name and a score that is infinite. -/
def boundless : Handed Scripted :=
  ⟨{ dialect := .sqlite
     queries :=
      [.ok ⟨["name", "score"], [[.text "Ada", .real ⟨0x7FF0000000000000⟩]]⟩] }, []⟩

/-- The score is refused in both ways; the place is said in one of them. -/
theorem select_exec_agrees_with_pluck_boundless :
    (all Sample.user).phase ≠ .finalized ∧ nameAndScore.IsColumnList ∧
    (((all Sample.user).add (.select nameAndScore)).run .exec boundless).2.2 =
      ((all Sample.user).run (.pluck nameAndScore) boundless).2.2 ∧
    (((all Sample.user).add (.select nameAndScore)).run .exec boundless).1 =
      .error ((Kind.notFinite ⟨0x7FF0000000000000⟩).withContext "column 1 (`score`): ") ∧
    ((all Sample.user).run (.pluck nameAndScore) boundless).1 =
      .error (Kind.notFinite ⟨0x7FF0000000000000⟩) := by
  have hphase : (all Sample.user).phase ≠ .finalized := Phase.noConfusion
  have hshape : nameAndScore.IsColumnList := ⟨trivial, ⟨trivial, trivial⟩, trivial⟩
  obtain ⟨hconnection, -, -, -⟩ :=
    select_exec_agrees_with_pluck (all Sample.user) hphase nameAndScore hshape boundless
  exact ⟨hphase, hshape, hconnection, rfl, rfl⟩

end Relation

end TypedQuery
