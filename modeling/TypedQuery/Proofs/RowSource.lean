import TypedQuery.Proofs.ExactUpdates
import TypedQuery.Proofs.PluckedRows

/-!
# One source of rows

A relation can be executed, its rows can be put into one number, and they can be counted
by keys.  These are different statements, and each is written on its own.  All of them
draw on the same rows: from the tables on, until the condition ends, their texts are one
text and their values are one list.
-/

namespace TypedQuery

namespace Fragment

theorem append_assoc (first second third : Fragment) :
    first ++ second ++ third = first ++ (second ++ third) :=
  congrArg mk (List.append_assoc first.chunks second.chunks third.chunks)

/-- Where there are no values, it does not matter how many came before. -/
theorem textFrom_of_params_eq_nil {fragment : Fragment} (h : fragment.params = [])
    (dialect : Dialect) (index other : Nat) :
    fragment.textFrom dialect index = fragment.textFrom dialect other := by
  obtain ⟨chunks⟩ := fragment
  unfold params at h
  unfold textFrom
  dsimp only at h ⊢
  induction chunks generalizing index other with
  | nil => rfl
  | cons chunk chunks ih =>
      have hchunk : chunk.render dialect index = chunk.render dialect other := by
        cases chunk with
        | param value => cases h
        | _ => rfl
      have hchunks : chunks.filterMap Chunk.value? = [] := by
        cases hvalue : chunk.value? with
        | none => rwa [List.filterMap_cons_none hvalue] at h
        | some value =>
            rw [List.filterMap_cons_some hvalue] at h
            cases h
      exact congrArg₂ (· ++ ·) hchunk (ih _ _ hchunks)

theorem textFrom_limit (dialect : Dialect) (index : Nat) (count offset : Option UInt64) :
    textFrom dialect index (limit count offset) = dialect.limitClause count offset := by
  cases count with
  | none =>
      cases offset with
      | none => rfl
      | some offset => exact String.append_empty
  | some count => exact String.append_empty

theorem texts_map_of_textFrom {α : Type} {f : α → Fragment} {write : α → String}
    {dialect : Dialect} (h : ∀ index entry, textFrom dialect index (f entry) = write entry)
    (index : Nat) (entries : List α) :
    texts dialect index (entries.map f) = entries.map write := by
  induction entries generalizing index with
  | nil => rfl
  | cons entry entries ih => rw [List.map_cons, texts, h, ih, List.map_cons]

end Fragment

/-! ## The texts of clauses -/

namespace Relation

def columnsText (columns : List ColumnRef) : String :=
  ", ".intercalate (columns.map ColumnRef.text)

def groupText (columns : List ColumnRef) : String :=
  if columns = [] then "" else " GROUP BY " ++ columnsText columns

def orderText (terms : List (ColumnRef × Order)) : String :=
  if terms = [] then ""
  else " ORDER BY " ++ ", ".intercalate (terms.map fun term => term.1.text ++ " " ++ term.2.word)

theorem textFrom_columnList (dialect : Dialect) (index : Nat) (columns : List ColumnRef) :
    (columnList columns).textFrom dialect index = columnsText columns := by
  rw [columnList, Fragment.textFrom_join,
    Fragment.texts_map_of_textFrom (Fragment.textFrom_column dialect), columnsText]

theorem textFrom_groupFragment (dialect : Dialect) (index : Nat) (columns : List ColumnRef) :
    (groupFragment columns).textFrom dialect index = groupText columns := by
  cases columns with
  | nil => rfl
  | cons column columns =>
      rw [groupFragment, groupText, if_neg (List.cons_ne_nil column columns),
        if_neg (by simp), Fragment.textFrom_append, Fragment.textFrom_text,
        textFrom_columnList]

theorem textFrom_orderFragment (dialect : Dialect) (index : Nat)
    (terms : List (ColumnRef × Order)) :
    (orderFragment terms).textFrom dialect index = orderText terms := by
  have hterm : ∀ index term, (orderTerm term).textFrom dialect index =
      term.1.text ++ " " ++ term.2.word := by
    intro index term
    rw [orderTerm, Fragment.textFrom_append, Fragment.textFrom_append,
      Fragment.textFrom_column, Fragment.textFrom_text, Fragment.textFrom_text]
  cases terms with
  | nil => rfl
  | cons term terms =>
      rw [orderFragment, orderText, if_neg (List.cons_ne_nil term terms), if_neg (by simp),
        Fragment.textFrom_append, Fragment.textFrom_text, Fragment.textFrom_join,
        Fragment.texts_map_of_textFrom hterm]

end Relation

/-! ## The source -/

/-- The rows that statements over a relation draw on. -/
structure RowSource where
  table : String
  joins : List Join
  condition : Option Predicate

namespace RowSource

/-- The tables and conditions that clauses over a model amount to. -/
def ofHistory (model : Model) (clauses : List Clause) : RowSource where
  table := model.table
  joins := clauses.filterMap Clause.join?
  condition := Predicate.conjunction (clauses.filterMap Clause.predicate?)

def joinOperands (joins : List Join) : List Value :=
  joins.flatMap fun join => join.on.operands

/-- The texts of joins when `index` values came before them. -/
def joinsText (dialect : Dialect) : Nat → List Join → String
  | _, [] => ""
  | index, join :: joins =>
    join.kind.words ++ Identifier.quote join.table ++ " ON " ++
      join.on.text dialect index ++ joinsText dialect (index + join.on.operands.length) joins

/-- The text of a condition when `index` values came before it. -/
def conditionText (dialect : Dialect) (index : Nat) : Option Predicate → String
  | none => ""
  | some predicate => " WHERE " ++ predicate.text dialect index

/-- The tables, the joins and the condition.  Their values are numbered from the first
one on, as no values come before them. -/
def text (source : RowSource) (dialect : Dialect) : String :=
  " FROM " ++ Identifier.quote source.table ++ joinsText dialect 0 source.joins ++
    conditionText dialect (joinOperands source.joins).length source.condition

def params (source : RowSource) : List Value :=
  joinOperands source.joins ++ source.condition.elim [] Predicate.operands

/-- A query of the source: what is asked for, the source, and what comes after it. -/
def query (source : RowSource) (dialect : Dialect) (head tail : String) : Statement :=
  ⟨head ++ source.text dialect ++ tail, source.params⟩

theorem textFrom_join (dialect : Dialect) (index : Nat) (join : Join) :
    join.fragment.textFrom dialect index =
      join.kind.words ++ Identifier.quote join.table ++ " ON " ++
        join.on.text dialect index := by
  have hkind : (Fragment.text join.kind.words).paramCount = 0 := rfl
  have htable : (Fragment.text join.kind.words ++ .ident join.table).paramCount = 0 := by
    simp [Fragment.paramCount]
  have hhead : (Fragment.text join.kind.words ++ .ident join.table ++
      .text " ON ").paramCount = 0 := by
    simp [Fragment.paramCount]
  simp only [Join.fragment, Fragment.textFrom_append, hkind, htable, hhead,
    Fragment.textFrom_text, Fragment.textFrom_ident, Nat.add_zero,
    Predicate.textFrom_fragment]

/-- Joins are written one after the other, behind what was there. -/
theorem textFrom_joins (dialect : Dialect) (sql : Fragment) (joins : List Join) :
    (joins.foldl (fun sql join => sql ++ join.fragment) sql).textFrom dialect 0 =
      sql.textFrom dialect 0 ++ joinsText dialect sql.paramCount joins := by
  induction joins generalizing sql with
  | nil => exact String.append_empty.symm
  | cons join joins ih =>
      have hcount : (sql ++ join.fragment).paramCount =
          sql.paramCount + join.on.operands.length := by
        simp [Fragment.paramCount, Join.params_fragment]
      rw [List.foldl_cons, ih, hcount, Fragment.textFrom_append, Nat.zero_add, textFrom_join,
        joinsText]
      simp only [String.append_assoc]

theorem textFrom_where (dialect : Dialect) (index : Nat) (condition : Option Predicate) :
    (Relation.whereFragment condition).textFrom dialect index =
      conditionText dialect index condition := by
  cases condition with
  | none => rfl
  | some predicate => exact Relation.textFrom_whereFragment_some dialect index predicate

def ofRelation (relation : Relation) : RowSource :=
  ⟨relation.model.table, relation.joins, relation.condition⟩

theorem textFrom_sourceFragment (relation : Relation) (dialect : Dialect) :
    relation.sourceFragment.textFrom dialect 0 = (ofRelation relation).text dialect := by
  let table : Fragment := .text " FROM " ++ .ident relation.model.table
  let tables := relation.joins.foldl (fun sql join => sql ++ join.fragment) table
  have htable_count : table.paramCount = 0 := by
    simp [table, Fragment.paramCount]
  have htable : table.textFrom dialect 0 =
      " FROM " ++ Identifier.quote relation.model.table := by
    simp [table, Fragment.textFrom_append]
  have htables : tables.textFrom dialect 0 =
      " FROM " ++ Identifier.quote relation.model.table ++
        joinsText dialect 0 relation.joins := by
    rw [textFrom_joins, htable, htable_count]
  have hcount : tables.paramCount = (joinOperands relation.joins).length := by
    simp [tables, table, Fragment.paramCount, joinOperands, Join.params_fragment,
      Relation.foldl_joins Fragment.params_append]
  calc (tables ++ Relation.whereFragment relation.condition).textFrom dialect 0
    _ = tables.textFrom dialect 0 ++
          (Relation.whereFragment relation.condition).textFrom dialect
            (joinOperands relation.joins).length := by
        rw [Fragment.textFrom_append, hcount, Nat.zero_add]
    _ = (ofRelation relation).text dialect := by
        rw [htables, textFrom_where]
        rfl

/-- Whatever stands before the source has no values, so the source is written alike in
every statement. -/
theorem render_eq_query {head tail : Fragment} (hhead : head.params = [])
    (htail : tail.params = []) (relation : Relation) (dialect : Dialect) :
    (head ++ relation.sourceFragment ++ tail).render dialect =
      (ofRelation relation).query dialect (head.textFrom dialect 0)
        (tail.textFrom dialect 0) := by
  have hcount : head.paramCount = 0 := by
    rw [Fragment.paramCount, hhead, List.length_nil]
  have hsql : (head ++ relation.sourceFragment ++ tail).textFrom dialect 0 =
      head.textFrom dialect 0 ++ (ofRelation relation).text dialect ++
        tail.textFrom dialect 0 := by
    rw [Fragment.textFrom_append, Fragment.textFrom_append, hcount, Nat.zero_add,
      textFrom_sourceFragment, Fragment.textFrom_of_params_eq_nil htail dialect _ 0]
  have hparams : (head ++ relation.sourceFragment ++ tail).params =
      (ofRelation relation).params := by
    rw [Fragment.params_append, Fragment.params_append, hhead, htail, List.nil_append,
      List.append_nil, Relation.params_sourceFragment]
    rfl
  exact congrArg₂ Statement.mk hsql hparams

end RowSource

/-! ## The statements of a relation -/

namespace Relation

theorem render_selectFragment (relation : Relation) (columns : List ColumnRef)
    (dialect : Dialect) :
    (relation.selectFragment columns).render dialect =
      (RowSource.ofRelation relation).query dialect ("SELECT " ++ columnsText columns)
        (groupText relation.groupBy ++ orderText relation.orderBy ++
          dialect.limitClause relation.limit relation.offset) := by
  let head : Fragment := .text "SELECT " ++ columnList columns
  let tail : Fragment := groupFragment relation.groupBy ++ orderFragment relation.orderBy ++
    .limit relation.limit relation.offset
  have hfragment : relation.selectFragment columns =
      head ++ relation.sourceFragment ++ tail := by
    simp only [selectFragment, head, tail, Fragment.append_assoc]
  have hhead : head.params = [] := by simp [head]
  have htail : tail.params = [] := by simp [tail]
  rw [hfragment, RowSource.render_eq_query hhead htail]
  simp only [head, tail, Fragment.textFrom_append, Fragment.textFrom_text,
    textFrom_columnList, textFrom_groupFragment, textFrom_orderFragment,
    Fragment.textFrom_limit]

theorem render_countByFragment (relation : Relation) (keys : List ColumnRef)
    (dialect : Dialect) :
    (relation.countByFragment keys).render dialect =
      (RowSource.ofRelation relation).query dialect
        ("SELECT " ++ columnsText keys ++ ", COUNT(*)")
        (groupText (relation.groupBy ++ keys)) := by
  have hhead : (.text "SELECT " ++ columnList keys ++ .text ", COUNT(*)" :
      Fragment).params = [] := by simp
  rw [countByFragment, RowSource.render_eq_query hhead (params_groupFragment _)]
  simp only [Fragment.textFrom_append, Fragment.textFrom_text, textFrom_columnList,
    textFrom_groupFragment]

/-- What an aggregate is taken of: a column, or whole rows. -/
def argumentText : Option ColumnRef → String
  | some column => column.text
  | none => "*"

def aggregateText (function : Aggregate) (argument : Option ColumnRef) : String :=
  function.word ++ "(" ++ argumentText argument ++ ")"

/-- Without grouping columns an aggregate is a query of the source, and nothing comes
after that. -/
theorem exists_aggregateFragment {relation : Relation} (h : relation.groupBy = [])
    (function : Aggregate) (argument : Option ColumnRef) :
    ∃ fragment, relation.aggregateFragment function argument = .ok fragment ∧
      ∀ dialect, fragment.render dialect =
        (RowSource.ofRelation relation).query dialect
          ("SELECT " ++ aggregateText function argument) "" := by
  let body : Fragment := match argument with
    | some column => .column column
    | none => .text "*"
  have hbody : ∀ dialect index, body.textFrom dialect index = argumentText argument := by
    intro dialect index
    cases argument with
    | none => rfl
    | some column => exact Fragment.textFrom_column dialect index column
  have hparams : body.params = [] := by
    cases argument <;> rfl
  let head : Fragment := .text "SELECT " ++ .text function.word ++ body.parens
  have hhead : head.params = [] := by simp [head, hparams]
  refine ⟨head ++ relation.sourceFragment, ?_, ?_⟩
  · unfold aggregateFragment
    rw [h]
    cases argument <;> rfl
  · intro dialect
    have hempty : head ++ relation.sourceFragment =
        head ++ relation.sourceFragment ++ .empty :=
      congrArg Fragment.mk (List.append_nil _).symm
    rw [hempty, RowSource.render_eq_query hhead Fragment.params_empty]
    simp only [head, Fragment.textFrom_append, Fragment.textFrom_text,
      Fragment.textFrom_parens, hbody, aggregateText, String.append_assoc]
    rfl

theorem aggregateFragment_of_groupBy {relation : Relation} (h : relation.groupBy ≠ [])
    (function : Aggregate) (argument : Option ColumnRef) :
    relation.aggregateFragment function argument = .error (aggregateOfGroups function) := by
  have hgroup : relation.groupBy.isEmpty = false := by
    simpa using h
  unfold aggregateFragment
  rw [hgroup]
  rfl

theorem run_eq_of_plan_query
    {σ : Type} [Adaptor σ] {relation : Relation} {terminal : Terminal} {fragment : Fragment}
    (hphase : relation.phase ≠ .finalized) (hfault : relation.fault = none)
    (hplan : terminal.plan { relation with phase := .finalized } = .ok (.query fragment))
    (state : σ) :
    relation.run terminal state =
      let outcome := Adaptor.query (fragment.render (Adaptor.dialect state)) state
      (outcome.1 >>= fun rows =>
          terminal.readAnswer { relation with phase := .finalized } rows,
        { relation with phase := .finalized }, outcome.2) := by
  dsimp only
  cases hquery : Adaptor.query (fragment.render (Adaptor.dialect state)) state with
  | mk result after =>
      cases result with
      | error error => exact run_eq_of_query_error hphase hfault hplan hquery
      | ok rows => exact run_eq_of_query_ok hphase hfault hplan hquery

end Relation

namespace Terminal

/-- The function that an operation puts the rows into one number by, and the column that
it is of. -/
def aggregate? : Terminal → Option (Aggregate × Option ColumnRef)
  | sum column => some (.sum, some column.ref)
  | avg column => some (.avg, some column.ref)
  | min column => some (.min, some column.ref)
  | max column => some (.max, some column.ref)
  | count => some (.count, none)
  | countOf column => some (.count, some column.ref)
  | _ => none

theorem plan_of_aggregate? {terminal : Terminal} {function : Aggregate}
    {argument : Option ColumnRef} (h : terminal.aggregate? = some (function, argument))
    (relation : Relation) :
    terminal.plan relation =
      .query <$> relation.aggregateFragment function argument := by
  cases terminal with
  | sum column | avg column | min column | max column | count | countOf column =>
      cases h
      rfl
  | _ => cases h

end Terminal

/-! ## Histories -/

namespace Clause

/-- The columns that clauses group by, in the order of the clauses. -/
def groupings (clauses : List Clause) : List ColumnRef :=
  (clauses.filterMap grouping?).flatten

/-- Some columns are grouped by. -/
def Group (clauses : List Clause) : Prop :=
  ∃ columns, .groupBy columns ∈ clauses ∧ columns ≠ []

theorem group_iff {clauses : List Clause} : Group clauses ↔ groupings clauses ≠ [] := by
  rw [groupings, ne_eq, flatten_grouping?_eq_nil_iff]
  simp only [Group, not_forall, exists_prop]

end Clause

namespace Situation

variable {σ : Type} [Adaptor σ]

/-- An operation sends one query, and what it answers is read from the answer to it. -/
structure Queries (situation : Situation σ) (terminal : Terminal) (statement : Statement) :
    Prop where
  run : situation.relation.run terminal situation.handed =
    ((Adaptor.query statement situation.handed).1 >>= fun rows =>
        terminal.readAnswer { situation.relation with phase := .finalized } rows,
      { situation.relation with phase := .finalized },
      (Adaptor.query statement situation.handed).2)
  sent : (situation.relation.run terminal situation.handed).2.2.statements =
    situation.handed.statements ++ [statement]

theorem queries_of_plan {situation : Situation σ} {terminal : Terminal} {fragment : Fragment}
    {statement : Statement} (hphase : situation.relation.phase ≠ .finalized)
    (hfault : situation.relation.fault = none)
    (hplan : terminal.plan { situation.relation with phase := .finalized } =
      .ok (.query fragment))
    (hrender : fragment.render (Adaptor.dialect situation.handed) = statement) :
    situation.Queries terminal statement := by
  subst hrender
  have hrun := Relation.run_eq_of_plan_query hphase hfault hplan situation.handed
  refine ⟨hrun, ?_⟩
  rw [hrun]
  rfl

/-- Whatever is done to a relation, as long as it is open and without errors, all queries
of it draw on one source, which only its table, joins and conditions make up.  Executing
it sends the selected columns of the source, grouped, ordered and bounded.  An aggregate
sends its function and the source, and nothing of what was selected, ordered or bounded;
where columns are grouped by it fails, and nothing is sent.  Counting by keys sends the
keys, a number and the source, grouped by the columns that were grouped by and then by
the keys.  The text of the source and its parameters are the same in all of them. -/
theorem after_queries_one_source
    (model : Model) (connection : σ) (moves : List (Move σ))
    (hphase : (after model connection moves).relation.phase ≠ .finalized)
    (hfault : (after model connection moves).relation.fault = none) :
    let situation := after model connection moves
    let clauses := moves.filterMap Move.clause?
    let source := RowSource.ofHistory model clauses
    let dialect := Adaptor.dialect situation.handed
    situation.Queries .exec
      (source.query dialect
        ("SELECT " ++ Relation.columnsText (Clause.lastShape model clauses).columnRefs)
        (Relation.groupText (Clause.groupings clauses) ++
          Relation.orderText (clauses.filterMap Clause.ordering?) ++
          dialect.limitClause (clauses.filterMap Clause.limit?).getLast?
            (clauses.filterMap Clause.offset?).getLast?)) ∧
    (∀ terminal function argument,
      terminal.aggregate? = some (function, argument) →
        (¬ Clause.Group clauses →
          situation.Queries terminal
            (source.query dialect ("SELECT " ++ Relation.aggregateText function argument)
              "")) ∧
        (Clause.Group clauses →
          situation.relation.run terminal situation.handed =
            (.error ⟨.usage, function.word ++
                " on a grouped relation; use count_by for per-group counts"⟩,
              { situation.relation with phase := .finalized }, situation.handed))) ∧
    ∀ keys : RowShape,
      situation.Queries (.countBy keys)
        (source.query dialect
          ("SELECT " ++ Relation.columnsText keys.columnRefs ++ ", COUNT(*)")
          (Relation.groupText (Clause.groupings clauses ++ keys.columnRefs))) := by
  intro situation clauses source dialect
  have hrelation : situation.relation = .ofHistory model clauses :=
    relation_after_of_open hphase
  have hsource : RowSource.ofRelation { situation.relation with phase := .finalized } =
      source := by
    rw [hrelation]
    rfl
  have hgroupBy : situation.relation.groupBy = Clause.groupings clauses := by
    rw [hrelation]
    rfl
  refine ⟨?_, ?_, ?_⟩
  · refine queries_of_plan hphase hfault rfl ?_
    rw [Relation.render_selectFragment, hsource, hrelation]
    rfl
  · intro terminal function argument hterminal
    have hplan := Terminal.plan_of_aggregate? hterminal
      { situation.relation with phase := .finalized }
    constructor
    · intro hgroup
      have hnil : Relation.groupBy { situation.relation with phase := .finalized } = [] := by
        by_contra hne
        exact hgroup (Clause.group_iff.mpr (hgroupBy ▸ hne))
      obtain ⟨fragment, hfragment, hrender⟩ :=
        Relation.exists_aggregateFragment hnil function argument
      rw [hfragment] at hplan
      refine queries_of_plan hphase hfault hplan ?_
      rw [hrender, hsource]
    · intro hgroup
      have hne : Relation.groupBy { situation.relation with phase := .finalized } ≠ [] :=
        hgroupBy ▸ Clause.group_iff.mp hgroup
      rw [Relation.aggregateFragment_of_groupBy hne] at hplan
      rw [Relation.run_eq_of_finalize_ok (Relation.finalize_of_open hphase hfault),
        Relation.answer_eq, hplan]
      rfl
  · intro keys
    refine queries_of_plan hphase hfault rfl ?_
    rw [Relation.render_countByFragment, hsource]
    exact congrArg (fun columns => source.query dialect _ (Relation.groupText columns))
      (congrArg (· ++ keys.columnRefs) hgroupBy)

/-- Grown people and the posts of theirs with a title of some form, in some order and
not all of them. -/
def titled : List (Move Scripted) :=
  [.add (.filter Relation.adult), .add (.orderBy ⟨"users", "name"⟩ .desc),
    .add (.join .left "posts" (.ofPredicate
      (.both (.compareColumn ⟨"posts", "user_id"⟩ .eq ⟨"users", "id"⟩)
        (.like ⟨"posts", "title"⟩ "A%" false)))),
    .add (.limit 3)]

/-- The same by age. -/
def titledByAge : List (Move Scripted) :=
  titled ++ [.add (.groupBy [⟨"users", "age"⟩])]

theorem after_queries_one_source_user :
    (after Sample.user quiet titled).relation.phase ≠ .finalized ∧
    (after Sample.user quiet titled).relation.fault = none ∧
    ((after Sample.user quiet titled).relation.run .count
        (after Sample.user quiet titled).handed).2.2.statements =
      [⟨"SELECT COUNT(*) FROM \"users\" LEFT JOIN \"posts\" ON " ++
          "(\"posts\".\"user_id\" = \"users\".\"id\") AND (\"posts\".\"title\" LIKE ?1) " ++
          "WHERE \"users\".\"age\" >= ?2",
        [.text "A%", .integer 18]⟩] ∧
    ((after Sample.user quiet titledByAge).relation.run
        (.countBy (.column ⟨"posts", "title", .text⟩))
        (after Sample.user quiet titledByAge).handed).2.2.statements =
      [⟨"SELECT \"posts\".\"title\", COUNT(*) FROM \"users\" LEFT JOIN \"posts\" ON " ++
          "(\"posts\".\"user_id\" = \"users\".\"id\") AND (\"posts\".\"title\" LIKE ?1) " ++
          "WHERE \"users\".\"age\" >= ?2 GROUP BY \"users\".\"age\", \"posts\".\"title\"",
        [.text "A%", .integer 18]⟩] ∧
    ((after Sample.user quiet titledByAge).relation.run (.sum score)
        (after Sample.user quiet titledByAge).handed).1 =
      .error ⟨.usage, "SUM on a grouped relation; use count_by for per-group counts"⟩ := by
  have hphase : (after Sample.user quiet titled).relation.phase ≠ .finalized := by decide
  have hgrouped : (after Sample.user quiet titledByAge).relation.phase ≠ .finalized := by
    decide
  have hungrouped : ¬ Clause.Group (titled.filterMap Move.clause?) := by
    rw [Clause.group_iff, not_not]
    rfl
  have hgroup : Clause.Group (titledByAge.filterMap Move.clause?) := by
    rw [Clause.group_iff]
    exact List.cons_ne_nil _ _
  obtain ⟨-, hcount, -⟩ := after_queries_one_source Sample.user quiet titled hphase rfl
  obtain ⟨-, hsum, hcountBy⟩ :=
    after_queries_one_source Sample.user quiet titledByAge hgrouped rfl
  refine ⟨hphase, rfl, ?_, ?_, ?_⟩
  · exact ((hcount .count .count none rfl).1 hungrouped).sent.trans (by decide +kernel)
  · exact (hcountBy _).sent.trans (by decide +kernel)
  · exact congrArg Prod.fst ((hsum (.sum score) .sum (some score.ref) rfl).2 hgroup)

end Situation

end TypedQuery
