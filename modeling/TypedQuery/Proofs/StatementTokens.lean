import TypedQuery.Proofs.Contents
import TypedQuery.Proofs.Unambiguous
import TypedQuery.Store

/-!
# The tokens of generated statements

Every statement that is sent for a relation or for records of a model is
legible, so that its text is read as the names and the values that went into
it.  What these are is said for each sort of statement from the clauses of the
relation alone, without regard to fragments.
-/

namespace TypedQuery

namespace Predicate

/-- The names of tables and columns, from left to right.  What would have been
in the empty set is not mentioned. -/
def names : Predicate → List String
  | compare column _ _ => column.names
  | compareColumn column _ other => column.names ++ other.names
  | between column _ _ => column.names
  | inSet _ [] _ => []
  | inSet column _ _ => column.names
  | like column _ _ => column.names
  | isNull column _ => column.names
  | both left right => left.names ++ right.names
  | either left right => left.names ++ right.names

/-- The operands, from left to right. -/
def operands : Predicate → List Value
  | compare _ _ value => [value]
  | compareColumn _ _ _ => []
  | between _ low high => [low, high]
  | inSet _ values _ => values
  | like _ pattern _ => [.text pattern]
  | isNull _ _ => []
  | both left right => left.operands ++ right.operands
  | either left right => left.operands ++ right.operands

@[simp]
theorem names_fragment (predicate : Predicate) :
    predicate.fragment.names = predicate.names := by
  induction predicate with
  | compare column op value => simp [fragment, names]
  | compareColumn column op other => simp [fragment, names]
  | between column low high => simp [fragment, names]
  | inSet column values negated =>
      cases values with
      | nil => rfl
      | cons value values => simp [fragment, names]
  | like column pattern negated => simp [fragment, names]
  | isNull column negated => simp [fragment, names]
  | both left right ihleft ihright => simp [fragment, names, ihleft, ihright]
  | either left right ihleft ihright => simp [fragment, names, ihleft, ihright]

@[simp]
theorem params_fragment (predicate : Predicate) :
    predicate.fragment.params = predicate.operands := by
  induction predicate with
  | compare column op value => simp [fragment, operands]
  | compareColumn column op other => simp [fragment, operands]
  | between column low high => simp [fragment, operands]
  | inSet column values negated =>
      cases values with
      | nil => rfl
      | cons value values => simp [fragment, operands]
  | like column pattern negated => simp [fragment, operands]
  | isNull column negated => simp [fragment, operands]
  | both left right ihleft ihright => simp [fragment, operands, ihleft, ihright]
  | either left right ihleft ihright => simp [fragment, operands, ihleft, ihright]

end Predicate

namespace Join

/-- The joined table, then the names of the predicate. -/
def names (join : Join) : List String :=
  join.table :: join.on.names

@[simp]
theorem names_fragment (join : Join) : join.fragment.names = join.names := by
  simp [fragment, names]

@[simp]
theorem params_fragment (join : Join) :
    join.fragment.params = join.on.operands := by
  simp [fragment]

theorem legible_fragment (join : Join) : join.fragment.Legible := by
  have htable : (.text join.kind.words ++ .ident join.table : Fragment).Legible := by
    refine (Fragment.legible_ident join.table).text_append ?_ ?_
    · cases join.kind <;> decide
    · cases join.kind <;> decide
  have hon := htable.append_text " ON " (by decide) (by decide)
  exact hon.append join.on.legible_fragment
    (Or.inl (Fragment.isClosed_append_text _ (by decide)))

theorem isLeading_fragment (join : Join) : join.fragment.IsLeading := by
  have hwords : (Chunk.text join.kind.words).isLeading = true := by
    cases join.kind <;> decide
  have htable := Fragment.isLeading_text_append (.ident join.table) hwords
  have hon : (.text join.kind.words ++ .ident join.table ++ .text " ON " :
      Fragment).IsLeading :=
    htable.append (by simp [Fragment.text])
  exact hon.append (by simp [Fragment.text])

end Join

namespace Assignment

@[simp]
theorem names_fragment (assignment : Assignment) :
    assignment.fragment.names = [assignment.column] := by
  simp [fragment]

@[simp]
theorem params_fragment (assignment : Assignment) :
    assignment.fragment.params = [assignment.value] := by
  simp [fragment]

theorem legible_fragment (assignment : Assignment) :
    assignment.fragment.Legible := by
  have hcolumn := (Fragment.legible_ident assignment.column).append_text
    " = " (by decide) (by decide)
  exact hcolumn.append_param assignment.value

end Assignment

namespace Relation

/-! ## The clauses of a relation -/

theorem legible_whereFragment (condition : Option Predicate) :
    (whereFragment condition).Legible := by
  cases condition with
  | none => exact Fragment.legible_empty
  | some predicate =>
      exact predicate.legible_fragment.text_append (by decide) (by decide)

theorem isLeading_whereFragment (condition : Option Predicate) :
    (whereFragment condition).IsLeading := by
  cases condition with
  | none => exact Fragment.isLeading_empty
  | some predicate => exact Fragment.isLeading_text_append _ (by decide)

@[simp]
theorem names_whereFragment (condition : Option Predicate) :
    (whereFragment condition).names = condition.elim [] Predicate.names := by
  cases condition <;> simp [whereFragment]

@[simp]
theorem params_whereFragment (condition : Option Predicate) :
    (whereFragment condition).params = condition.elim [] Predicate.operands := by
  cases condition <;> simp [whereFragment]

theorem legible_columnList (columns : List ColumnRef) :
    (columnList columns).Legible := by
  apply Fragment.legible_join (by decide) (by decide) (by decide)
  intro fragment hfragment
  obtain ⟨column, -, rfl⟩ := List.mem_map.mp hfragment
  exact Fragment.legible_column column

@[simp]
theorem names_columnList (columns : List ColumnRef) :
    (columnList columns).names = columns.flatMap ColumnRef.names := by
  simp [columnList, List.flatMap_map]

@[simp]
theorem params_columnList (columns : List ColumnRef) :
    (columnList columns).params = [] := by
  simp [columnList]

theorem legible_groupFragment (columns : List ColumnRef) :
    (groupFragment columns).Legible := by
  rw [groupFragment]
  split
  · exact Fragment.legible_empty
  · exact (legible_columnList columns).text_append (by decide) (by decide)

theorem isLeading_groupFragment (columns : List ColumnRef) :
    (groupFragment columns).IsLeading := by
  rw [groupFragment]
  split
  · exact Fragment.isLeading_empty
  · exact Fragment.isLeading_text_append _ (by decide)

@[simp]
theorem names_groupFragment (columns : List ColumnRef) :
    (groupFragment columns).names = columns.flatMap ColumnRef.names := by
  cases columns <;> simp [groupFragment]

@[simp]
theorem params_groupFragment (columns : List ColumnRef) :
    (groupFragment columns).params = [] := by
  cases columns <;> simp [groupFragment]

theorem legible_orderTerm (term : ColumnRef × Order) : (orderTerm term).Legible := by
  obtain ⟨column, order⟩ := term
  have hcolumn := (Fragment.legible_column column).append_text
    " " (by decide) (by decide)
  refine hcolumn.append (Fragment.legible_text ?_)
    (Or.inl (Fragment.isClosed_append_text _ (by decide)))
  cases order <;> decide

theorem legible_orderFragment (terms : List (ColumnRef × Order)) :
    (orderFragment terms).Legible := by
  rw [orderFragment]
  split
  · exact Fragment.legible_empty
  · refine Fragment.Legible.text_append ?_ (by decide) (by decide)
    apply Fragment.legible_join (by decide) (by decide) (by decide)
    intro fragment hfragment
    obtain ⟨term, -, rfl⟩ := List.mem_map.mp hfragment
    exact legible_orderTerm term

theorem isLeading_orderFragment (terms : List (ColumnRef × Order)) :
    (orderFragment terms).IsLeading := by
  rw [orderFragment]
  split
  · exact Fragment.isLeading_empty
  · exact Fragment.isLeading_text_append _ (by decide)

@[simp]
theorem names_orderTerm (term : ColumnRef × Order) :
    (orderTerm term).names = term.1.names := by
  simp [orderTerm]

@[simp]
theorem params_orderTerm (term : ColumnRef × Order) :
    (orderTerm term).params = [] := by
  simp [orderTerm]

@[simp]
theorem names_orderFragment (terms : List (ColumnRef × Order)) :
    (orderFragment terms).names = terms.flatMap fun term => term.1.names := by
  cases terms <;> simp [orderFragment, List.flatMap_map]

@[simp]
theorem params_orderFragment (terms : List (ColumnRef × Order)) :
    (orderFragment terms).params = [] := by
  cases terms <;> simp [orderFragment, List.flatMap_map]

/-! ## The statements of a relation -/

/-- Where fragments are read piece by piece, so are the joins. -/
theorem foldl_joins
    {α : Type} {f : Fragment → List α}
    (hf : ∀ first second, f (first ++ second) = f first ++ f second)
    (sql : Fragment) (joins : List Join) :
    f (joins.foldl (fun sql join => sql ++ join.fragment) sql) =
      f sql ++ joins.flatMap fun join => f join.fragment := by
  induction joins generalizing sql with
  | nil => simp
  | cons join joins ih =>
      rw [List.foldl_cons, ih, hf, List.flatMap_cons, List.append_assoc]

theorem legible_joins {sql : Fragment} (h : sql.Legible) (joins : List Join) :
    (joins.foldl (fun sql join => sql ++ join.fragment) sql).Legible := by
  induction joins generalizing sql with
  | nil => exact h
  | cons join joins ih =>
      exact ih (h.append join.legible_fragment (Or.inr join.isLeading_fragment))

/-- Joins are put after the words that open the source. -/
theorem isLeading_joins
    {sql : Fragment} (h : sql.IsLeading) (hne : sql.chunks ≠ [])
    (joins : List Join) :
    (joins.foldl (fun sql join => sql ++ join.fragment) sql).IsLeading ∧
      (joins.foldl (fun sql join => sql ++ join.fragment) sql).chunks ≠ [] := by
  induction joins generalizing sql with
  | nil => exact ⟨h, hne⟩
  | cons join joins ih => exact ih (h.append hne) (by simp [hne])

def sourceNames (relation : Relation) : List String :=
  relation.model.table :: relation.joins.flatMap Join.names ++
    relation.condition.elim [] Predicate.names

/-- The operands of the joins, then those of the condition. -/
def sourceOperands (relation : Relation) : List Value :=
  relation.joins.flatMap (fun join => join.on.operands) ++
    relation.condition.elim [] Predicate.operands

@[simp]
theorem names_sourceFragment (relation : Relation) :
    relation.sourceFragment.names = relation.sourceNames := by
  simp [sourceFragment, sourceNames, foldl_joins Fragment.names_append]

@[simp]
theorem params_sourceFragment (relation : Relation) :
    relation.sourceFragment.params = relation.sourceOperands := by
  simp [sourceFragment, sourceOperands, foldl_joins Fragment.params_append]

theorem legible_sourceFragment (relation : Relation) :
    relation.sourceFragment.Legible := by
  have htable : (.text " FROM " ++ .ident relation.model.table :
      Fragment).Legible :=
    (Fragment.legible_ident relation.model.table).text_append
      (by decide) (by decide)
  exact (legible_joins htable relation.joins).append
    (legible_whereFragment relation.condition)
    (Or.inr (isLeading_whereFragment relation.condition))

theorem isLeading_sourceFragment (relation : Relation) :
    relation.sourceFragment.IsLeading := by
  have htable : (.text " FROM " ++ .ident relation.model.table :
      Fragment).IsLeading :=
    Fragment.isLeading_text_append _ (by decide)
  obtain ⟨hjoins, hne⟩ := isLeading_joins htable (by simp [Fragment.text])
    relation.joins
  exact hjoins.append hne

/-- The names of the columns of a query, of its source and of its clauses. -/
def selectNames (relation : Relation) (columns : List ColumnRef) : List String :=
  columns.flatMap ColumnRef.names ++ relation.sourceNames ++
    relation.groupBy.flatMap ColumnRef.names ++
    relation.orderBy.flatMap fun term => term.1.names

@[simp]
theorem names_selectFragment (relation : Relation) (columns : List ColumnRef) :
    (relation.selectFragment columns).names = relation.selectNames columns := by
  simp [selectFragment, selectNames]

@[simp]
theorem params_selectFragment (relation : Relation) (columns : List ColumnRef) :
    (relation.selectFragment columns).params = relation.sourceOperands := by
  simp [selectFragment]

theorem legible_selectFragment (relation : Relation) (columns : List ColumnRef) :
    (relation.selectFragment columns).Legible := by
  have hcolumns : (.text "SELECT " ++ columnList columns : Fragment).Legible :=
    (legible_columnList columns).text_append (by decide) (by decide)
  have hsource := hcolumns.append relation.legible_sourceFragment
    (Or.inr relation.isLeading_sourceFragment)
  have hgroup := hsource.append (legible_groupFragment relation.groupBy)
    (Or.inr (isLeading_groupFragment relation.groupBy))
  have horder := hgroup.append (legible_orderFragment relation.orderBy)
    (Or.inr (isLeading_orderFragment relation.orderBy))
  exact horder.append (Fragment.legible_limit relation.limit relation.offset)
    (Or.inr (Fragment.isLeading_limit relation.limit relation.offset))

theorem legible_countByFragment (relation : Relation) (keys : List ColumnRef) :
    (relation.countByFragment keys).Legible := by
  have hkeys : (.text "SELECT " ++ columnList keys : Fragment).Legible :=
    (legible_columnList keys).text_append (by decide) (by decide)
  have hcount := hkeys.append_text ", COUNT(*)" (by decide) (by decide)
  have hsource := hcount.append relation.legible_sourceFragment
    (Or.inr relation.isLeading_sourceFragment)
  exact hsource.append (legible_groupFragment (relation.groupBy ++ keys))
    (Or.inr (isLeading_groupFragment (relation.groupBy ++ keys)))

/-- An aggregate that is computed is a query for it over the source. -/
theorem aggregateFragment_eq_ok
    {relation : Relation} {aggregate : Aggregate} {column : Option ColumnRef}
    {fragment : Fragment}
    (h : relation.aggregateFragment aggregate column = .ok fragment) :
    fragment.Legible ∧
      fragment.names = column.elim [] ColumnRef.names ++ relation.sourceNames ∧
      fragment.params = relation.sourceOperands := by
  unfold aggregateFragment at h
  split at h
  · obtain rfl := Except.ok.inj h
    refine ⟨?_, ?_, ?_⟩
    · have hword : (.text "SELECT " ++ .text aggregate.word : Fragment).Legible := by
        refine Fragment.Legible.text_append (Fragment.legible_text ?_)
          (by decide) (by decide)
        cases aggregate <;> decide
      refine (hword.append (Fragment.Legible.parens ?_)
        (Or.inr (Fragment.isLeading_parens _))).append
          relation.legible_sourceFragment (Or.inr relation.isLeading_sourceFragment)
      cases column with
      | none => exact Fragment.legible_text (by decide)
      | some column => exact Fragment.legible_column column
    · cases column <;> simp
    · cases column <;> simp
  · cases h

theorem names_assignments (assignments : List Assignment) :
    (assignments.map Assignment.fragment).flatMap Fragment.names =
      assignments.map Assignment.column := by
  simp only [List.flatMap_map, Assignment.names_fragment]
  exact List.map_eq_flatMap.symm

theorem params_assignments (assignments : List Assignment) :
    (assignments.map Assignment.fragment).flatMap Fragment.params =
      assignments.map Assignment.value := by
  simp only [List.flatMap_map, Assignment.params_fragment]
  exact List.map_eq_flatMap.symm

/-- An update that is not refused assigns to the table where the condition
holds. -/
theorem updateFragment_eq_ok
    {relation : Relation} {assignments : List Assignment} {fragment : Fragment}
    (h : relation.updateFragment assignments = .ok fragment) :
    fragment.Legible ∧
      fragment.names = relation.model.table :: assignments.map Assignment.column ++
        relation.condition.elim [] Predicate.names ∧
      fragment.params = assignments.map Assignment.value ++
        relation.condition.elim [] Predicate.operands := by
  rw [updateFragment] at h
  split at h
  · cases h
  split at h
  · cases h
  split at h
  · cases h
  obtain rfl := Except.ok.inj h
  refine ⟨?_, ?_, ?_⟩
  · have htable : (.text "UPDATE " ++ .ident relation.model.table :
        Fragment).Legible :=
      (Fragment.legible_ident _).text_append (by decide) (by decide)
    have hset := htable.append_text " SET " (by decide) (by decide)
    refine (hset.append (Fragment.legible_join (by decide) (by decide) (by decide) ?_)
      (Or.inl (Fragment.isClosed_append_text _ (by decide)))).append
        (legible_whereFragment relation.condition)
        (Or.inr (isLeading_whereFragment relation.condition))
    intro fragment hfragment
    obtain ⟨assignment, -, rfl⟩ := List.mem_map.mp hfragment
    exact assignment.legible_fragment
  · simp [names_assignments]
  · simp [params_assignments]

end Relation

namespace Request

/-- What is sent, whatever is expected for an answer. -/
def fragment : Request → Fragment
  | query fragment => fragment
  | execute fragment => fragment

end Request

namespace Terminal

/-- The names in the statement of an operation, in order. -/
def names (relation : Relation) : Terminal → List String
  | exec => relation.selectNames relation.shape.columnRefs
  | pluck shape => relation.selectNames shape.columnRefs
  | sum column => column.ref.names ++ relation.sourceNames
  | avg column => column.ref.names ++ relation.sourceNames
  | min column => column.ref.names ++ relation.sourceNames
  | max column => column.ref.names ++ relation.sourceNames
  | count => relation.sourceNames
  | countOf column => column.ref.names ++ relation.sourceNames
  | countBy keys =>
    keys.columnRefs.flatMap ColumnRef.names ++ relation.sourceNames ++
      (relation.groupBy ++ keys.columnRefs).flatMap ColumnRef.names
  | update assignments | updateAll assignments =>
    relation.model.table :: assignments.map Assignment.column ++
      relation.condition.elim [] Predicate.names

/-- The values in the statement of an operation, in order. -/
def operands (relation : Relation) : Terminal → List Value
  | update assignments | updateAll assignments =>
    assignments.map Assignment.value ++
      relation.condition.elim [] Predicate.operands
  | _ => relation.sourceOperands

theorem fragment_of_map
    {make : Fragment → Request} (hmake : ∀ fragment, (make fragment).fragment = fragment)
    {result : Result Fragment} {request : Request}
    (h : make <$> result = .ok request) :
    result = .ok request.fragment := by
  cases result with
  | error error => cases h
  | ok fragment =>
      obtain rfl := Except.ok.inj h
      rw [hmake]

/-- What an operation sends is legible, and its names and values are those of
the relation and the operation. -/
theorem plan_eq_ok
    {relation : Relation} {terminal : Terminal} {request : Request}
    (h : terminal.plan relation = .ok request) :
    request.fragment.Legible ∧
      request.fragment.names = terminal.names relation ∧
      request.fragment.params = terminal.operands relation := by
  cases terminal with
  | exec =>
      obtain rfl := Except.ok.inj h
      exact ⟨relation.legible_selectFragment _, by simp [Request.fragment, names],
        by simp [Request.fragment, operands]⟩
  | pluck shape =>
      obtain rfl := Except.ok.inj h
      exact ⟨relation.legible_selectFragment _, by simp [Request.fragment, names],
        by simp [Request.fragment, operands]⟩
  | sum column =>
      exact Relation.aggregateFragment_eq_ok (fragment_of_map (fun _ => rfl) h)
  | avg column =>
      exact Relation.aggregateFragment_eq_ok (fragment_of_map (fun _ => rfl) h)
  | min column =>
      exact Relation.aggregateFragment_eq_ok (fragment_of_map (fun _ => rfl) h)
  | max column =>
      exact Relation.aggregateFragment_eq_ok (fragment_of_map (fun _ => rfl) h)
  | count =>
      exact Relation.aggregateFragment_eq_ok (fragment_of_map (fun _ => rfl) h)
  | countOf column =>
      exact Relation.aggregateFragment_eq_ok (fragment_of_map (fun _ => rfl) h)
  | countBy keys =>
      obtain rfl := Except.ok.inj h
      refine ⟨relation.legible_countByFragment _, ?_, ?_⟩
      · simp [Request.fragment, names, Relation.countByFragment]
      · simp [Request.fragment, operands, Relation.countByFragment]
  | update assignments =>
      rw [plan] at h
      split at h
      · cases h
      · exact Relation.updateFragment_eq_ok (fragment_of_map (fun _ => rfl) h)
  | updateAll assignments =>
      exact Relation.updateFragment_eq_ok (fragment_of_map (fun _ => rfl) h)

end Terminal

namespace Model

/-! ## The statements for records -/

theorem legible_tuple (values : List Value) : (tuple values).Legible :=
  (Predicate.legible_params values).parens

theorem legible_insertFragment
    (model : Model) (present : List Bool) (rows : List (List Value)) :
    (model.insertFragment present rows).Legible := by
  have htable : (.text "INSERT INTO " ++ .ident model.table : Fragment).Legible :=
    (Fragment.legible_ident model.table).text_append (by decide) (by decide)
  have hcolumns : (Fragment.join ", "
      ((pick present (model.fields.map Field.name)).map .ident)).Legible := by
    apply Fragment.legible_join (by decide) (by decide) (by decide)
    intro fragment hfragment
    obtain ⟨name, -, rfl⟩ := List.mem_map.mp hfragment
    exact Fragment.legible_ident name
  have hrows : (Fragment.join ", "
      (rows.map fun row => tuple (pick present row))).Legible := by
    apply Fragment.legible_join (by decide) (by decide) (by decide)
    intro fragment hfragment
    obtain ⟨row, -, rfl⟩ := List.mem_map.mp hfragment
    exact legible_tuple (pick present row)
  have hblank := htable.append_text " " (by decide) (by decide)
  have hnames := hblank.append hcolumns.parens
    (Or.inr (Fragment.isLeading_parens _))
  have hvalues := hnames.append_text " VALUES " (by decide) (by decide)
  exact hvalues.append hrows
    (Or.inl (Fragment.isClosed_append_text _ (by decide)))

theorem names_insertFragment
    (model : Model) (present : List Bool) (rows : List (List Value)) :
    (model.insertFragment present rows).names =
      model.table :: pick present (model.fields.map Field.name) := by
  simp [insertFragment, tuple, List.flatMap_map]

theorem params_insertFragment
    (model : Model) (present : List Bool) (rows : List (List Value)) :
    (model.insertFragment present rows).params = rows.flatMap (pick present) := by
  simp [insertFragment, tuple, List.flatMap_map]

theorem legible_insertDefaultsFragment (model : Model) :
    model.insertDefaultsFragment.Legible := by
  have htable : (.text "INSERT INTO " ++ .ident model.table : Fragment).Legible :=
    (Fragment.legible_ident model.table).text_append (by decide) (by decide)
  exact htable.append_text _ (by decide) (by decide)

theorem legible_deleteAllFragment (model : Model) :
    model.deleteAllFragment.Legible :=
  (Fragment.legible_ident model.table).text_append (by decide) (by decide)

theorem legible_deleteFragment (model : Model) (predicate : Predicate) :
    (model.deleteFragment predicate).Legible := by
  have hwhere := model.legible_deleteAllFragment.append_text " WHERE "
    (by decide) (by decide)
  exact hwhere.append predicate.legible_fragment
    (Or.inl (Fragment.isClosed_append_text _ (by decide)))

end Model

/-- The fragments that are sent, each with the names and the values that went
into it. -/
inductive Generated : Fragment → List String → List Value → Prop where
  /-- What an operation on a relation sends. -/
  | terminal (relation : Relation) (terminal : Terminal) (request : Request)
      (h : terminal.plan relation = .ok request) :
      Generated request.fragment (terminal.names relation) (terminal.operands relation)
  | insertion (model : Model) (present : List Bool) (rows : List (List Value)) :
      Generated (model.insertFragment present rows)
        (model.table :: Model.pick present (model.fields.map Field.name))
        (rows.flatMap (Model.pick present))
  | defaults (model : Model) :
      Generated model.insertDefaultsFragment [model.table] []
  | deletion (model : Model) (predicate : Predicate) :
      Generated (model.deleteFragment predicate)
        (model.table :: predicate.names) predicate.operands
  | deletionOfAll (model : Model) :
      Generated model.deleteAllFragment [model.table] []

namespace Generated

variable {fragment : Fragment} {names : List String} {values : List Value}

theorem legible (h : Generated fragment names values) : fragment.Legible := by
  cases h with
  | terminal relation terminal request h => exact (Terminal.plan_eq_ok h).1
  | insertion model present rows => exact model.legible_insertFragment present rows
  | defaults model => exact model.legible_insertDefaultsFragment
  | deletion model predicate => exact model.legible_deleteFragment predicate
  | deletionOfAll model => exact model.legible_deleteAllFragment

theorem names_eq (h : Generated fragment names values) : fragment.names = names := by
  cases h with
  | terminal relation terminal request h => exact (Terminal.plan_eq_ok h).2.1
  | insertion model present rows => exact model.names_insertFragment present rows
  | defaults model => rfl
  | deletion model predicate =>
      simp [Model.deleteFragment, Model.deleteAllFragment]
  | deletionOfAll model => rfl

theorem params_eq (h : Generated fragment names values) : fragment.params = values := by
  cases h with
  | terminal relation terminal request h => exact (Terminal.plan_eq_ok h).2.2
  | insertion model present rows => exact model.params_insertFragment present rows
  | defaults model => rfl
  | deletion model predicate =>
      simp [Model.deleteFragment, Model.deleteAllFragment]
  | deletionOfAll model => rfl

/-- What was meant can be read off the text of every generated statement,
whatever the names and the values hold.  Read with the quoting rule of SQL, the
text has the meant names as its identifiers, all of them closed, and placeholders
for the meant values that are numbered in their order.  The texts for the two dialects differ
only by the sign of a placeholder and by the idle limit before an offset. -/
theorem reads_back (h : Generated fragment names values) :
    fragment.names = names ∧
    (∀ dialect : Dialect,
      (Token.ofText (fragment.render dialect).sql).filterMap Token.name? = names ∧
      (Token.ofText (fragment.render dialect).sql).filterMap Token.unclosed? = [] ∧
      (Token.ofText (fragment.render dialect).sql).filterMap Token.placeholder? =
        (List.range' 1 (fragment.render dialect).params.length).map
          (fun number => (dialect.placeholderSign, number)) ∧
      (fragment.render dialect).params = values) ∧
    (fragment.render .sqlite).params = (fragment.render .postgresql).params ∧
    Token.withoutIdleLimit
        ((Token.ofText (fragment.render .sqlite).sql).map
          (Token.withSign Dialect.postgresql.placeholderSign)) =
      Token.ofText (fragment.render .postgresql).sql := by
  refine ⟨h.names_eq, ?_, rfl, h.legible.withoutIdleLimit_ofText⟩
  intro dialect
  have hnames := h.legible.names_ofText dialect
  rw [h.names_eq] at hnames
  exact ⟨hnames, h.legible.unclosed_ofText dialect,
    h.legible.placeholders_ofText dialect, h.params_eq⟩

/-- A query in which the names look like placeholders and quotes. -/
def awkward : Relation :=
  (Relation.all ⟨"Odd", "a\"? b", [⟨"$1", .text, {}⟩]⟩).addAll
    [.filter (.ofPredicate (.inSet ⟨"a\"? b", "$1"⟩ [.text "?", .null] false)),
      .offset 3]

theorem reads_back_awkward :
    Generated (awkward.selectFragment awkward.shape.columnRefs)
      ["a\"? b", "$1", "a\"? b", "a\"? b", "$1"] [.text "?", .null] ∧
    (Token.ofText ((awkward.selectFragment awkward.shape.columnRefs).render
      .sqlite).sql).filterMap Token.name? =
        ["a\"? b", "$1", "a\"? b", "a\"? b", "$1"] ∧
    (Token.ofText ((awkward.selectFragment awkward.shape.columnRefs).render
      .sqlite).sql).filterMap Token.placeholder? = [('?', 1), ('?', 2)] ∧
    (Token.ofText ((awkward.selectFragment awkward.shape.columnRefs).render
      .postgresql).sql).filterMap Token.placeholder? = [('$', 1), ('$', 2)] := by
  have h : Generated (awkward.selectFragment awkward.shape.columnRefs)
      ["a\"? b", "$1", "a\"? b", "a\"? b", "$1"] [.text "?", .null] :=
    .terminal awkward .exec _ rfl
  obtain ⟨-, hdialect, -⟩ := reads_back h
  exact ⟨h, (hdialect .sqlite).1, (hdialect .sqlite).2.2.1,
    (hdialect .postgresql).2.2.1⟩

end Generated

end TypedQuery
