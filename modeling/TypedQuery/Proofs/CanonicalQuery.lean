import TypedQuery.Proofs.RowSource

/-!
# The canonical query of a history

The query of a relation can be written down from the clauses that were added to it.  How
clauses of different sorts alternate does not show in it, and neither does whether
conditions came one by one or as one conjunction.
-/

namespace TypedQuery

namespace Clause

/-- The columns that are selected last; those of the model when none are. -/
def selection (model : Model) (clauses : List Clause) : List ColumnRef :=
  match (clauses.filterMap shape?).getLast? with
  | some shape => shape.columnRefs
  | none => model.columns.map Column.ref

theorem columnRefs_lastShape (model : Model) (clauses : List Clause) :
    (lastShape model clauses).columnRefs = selection model clauses := by
  rw [lastShape, selection]
  cases (clauses.filterMap shape?).getLast? with
  | none => rfl
  | some shape => rfl

/-- The query that clauses over a model amount to: the columns selected last, the tables
with all joins and conditions, all groupings and orders, and the last bounds. -/
def query (model : Model) (clauses : List Clause) (dialect : Dialect) : Statement :=
  (RowSource.ofHistory model clauses).query dialect
    ("SELECT " ++ Relation.columnsText (selection model clauses))
    (Relation.groupText (groupings clauses) ++
      Relation.orderText (clauses.filterMap ordering?) ++
      dialect.limitClause (clauses.filterMap limit?).getLast?
        (clauses.filterMap offset?).getLast?)

/-- The query does not depend on how clauses of different sorts alternate. -/
theorem Agree.query_eq {first second : List Clause} (h : Agree first second)
    (model : Model) (dialect : Dialect) :
    query model first dialect = query model second dialect := by
  have hshape : first.filterMap shape? = second.filterMap shape? :=
    h.filterMap_eq .select fun clause hsort => by cases clause <;> simp_all [sort]
  have hjoins : first.filterMap join? = second.filterMap join? :=
    h.filterMap_eq .join fun clause hsort => by cases clause <;> simp_all [sort]
  have hpredicates : first.filterMap predicate? = second.filterMap predicate? :=
    h.filterMap_eq .filter fun clause hsort => by cases clause <;> simp_all [sort]
  have hgrouping : first.filterMap grouping? = second.filterMap grouping? :=
    h.filterMap_eq .groupBy fun clause hsort => by cases clause <;> simp_all [sort]
  have hordering : first.filterMap ordering? = second.filterMap ordering? :=
    h.filterMap_eq .orderBy fun clause hsort => by cases clause <;> simp_all [sort]
  have hlimit : first.filterMap limit? = second.filterMap limit? :=
    h.filterMap_eq .limit fun clause hsort => by cases clause <;> simp_all [sort]
  have hoffset : first.filterMap offset? = second.filterMap offset? :=
    h.filterMap_eq .offset fun clause hsort => by cases clause <;> simp_all [sort]
  simp only [query, RowSource.ofHistory, selection, groupings, hshape, hjoins, hpredicates,
    hgrouping, hordering, hlimit, hoffset]

end Clause

namespace Relation

theorem render_ofHistory (model : Model) (clauses : List Clause) (dialect : Dialect) :
    ((ofHistory model clauses).selectFragment
        (ofHistory model clauses).shape.columnRefs).render dialect =
      Clause.query model clauses dialect := by
  have hcolumns : (ofHistory model clauses).shape.columnRefs =
      Clause.selection model clauses :=
    Clause.columnRefs_lastShape model clauses
  rw [hcolumns, render_selectFragment]
  rfl

/-- The first faulty clause decides; without one, the statement is the query that the
history amounts to. -/
theorem toStatement_ofHistory (model : Model) (clauses : List Clause) (dialect : Dialect) :
    (ofHistory model clauses).toStatement dialect =
      match clauses.findSome? Clause.fault? with
      | some error => .error error
      | none => .ok (Clause.query model clauses dialect) := by
  rw [← render_ofHistory]
  rfl

/-- Histories of clauses have a canonical meaning.  The statement is the query of the
collected clauses unless a condition is faulty, and then the first faulty one decides.
Hence histories without faults that agree sort by sort have the same statement, and
conditions one after the other are their conjunction. -/
theorem toStatement_addAll (model : Model) (dialect : Dialect) :
    (∀ clauses : List Clause,
      ((all model).addAll clauses).toStatement dialect =
        match clauses.findSome? Clause.fault? with
        | some error => .error error
        | none => .ok (Clause.query model clauses dialect)) ∧
    (∀ first second : List Clause,
      Clause.Agree first second →
      (∀ clause ∈ first, clause.fault? = none) →
        ((all model).addAll first).toStatement dialect =
          ((all model).addAll second).toStatement dialect) ∧
    (∀ (before after : List Clause) (condition : Condition)
        (conditions : List Condition),
      (∀ clause ∈ before, clause.sort ≠ .filter) →
        (all model).addAll (before ++ (condition :: conditions).map .filter ++ after) =
          (all model).addAll
            (before ++ .filter (conditions.foldl .and condition) :: after)) := by
  refine ⟨?_, ?_, ?_⟩
  · intro clauses
    rw [addAll_all]
    exact toStatement_ofHistory model clauses dialect
  · intro first second hagree hfree
    have hfirst : first.findSome? Clause.fault? = none :=
      List.findSome?_eq_none_iff.mpr hfree
    have hsecond : second.findSome? Clause.fault? = none :=
      List.findSome?_eq_none_iff.mpr fun clause hmem =>
        hfree clause (hagree.mem_of_mem hmem)
    rw [addAll_all, addAll_all, toStatement_ofHistory, toStatement_ofHistory,
      hfirst, hsecond, hagree.query_eq]
  · intro before after condition conditions hbefore
    have hfilters := addAll_filters (phase_ofHistory_ne_finalized model before)
      (condition_ofHistory_eq_none model hbefore) condition conditions
    rw [← addAll_all] at hfilters
    simp only [addAll, List.foldl_append, List.foldl_cons] at hfilters ⊢
    rw [hfilters]

/-- Clauses of all sorts over people and their posts, in the order of SQL. -/
def orderly (first second : Condition) : List Clause :=
  [.select (.column ⟨"users", "age", .integer .int32⟩),
    .join .left "posts" (.ofPredicate
      (.compareColumn ⟨"posts", "user_id"⟩ .eq ⟨"users", "id"⟩)),
    .filter first, .filter second, .groupBy [⟨"users", "age"⟩],
    .orderBy ⟨"users", "age"⟩ .desc, .limit 5, .offset 1]

/-- The same clauses, with other sorts between those of one sort. -/
def scattered (first second : Condition) : List Clause :=
  [.offset 1, .filter first, .limit 5, .orderBy ⟨"users", "age"⟩ .desc,
    .groupBy [⟨"users", "age"⟩], .filter second,
    .join .left "posts" (.ofPredicate
      (.compareColumn ⟨"posts", "user_id"⟩ .eq ⟨"users", "id"⟩)),
    .select (.column ⟨"users", "age", .integer .int32⟩)]

theorem toStatement_addAll_user :
    Clause.Agree (orderly adult named) (scattered adult named) ∧
    ((all Sample.user).addAll (orderly adult named)).toStatement .sqlite =
      ((all Sample.user).addAll (scattered adult named)).toStatement .sqlite ∧
    ((all Sample.user).addAll (scattered adult named)).toStatement .sqlite =
      .ok ⟨"SELECT \"users\".\"age\" FROM \"users\" LEFT JOIN \"posts\" ON " ++
          "\"posts\".\"user_id\" = \"users\".\"id\" " ++
          "WHERE (\"users\".\"age\" >= ?1) AND (\"users\".\"name\" IS NOT NULL) " ++
          "GROUP BY \"users\".\"age\" ORDER BY \"users\".\"age\" DESC LIMIT 5 OFFSET 1",
        [.integer 18]⟩ ∧
    (all Sample.user).addAll ([.limit 5] ++ [.filter adult, .filter named] ++ []) =
      (all Sample.user).addAll ([.limit 5] ++ [.filter (adult.and named)]) := by
  have hagree : Clause.Agree (orderly adult named) (scattered adult named) := by
    intro sort
    cases sort <;> rfl
  have hfree : ∀ clause ∈ orderly adult named, clause.fault? = none := by
    simp [orderly, adult, named, Condition.ofPredicate]
  have hbefore : ∀ clause ∈ [Clause.limit 5], clause.sort ≠ .filter := by
    simp [Clause.sort]
  obtain ⟨hstatement, hstatements, hfilters⟩ := toStatement_addAll Sample.user .sqlite
  refine ⟨hagree, hstatements _ _ hagree hfree, ?_,
    hfilters [.limit 5] [] adult [named] hbefore⟩
  exact (hstatement (scattered adult named)).trans (by decide +kernel)

end Relation

end TypedQuery
