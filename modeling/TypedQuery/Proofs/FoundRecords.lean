import TypedQuery.Proofs.Domain
import TypedQuery.Proofs.RowSource

/-!
# Records found by key

A record can be found by its key, or the key can be made a condition of a query for one
record.  As long as the value is in the domain of the key these are one relation: the same
statement is sent, and its answer is read in the same way.  But only the condition asks
for that.  What a record is found by is sent as it is.
-/

namespace TypedQuery

namespace Column

variable {column : Column} {value : column.kind.Carrier}

theorem operandFault?_eq_none_iff :
    column.operandFault? value = none ↔ column.kind.InDomain value := by
  rw [← Kind.check_eq_ok_iff, operandFault?]
  cases column.kind.check value with
  | ok => exact iff_of_true rfl rfl
  | error error => exact iff_of_false (fun h => by cases h) fun h => by cases h

theorem compare_of_inDomain (h : column.kind.InDomain value) (op : CompareOp) :
    column.compare op value = .ofPredicate (.compare column.ref op (column.kind.encode value)) :=
  congrArg (Condition.mk _) (operandFault?_eq_none_iff.mpr h)

end Column

theorem Kind.exists_check_eq_error {kind : Kind} {value : kind.Carrier}
    (h : ¬ kind.InDomain value) :
    ∃ error, error.kind = .domain ∧ kind.check value = .error error := by
  cases kind with
  | decimal => exact ⟨notFinite value, rfl, if_neg h⟩
  | _ => exact absurd trivial h

namespace Model

def readFirst (model : Model) (answer : Rows) : Result (Option (Record model.fields)) := do
  let rows ← answer.decode (.model model)
  return rows.head?.bind fun row => row.record? model

/-- The relation of one record whose key satisfies the condition to be a value. -/
def keyed (model : Model) (key : Column) (value : key.kind.Carrier) : Relation :=
  (Relation.filtered model (key.compare .eq value)).add (.limit 1)

/-- The query for one record whose key is a value. -/
def keyStatement (model : Model) (key : Column) (value : Value) (dialect : Dialect) :
    Statement :=
  ⟨"SELECT " ++ Relation.columnsText (model.columns.map Column.ref) ++
      " FROM " ++ Identifier.quote model.table ++
      " WHERE " ++ key.ref.text ++ " = " ++ dialect.placeholder 1 ++ " LIMIT 1",
    [value]⟩

/-- In the domain it does not matter which of the two is used. -/
theorem keyed_eq_withKey {key : Column} {value : key.kind.Carrier}
    (h : key.kind.InDomain value) (model : Model) :
    model.keyed key value = model.withKey key (key.kind.encode value) := by
  rw [keyed, Column.compare_of_inDomain h]
  rfl

theorem fault_keyed (model : Model) (key : Column) (value : key.kind.Carrier) :
    (model.keyed key value).fault = key.operandFault? value :=
  rfl

theorem render_withKey (model : Model) (key : Column) (value : Value) (dialect : Dialect) :
    ((model.withKey key value).selectFragment (model.columns.map Column.ref)).render dialect =
      model.keyStatement key value dialect := by
  have hcondition : (Predicate.compare key.ref .eq value).text dialect 0 =
      key.ref.text ++ " = " ++ dialect.placeholder 1 :=
    rfl
  have hsource : (RowSource.ofRelation (model.withKey key value)).text dialect =
      " FROM " ++ Identifier.quote model.table ++ "" ++
        (" WHERE " ++ (Predicate.compare key.ref .eq value).text dialect 0) :=
    rfl
  have htail : Relation.groupText (model.withKey key value).groupBy ++
      Relation.orderText (model.withKey key value).orderBy ++
        dialect.limitClause (model.withKey key value).limit (model.withKey key value).offset =
          " LIMIT 1" := by
    have hlimit : dialect.limitClause (some 1) none = " LIMIT 1" :=
      dialect.limitClause_some_none 1
    exact (String.empty_append).trans hlimit
  have hparams : (RowSource.ofRelation (model.withKey key value)).params = [value] := rfl
  rw [Relation.render_selectFragment, RowSource.query, hsource, hcondition, htail, hparams,
    keyStatement]
  simp only [String.append_assoc, String.empty_append]

variable {σ : Type} [Adaptor σ]

/-- One record is asked for, and it is read from the answer. -/
theorem firstRecord_withKey (model : Model) (key : Column)
    (value : Value) (state : σ) :
    (model.withKey key value).firstRecord model state =
      ((Adaptor.query (model.keyStatement key value (Adaptor.dialect state)) state).1 >>=
          model.readFirst,
        (Adaptor.query (model.keyStatement key value (Adaptor.dialect state)) state).2) := by
  have hphase : (model.withKey key value).phase ≠ .finalized := by
    intro h
    cases h
  have hplan : Terminal.exec.plan { model.withKey key value with phase := .finalized } =
      .ok (.query ((model.withKey key value).selectFragment
        (model.columns.map Column.ref))) :=
    rfl
  rw [← render_withKey, Relation.firstRecord]
  cases hquery : Adaptor.query (((model.withKey key value).selectFragment
      (model.columns.map Column.ref)).render (Adaptor.dialect state)) state with
  | mk result after =>
      cases result with
      | error error =>
          rw [Relation.run_eq_of_query_error hphase rfl hplan hquery]
          rfl
      | ok answer =>
          have hread : Terminal.exec.readAnswer
              { model.withKey key value with phase := .finalized } answer =
                Answer.rows <$> answer.decode (.model model) :=
            rfl
          rw [Relation.run_eq_of_query_ok hphase rfl hplan hquery, hread, ok_bind, readFirst]
          cases answer.decode (.model model) with
          | error error => rfl
          | ok rows => cases rows <;> rfl

/-- A relation with an error does not look anything up. -/
theorem firstRecord_of_fault {relation : Relation} {error : Error}
    (hfault : relation.fault = some error) (model : Model) (state : σ) :
    relation.firstRecord model state = (.error error, state) := by
  rw [Relation.firstRecord, Relation.run_of_fault hfault]

/-! ## Both ways -/

theorem find_of_primaryKey? {model : Model} {key : Column}
    (h : model.primaryKey? = some key) (value : Value) (state : σ) :
    model.find value state = (model.withKey key value).firstRecord model state := by
  rw [find, h]

theorem find_of_primaryKey?_eq_none {model : Model} (h : model.primaryKey? = none)
    (value : Value) (state : σ) :
    model.find value state = (.error model.noPrimaryKey, state) := by
  rw [find, h]

/-- A record is found by its key as it is asked for by a condition on the key, just if the
value is in the domain of the key.  Whatever the value, one statement is sent, and its
answer is read.  But a value beyond the domain is no condition: that fails for the value,
and nothing is sent.  Where there is no key it is misuse to look for one. -/
theorem find_eq_keyed_iff (model : Model) (before : Handed σ) :
    (model.primaryKey? = none → ∀ value,
      model.find value before =
        (.error ⟨.usage, "`" ++ model.table ++ "` has no primary key"⟩, before)) ∧
    ∀ key, model.primaryKey? = some key → ∀ value : key.kind.Carrier,
      let statement :=
        model.keyStatement key (key.kind.encode value) (Adaptor.dialect before)
      (model.find (key.kind.encode value) before =
          ((Adaptor.query statement before).1 >>= model.readFirst,
            (Adaptor.query statement before).2) ∧
        (model.find (key.kind.encode value) before).2.statements =
          before.statements ++ [statement]) ∧
      (model.find (key.kind.encode value) before =
          (model.keyed key value).firstRecord model before ↔
        key.kind.InDomain value) ∧
      (¬ key.kind.InDomain value →
        ∃ error, error.kind = .domain ∧ key.kind.check value = .error error ∧
          (model.keyed key value).firstRecord model before = (.error error, before)) := by
  refine ⟨fun h value => find_of_primaryKey?_eq_none h value before, ?_⟩
  intro key hkey value statement
  have hfind : model.find (key.kind.encode value) before =
      ((Adaptor.query statement before).1 >>= model.readFirst,
        (Adaptor.query statement before).2) := by
    rw [find_of_primaryKey? hkey, firstRecord_withKey]
  have hsent : (model.find (key.kind.encode value) before).2.statements =
      before.statements ++ [statement] := by
    rw [hfind]
    rfl
  have hrefused : ¬ key.kind.InDomain value →
      ∃ error, error.kind = .domain ∧ key.kind.check value = .error error ∧
        (model.keyed key value).firstRecord model before = (.error error, before) := by
    intro hdomain
    obtain ⟨error, herror, hcheck⟩ := Kind.exists_check_eq_error hdomain
    have hfault : (model.keyed key value).fault = some error := by
      rw [fault_keyed, Column.operandFault?, hcheck]
    exact ⟨error, herror, hcheck, firstRecord_of_fault hfault model before⟩
  refine ⟨⟨hfind, hsent⟩, ⟨?_, ?_⟩, hrefused⟩
  · intro hsame
    by_contra hdomain
    obtain ⟨error, -, -, hkeyed⟩ := hrefused hdomain
    -- One statement was sent, and none was.
    rw [hsame, hkeyed] at hsent
    simp at hsent
  · intro hdomain
    rw [find_of_primaryKey? hkey, keyed_eq_withKey hdomain]

/-- Readings, each known by the number of seconds at which it was taken. -/
def reading : Model :=
  ⟨"Reading", "readings",
    [⟨"at", .decimal, { primaryKey := true }⟩, ⟨"note", .text, {}⟩]⟩

def readingKey : Column :=
  ⟨"readings", "at", .decimal⟩

/-- A connection to which nothing has been sent yet. -/
def unasked : Handed Scripted :=
  ⟨Situation.quiet, []⟩

theorem find_eq_keyed_iff_reading :
    Sample.noKey.primaryKey? = none ∧
    Sample.noKey.find (.integer 7) unasked =
      (.error ⟨.usage, "`nokey` has no primary key"⟩, unasked) ∧
    reading.primaryKey? = some readingKey ∧
    Kind.decimal.InDomain (.ofInt 1) ∧
    reading.find (.real (.ofInt 1)) unasked =
      (reading.keyed readingKey (Binary64.ofInt 1)).firstRecord reading unasked ∧
    ¬ Kind.decimal.InDomain .nan ∧
    reading.find (.real .nan) unasked ≠
      (reading.keyed readingKey Binary64.nan).firstRecord reading unasked := by
  have hnone : Sample.noKey.primaryKey? = none := by decide
  have hkey : reading.primaryKey? = some readingKey := by decide
  have hone : Kind.decimal.InDomain (.ofInt 1) := by
    change Binary64.isFinite _ = true
    decide +kernel
  have hnan : ¬ Kind.decimal.InDomain .nan := by
    change ¬ Binary64.isFinite _ = true
    decide +kernel
  have hfind := (find_eq_keyed_iff reading unasked).2 readingKey hkey
  refine ⟨hnone, (find_eq_keyed_iff Sample.noKey unasked).1 hnone _, hkey, hone, ?_, hnan, ?_⟩
  · exact (hfind (Binary64.ofInt 1)).2.1.mpr hone
  · exact fun h => hnan ((hfind Binary64.nan).2.1.mp h)

/-- A reading at no time is looked for, while a query by that time is refused. -/
theorem find_reading_nan :
    reading.primaryKey? = some readingKey ∧
    (reading.keyed readingKey Binary64.nan).firstRecord reading unasked =
      (.error ⟨.domain, "NaN is not a finite decimal"⟩, unasked) ∧
    (reading.find (.real .nan) unasked).1 = .ok none ∧
    (reading.find (.real .nan) unasked).2.statements =
      [⟨"SELECT \"readings\".\"at\", \"readings\".\"note\" FROM \"readings\" " ++
          "WHERE \"readings\".\"at\" = ?1 LIMIT 1", [.real .nan]⟩] := by
  have hkey : reading.primaryKey? = some readingKey := by decide
  refine ⟨hkey, firstRecord_of_fault rfl reading unasked, ?_, ?_⟩
  · rfl
  · decide +kernel

end Model

end TypedQuery
