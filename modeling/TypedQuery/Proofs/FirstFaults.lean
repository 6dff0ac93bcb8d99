import TypedQuery.Proofs.FiniteOperands

/-!
# The fault of a condition

A condition carries its fault beside its predicate, and every builder passes it
on by itself.  Here a condition is read back from the calls that build it: the
values that it binds are those of the calls from left to right, and its fault
is that of the first of them that is a decimal but no number of the domain.
-/

namespace TypedQuery

namespace Value

/-- The first fault among values belongs to the first decimal that is not
finite. -/
theorem findSome?_fault?_eq_some_iff {values : List Value} {error : Error} :
    values.findSome? fault? = some error ↔
      ∃ before r after,
        values = before ++ real r :: after ∧
        AllFinite before ∧
        r.isFinite = false ∧
        error = Kind.notFinite r := by
  rw [List.findSome?_eq_some_iff]
  constructor
  · rintro ⟨before, value, after, hvalues, hvalue, hbefore⟩
    have hfinite : AllFinite before :=
      findSome?_fault?_eq_none_iff.mp (List.findSome?_eq_none_iff.mpr hbefore)
    cases value with
    | real r =>
        by_cases hr : r.isFinite = true
        · rw [fault?, if_pos hr] at hvalue
          cases hvalue
        · rw [fault?, if_neg hr] at hvalue
          obtain rfl := Option.some.inj hvalue
          exact ⟨before, r, after, hvalues, hfinite, Bool.not_eq_true _ ▸ hr, rfl⟩
    | _ => cases hvalue
  · rintro ⟨before, r, after, hvalues, hbefore, hr, rfl⟩
    refine ⟨before, real r, after, hvalues, ?_, ?_⟩
    · rw [fault?, hr]
      rfl
    · exact List.findSome?_eq_none_iff.mp (findSome?_fault?_eq_none_iff.mpr hbefore)

end Value

namespace Condition

/-- The calls that build a condition, nested in any way. -/
inductive Draft where
  | compare (column : Column) (op : CompareOp) (value : column.kind.Carrier)
  | between (column : Column) (low high : column.kind.Carrier)
  | inSet (column : Column) (values : List column.kind.Carrier) (negated : Bool)
  | like (column : Column) (pattern : String) (negated : Bool)
  | isNull (column : Column) (negated : Bool)
  | eqColumn (column other : Column)
  | equals (column : Column) (attr : Attribute column.kind) (h : attr.Obtained)
  | and (left right : Draft)
  | or (left right : Draft)
  /-- By the operator `&`. -/
  | meet (left right : Draft)
  /-- By the operator `|`. -/
  | join (left right : Draft)
  | copy (draft : Draft)

namespace Draft

def build : Draft → Condition
  | compare column op value => column.compare op value
  | between column low high => column.between low high
  | inSet column values negated => column.inSet values negated
  | like column pattern negated => column.like pattern negated
  | isNull column negated => column.isNull negated
  | eqColumn column other => column.eqColumn other
  | equals column attr _ => column.equals attr
  | and left right => left.build.and right.build
  | or left right => left.build.or right.build
  | meet left right => left.build &&& right.build
  | join left right => left.build ||| right.build
  | copy draft => draft.build.copy

/-- The values that are handed to the calls, from left to right, in the form in
which they are bound.  An attribute without a value binds none. -/
def operands : Draft → List Value
  | compare column _ value => [column.kind.encode value]
  | between column low high => [column.kind.encode low, column.kind.encode high]
  | inSet column values _ => values.map column.kind.encode
  | like _ pattern _ => [.text pattern]
  | isNull _ _ => []
  | eqColumn _ _ => []
  | equals column attr _ => (attr.value.map column.kind.encode).toList
  | and left right => left.operands ++ right.operands
  | or left right => left.operands ++ right.operands
  | meet left right => left.operands ++ right.operands
  | join left right => left.operands ++ right.operands
  | copy draft => draft.operands

theorem built_build (draft : Draft) : draft.build.Built := by
  induction draft with
  | compare column op value => exact .compare column op value
  | between column low high => exact .between column low high
  | inSet column values negated => exact .inSet column values negated
  | like column pattern negated => exact .like column pattern negated
  | isNull column negated => exact .isNull column negated
  | eqColumn column other => exact .eqColumn column other
  | equals column attr h => exact .equals column attr h
  | and left right ihleft ihright => exact .and ihleft ihright
  | or left right ihleft ihright => exact .or ihleft ihright
  | meet left right ihleft ihright => exact .and ihleft ihright
  | join left right ihleft ihright => exact .or ihleft ihright
  | copy draft ih => exact ih

theorem operands_build (draft : Draft) :
    draft.build.predicate.operands = draft.operands := by
  induction draft with
  | equals column attr h =>
      obtain ⟨value⟩ := attr
      cases value with
      | none => rfl
      | some value => rfl
  | and left right ihleft ihright => exact congrArg₂ (· ++ ·) ihleft ihright
  | or left right ihleft ihright => exact congrArg₂ (· ++ ·) ihleft ihright
  | meet left right ihleft ihright => exact congrArg₂ (· ++ ·) ihleft ihright
  | join left right ihleft ihright => exact congrArg₂ (· ++ ·) ihleft ihright
  | copy draft ih => exact ih
  | _ => rfl

/-- The statement of a condition binds what its calls were given. -/
theorem params_render_build (draft : Draft) (dialect : Dialect) :
    (draft.build.fragment.render dialect).params = draft.operands := by
  have hparams : draft.build.fragment.params = draft.build.predicate.operands :=
    draft.build.predicate.params_fragment
  exact hparams.trans draft.operands_build

theorem fault_build (draft : Draft) :
    draft.build.fault = draft.operands.findSome? Value.fault? := by
  rw [draft.built_build.fault_eq, draft.operands_build]

/-- A condition has no fault exactly when every decimal among its parameters is
finite, and otherwise its fault is the domain error of the first parameter that
is not.  The parameters are the values that its builders were given, from left
to right, however the calls are nested. -/
theorem fault_of_first_parameter (draft : Draft) (dialect : Dialect) :
    (draft.build.fragment.render dialect).params = draft.operands ∧
    (draft.build.fault = none ↔
      Value.AllFinite (draft.build.fragment.render dialect).params) ∧
    ∀ error,
      draft.build.fault = some error ↔
        ∃ before r after,
          (draft.build.fragment.render dialect).params =
            before ++ .real r :: after ∧
          Value.AllFinite before ∧
          r.isFinite = false ∧
          error = ⟨.domain, r.display ++ " is not a finite decimal"⟩ := by
  rw [draft.params_render_build dialect, draft.fault_build]
  refine ⟨rfl, Value.findSome?_fault?_eq_none_iff, ?_⟩
  intro error
  exact Value.findSome?_fault?_eq_some_iff

/-- Not less than infinity, and in a list that holds what is not a number: the
infinite operand comes first, also in a copy. -/
example :
    (Draft.meet
      (.copy (.compare Situation.score .ge (.ofCode false (2047 * 2 ^ 52))))
      (.inSet Situation.score [.ofInt 0, .nan] true)).build.fault =
      some ⟨.domain, "inf is not a finite decimal"⟩ := by
  decide

end Draft

end Condition

end TypedQuery
