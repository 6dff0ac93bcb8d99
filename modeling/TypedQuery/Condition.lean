import TypedQuery.Column

/-!
# Conditions

A condition is a predicate over columns, built from comparisons by conjunction
and disjunction. An operand outside the domain of its column makes the whole
condition faulty, and the first such operand is the one reported.
-/

namespace TypedQuery

/-- A comparison. -/
inductive CompareOp where
  | eq
  | ne
  | lt
  | le
  | gt
  | ge
  deriving DecidableEq, Repr

def CompareOp.sign : CompareOp → String
  | eq => "="
  | ne => "<>"
  | lt => "<"
  | le => "<="
  | gt => ">"
  | ge => ">="

def CompareOp.ofName? : String → Option CompareOp
  | "eq" => some eq
  | "ne" => some ne
  | "lt" => some lt
  | "le" => some le
  | "gt" => some gt
  | "ge" => some ge
  | _ => none

/-- A predicate over columns. -/
inductive Predicate where
  | compare (column : ColumnRef) (op : CompareOp) (value : Value)
  | compareColumn (column : ColumnRef) (op : CompareOp) (other : ColumnRef)
  /-- Between two values, both included. -/
  | between (column : ColumnRef) (low high : Value)
  | inSet (column : ColumnRef) (values : List Value) (negated : Bool)
  /-- Matches a pattern. -/
  | like (column : ColumnRef) (pattern : String) (negated : Bool)
  | isNull (column : ColumnRef) (negated : Bool)
  | both (left right : Predicate)
  | either (left right : Predicate)
  deriving DecidableEq

namespace Predicate

/-- The predicate as SQL. The empty set holds nothing, so being in it is the
false constant and not being in it the true one. -/
def fragment : Predicate → Fragment
  | compare column op value =>
    .column column ++ .text (" " ++ op.sign ++ " ") ++ .param value
  | compareColumn column op other =>
    .column column ++ .text (" " ++ op.sign ++ " ") ++ .column other
  | between column low high =>
    .column column ++ .text " BETWEEN " ++ .param low ++ .text " AND " ++ .param high
  | inSet _ [] negated => .text (if negated then "1 = 1" else "1 = 0")
  | inSet column values negated =>
    .column column ++ .text (if negated then " NOT IN " else " IN ")
      ++ (Fragment.join ", " (values.map .param)).parens
  | like column pattern negated =>
    .column column ++ .text (if negated then " NOT LIKE " else " LIKE ") ++ .param (.text pattern)
  | isNull column negated =>
    .column column ++ .text (if negated then " IS NOT NULL" else " IS NULL")
  | both left right => left.fragment.parens ++ .text " AND " ++ right.fragment.parens
  | either left right => left.fragment.parens ++ .text " OR " ++ right.fragment.parens

/-- Equality of predicates, comparing operands as values. -/
def same : Predicate → Predicate → Bool
  | compare c op v, compare c' op' v' => c == c' && op == op' && v.equal v'
  | compareColumn c op d, compareColumn c' op' d' => c == c' && op == op' && d == d'
  | between c l h, between c' l' h' => c == c' && l.equal l' && h.equal h'
  | inSet c vs n, inSet c' vs' n' => c == c' && Value.equalAll vs vs' && n == n'
  | like c p n, like c' p' n' => c == c' && p == p' && n == n'
  | isNull c n, isNull c' n' => c == c' && n == n'
  | both l r, both l' r' => l.same l' && r.same r'
  | either l r, either l' r' => l.same l' && r.same r'
  | _, _ => false

end Predicate

/-- A predicate, and the first of its operands that is out of domain. -/
structure Condition where
  predicate : Predicate
  fault : Option Error
  deriving DecidableEq

namespace Condition

/-- A condition without faults. -/
def ofPredicate (predicate : Predicate) : Condition :=
  ⟨predicate, none⟩

def and (left right : Condition) : Condition :=
  ⟨.both left.predicate right.predicate, left.fault.or right.fault⟩

def or (left right : Condition) : Condition :=
  ⟨.either left.predicate right.predicate, left.fault.or right.fault⟩

/-- The operators on conditions. -/
instance : AndOp Condition := ⟨and⟩

instance : OrOp Condition := ⟨or⟩

/-- Remembers a fault, unless there is an earlier one. -/
def withFault (condition : Condition) (fault : Option Error) : Condition :=
  { condition with fault := condition.fault.or fault }

/-- A copy: the same predicate anew, and the fault that is remembered. -/
def copy (condition : Condition) : Condition :=
  (ofPredicate condition.predicate).withFault condition.fault

@[simp]
theorem copy_eq (condition : Condition) : condition.copy = condition :=
  rfl

def fragment (condition : Condition) : Fragment :=
  condition.predicate.fragment

/-- Equality of conditions, comparing operands as values. -/
def same (a b : Condition) : Bool :=
  a.predicate.same b.predicate && a.fault == b.fault

end Condition

namespace Column

/-- Why a value is no operand for a column, if it is none. -/
def operandFault? (column : Column) (value : column.kind.Carrier) : Option Error :=
  match column.kind.check value with
  | .ok () => none
  | .error fault => some fault

def compare (column : Column) (op : CompareOp) (value : column.kind.Carrier) : Condition :=
  ⟨.compare column.ref op (column.kind.encode value), column.operandFault? value⟩

/-- The column lies between two values, both included. -/
def between (column : Column) (low high : column.kind.Carrier) : Condition :=
  ⟨.between column.ref (column.kind.encode low) (column.kind.encode high),
    (column.operandFault? low).or (column.operandFault? high)⟩

/-- The column is, or with `negated` is not, one of some values. -/
def inSet (column : Column) (values : List column.kind.Carrier) (negated : Bool) : Condition :=
  ⟨.inSet column.ref (values.map column.kind.encode) negated,
    values.findSome? column.operandFault?⟩

/-- The column is, or with `negated` is not, null. -/
def isNull (column : Column) (negated : Bool) : Condition :=
  .ofPredicate (.isNull column.ref negated)

/-- The text of the column matches, or with `negated` does not match, a
pattern. -/
def like (column : Column) (pattern : String) (negated : Bool) : Condition :=
  .ofPredicate (.like column.ref pattern negated)

def eqColumn (column other : Column) : Condition :=
  .ofPredicate (.compareColumn column.ref .eq other.ref)

/-- The column has the value of an attribute, or is null where it has none. -/
def equals (column : Column) (attr : Attribute column.kind) : Condition :=
  match attr.value with
  | some value => .ofPredicate (.compare column.ref .eq (column.kind.encode value))
  | none => column.isNull false

end Column

/-- A new value for a column in an update. -/
structure Assignment where
  column : String
  value : Value
  fault : Option Error
  deriving DecidableEq

namespace Assignment

def set (column : Column) (value : column.kind.Carrier) : Assignment :=
  ⟨column.name, column.kind.encode value, column.operandFault? value⟩

def setNull (column : Column) : Assignment :=
  ⟨column.name, .null, none⟩

/-- Sets a column to the value of an attribute. -/
def ofAttribute (column : Column) (attr : Attribute column.kind) : Assignment :=
  ⟨column.name, attr.toCell, none⟩

def fragment (assignment : Assignment) : Fragment :=
  .ident assignment.column ++ .text " = " ++ .param assignment.value

end Assignment

end TypedQuery
