import TypedQuery.Relation.Run

/-!
# Storing records

Records are validated before any of them is sent. They are inserted by one
statement that names the columns that some record has a value for; records
without any value are inserted one by one with the defaults of the table.
Records are deleted by condition and found by their primary key.
-/

namespace TypedQuery.Model

/-! ## Inserting -/

/-- The values of records in order; the first record that is not valid
decides. -/
def validRows (model : Model) : List (Record model.fields) → Result (List (List Value))
  | [] => .ok []
  | record :: records => do
    model.validate record
    let rows ← model.validRows records
    return record.cells :: rows

/-- For each field, whether some row has a value there. -/
def presence (model : Model) (rows : List (List Value)) : List Bool :=
  (List.range model.fields.length).map fun index =>
    rows.any fun row => !(row.getD index .null).isNull

/-- The entries of a list at the places marked true. -/
def pick {α : Type} : List Bool → List α → List α
  | true :: marks, entry :: entries => entry :: pick marks entries
  | false :: marks, _ :: entries => pick marks entries
  | _, _ => []

def tuple (values : List Value) : Fragment :=
  (Fragment.join ", " (values.map .param)).parens

/-- The statement that inserts rows, naming the columns marked as present. -/
def insertFragment (model : Model) (present : List Bool) (rows : List (List Value)) : Fragment :=
  let names := pick present (model.fields.map Field.name)
  .text "INSERT INTO " ++ .ident model.table ++ .text " "
    ++ (Fragment.join ", " (names.map .ident)).parens ++ .text " VALUES "
    ++ Fragment.join ", " (rows.map fun row => tuple (pick present row))

/-- The statement that inserts one row of defaults. -/
def insertDefaultsFragment (model : Model) : Fragment :=
  .text "INSERT INTO " ++ .ident model.table ++ .text " DEFAULT VALUES"

variable {σ : Type} [Adaptor σ]

/-- Runs a statement a number of times and adds up the affected rows; the first
failure ends it. -/
def executeTimes (fragment : Fragment) : Nat → Action σ UInt64
  | 0 => return 0
  | times + 1 => do
    let first ← Adaptor.executeFragment fragment
    let rest ← executeTimes fragment times
    return first + rest

/-- Validates records and inserts them; answers the number of rows inserted. -/
def insertAll (model : Model) (records : List (Record model.fields)) : Action σ UInt64 :=
  fun state =>
    match model.validRows records with
    | .error error => (.error error, state)
    | .ok rows =>
      let present := model.presence rows
      if present.any id then
        Adaptor.executeFragment (model.insertFragment present rows) state
      else
        executeTimes model.insertDefaultsFragment rows.length state

def insert (model : Model) (record : Record model.fields) : Action σ UInt64 :=
  model.insertAll [record]

/-! ## Deleting -/

/-- The statement that deletes every record. -/
def deleteAllFragment (model : Model) : Fragment :=
  .text "DELETE FROM " ++ .ident model.table

/-- The statement that deletes the records that satisfy a predicate. -/
def deleteFragment (model : Model) (predicate : Predicate) : Fragment :=
  model.deleteAllFragment ++ .text " WHERE " ++ predicate.fragment

/-- Deletes the records that satisfy a condition. -/
def destroy (model : Model) (condition : Condition) : Action σ UInt64 := fun state =>
  match condition.fault with
  | some error => (.error error, state)
  | none => Adaptor.executeFragment (model.deleteFragment condition.predicate) state

def destroyAll (model : Model) : Action σ UInt64 :=
  Adaptor.executeFragment model.deleteAllFragment

/-! ## Finding -/

/-- The first record that the table answers. -/
def first (model : Model) : Action σ (Option (Record model.fields)) :=
  ((Relation.all model).add (.limit 1)).firstRecord model

/-- Fails because a model has no primary key to look records up by. -/
def noPrimaryKey (model : Model) : Error :=
  ⟨.usage, "`" ++ model.table ++ "` has no primary key"⟩

/-- The relation of the records whose key is a value. -/
def withKey (model : Model) (key : Column) (value : Value) : Relation :=
  ((Relation.all model).add (.limit 1)).add
    (.filter (.ofPredicate (.compare key.ref .eq value)))

/-- The record whose primary key is a value. -/
def find (model : Model) (value : Value) : Action σ (Option (Record model.fields)) :=
  fun state =>
    match model.primaryKey? with
    | none => (.error model.noPrimaryKey, state)
    | some key => (model.withKey key value).firstRecord model state

end TypedQuery.Model
