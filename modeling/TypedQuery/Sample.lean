import TypedQuery.Projection

/-!
# Sample models

A few models that together use every kind, every constraint and every way in
which tables can refer to each other, also the faulty one.
-/

namespace TypedQuery.Sample

def user : Model :=
  ⟨"User", "users", [
    ⟨"id", .integer .int64, { primaryKey := true, autoIncrement := true }⟩,
    ⟨"name", .text, { notNull := true, maxLength := some 16 }⟩,
    ⟨"age", .integer .int32, {}⟩,
    ⟨"score", .decimal, {}⟩,
    ⟨"active", .boolean, {}⟩,
    ⟨"avatar", .binary, {}⟩,
    ⟨"joined_at", .dateTime, {}⟩]⟩

def post : Model :=
  ⟨"Post", "posts", [
    ⟨"id", .integer .int64, { primaryKey := true, autoIncrement := true }⟩,
    ⟨"user_id", .foreignKey user.schema.reference, { notNull := true }⟩,
    ⟨"title", .text, {}⟩]⟩

/-- Words to put on things. -/
def tag : Model :=
  ⟨"Tag", "tags", [
    ⟨"id", .integer .int64, { primaryKey := true, autoIncrement := true }⟩,
    ⟨"label", .text, {}⟩]⟩

/-- A primary key of two columns, one of them filled in by the database. -/
def gen : Model :=
  ⟨"Gen", "gen", [
    ⟨"id", .integer .uint32, { primaryKey := true, autoIncrement := true, notNull := true }⟩,
    ⟨"code", .text, { primaryKey := true, unique := true, maxLength := some 2 }⟩,
    ⟨"note", .text, { autoIncrement := true }⟩]⟩

/-- Every kind of column, in a table whose name needs quotes. -/
def wide : Model :=
  ⟨"Wide", "wide \"q\" tâble", [
    ⟨"k", .integer .int16, { primaryKey := true, notNull := true, unique := true }⟩,
    ⟨"b", .integer .uint8, { unique := true }⟩,
    ⟨"w", .integer .uint16, { autoIncrement := true }⟩,
    ⟨"d", .integer .uint32, { notNull := true, unique := true }⟩,
    ⟨"t", .integer .int8, { maxLength := some 2 }⟩,
    ⟨"n", .integer .int32, {}⟩,
    ⟨"code", .text, { unique := true, maxLength := some 3 }⟩,
    ⟨"data", .binary, { notNull := true, maxLength := some 4 }⟩,
    ⟨"ratio", .decimal, { notNull := true }⟩,
    ⟨"at", .dateTime, { unique := true }⟩,
    ⟨"ok", .boolean, { maxLength := some 0 }⟩,
    ⟨"up", .foreignKey gen.schema.reference, { unique := true }⟩]⟩

/-- A table without a primary key. -/
def noKey : Model :=
  ⟨"NoKey", "nokey", [⟨"label", .text, {}⟩, ⟨"n", .integer .int64, {}⟩]⟩

/-- A reference to a table that has no primary key to refer to. -/
def badRef : Model :=
  ⟨"BadRef", "badref", [
    ⟨"id", .integer .int32, { primaryKey := true }⟩,
    ⟨"target", .foreignKey noKey.schema.reference, {}⟩]⟩

def blank : Model :=
  ⟨"Empty", "empty", []⟩

def models : List Model :=
  [user, post, tag, wide, gen, noKey, badRef, blank]

def model? (name : String) : Option Model :=
  models.find? (·.name == name)

/-- The column of a sample model, both named with a point between. -/
def column? (path : String) : Option Column :=
  match path.splitOn "." with
  | [model, column] => (model? model).bind fun model => model.column? column
  | _ => none

end TypedQuery.Sample
