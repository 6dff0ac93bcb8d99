import TypedQuery.Adaptor.Basic
import TypedQuery.Model
import TypedQuery.Schema.Definition

/-!
# Tables of models

Creating, dropping and finding the table of a model. What the backend refuses
here is a schema failure.
-/

namespace TypedQuery.Model

variable {σ : Type} [Adaptor σ]

def createTable (model : Model) (mode : CreateMode) : Action σ Unit := fun state =>
  match model.schema.createText (Adaptor.dialect state) mode with
  | .error error => (.error error, state)
  | .ok sql => Adaptor.mapError Error.inSchema (Adaptor.executeBatch sql) state

def dropTable (model : Model) : Action σ Unit := fun state =>
  let sql := model.schema.dropText (Adaptor.dialect state)
  Adaptor.mapError Error.inSchema (Adaptor.executeBatch sql) state

def existsTable (model : Model) : Action σ Bool :=
  Adaptor.mapError Error.inSchema (Adaptor.tableExists model.table)

end TypedQuery.Model
