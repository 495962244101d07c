import TableFeed.Model.Wire
import TableFeed.Service.Client

/-!
# The table service

A service that keeps tables takes models under three paths, each with a handler of its own. The
name of a table is one segment of a path, whatever characters it has.

    createTable   /tables
    insert        /tables/<name>/rows
    dropTable     /tables/drop
-/

namespace TableFeed.Service

open TableFeed

/-- The path under which rows of a table are sent. -/
def rowsPath (table : String) : String := "/tables/" ++ Url.encodeSegment table ++ "/rows"

/-- The path under which a model is sent. -/
def pathOf : Model → String
  | .createTable _ => "/tables"
  | .insert i => rowsPath i.table
  | .dropTable _ => "/tables/drop"

/-- The name of the handler for models of some kind. -/
def apiName : Model.Kind → String
  | .create => "api-table"
  | .insert => "api-insert"
  | .drop => "api-drop"

variable {m : Type → Type} [Monad m]

/-- The handler that sends models of some kind to the service. -/
def apiHandler (send : Transport m) (c : Client) (kind : Model.Kind) : Handler m where
  name := apiName kind
  accepts model := model.kind == kind
  handle model cancelled :=
    if model.kind == kind then c.post send (pathOf model) model.payload cancelled
    else return { result := .ok (.unsupported model.typeName) }

/-- The handlers of the service. -/
def apiHandlers (send : Transport m) (c : Client) : List (Handler m) :=
  [Model.Kind.create, .insert, .drop].map (apiHandler send c)

end TableFeed.Service
