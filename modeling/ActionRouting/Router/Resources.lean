import ActionRouting.Router.Basic

/-! The routes of a resource: one row for each action that a controller may have. -/
namespace ActionRouting

/-- A row of a resource: which action it is for, its verb and its path. -/
structure ResourceRow where
  key : String
  verb : Verb
  path : PathSpec

/-- The rows of a collection, whose items lie below it. The place where it is mounted is a path by
itself, and the beginning of longer paths as it is shown. -/
def collectionRows (mount ident : Value) : List ResourceRow :=
  let itself := PathSpec.ofValue mount
  let path := mount.display
  let item := path ++ "/" ++ ident.display
  [⟨"list", .get, itself⟩, ⟨"create", .post, itself⟩, ⟨"new", .get, .text (path ++ "/new")⟩,
    ⟨"show", .get, .text item⟩, ⟨"update", .put, .text item⟩, ⟨"update", .patch, .text item⟩,
    ⟨"destroy", .delete, .text item⟩, ⟨"edit", .get, .text (item ++ "/edit")⟩]

/-- The rows of a resource that has no items. -/
def singularRows (mount : Value) : List ResourceRow :=
  let itself := PathSpec.ofValue mount
  let path := mount.display
  [⟨"show", .get, itself⟩, ⟨"create", .post, itself⟩, ⟨"update", .put, itself⟩,
    ⟨"update", .patch, itself⟩, ⟨"destroy", .delete, itself⟩,
    ⟨"new", .get, .text (path ++ "/new")⟩, ⟨"edit", .get, .text (path ++ "/edit")⟩]

/-- How far a series of registrations came: the router then, the lines that tell of the routes, and
what stopped it. -/
structure Progress where
  router : Router
  notices : List String := []
  fault : Option Fault := none

namespace Router

/-- The registration of a row, if the target has the action that the row is served by. -/
def prepareRow (r : Router) (target : Target) (row : ResourceRow) :
    Result (Option Registration) := do
  let action ← r.config.resourceAction row.key
  match ← readAction target action with
  | none => return none
  | some _ => return some (← r.prepare row.path target action (.text row.verb.name))

/-- Registers rows in order, up to the first that fails. -/
def addRows (target : Target) : Progress → List ResourceRow → Progress
  | p, [] => p
  | p, row :: rows =>
    match p.router.prepareRow target row with
    | .error e => { p with fault := some e }
    | .ok none => addRows target p rows
    | .ok (some g) =>
      addRows target { p with router := p.router.add g, notices := p.notices ++ [g.notice] } rows

/-- Binds the routes of a collection that a controller serves. -/
def resources (r : Router) (mount : Value) (target : Target) (ident : Value) : Progress :=
  addRows target { router := r } (collectionRows mount ident)

/-- Binds the routes of a single resource that a controller serves. -/
def resource (r : Router) (mount : Value) (target : Target) : Progress :=
  addRows target { router := r } (singularRows mount)

end Router

end ActionRouting
