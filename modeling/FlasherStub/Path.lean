/-!
Paths as text, split by `/`. A path's components drop empty parts and `.` parts, except a `.` at
the very start; `..` stays. `Path.join` appends a relative path with one separator, or replaces
the base when the suffix is absolute; `Path.extension` is the text after the last dot of the
final component, when that component is a name with a dot that does not start it.
-/

namespace FlasherStub.Path

/-- One component of a path. -/
inductive Component where
  | root
  | current
  | parent
  | name (s : String)
  deriving DecidableEq, Repr

/-- The texts between the separators of a path, in order, empty ones included. -/
def pieces (p : String) : List String := (p.toList.splitOn '/').map String.ofList

/-- The components of a path. -/
def components (p : String) : List Component :=
  let parts := pieces p
  let absolute := p.startsWith "/"
  let body := parts.filter (fun s => s ≠ "" ∧ s ≠ ".")
  let comps := body.map fun s => if s = ".." then Component.parent else Component.name s
  let lead := if absolute then [Component.root]
    else match parts with
      | "." :: _ => [Component.current]
      | _ => []
  lead ++ comps

/-- Whether a path is absolute. -/
def isAbsolute (p : String) : Bool := p.startsWith "/"

/-- The path `base` followed by `suffix`: an absolute suffix replaces the base, an empty base
gives the bare suffix, and a separator is added unless the base ends with one. -/
def join (base suffix : String) : String :=
  if isAbsolute suffix then suffix
  else if base.isEmpty then suffix
  else if base.endsWith "/" then base ++ suffix
  else base ++ "/" ++ suffix

/-- The final component, when it is a name. -/
def fileName (p : String) : Option String :=
  match (components p).getLast? with
  | some (.name s) => some s
  | _ => none

/-- The extension of a file name: the text after its last dot, unless the only dot starts it. -/
def extensionOf (name : String) : Option String :=
  if name = ".." then none
  else
    match (name.toList.splitOn '.').reverse with
    | after :: before :: earlier =>
      if earlier.isEmpty ∧ before.isEmpty then none else some (String.ofList after)
    | _ => none

/-- The extension of a path's final component. -/
def extension (p : String) : Option String := (fileName p).bind extensionOf

/-- Text of a list of components. -/
def render (cs : List Component) : String :=
  match cs with
  | .root :: rest => "/" ++ "/".intercalate (rest.map piece)
  | _ => "/".intercalate (cs.map piece)
where
  /-- Text of one component. -/
  piece : Component → String
    | .root => ""
    | .current => "."
    | .parent => ".."
    | .name s => s

/-- The path without its final component, if it has one that can be removed. -/
def parent (p : String) : Option String :=
  let cs := components p
  match cs.getLast? with
  | some .root | none => none
  | some _ => some (render cs.dropLast)

end FlasherStub.Path
