import FlasherStub.Toml.Scalar
import FlasherStub.Toml.Datetime

/-!
Building the tables of a TOML document from its lines. Keys and values are decoded in the order
they are written. The lines under a header form a section, whose table is built apart from the
root and placed when the next header or the end of the document closes the section; the lines
before the first header form the root's own section.

A header of a table is checked when its section opens: the tables above it are entered (and
created when missing), and the table it names must be new or have been created only by a deeper
header, in which case the section takes it up again. A header of an array of tables is checked
when its section closes, when its table is appended to the array, which must be new or made by
such headers.

A dotted key creates the tables it passes through, goes on into the last table of an array of
tables, and may not enter a table named by a header, an inline table or any other value; the
table it ends in must itself come from dotted keys, and a plain key must not end in one. A key
may be given once per table. Inside an inline table, dotted keys enter only the tables they
created. Dates and times are checked here, as are dotted keys of more than 80 parts.

The first error in this order is the document's error.
-/

namespace FlasherStub.Toml

/-- How a table came to be: written inline, named by a header, created by a deeper header, or
created by a dotted key. -/
inductive Origin where
  | inline
  | header
  | implicit
  | dotted
  deriving DecidableEq, Repr

/-- A value of a built document. Tables keep their keys in written order; an array made by
array-of-tables headers is marked. -/
inductive Value where
  | scalar (s : Scalar)
  | array (items : List Value) (ofTables : Bool)
  | table (entries : List (String × Value)) (origin : Origin)
  deriving Repr

/-- The entries of a table. -/
abbrev Table := List (String × Value)

namespace Value

/-- The name of a value's type, as used in messages. -/
def typeName : Value → String
  | .scalar (.string _) => "string"
  | .scalar (.integer _) => "integer"
  | .scalar (.float _) => "float"
  | .scalar (.boolean _) => "boolean"
  | .scalar (.datetime _) => "datetime"
  | .scalar .overflowedInteger => "integer"
  | .scalar .overflowedFloat => "float"
  | .array _ _ => "array"
  | .table _ .inline => "inline table"
  | .table _ _ => "table"

end Value

namespace Table

/-- The value of a key. -/
def get? (t : Table) (k : String) : Option Value := (t.find? (·.1 == k)).map (·.2)

/-- Replaces the value of a key that is present. -/
def set (t : Table) (k : String) (v : Value) : Table :=
  t.map fun e => if e.1 == k then (k, v) else e

/-- Removes a key. -/
def erase (t : Table) (k : String) : Table := t.filter (·.1 != k)

end Table

/-! ## Building -/

/-- A key given twice. -/
def duplicateKey : Error := .plain "duplicate key"

/-- Checks a decoded scalar: dates and times must be valid. -/
def checkScalar (s : Scalar) : Except Error Scalar :=
  match s with
  | .datetime t => do Datetime.check t; pure s
  | _ => .ok s

/-- The refusal to pass through a value that is no table. -/
def cannotExtend (v : Value) : Error :=
  .plain ("cannot extend value of type " ++ v.typeName ++ " with a dotted key")

/-- A key given too many parts. -/
def tooManyParts : Error := .plain "recursion limit"

/-- The most parts a dotted key may have. -/
def maxKeyParts : Nat := 80

/-- Decodes the parts of a key, refusing a key of too many parts once all are decoded. -/
def decodeKey (keys : List Piece) : Except Error (List String) := do
  let ks ← keys.mapM Scalar.key
  if ks.length > maxKeyParts then throw tooManyParts
  pure ks

/-- Where a path of keys is followed: among the tables of the document, or within an inline
table, whose dotted keys enter no array and no table they did not create. -/
inductive Scope where
  | document
  | inline
  deriving DecidableEq, Repr

/-- Follows a path of keys from a table of origin `o`, creating the missing tables (of origin
`dotted` when `dotted`, else `implicit`), and runs `f` on the origin and entries of the table
reached. Gives the table with the changes `f` made along with what `f` answers. -/
def enter {α : Type} (scope : Scope) (dotted : Bool)
    (f : Origin → Table → Except Error (Table × α)) :
    Origin → Table → List String → Except Error (Table × α)
  | o, t, [] => f o t
  | _, t, k :: ks =>
    match t.get? k with
    | none => do
      let o := if dotted then Origin.dotted else .implicit
      let (inner, a) ← enter scope dotted f o [] ks
      pure (t ++ [(k, .table inner o)], a)
    | some v =>
      match scope, v with
      | .document, .array items true =>
        match items.getLast? with
        | some (.table es o) => do
          let (inner, a) ← enter scope dotted f o es ks
          pure (t.set k (.array (items.dropLast ++ [.table inner o]) true), a)
        | some other => .error (cannotExtend other)
        | none => .error (cannotExtend v)
      | .document, .table es o =>
        if o = .inline then .error (cannotExtend v)
        else if dotted && o = .header then .error duplicateKey
        else do
          let (inner, a) ← enter scope dotted f o es ks
          pure (t.set k (.table inner o), a)
      | .inline, .table es o =>
        if o = .implicit ∨ o = .dotted then do
          let (inner, a) ← enter scope dotted f o es ks
          pure (t.set k (.table inner o), a)
        else .error duplicateKey
      | _, other => .error (cannotExtend other)

/-- Places a value under the key `path.key` in a table of origin `o`. The table the path leads
to must come from dotted keys exactly when the path is not empty, and must not hold the key. -/
def place (scope : Scope) (o : Origin) (t : Table) (path : List String) (key : String)
    (v : Value) : Except Error Table := do
  let (t, _) ← enter scope (!path.isEmpty) (fun o inner =>
    if (o = .dotted) = path.isEmpty then .error duplicateKey
    else if (inner.get? key).isSome then .error duplicateKey
    else .ok (inner ++ [(key, v)], ())) o t path
  pure t

/-- Places a value under a decoded dotted key, split into the path and the last part. -/
def placeKey (scope : Scope) (o : Origin) (t : Table) (ks : List String) (v : Value) :
    Except Error Table :=
  match ks.getLast? with
  | some key => place scope o t ks.dropLast key v
  | none => .ok t

/-- Decodes a written value. -/
def build : Node → Except Error Value
  | .scalar p => do
    let s ← Scalar.decode p
    let s ← checkScalar s
    pure (.scalar s)
  | .array items => do
    let vs ← buildAll items
    pure (.array vs false)
  | .inline entries => do
    let t ← buildEntries [] entries
    pure (.table t .inline)
where
  /-- Decodes the items of an array. -/
  buildAll : List Node → Except Error (List Value)
    | [] => .ok []
    | n :: ns => do
      let v ← build n
      let vs ← buildAll ns
      pure (v :: vs)
  /-- Decodes the members of an inline table into a table. -/
  buildEntries : Table → List (List Piece × Node) → Except Error Table
    | t, [] => .ok t
    | t, (keys, n) :: rest => do
      let ks ← decodeKey keys
      let v ← build n
      let t ← placeKey .inline .inline t ks v
      buildEntries t rest

/-- A header: the path of the tables above, the key of the table it names, and whether it adds
an element to an array of tables. -/
structure Header where
  path : List String
  key : String
  isArray : Bool
  deriving Repr

/-- The root table, the table of the open section, and the header that opened it, none for the
section before the first header. -/
structure State where
  root : Table := []
  current : Table := []
  header : Option Header := none

/-- Closes the open section, placing its table: the root's section becomes the root, a table's
section is put back where its header names, and an array's section is appended to its array. -/
def State.close (s : State) : Except Error State :=
  match s.header with
  | none => .ok { root := s.current }
  | some h => do
    let (root, _) ← enter .document false (fun _ parent =>
      if h.isArray then
        match parent.get? h.key with
        | none => .ok (parent ++ [(h.key, .array [.table s.current .header] true)], ())
        | some (.array items true) =>
          .ok (parent.set h.key (.array (items ++ [.table s.current .header]) true), ())
        | some _ => .error duplicateKey
      else if (parent.get? h.key).isSome then
        .ok (parent.set h.key (.table s.current .header), ())
      else .ok (parent ++ [(h.key, .table s.current .header)], ())) .header s.root h.path
    pure { root := root }

/-- Opens the section of a header. A table's header takes out the table it names, which must be
new or made only by deeper headers; an array's header is checked when its section closes. -/
def State.open (s : State) (h : Header) : Except Error State :=
  if h.isArray then .ok { s with current := [], header := some h }
  else do
    let (root, taken) ← enter .document false (fun _ parent =>
      match parent.get? h.key with
      | none => .ok (parent, [])
      | some (.table es .implicit) => .ok (parent.erase h.key, es)
      | some _ => .error duplicateKey) .header s.root h.path
    pure { root := root, current := taken, header := some h }

/-- Starts a new section at a header line, once the open one is closed. -/
def State.startSection (s : State) (keys : List Piece) (isArray : Bool) :
    Except Error State := do
  let s ← s.close
  let ks ← decodeKey keys
  match ks.getLast? with
  | some key => s.open { path := ks.dropLast, key := key, isArray := isArray }
  | none => pure s

/-- Applies one line. -/
def State.apply (s : State) : Line → Except Error State
  | .pair keys node => do
    let ks ← decodeKey keys
    let v ← build node
    let current ← placeKey .document .header s.current ks v
    pure { s with current := current }
  | .table keys => s.startSection keys false
  | .arrayTable keys => s.startSection keys true

/-- The root table of a document's lines. -/
def tableOf (lines : List Line) : Except Error Table := do
  let s ← lines.foldlM State.apply {}
  let s ← s.close
  pure s.root

/-- Reads a document into its root table, or gives its first error. -/
def parseTable (text : String) : Except Error Table := do
  let lines ← Syntax.parse (tokenize text)
  tableOf lines

end FlasherStub.Toml
