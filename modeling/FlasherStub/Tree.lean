import FlasherStub.Store
import FlasherStub.Path

/-!
A model of a working directory: the files and directories below it, each under its list of
path components. Paths are walked the way the operating system does it: empty parts are
skipped, `.` stays in the current directory, `..` goes to the parent, every part before the last
must be a directory, and a path ending with `/` must name a directory. A path of more than 4095
bytes is refused outright, and a name of more than 255 bytes when it is looked up in a directory.
Paths that leave the working directory name nothing in it. Absolute paths are walked from a root
that holds only the null device, `/dev/null`, which is no directory: a path going on below it
fails. `Tree` is a `Store` in
`StateM Tree`, so the program's file operations run on it as pure functions.
-/

namespace FlasherStub

/-- What a path names. -/
inductive Entry where
  | file (bytes : List UInt8)
  | dir
  /-- A device that reads as empty and discards what is written to it. -/
  | device
  deriving DecidableEq, Repr

/-- A working directory: its entries under their component lists, in order of creation. -/
structure Tree where
  entries : List (List String × Entry) := []
  deriving Repr

namespace Tree

/-- The entry at a location. -/
def get? (t : Tree) (loc : List String) : Option Entry :=
  (t.entries.find? (·.1 == loc)).map (·.2)

/-- Puts an entry at a location, replacing what was there. -/
def put (t : Tree) (loc : List String) (e : Entry) : Tree :=
  if (t.get? loc).isSome then
    { entries := t.entries.map fun x => if x.1 == loc then (loc, e) else x }
  else { entries := t.entries ++ [(loc, e)] }

/-- The outcome of walking a path. -/
inductive Walk where
  | found (loc : List String) (e : Entry)
  | absent (parent : List String) (name : String)
  | failed (err : IoError)
  | outside

/-- The longest name of one directory entry, in bytes. -/
def maxNameBytes : Nat := 255

/-- The longest path the operating system takes, in bytes. -/
def maxPathBytes : Nat := 4095

/-- Walks the parts of a path from the directory at `cur`, looking entries up with `look`. A `..`
at the top leaves the tree, unless `rooted`, when the top is the root and `..` stays there. A
name longer than `maxNameBytes` cannot be looked up in a directory. -/
def walkWith (look : List String → Option Entry) (rooted : Bool) (cur : List String) :
    List String → Walk
  | [] => .found cur .dir
  | "." :: rest => walkWith look rooted cur rest
  | ".." :: rest =>
    if cur.isEmpty then (if rooted then walkWith look rooted cur rest else .outside)
    else walkWith look rooted cur.dropLast rest
  | n :: rest =>
    if n.utf8ByteSize > maxNameBytes then .failed .nameTooLong
    else
      let loc := cur ++ [n]
      match look loc with
      | none => if rest.isEmpty then .absent cur n else .failed .notFound
      | some .dir => walkWith look rooted loc rest
      | some e => if rest.isEmpty then .found loc e else .failed .notADirectory

/-- The entries outside the working directory that a path from the root may name: the device
directory and the null device in it. -/
def systemEntry? : List String → Option Entry
  | ["dev"] => some .dir
  | ["dev", "null"] => some .device
  | _ => none

/-- Walks the parts of a path from the working directory. -/
def walk (t : Tree) (cur : List String) (ps : List String) : Walk := walkWith t.get? false cur ps

/-- The non-empty parts of a path. -/
def parts (p : String) : List String := (Path.pieces p).filter (· ≠ "")

/-- Whether a path must name a directory: it ends with `/` after some part. -/
def trailing (p : String) : Bool := p.endsWith "/" && !(parts p).isEmpty

/-- Whether a path starts from the root rather than the working directory. -/
def isAbsolute (p : String) : Bool := p.startsWith "/"

/-- Walks a path: from the working directory, or through the system entries from the root. A
path too long for the operating system names nothing. -/
def locate (t : Tree) (p : String) : Walk :=
  if p.utf8ByteSize > maxPathBytes then .failed .nameTooLong
  else if isAbsolute p then walkWith systemEntry? true [] (parts p)
  else t.walk [] (parts p)

/-- The bytes of a file; the null device reads as empty. -/
def read (t : Tree) (p : String) : Except IoError (List UInt8) :=
  match pathRefusal? p with
  | some e => .error e
  | none =>
    if p.isEmpty then .error .notFound
    else match t.locate p with
      | .found _ .dir => .error .isADirectory
      | .found _ (.file bs) => if trailing p then .error .notADirectory else .ok bs
      | .found _ .device => if trailing p then .error .notADirectory else .ok []
      | .absent _ _ | .outside => .error .notFound
      | .failed e => .error e

/-- Whether a path names a regular file. -/
def isFile (t : Tree) (p : String) : Bool :=
  (pathRefusal? p).isNone &&
    match t.locate p with
    | .found _ (.file _) => !trailing p
    | _ => false

/-- Whether a path names a directory. -/
def isDir (t : Tree) (p : String) : Bool :=
  !p.isEmpty && (pathRefusal? p).isNone &&
    match t.locate p with
    | .found _ .dir => true
    | _ => false

/-- Writes a file, creating it in an existing directory. Outside the working directory only the
null device takes writes, and discards them. -/
def write (t : Tree) (p : String) (bs : List UInt8) : Except IoError Tree :=
  match pathRefusal? p with
  | some e => .error e
  | none =>
    if p.isEmpty then .error .notFound
    else match t.locate p with
      | .found _ .dir => .error .isADirectory
      | .found _ .device => if trailing p then .error .notADirectory else .ok t
      | .found loc (.file _) =>
        if trailing p then .error .notADirectory
        else if isAbsolute p then .error .permissionDenied
        else .ok (t.put loc (.file bs))
      | .absent parent n =>
        if trailing p then .error .isADirectory
        else if isAbsolute p then .error .permissionDenied
        else .ok (t.put (parent ++ [n]) (.file bs))
      | .outside => .error .permissionDenied
      | .failed e => .error e

/-- Creates a directory in an existing directory of the working directory. -/
def makeDir (t : Tree) (p : String) : Except IoError Tree :=
  match pathRefusal? p with
  | some e => .error e
  | none =>
    if p.isEmpty then .error .notFound
    else match t.locate p with
      | .found _ _ => .error .alreadyExists
      | .absent parent n =>
        if isAbsolute p then .error .permissionDenied else .ok (t.put (parent ++ [n]) .dir)
      | .outside => .error .permissionDenied
      | .failed e => .error e

/-- A tree holding the given files (`some bytes`) and empty directories (`none`), with the
directories above them. -/
def ofFiles (files : List (String × Option (List UInt8))) : Tree :=
  files.foldl (fun t (p, content) =>
    let ps := parts p
    let withParents := (List.range ps.length).foldl (fun t i =>
      let loc := ps.take (i + 1)
      if i + 1 < ps.length && (t.get? loc).isNone then t.put loc .dir else t) t
    match content with
    | some bs => withParents.put ps (.file bs)
    | none => if (withParents.get? ps).isNone then withParents.put ps .dir else withParents) {}

/-- The regular files of `after` that are new or whose bytes differ from `before`, by path text
in sorted order. -/
def changedFiles (before after : Tree) : List (String × List UInt8) :=
  let changed := after.entries.filterMap fun (loc, e) =>
    match e with
    | .file bs =>
      if before.get? loc == some (.file bs) then none else some ("/".intercalate loc, bs)
    | _ => none
  changed.mergeSort (fun a b => decide (a.1 ≤ b.1))

end Tree

/-- A tree as the working directory of pure file operations. -/
instance : Store (StateM Tree) where
  read p := do pure ((← get).read p)
  isFile p := do pure ((← get).isFile p)
  isDir p := do pure ((← get).isDir p)
  write p bs := do
    match (← get).write p bs with
    | .ok t => set t; pure (.ok ())
    | .error e => pure (.error e)
  makeDir p := do
    match (← get).makeDir p with
    | .ok t => set t; pure (.ok ())
    | .error e => pure (.error e)

end FlasherStub
