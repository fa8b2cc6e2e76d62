import SchemaForm.Entries
import SchemaForm.Path
import SchemaForm.Surroundings

/-!
# File trees

A tree of files and directories in memory, with a working directory that paths
start from.  It stands in for the files of a machine.  Of the directories above
the working directory nothing is known but that they exist.

A change that needs several steps, such as making a directory and those above
it, keeps what the steps before a failure have done.
-/

namespace SchemaForm

/-- A file or a directory. -/
inductive FileTree where
  | file (content : String)
  | directory (entries : List (String × FileTree))
deriving Inhabited

namespace FileTree

/-- A directory with nothing in it. -/
def empty : FileTree :=
  .directory []

/-! ## Places -/

/-- A place in a tree: the names from the working directory down, the last one first, or a
directory outside the working directory. -/
inductive Place where
  | inside (names : List String)
  | outside
deriving DecidableEq, Repr

/-- Why a path leads nowhere. -/
inductive Dead where
  /-- A name on the way is not there. -/
  | missing
  /-- The path cannot be followed: it enters a file, or a text in it is too long. -/
  | blocked
deriving DecidableEq, Repr

/-- The greatest length of a name in bytes. -/
def nameLimit : Nat :=
  255

/-- The greatest length of a path in bytes. -/
def pathLimit : Nat :=
  4095

/-- The node under several names, the first one at the top. -/
def nodeUnder? : FileTree → List String → Option FileTree
  | tree, [] => some tree
  | .file _, _ :: _ => none
  | .directory entries, name :: rest =>
      match Entries.get? entries name with
      | some child => nodeUnder? child rest
      | none => none

/-- The node at a place inside. -/
def node? (tree : FileTree) : Place → Option FileTree
  | .inside names => tree.nodeUnder? names.reverse
  | .outside => none

/-- Whether a step of a path stays at its directory. -/
def stays (step : List Char) : Bool :=
  step == ['.']

/-- Whether a step of a path leads to the directory above. -/
def climbs (step : List Char) : Bool :=
  step == ['.', '.']

/-- One step from a place. -/
def visit (tree : FileTree) (place : Place) (step : List Char) : Except Dead Place :=
  match place with
  | .outside => if stays step || climbs step then .ok .outside else .error .missing
  | .inside names =>
      match tree.node? (.inside names) with
      | some (.directory entries) =>
          if stays step then .ok (.inside names)
          else if climbs step then
            .ok (match names with
              | [] => .outside
              | _ :: above => .inside above)
          else
            let name := String.ofList step
            if nameLimit < name.utf8ByteSize then .error .blocked
            else if Entries.has entries name then .ok (.inside (name :: names))
            else .error .missing
      | some (.file _) => .error .blocked
      | none => .error .missing

/-- A path in the form in which it is followed: where it starts, its steps, and whether it has to
lead to a directory because a slash ends it. -/
structure Route where
  start : Place
  steps : List (List Char)
  toDirectory : Bool
deriving DecidableEq, Repr

namespace Route

/-- The route of a path. -/
def ofPath (path : String) : Except Dead Route :=
  let cs := path.toList
  if cs.isEmpty then .error .missing
  else if cs.contains '\x00' || pathLimit < path.utf8ByteSize then .error .blocked
  else
    let start := if cs.head? = some '/' then .outside else .inside []
    let steps := (Text.splitOn '/' cs).filter fun step => !step.isEmpty
    .ok ⟨start, steps, cs.getLast? == some '/'⟩

/-- Leave out steps that stay in place at the end of a route, a first step excepted. -/
def trim : List (List Char) → List (List Char)
  | [] => []
  | first :: rest => first :: (rest.reverse.dropWhile stays).reverse

/-- A route and those to the directories on its way, the shortest last. -/
def ancestors (route : Route) : Nat → List Route
  | 0 => []
  | fuel + 1 =>
      match (trim route.steps).dropLast with
      | [] => [route]
      | above => route :: ancestors ⟨route.start, trim above, false⟩ fuel

end Route

/-- The place that a route leads to. -/
def followRoute (tree : FileTree) (route : Route) : Except Dead Place := do
  let place ← route.steps.foldlM tree.visit route.start
  if route.toDirectory then tree.visit place ['.'] else return place

/-- The place that a path leads to. -/
def follow (tree : FileTree) (path : String) : Except Dead Place := do
  tree.followRoute (← Route.ofPath path)

/-- Whether there is a directory at a place. -/
def isDirectoryAt (tree : FileTree) : Except Dead Place → Bool
  | .ok .outside => true
  | .ok place =>
      match tree.node? place with
      | some (.directory _) => true
      | _ => false
  | .error _ => false

/-- The content of the file that a path leads to. -/
def content? (tree : FileTree) (path : String) : Option String :=
  match tree.follow path with
  | .ok place =>
      match tree.node? place with
      | some (.file content) => some content
      | _ => none
  | .error _ => none

/-- Whether a path leads to a file. -/
def isFile (tree : FileTree) (path : String) : Bool :=
  (tree.content? path).isSome

/-- Whether a path leads to a directory. -/
def isDirectory (tree : FileTree) (path : String) : Bool :=
  tree.isDirectoryAt (tree.follow path)

/-! ## Changing -/

/-- Change the entries of the directory under several names. -/
def changeUnder (change : List (String × FileTree) → List (String × FileTree)) :
    FileTree → List String → FileTree
  | .file content, _ => .file content
  | .directory entries, [] => .directory (change entries)
  | .directory entries, name :: rest =>
      match Entries.get? entries name with
      | some child => .directory (Entries.put entries name (changeUnder change child rest))
      | none => .directory entries

/-- The directory above the end of a route, and the name at the end.  A route that ends in a step
to the same directory or the one above has no name. -/
def doorOf (tree : FileTree) (route : Route) : Except Dead (List String × Option String) := do
  match route.steps.getLast? with
  | none => return ([], none)
  | some last =>
      match ← tree.followRoute ⟨route.start, route.steps.dropLast, true⟩ with
      | .outside => if stays last || climbs last then return ([], none) else throw .blocked
      | .inside names =>
          if stays last || climbs last then return (names, none)
          else
            let name := String.ofList last
            if nameLimit < name.utf8ByteSize then throw .blocked else return (names, some name)

/-- Write a file at a path; its directory has to be there. -/
def writeAt? (tree : FileTree) (path content : String) : Option FileTree :=
  match Route.ofPath path with
  | .error _ => none
  | .ok route =>
      if route.toDirectory then none
      else
        match tree.doorOf route with
        | .ok (names, some name) =>
            match tree.node? (.inside (name :: names)) with
            | some (.directory _) => none
            | _ =>
                some (tree.changeUnder (fun entries => Entries.put entries name (.file content))
                  names.reverse)
        | _ => none

/-- What comes of making one directory. -/
inductive Making where
  | made (tree : FileTree)
  | taken
  | dead (reason : Dead)

/-- Make one directory at the end of a route. -/
def makeOne (tree : FileTree) (route : Route) : Making :=
  match tree.doorOf route with
  | .error reason => .dead reason
  | .ok (_, none) => .taken
  | .ok (names, some name) =>
      match tree.node? (.inside (name :: names)) with
      | some _ => .taken
      | none =>
          .made (tree.changeUnder (fun entries => Entries.put entries name empty) names.reverse)

/-- Make the first directory of a list of routes, after those of the others where they are
missing. -/
def makeAll : List Route → FileTree → Bool × FileTree
  | [], tree => (true, tree)
  | route :: above, tree =>
      match tree.makeOne route with
      | .made changed => (true, changed)
      | .taken => (tree.isDirectoryAt (tree.followRoute route), tree)
      | .dead .blocked => (false, tree)
      | .dead .missing =>
          match makeAll above tree with
          | (false, changed) => (false, changed)
          | (true, changed) =>
              match changed.makeOne route with
              | .made changed => (true, changed)
              | .taken => (changed.isDirectoryAt (changed.followRoute route), changed)
              | .dead _ => (false, changed)

/-- Make a directory at a path and those above it, and tell whether it is there now. -/
def makeDirectoryAt (tree : FileTree) (path : String) : Bool × FileTree :=
  if path.isEmpty then (true, tree)
  else
    match Route.ofPath path with
    | .error _ => (false, tree)
    | .ok route => makeAll (route.ancestors (route.steps.length + 1)) tree

/-- Remove what a path leads to, a directory with all that is in it, and tell whether it is gone.
A directory cannot be removed from within itself, but it is emptied first. -/
def removeAt (tree : FileTree) (path : String) : Bool × FileTree :=
  match Route.ofPath path with
  | .error _ => (false, tree)
  | .ok route =>
      match tree.followRoute route with
      | .error _ | .ok .outside => (false, tree)
      | .ok (.inside names) =>
          match tree.doorOf route with
          | .ok (above, some name) =>
              (true, tree.changeUnder (fun entries => Entries.erase entries name) above.reverse)
          | _ =>
              let emptied := tree.changeUnder (fun _ => []) names.reverse
              match emptied.doorOf route with
              | .error .missing => (true, emptied)
              | _ => (false, emptied)

/-- A machine with these files, whose user has a home directory. -/
def surroundings (tree : FileTree) (today : String → String) : Surroundings where
  isFile := tree.isFile
  isDirectory := tree.isDirectory
  hasHome := true
  today := today

end FileTree
end SchemaForm
