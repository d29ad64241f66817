/-
This file says how paths lead through folders to files.

A path is walked name by name from the working folder, or from the root when it
begins with a slash. Wherever it goes on, there has to be a folder: also before
the name that leads back out of a folder, and before a slash at the end. New
folders are made like this one by one, those further out first.
-/

namespace AccessFeed.Files

/-- A place among the folders: the names that lead to it, the last one first. The way out of the
working folder has the name of two points, and the root that of a slash. -/
abbrev Place := List String

/-- What stands at the places that are known: plain files and folders. The folders on the way to
either are known with it. -/
structure Tree where
  files : List Place
  folders : List Place
deriving Repr

/-- Why a path cannot be walked, or a folder cannot be made. -/
inductive Obstacle
  | missing
  | notFolder
  | taken
  | tooLong
  | zeroCharacter
deriving DecidableEq, Repr

/-- The wording of an obstacle. -/
def Obstacle.message : Obstacle → String
  | .missing => "No such file or directory (os error 2)"
  | .notFolder => "Not a directory (os error 20)"
  | .taken => "File exists (os error 17)"
  | .tooLong => "File name too long (os error 36)"
  | .zeroCharacter => "file name contained an unexpected NUL byte"

/-! ### Paths -/

/-- The greatest number of bytes of a name. -/
def longestName : Nat := 255

/-- The greatest number of bytes of a path. -/
def longestPath : Nat := 4095

/-- The place where the walk along a path begins. -/
def origin (path : String) : Place :=
  if path.startsWith "/" then ["/"] else []

/-- Whether a part of a path leads nowhere else. -/
def isIdle (part : String) : Bool :=
  part == "" || part == "."

/-- The parts of a path between its slashes. -/
def partsOf (path : String) : List String :=
  path.splitOn "/"

/-- The parts of a path that lead somewhere. -/
def namesOf (path : String) : List String :=
  (partsOf path).filter fun part => !isIdle part

/-- The place around another one; there is none around the root. -/
def around : Place → Place
  | ["/"] => ["/"]
  | [] => [".."]
  | ".." :: rest => ".." :: ".." :: rest
  | _ :: rest => rest

/-- The place to which a path leads when there are folders wherever they are needed. -/
def placeOf (path : String) : Place :=
  (namesOf path).foldl (fun here name => if name = ".." then around here else name :: here)
    (origin path)

/-- A path with a name behind its last one in place of that name, whatever stands behind it; a
path that ends with the way out of a folder has no last name. -/
def renamed? (path : String) (change : String → String) : Option String :=
  match (partsOf path).reverse.dropWhile isIdle with
  | [] => none
  | name :: before =>
    if name = ".." then none else some ("/".intercalate (change name :: before).reverse)

/-- The paths to the places on the way along a path, that of its end being the last one. -/
def waysTo (path : String) : List String :=
  let parts := partsOf path
  (List.range parts.length).map fun index => "/".intercalate (parts.take (index + 1))

namespace Tree

/-- The tree of the plain files and the folders with given paths. -/
def ofPaths (files folders : List String) : Tree :=
  ⟨files.map placeOf, folders.map placeOf⟩

/-- Whether a plain file stands at a place. -/
def isFile (tree : Tree) (place : Place) : Bool :=
  tree.files.contains place

/-- Whether a folder stands at a place. -/
def isFolder (tree : Tree) (place : Place) : Bool :=
  place == ["/"] || place.all (· == "..") || tree.folders.contains place ||
    (tree.files ++ tree.folders).any fun other => place.isSuffixOf other && place != other

/-- Walks along the parts of a path, each of which needs a folder to begin in. -/
def walk (tree : Tree) : Place → List String → Except Obstacle Place
  | here, [] => .ok here
  | here, part :: rest =>
    if !tree.isFolder here then .error (if tree.isFile here then .notFolder else .missing)
    else if isIdle part then walk tree here rest
    else if part = ".." then walk tree (around here) rest
    else if longestName < part.utf8ByteSize then .error .tooLong
    else walk tree (part :: here) rest

/-- The place to which a path leads; nothing need stand there. -/
def find (tree : Tree) (path : String) : Except Obstacle Place :=
  if path.toList.contains '\x00' then .error .zeroCharacter
  else if longestPath < path.utf8ByteSize then .error .tooLong
  else tree.walk (origin path) (partsOf path)

/-- Whether a path leads to a plain file. -/
def leadsToFile (tree : Tree) (path : String) : Bool :=
  match tree.find path with
  | .ok place => tree.isFile place
  | .error _ => false

/-! ### New folders -/

/-- Makes a folder of a name at a place. -/
def addFolder (tree : Tree) (here : Place) (name : String) : Except Obstacle Tree :=
  let place := name :: here
  if !tree.isFolder here then .error (if tree.isFile here then .notFolder else .missing)
  else if name = ".." then .error .taken
  else if longestName < name.utf8ByteSize then .error .tooLong
  else if tree.isFile place || tree.isFolder place then .error .taken
  else .ok { tree with folders := place :: tree.folders }

/-- Makes the folder to which names lead, the last one being given first. -/
def makeFolder (tree : Tree) (start : Place) (name : String) (outer : List String) :
    Except Obstacle Tree := do
  tree.addFolder (← tree.walk start outer.reverse) name

/-- Whether names lead to a folder, the last one being given first. -/
def reachesFolder (tree : Tree) (start : Place) (names : List String) : Bool :=
  match tree.walk start names.reverse with
  | .ok place => tree.isFolder place
  | .error _ => false

/-- Makes the folder to which names lead, unless it is there. -/
def settleFolder (tree : Tree) (start : Place) (name : String) (outer : List String) :
    Except Obstacle Tree :=
  match tree.makeFolder start name outer with
  | .ok tree => .ok tree
  | .error obstacle =>
    if tree.reachesFolder start (name :: outer) then .ok tree else .error obstacle

/-- Makes the folder to which names lead, the last one being given first, and those on the way to
it that are missing. -/
def makeFolders (tree : Tree) (start : Place) : List String → Except Obstacle Tree
  | [] => .ok tree
  | name :: outer =>
    match tree.settleFolder start name outer with
    | .error .missing =>
      (tree.makeFolders start outer).bind fun tree => tree.settleFolder start name outer
    | other => other

/-- Makes the folder of a path and those on the way to it that are missing. -/
def withFolder (tree : Tree) (path : String) : Except Obstacle Tree :=
  if path.toList.contains '\x00' then .error .zeroCharacter
  else if longestPath < path.utf8ByteSize then .error .tooLong
  else tree.makeFolders (origin path) (namesOf path).reverse

end Tree

end AccessFeed.Files
