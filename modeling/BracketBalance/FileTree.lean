namespace BracketBalance

inductive ReadFailure
  | notFound
  | notADirectory
  | isADirectory
  | nameTooLong
  deriving DecidableEq, Repr

def ReadFailure.message : ReadFailure → String
  | notFound => "No such file or directory (os error 2)"
  | notADirectory => "Not a directory (os error 20)"
  | isADirectory => "Is a directory (os error 21)"
  | nameTooLong => "File name too long (os error 36)"

abbrev Place := List (List UInt8)

structure FileTree where
  directories : List Place
  files : List (Place × List UInt8)
  /-- Where paths begin that do not begin at the root. -/
  workingDirectory : Place

namespace FileTree

inductive Entry
  | directory
  | file (content : List UInt8)

def longestName : Nat := 255

def longestPath : Nat := 4095

def entry? (tree : FileTree) (place : Place) : Option Entry :=
  if place.isEmpty || tree.directories.contains place then some .directory
  else (tree.files.lookup place).map .file

def names : List UInt8 → List (List UInt8)
  | [] => [[]]
  | b :: path =>
    if b = '/'.toUInt8 then [] :: names path
    else
      match names path with
      | [] => [[b]]
      | name :: rest => (b :: name) :: rest

def enter (place : Place) (name : List UInt8) : Except ReadFailure Place :=
  match name with
  | [] | [0x2E] => .ok place
  | [0x2E, 0x2E] => .ok place.tail
  | name => if longestName < name.length then .error .nameTooLong else .ok (name :: place)

def follow (tree : FileTree) (place : Place) : List (List UInt8) → Except ReadFailure Entry
  | [] =>
    match tree.entry? place with
    | none => .error .notFound
    | some entry => .ok entry
  | name :: rest =>
    match tree.entry? place with
    | none => .error .notFound
    | some (.file _) => .error .notADirectory
    | some .directory =>
      match enter place name with
      | .error failure => .error failure
      | .ok next => follow tree next rest

def beginning (tree : FileTree) (path : List UInt8) : Place :=
  if path.head? = some '/'.toUInt8 then [] else tree.workingDirectory

def read (tree : FileTree) (path : List UInt8) : Except ReadFailure (List UInt8) :=
  if longestPath < path.length then .error .nameTooLong
  else
    match tree.follow (tree.beginning path) (names path) with
    | .error failure => .error failure
    | .ok .directory => .error .isADirectory
    | .ok (.file content) => .ok content

def plainNames (path : List UInt8) : List (List UInt8) :=
  (names path).filter fun name => !name.isEmpty && name != [0x2E]

/-- The place that a path without two dots names. -/
def place (tree : FileTree) (path : List UInt8) : Place :=
  (plainNames path).reverse ++ tree.beginning path

def withAncestors : Place → List Place
  | [] => []
  | name :: place => (name :: place) :: withAncestors place

def addDirectory (tree : FileTree) (path : List UInt8) : FileTree :=
  { tree with directories := withAncestors (tree.place path) ++ tree.directories }

def addFile (tree : FileTree) (path content : List UInt8) : FileTree :=
  { tree with files := (tree.place path, content) :: tree.files }

end FileTree

end BracketBalance
