import CoachScript.Text.Pieces

/-!
# Files by path

* `FileFault`: why a path leads to no text.
* `Directory`: the files below the working directory.
* `Directory.read`: follows a path name by name. An empty name and `.` stay, `..` goes up, any other
  name goes down. **Nothing goes on from a file**, not even an empty name (`follow_file`).
-/

namespace CoachScript

/-- Why a path leads to no text. -/
inductive FileFault where
  | missing
  | notDirectory
  | isDirectory
  | nameTooLong
  | unreadable (problem : String)
deriving DecidableEq, Repr

namespace FileFault

/-- The wording of a fault. -/
def message : FileFault → String
  | .missing => "No such file or directory (os error 2)"
  | .notDirectory => "Not a directory (os error 20)"
  | .isDirectory => "Is a directory (os error 21)"
  | .nameTooLong => "File name too long (os error 36)"
  | .unreadable problem => problem

/-- There is something at the path, though no text. -/
def isFound : FileFault → Bool
  | .isDirectory | .unreadable _ => true
  | .missing | .notDirectory | .nameTooLong => false

/-- The fault of a path: the path is named where nothing was found. -/
def report (e : FileFault) (path : String) : String :=
  if e.isFound then e.message else String.join [path, ": ", e.message]

end FileFault

/-- The number of bytes of a text. -/
def byteCount (text : List Char) : Nat := text.foldl (fun n c => n + c.utf8Size) 0

/-- The most bytes that a name can have. -/
def longestName : Nat := 255

/-- The most bytes that a path can have. -/
def longestPath : Nat := 4095

/-- The files below the working directory, by the names that lead to them. -/
structure Directory where
  files : List (List (List Char) × String)
deriving DecidableEq, Repr

/-- Where the names of a path lead to. -/
inductive Place where
  | file (text : String)
  /-- A directory, by the names from the working directory down to it. -/
  | directory (names : List (List Char))
  /-- Above the working directory, where no names are known. -/
  | above
deriving DecidableEq, Repr

/-- One directory up. -/
def Place.parent : Place → Place
  | .directory (name :: names) => .directory (name :: names).dropLast
  | _ => .above

namespace Directory

/-- The name stays where it is. -/
def isIdle (name : List Char) : Bool := name.isEmpty || name == ['.']

/-- The files of a table by path. -/
def ofFiles (files : List (String × String)) : Directory :=
  ⟨files.map fun (path, text) => ((pieces '/' path.toList).filter (!isIdle ·), text)⟩

/-- What the names from the working directory down lead to. -/
def place? (d : Directory) (names : List (List Char)) : Option Place :=
  match d.files.lookup names with
  | some text => some (.file text)
  | none => if d.files.any (names.isPrefixOf ·.1) then some (.directory names) else none

/-- Goes on from a place by one name. -/
def follow (d : Directory) (place : Place) (name : List Char) : Except FileFault Place :=
  match place with
  | .file _ => .error .notDirectory
  | place =>
    if isIdle name then .ok place
    else if name = ['.', '.'] then .ok place.parent
    else if longestName < byteCount name then .error .nameTooLong
    else
      match place with
      | .directory names =>
        match d.place? (names ++ [name]) with
        | some place => .ok place
        | none => .error .missing
      | _ => .error .missing

theorem follow_file (d : Directory) (text : String) (name : List Char) :
    d.follow (.file text) name = .error .notDirectory := rfl

/-- Goes on from a place by several names. -/
def followAll (d : Directory) (place : Place) : List (List Char) → Except FileFault Place
  | [] => .ok place
  | name :: names =>
    match d.follow place name with
    | .ok place => d.followAll place names
    | .error e => .error e

/-- Where a path begins: above all names if with a slash, else in the working directory. -/
def startOf (path : List Char) : Place := if path.head? = some '/' then .above else .directory []

/-- The text of the file at a path. -/
def read (d : Directory) (path : String) : Except FileFault String :=
  if path.isEmpty then .error .missing
  else if longestPath < byteCount path.toList then .error .nameTooLong
  else
    match d.followAll (startOf path.toList) (pieces '/' path.toList) with
    | .ok (.file text) => .ok text
    | .ok _ => .error .isDirectory
    | .error e => .error e

end Directory

end CoachScript
