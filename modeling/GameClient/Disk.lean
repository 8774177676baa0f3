/-! # What the disk holds

The disk is modelled as far as the program can tell it apart: one directory, and one file in it.
Each operation is answered by what stands there, or refused for a reason. What refuses an operation
for any other cause is a mishap, which is given from outside. Nobody else acts on the disk during an
access. -/

namespace GameClient.Disk

inductive Fault where
  | alreadyThere
  | notDirectory
  | isDirectory
  | notText
  /-- A cause that does not lie in what the disk holds. -/
  | failed (reason : String)
deriving DecidableEq

def Fault.message : Fault → String
  | alreadyThere => "File exists (os error 17)"
  | notDirectory => "Not a directory (os error 20)"
  | isDirectory => "Is a directory (os error 21)"
  | notText => "stream did not contain valid UTF-8"
  | failed reason => reason

/-- What fails of an access. -/
inductive Trouble where
  | none
  /-- The file cannot be read. -/
  | reading (reason : String)
  /-- The directory can be neither found nor made. -/
  | making (reason : String)
  /-- The file cannot be opened for writing. -/
  | opening (reason : String)
  /-- The file is emptied, and no more than its first bytes are written. -/
  | writing (reason : String) (count : Nat)
deriving DecidableEq

/-- What goes wrong during an access, whatever the disk holds: the rights or the room for it are
missing, the path is too long, or the device fails. -/
structure Mishap where
  /-- Whether the file is there cannot be told, and so it seems not to be. -/
  hidden : Bool := false
  trouble : Trouble := .none
deriving DecidableEq

def Mishap.none : Mishap := {}

/-- The core library's test, whatever else is in scope. -/
@[reducible] def sameContent : DecidableEq ByteArray := ByteArray.instDecidableEq

attribute [local instance] sameContent

inductive Entry where
  | absent
  | file (content : ByteArray)
  | directory
deriving DecidableEq

/-- What stands at the path of the directory. -/
inductive Place where
  | directory (entry : Entry)
  /-- Nothing, but directories can be made there. -/
  | absent
  | file
  /-- A path below a file. -/
  | belowFile
  /-- A path into a directory that is missing and back out of it, to one that is there. It leads
  nowhere until the missing one is made. -/
  | detour (entry : Entry)
deriving DecidableEq

namespace Place

/-- The file, seen from outside: where the path does not lead to a directory, there is no file. -/
def entry : Place → Entry
  | directory entry => entry
  | _ => .absent

/-- The file as it shows during an access. -/
def seen (place : Place) (mishap : Mishap) : Entry :=
  if mishap.hidden then .absent else place.entry

theorem seen_of_not_hidden {mishap : Mishap} (shown : mishap.hidden = false) (place : Place) :
    place.seen mishap = place.entry := by
  rw [seen, shown]
  rfl

/-- Makes the directory with all its parents, if it is not there. -/
def create (trouble : Trouble) (place : Place) : Except Fault Entry :=
  match trouble, place with
  | .making reason, _ => .error (.failed reason)
  | _, directory entry => .ok entry
  | _, absent => .ok .absent
  | _, file => .error .alreadyThere
  | _, belowFile => .error .notDirectory
  | _, detour entry => .ok entry

/-- Writes the file, in a directory that is made first. -/
def write (content : ByteArray) (place : Place) (trouble : Trouble := .none) :
    Except Fault Unit × Place :=
  match place.create trouble with
  | .error fault => (.error fault, place)
  | .ok .directory => (.error .isDirectory, directory .directory)
  | .ok entry =>
    match trouble with
    | .opening reason => (.error (.failed reason), directory entry)
    | .writing reason count =>
      (.error (.failed reason), directory (.file (content.extract 0 count)))
    | _ => (.ok (), directory (.file content))

end Place

/-- A path and a name below it, with one slash between them. -/
def join (path name : String) : String :=
  if path.isEmpty || path.endsWith "/" then path ++ name else path ++ "/" ++ name

def isAbsolute (path : String) : Bool := path.startsWith "/"

end GameClient.Disk
