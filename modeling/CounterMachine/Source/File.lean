import CounterMachine.Source.Load

/-!
# Program files

A program file is looked up by its path and holds a program in UTF-8.
`Directory` is a working directory that holds some files and nothing else.
-/

namespace CounterMachine

/-- A working directory that holds the given files, by name. -/
structure Directory where
  files : List (String × ByteArray)

namespace Directory

/-- How far a path has led: to the working directory, to some other directory,
or to a file. -/
inductive Place where
  | here
  | elsewhere
  | file (bytes : ByteArray)

def nameLimit : Nat := 255

def pathLimit : Nat := 4095

/-- One component of a path further. Of directories other than the working
directory nothing is known. -/
def walk (d : Directory) : Place → List Char → Except ReadFailure Place
  | .file _, _ => .error .notADirectory
  | place, [] | place, ['.'] => .ok place
  | _, ['.', '.'] => .ok .elsewhere
  | place, cs =>
    let name := String.ofList cs
    if nameLimit < name.utf8ByteSize then .error .nameTooLong
    else
      match place, d.files.lookup name with
      | .here, some bytes => .ok (.file bytes)
      | _, _ => .error .notFound

def read (d : Directory) (path : String) : Except ReadFailure ByteArray :=
  let start := match path.toList with
    | '/' :: _ => Place.elsewhere
    | _ => Place.here
  if path.toList.contains '\x00' then .error .nullInPath
  else if path.isEmpty then .error .notFound
  else if pathLimit < path.utf8ByteSize then .error .nameTooLong
  else
    match (Text.pieces '/' path.toList).foldlM d.walk start with
    | .ok (.file bytes) => .ok bytes
    | .ok _ => .error .isDirectory
    | .error e => .error e

end Directory

def Setup.ofFile (read : String → Except ReadFailure ByteArray) (path : String) :
    Except LoadError Setup :=
  match read path with
  | .error failure => .error (.unreadable path failure)
  | .ok bytes =>
    match String.fromUTF8? bytes with
    | none => .error (.unreadable path .notText)
    | some source => Setup.load source

end CounterMachine
