import Rendezvous.Text.Split

namespace Rendezvous.Exit

inductive Fault where
  | inUse (path : String)
  | notFound
  | notDirectory
  | isDirectory
  | nameTooLong
  | invalidPath
  | refused
deriving DecidableEq, Repr

def Fault.message : Fault → String
  | .inUse path => "Exit-Kanal '" ++ path ++ "' wird bereits benutzt"
  | .notFound => "No such file or directory"
  | .notDirectory => "Not a directory"
  | .isDirectory => "Is a directory"
  | .nameTooLong => "File name too long"
  | .invalidPath => "Invalid argument"
  | .refused => "Connection refused"

abbrev Place := List String

namespace Path

def greatestName : Nat := 255

def greatestSize : Nat := 4095

def greatestSocketSize : Nat := 107

def isAbsolute (path : String) : Bool := path.toList.head? == some '/'

def join (directory path : String) : String :=
  if isAbsolute path then path
  else if directory.toList.getLast? == some '/' then directory ++ path
  else directory ++ "/" ++ path

def parts (path : String) : List String := (Text.splitAll '/' path.toList).map String.ofList

def isNameless (part : String) : Bool := part == "" || part == "."

def step (here : Place) (part : String) : Place :=
  if isNameless part then here
  else if part = ".." then here.dropLast
  else here ++ [part]

def way (path : String) : List Place := (parts path).scanl step []

inductive Kind where
  | directory
  | file
deriving DecidableEq, Repr

def walk (kind? : Place → Option Kind) (here : Place) : List String → Except Fault Place
  | [] => .ok here
  | part :: rest =>
    if isNameless part then walk kind? here rest
    else if part = ".." then walk kind? here.dropLast rest
    else if greatestName < part.utf8ByteSize then .error .nameTooLong
    else if rest.isEmpty then .ok (here ++ [part])
    else
      match kind? (here ++ [part]) with
      | none => .error .notFound
      | some .file => .error .notDirectory
      | some .directory => walk kind? (here ++ [part]) rest

def hasNul (path : String) : Bool := path.toList.contains '\x00'

def locate (kind? : Place → Option Kind) (path : String) : Except Fault Place :=
  if hasNul path then .error .invalidPath
  else if greatestSize < path.utf8ByteSize then .error .nameTooLong
  else walk kind? [] (parts path)

def fitsSocket (path : String) : Bool :=
  !hasNul path && path.utf8ByteSize ≤ greatestSocketSize

end Path

end Rendezvous.Exit
