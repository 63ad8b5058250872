import GuardedWork.Text.Blank

namespace GuardedWork

-- Variables and files hold bytes, which are text only if they are UTF-8.
def textOf? (bytes : ByteArray) : Option String := String.fromUTF8? bytes

inductive FileEntry where
  | file (bytes : ByteArray)
  | directory

-- By the names from the root down, the latest entry first.
structure Files where
  entries : List (List String × FileEntry)

namespace Files

-- Where relative paths begin. No path can spell these names, so that only relative ones lead there.
def workingDirectory : List String := ["", ""]

-- Found on every machine; the null device reads as an empty file.
def systemDirectories : List String :=
  ["bin", "boot", "dev", "etc", "home", "lib", "media", "mnt", "opt", "proc", "root", "run", "sbin", "srv", "sys",
    "tmp", "usr", "var"]

def initial : Files where
  entries := [([""], .directory), (workingDirectory, .directory), (["dev", "null"], .file .empty)] ++
    systemDirectories.map fun d => ([d], .directory)

def entry? (f : Files) (names : List String) : Option FileEntry :=
  if names.isEmpty then some .directory else f.entries.lookup names

def isDirectory (f : Files) (names : List String) : Bool := (f.entry? names) matches some .directory

def add (names : List String) (entry : FileEntry) (f : Files) : Files := ⟨(names, entry) :: f.entries⟩

def parts (path : String) : List String := (path.toList.splitOn '/').map String.ofList

-- The directory a path sets out from.
def origin (path : String) : List String := if path.toList.head? = some '/' then [] else workingDirectory

-- The names a path leads to. Each name but the last must be a directory, and so must the last if
-- a slash or a dot follows. The root is above itself.
def follow (f : Files) : List String → List String → Option (List String)
  | names, [] => some names
  | names, part :: more =>
    if !f.isDirectory names then none
    else if part = "" ∨ part = "." then follow f names more
    else if part = ".." then follow f names.dropLast more
    else if (f.entry? (names ++ [part])).isSome then follow f (names ++ [part]) more
    else none

-- The most bytes of a path that leads anywhere.
def mostPathBytes : Nat := 4095

def resolve? (f : Files) (path : String) : Option (List String) :=
  if path = "" ∨ mostPathBytes < path.utf8ByteSize then none else f.follow (origin path) (parts path)

def find? (f : Files) (path : String) : Option FileEntry := (f.resolve? path).bind f.entry?

-- The same way, where directories that are missing are made. A file does not give way to one.
def makeWay (names : List String) : List String → Files → Option (List String × Files)
  | [], f => some (names, f)
  | part :: more, f =>
    if part = "" ∨ part = "." then makeWay names more f
    else if part = ".." then makeWay names.dropLast more f
    else
      let next := names ++ [part]
      match f.entry? next with
      | some .directory => makeWay next more f
      | some (.file _) => none
      | none => makeWay next more (f.add next .directory)

def makeDirectory (path : String) (f : Files) : Files :=
  match makeWay (origin path) (parts path) f with
  | some (_, made) => made
  | none => f

-- A directory does not give way to a file.
def write (path : String) (bytes : ByteArray) (f : Files) : Files :=
  match makeWay (origin path) (parts path).dropLast f, (parts path).getLast? with
  | some (above, made), some last =>
    let names := above ++ [last]
    if last = "" ∨ last = "." ∨ last = ".." ∨ made.isDirectory names then made else made.add names (.file bytes)
  | _, _ => f

-- Only a file is removed.
def remove (path : String) (f : Files) : Files :=
  match f.resolve? path with
  | none => f
  | some names => if f.isDirectory names then f else ⟨f.entries.filter fun e => e.1 ≠ names⟩

end Files

structure Surroundings where
  environment : List (String × ByteArray)
  files : Files

namespace Surroundings

def initial : Surroundings := ⟨[], .initial⟩

-- A variable whose bytes are no text is not there.
def valueOf? (s : Surroundings) (key : String) : Option String := (s.environment.lookup key).bind textOf?

-- A blank one is as good as unset.
def filled? (s : Surroundings) (key : String) : Option String :=
  (s.valueOf? key).filter fun v => !Text.isBlank v

-- A name is not empty, and neither an equals sign nor a NUL is in it.
def canBeNamed (key : String) : Bool := key ≠ "" && key.toList.all fun c => c ≠ '=' && c ≠ '\x00'

-- none where there can be no such variable; no value holds a NUL.
def setVariable? (key : String) (value : ByteArray) (s : Surroundings) : Option Surroundings :=
  if canBeNamed key && !value.data.contains 0 then
    some { s with environment := (key, value) :: s.environment.filter fun v => v.1 ≠ key }
  else none

def unsetVariable? (key : String) (s : Surroundings) : Option Surroundings :=
  if canBeNamed key then some { s with environment := s.environment.filter fun v => v.1 ≠ key } else none

end Surroundings
end GuardedWork
