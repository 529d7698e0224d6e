import LineTagger.Charset.Utf8

/-!
The files that a run finds below its working folder, and how a path leads to one of them.
-/

namespace LineTagger

/-- A file with its bytes, a folder, or what the system does not open, with the error it gives. -/
inductive FileEntry where
  | file (bytes : Bytes)
  | folder
  | refused (number : Int) (reason : String)
  deriving Repr, Inhabited

/-- What lies below the working folder, by the names on the way to it. -/
abbrev Folder := List (List String × FileEntry)

/-- A path: whether it starts at the root, and the names on the way. -/
structure Path where
  root : String
  names : List String
  deriving DecidableEq, Repr, Inhabited

namespace Path

/-- Reads a path. Names that are empty or a single dot are left out; two slashes at the start, and no
more, stay two. -/
def ofString (s : String) : Path :=
  let slashes := (s.toList.takeWhile (· = '/')).length
  { root := if slashes = 0 then "" else if slashes = 2 then "//" else "/"
    names := ((s.splitOn "/").filter fun n => n ≠ "" && n ≠ ".") }

/-- The path without what `ofString` leaves out. -/
def text (p : Path) : String :=
  let s := p.root ++ "/".intercalate p.names
  if s.isEmpty then "." else s

/-- The last name without its suffix; a dot at either end of the name starts none. -/
def stem (p : Path) : String :=
  match p.names.getLast? with
  | none => ""
  | some n =>
    let cs := n.toList
    let suffix := (cs.reverse.takeWhile (· ≠ '.')).length
    let dot := cs.length - suffix - 1
    if suffix = cs.length ∨ dot = 0 ∨ suffix = 0 then n
    else String.ofList (cs.take dot)

end Path

namespace Folder

/-- Adds an entry and the folders on the way to it. -/
def add (d : Folder) (p : Path) (e : FileEntry) : Folder :=
  (p.names, e) :: ((List.range p.names.length).map fun n => (p.names.take n, FileEntry.folder)) ++ d

/-- What is at the end of some names. The working folder itself is there. -/
def entry? (d : Folder) (names : List String) : Option FileEntry :=
  if names.isEmpty then some .folder else d.lookup names

def nameLimit : Nat := 255
def pathLimit : Nat := 4096

/-- Why a path leads nowhere. -/
def missing (p : Path) : Fault :=
  .system .notFound [.int 2, .text "No such file or directory", .text p.text]
def notFolder (p : Path) : Fault :=
  .system .notDirectory [.int 20, .text "Not a directory", .text p.text]
def isFolder (p : Path) : Fault :=
  .system .isDirectory [.int 21, .text "Is a directory", .text p.text]
def tooLong (p : Path) : Fault :=
  .system .other [.int 36, .text "File name too long", .text p.text]

def refusal (p : Path) (number : Int) (reason : String) : Fault :=
  .system (.ofNumber number) [.int number, .text reason, .text p.text]

/-- Follows names from a place below the working folder, given by the names that lead there, last
first; `none` is a place outside of it. -/
def follow (d : Folder) (p : Path) : Option (List String) → List String →
    Except Fault (Option (List String))
  | place, [] => .ok place
  | place, n :: rest =>
    if n.utf8ByteSize > nameLimit then .error (tooLong p)
    else match place with
      | none => if n = ".." then follow d p none rest else .error (missing p)
      | some here =>
        match d.entry? here.reverse with
        | none => .error (missing p)
        | some (.file _) => .error (notFolder p)
        | some (.refused number reason) => .error (refusal p number reason)
        | some .folder =>
          if n = ".." then
            match here with
            | [] => follow d p none rest
            | _ :: above => follow d p (some above) rest
          else if (d.entry? (n :: here).reverse).isNone then .error (missing p)
          else follow d p (some (n :: here)) rest

/-- The bytes of the file that a path leads to. -/
def read (d : Folder) (p : Path) : Except Fault Bytes :=
  if p.text.toList.contains '\x00' then .error (.value [.text "embedded null byte"])
  else if p.text.utf8ByteSize ≥ pathLimit then .error (tooLong p)
  else match d.follow p (if p.root.isEmpty then some [] else none) p.names with
    | .error f => .error f
    | .ok none => .error (isFolder p)
    | .ok (some here) =>
      match d.entry? here.reverse with
      | some (.file bs) => .ok bs
      | some (.refused number reason) => .error (refusal p number reason)
      | _ => .error (isFolder p)

/-- A text with every line end made a line feed. -/
def unifyLines : List Char → List Char
  | [] => []
  | '\r' :: '\n' :: rest => '\n' :: unifyLines rest
  | '\r' :: rest => '\n' :: unifyLines rest
  | c :: rest => c :: unifyLines rest

/-- The text of the file that a path leads to. -/
def readText (d : Folder) (p : Path) : Except Fault (List Char) := do
  let bs ← d.read p
  return unifyLines (← Charset.Utf8.decode bs)

end Folder

end LineTagger
