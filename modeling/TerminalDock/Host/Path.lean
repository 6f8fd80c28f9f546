/-! Paths with slashes. Single dots and repeated or trailing slashes say nothing and are dropped; double
dots stay, and exactly two leading slashes are kept apart from one. -/

namespace TerminalDock

/-- A path: how many slashes it starts with (none, one or two), and its parts. -/
structure Path where
  slashes : Nat := 0
  parts : List String := []
  deriving DecidableEq, Repr

namespace Path

def pieces (text : List Char) : List (List Char) :=
  text.foldr (fun c done =>
    if c == '/' then [] :: done
    else
      match done with
      | [] => [[c]]
      | piece :: rest => (c :: piece) :: rest) [[]]

def ofText (text : String) : Path :=
  let chars := text.toList
  let leading := (chars.takeWhile (· == '/')).length
  { slashes := if leading == 2 then 2 else min leading 1
    parts := ((pieces chars).filter fun piece => piece != [] && piece != ['.']).map String.ofList }

/-- The text of a path; the empty one is the current directory. -/
def text (path : Path) : String :=
  if path.slashes == 0 && path.parts.isEmpty then "."
  else String.ofList (List.replicate path.slashes '/') ++ String.intercalate "/" path.parts

def join (path : Path) (names : List String) : Path :=
  { path with parts := path.parts ++ names }

/-- The parts with double dots resolved against what comes before them. -/
def resolvedParts (parts : List String) : List String :=
  (parts.foldl (fun done part => if part == ".." then done.drop 1 else part :: done) []).reverse

/-- The absolute path that a path denotes in a working directory. -/
def resolve (path working : Path) : Path :=
  { slashes := 1
    parts := resolvedParts (if path.slashes == 0 then working.parts ++ path.parts else path.parts) }

end Path

/-- What exists in a file system, by absolute resolved paths. -/
structure FileSystem where
  directories : List Path
  files : List Path
  working : Path := { slashes := 1 }
  deriving Repr

namespace FileSystem

/-- A small system: a root with a directory for programs, a shell in it, a directory for scratch, and one to
work in. -/
def basic : FileSystem where
  directories := [Path.ofText "/", Path.ofText "/tmp", Path.ofText "/bin", Path.ofText "/work"]
  files := [Path.ofText "/bin/sh"]
  working := Path.ofText "/work"

/-- One step of a walk: only a directory can be left, for its parent or for something in it. -/
def step (system : FileSystem) (place : Path) (part : String) : Option Path :=
  if !system.directories.contains place then none
  else if part == ".." then some { place with parts := place.parts.dropLast }
  else some (place.join [part])

/-- Where a path leads, if the walk along its parts comes to an end. -/
def walk (system : FileSystem) (path : Path) : Option Path :=
  path.parts.foldlM system.step (if path.slashes == 0 then system.working else { slashes := 1 })

def isDirectory (system : FileSystem) (path : Path) : Bool :=
  (system.walk path).any system.directories.contains

def exists? (system : FileSystem) (path : Path) : Bool :=
  (system.walk path).any fun place => system.directories.contains place || system.files.contains place

end FileSystem

end TerminalDock
