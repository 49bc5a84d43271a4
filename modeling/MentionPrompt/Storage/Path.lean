/-!
Paths as texts: the last component, the directory before it, and the parts in between.

Components are parted by slashes. Repeated slashes, a slash at the end and a dot after the first
component say nothing; the dot in front does. What stands before the last component is kept as it was
written.
-/

namespace MentionPrompt.Path

/-- The path, its last character first, without slashes and dots at its end that say nothing. -/
def trimEnd : List Char → List Char
  | ['/'] => ['/']
  | '/' :: rest => trimEnd rest
  | '.' :: '/' :: rest => trimEnd ('/' :: rest)
  | rest => rest
  termination_by s => s.length

/-- The last component and what stands before it, both with the last character first. -/
def splitLast (path : String) : List Char × List Char :=
  let s := trimEnd path.toList.reverse
  (s.takeWhile (· != '/'), s.dropWhile (· != '/'))

/-- The directory that the last component stands in; the root and the empty path have none. -/
def parent? (path : String) : Option String :=
  match splitLast path with
  | ([], _) => none
  | (_, before) => some (String.ofList (trimEnd before).reverse)

/-- The name that the path ends in; one that ends in the root or in dots has none. -/
def name? (path : String) : Option String :=
  match splitLast path with
  | ([], _) => none
  | (['.'], _) => none
  | (['.', '.'], _) => none
  | (name, _) => some (String.ofList name.reverse)

/-- A name in a directory. -/
def join (directory name : String) : String :=
  match directory.toList.getLast? with
  | none => name
  | some '/' => directory ++ name
  | some _ => directory ++ "/" ++ name

/-- The parts of a path between its slashes. -/
def parts (path : String) : List String :=
  (path.toList.splitOn '/').filterMap fun part =>
    if part.isEmpty then none else some (String.ofList part)

/-- The path starts at the root. -/
def isAbsolute (path : String) : Bool := path.toList.head? == some '/'

/-- The path asks for a directory by a slash at its end. -/
def endsInSlash (path : String) : Bool := path.toList.getLast? == some '/'

end MentionPrompt.Path
