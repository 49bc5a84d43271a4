/-!
The display name that a storage path suggests.

Uploads are stored as `directory/name-suffix.extension`. The name is what stands before the first
hyphen of the file name without its extension. A file name that starts with its only dot has no
extension, and a stem that starts with a hyphen is taken whole.
-/

namespace MentionPrompt.Upload

/-- Directories are parted by a slash or a backslash. -/
def isSeparator (c : Char) : Bool := c == '/' || c == '\\'

/-- What follows the last separator. -/
def lastComponent (path : List Char) : List Char :=
  (path.reverse.takeWhile (!isSeparator ·)).reverse

/-- The file name without its extension; a name with nothing before its last dot is kept. -/
def stem (name : List Char) : List Char :=
  match name.reverse.dropWhile (· != '.') with
  | _ :: c :: before => (c :: before).reverse
  | _ => name

/-- What stands before the first hyphen; a stem that starts with a hyphen is kept. -/
def leadingWord (stem : List Char) : List Char :=
  match stem.takeWhile (· != '-') with
  | [] => stem
  | c :: word => c :: word

/-- The display name that the storage path suggests. -/
def suggestedName (path : String) : String :=
  String.ofList (leadingWord (stem (lastComponent path.toList)))

end MentionPrompt.Upload
