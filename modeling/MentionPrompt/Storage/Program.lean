import MentionPrompt.Storage.FileError

/-!
Programs over files: which calls are made to the file system, and what is done with the replies.

A program is a value. It is carried out by whatever answers its calls: the system itself, or a disk
that is a value too. Main statement: programs obey the monad laws, so a program may be read step by
step.
-/

namespace MentionPrompt

/-- A call to the file system. -/
inductive FileCall where
  | read (path : String)
  | isFile (path : String)
  | isPresent (path : String)
  | createDirectories (path : String)
  | create (path : String)
  | openLog (path : String)
  | append (path : String) (content : ByteArray)
  | sync (path : String)
  | rename (source target : String)
  | remove (path : String)

/-- What a call gives back: reading gives the content, a question a truth value, and a change only
whether it failed. -/
def FileCall.Reply : FileCall → Type
  | .read _ => Except FileError ByteArray
  | .isFile _ => Bool
  | .isPresent _ => Bool
  | _ => Except FileError Unit

/-- A program over files. -/
inductive FileProgram (α : Type) where
  | done (result : α)
  | call (call : FileCall) (next : call.Reply → FileProgram α)

namespace FileProgram

variable {α β γ : Type}

/-- The program, and then what its result leads to. -/
def andThen : FileProgram α → (α → FileProgram β) → FileProgram β
  | done result, next => next result
  | call c rest, next => call c fun reply => (rest reply).andThen next

instance : Monad FileProgram where
  pure := done
  bind := andThen

@[simp] theorem pure_eq (result : α) : (pure result : FileProgram α) = done result := rfl

@[simp] theorem done_bind (result : α) (next : α → FileProgram β) :
    (done result >>= next) = next result := rfl

@[simp] theorem call_bind (c : FileCall) (rest : c.Reply → FileProgram α)
    (next : α → FileProgram β) :
    (call c rest >>= next) = call c fun reply => rest reply >>= next := rfl

theorem bind_done (program : FileProgram α) : (program >>= done) = program := by
  induction program with
  | done result => rfl
  | call c rest ih => simpa using funext ih

theorem bind_assoc (program : FileProgram α) (first : α → FileProgram β)
    (second : β → FileProgram γ) :
    (program >>= first >>= second) = program >>= fun result => first result >>= second := by
  induction program with
  | done result => rfl
  | call c rest ih => simpa using funext ih

instance : LawfulMonad FileProgram :=
  LawfulMonad.mk' FileProgram bind_done (fun _ _ => rfl) bind_assoc

/-- Makes one call. -/
def ask (c : FileCall) : FileProgram c.Reply := call c done

/-- The content of a file. -/
def read (path : String) : FileProgram (Except FileError ByteArray) := ask (.read path)

/-- The path leads to a regular file. -/
def isFile (path : String) : FileProgram Bool := ask (.isFile path)

/-- The path leads to something. -/
def isPresent (path : String) : FileProgram Bool := ask (.isPresent path)

/-- Creates the directory and those that it stands in. -/
def createDirectories (path : String) : FileProgram (Except FileError Unit) :=
  ask (.createDirectories path)

/-- Creates an empty file, in place of one that was there. -/
def create (path : String) : FileProgram (Except FileError Unit) := ask (.create path)

/-- Opens a file to add to it; creates it if need be. -/
def openLog (path : String) : FileProgram (Except FileError Unit) := ask (.openLog path)

/-- Adds content at the end of a file that was created or opened before. -/
def append (path : String) (content : ByteArray) : FileProgram (Except FileError Unit) :=
  ask (.append path content)

/-- Has the content of a file stored for good. -/
def sync (path : String) : FileProgram (Except FileError Unit) := ask (.sync path)

/-- Gives a file another path, in place of a file that was there. -/
def rename (source target : String) : FileProgram (Except FileError Unit) :=
  ask (.rename source target)

/-- Takes a file away. -/
def remove (path : String) : FileProgram (Except FileError Unit) := ask (.remove path)

end FileProgram

end MentionPrompt
