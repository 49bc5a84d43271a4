import MentionPrompt.Error
import MentionPrompt.Event.Basic
import MentionPrompt.Storage.Path
import MentionPrompt.Storage.Program

/-!
Writing files, and adding to logs.

A file is replaced as a whole: the new content is written to a temporary file in the same directory,
stored, and then moved over the file, so at no moment is the file half written. When a step fails, the
temporary file is taken away. A log grows by one line for each event.
-/

namespace MentionPrompt

/-- A program over files that may fail. -/
abbrev FileTask (α : Type) := ExceptT PromptError FileProgram α

namespace FileTask

/-- Carries out a step of writing; a failure is reported with the path. -/
def step (writeStep : WriteStep) (path : String)
    (program : FileProgram (Except FileError Unit)) : FileTask Unit :=
  .mk do
    return (← program).mapError fun cause => .unwritten writeStep path cause

/-- Does the same, and takes a file away after a failure. -/
def stepOrRemove (writeStep : WriteStep) (path temporary : String)
    (program : FileProgram (Except FileError Unit)) : FileTask Unit :=
  step writeStep path do
    let reply ← program
    if !reply.isOk then let _ ← FileProgram.remove temporary
    return reply

/-- Creates the directory that a path stands in, if it has one that is not there. -/
def createParent (writeStep : WriteStep) (path : String) : FileTask Unit :=
  match Path.parent? path with
  | none => pure ()
  | some parent => do
    if parent.isEmpty || (← FileProgram.isPresent parent) then pure ()
    else step writeStep parent (FileProgram.createDirectories parent)

/-- The path of the temporary file for a path, made different by a tag for the process. -/
def temporaryPath? (tag path : String) : Option String :=
  (Path.name? path).map fun name =>
    Path.join ((Path.parent? path).getD "") ("." ++ name ++ "." ++ tag ++ ".tmp")

/-- Adds content to a file and has it stored. -/
def appendAndSync (path : String) (content : ByteArray) : FileProgram (Except FileError Unit) := do
  match ← FileProgram.append path content with
  | .ok () => FileProgram.sync path
  | .error cause => return .error cause

/-- Puts a text in a file, all at once. -/
def writeFile (tag path text : String) : FileTask Unit := do
  createParent .createParent path
  match temporaryPath? tag path with
  | none => throw (.invalidPath path)
  | some temporary =>
    step .createTemporary temporary (FileProgram.create temporary)
    stepOrRemove .writeTemporary temporary temporary (appendAndSync temporary text.toUTF8)
    stepOrRemove .replace path temporary (FileProgram.rename temporary path)

/-- Adds an event to a log, as a line of its own. -/
def appendEvent (path : String) (event : Event) : FileTask Unit := do
  createParent .createLogDirectory path
  step .openLog path (FileProgram.openLog path)
  step .writeLog path (FileProgram.append path (event.line ++ "\n").toUTF8)
  step .syncLog path (FileProgram.sync path)

end FileTask

end MentionPrompt
