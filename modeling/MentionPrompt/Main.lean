import MentionPrompt.CommandLine.Reading
import MentionPrompt.Run.Perform
import Std.Time.DateTime.Timestamp

/-!
The program: it reads its arguments, carries the command out on the files of the system, and prints
what comes of it.
-/

namespace MentionPrompt

/-- Why a call to the system failed; `20` and `21` tell apart what stands at a path, and `36` a long
name. -/
def FileError.ofSystem : IO.Error → FileError
  | .noFileOrDirectory .. => .noSuchFile
  | .resourceBusy .. => .busy
  | .resourceExhausted _ 28 _ => .noSpace
  | .inappropriateType _ 20 _ => .notDirectory
  | .inappropriateType _ 21 _ => .isDirectory
  | .invalidArgument _ 36 _ => .nameTooLong
  | .invalidArgument _ 22 _ => .invalidArgument
  | error => .other (toString error)

/-- Carries out a change of files. -/
def attemptChange (change : IO Unit) : IO (Except FileError Unit) := do
  try
    change
    return .ok ()
  catch error => return .error (.ofSystem error)

/-- What stands at a path, if anything does. -/
def fileType? (path : String) : IO (Option IO.FS.FileType) := do
  try
    return some (← (← IO.FS.realPath path).metadata).type
  catch _ => return none

/-- Opens a file and closes it again. -/
def touch (path : String) (mode : IO.FS.Mode) : IO Unit := do
  let _ ← IO.FS.Handle.mk path mode

/-- Adds content to a file. -/
def addContent (path : String) (content : ByteArray) : IO Unit := do
  let handle ← IO.FS.Handle.mk path .append
  handle.write content
  handle.flush

/-- Makes a call to the system. There is no call here to bring a file to the disk at once, so that is
left to the system. -/
def FileCall.perform : (call : FileCall) → IO call.Reply
  | .read path => do
    try
      return Except.ok (← IO.FS.readBinFile path)
    catch error => return Except.error (FileError.ofSystem error)
  | .isFile path => return (← fileType? path) == some .file
  | .isPresent path => return (← fileType? path).isSome
  | .createDirectories path => attemptChange (IO.FS.createDirAll path)
  | .create path => attemptChange (touch path .write)
  | .openLog path => attemptChange (touch path .append)
  | .append path content => attemptChange (addContent path content)
  | .sync _ => return Except.ok ()
  | .rename source target => attemptChange (IO.FS.rename source target)
  | .remove path => attemptChange (IO.FS.removeFile path)

/-- Carries a program out on the files of the system. -/
def FileProgram.perform {α : Type} : FileProgram α → IO α
  | .done result => return result
  | .call c next => do (next (← c.perform)).perform

/-- The first word of a file, or else a substitute. -/
def firstWord (path substitute : String) : IO String := do
  try
    let text ← IO.FS.readFile path
    return String.ofList (text.toList.takeWhile fun c => !c.isWhitespace)
  catch _ => return substitute

/-- What the run finds around it. -/
def Surroundings.find : IO Surroundings := do
  let host ← firstWord "/etc/hostname" "unknown"
  let now ← Std.Time.Timestamp.now
  return {
    processTag := ← firstWord "/proc/self/stat" "0"
    actor := actorName (← IO.getEnv "USER") (← IO.getEnv "USERNAME") host
    now := Timestamp.ofSeconds now.val.second.val now.val.nano.val.toNat
    configPath := ← IO.getEnv "PROMPTREF_CONFIG" }

/-- A remark as a line. -/
def Notice.line (notice : Notice) : String :=
  notice.details.foldl (fun line (name, value) => line ++ " " ++ name ++ "=" ++ value)
    ("WARN " ++ notice.message)

/-- Prints what comes of a run. -/
def Outcome.print (outcome : Outcome) : IO UInt32 := do
  IO.print outcome.output
  IO.eprint outcome.remarks
  for notice in outcome.notices do
    IO.eprintln notice.line
  match outcome.error with
  | some error => IO.eprintln ("Error: " ++ error.message)
  | none => pure ()
  return outcome.exitCode.toUInt32

end MentionPrompt

/-- Runs the program. -/
def main (arguments : List String) : IO UInt32 := do
  match MentionPrompt.Invocation.ofArguments arguments with
  | .error usage =>
    if usage.isAnswer then IO.println usage.message else IO.eprintln usage.message
    return usage.exitCode.toUInt32
  | .ok invocation =>
    let surroundings ← MentionPrompt.Surroundings.find
    (← (invocation.perform surroundings).perform).print
