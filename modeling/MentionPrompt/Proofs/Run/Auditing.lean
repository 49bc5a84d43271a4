import MentionPrompt.Proofs.Json.OneLine
import MentionPrompt.Proofs.Json.Printed
import MentionPrompt.Proofs.Run.Recording

/-!
The log over a sequence of runs.

The runs are carried out one after the other on one disk and share a log that none of them writes as
its output. Main statement: each run that starts its work adds one line to the log, whose fields tell its
action and whether it succeeded; a run that does not start leaves the disk as it is; and an event that
cannot be added changes nothing about what comes of the run but a remark.

        documents do not load ──▶ the disk as it was
        documents load ──▶ the work ──▶ one line at the end of the log, or a remark
-/

namespace MentionPrompt

/-- The outcome of a command that may have failed before it had one. -/
def Outcome.ofResult : Except PromptError Outcome → Outcome
  | .ok outcome => outcome
  | .error error => { error := some error }

/-- A call of the program, and what it finds around it. -/
structure Run where
  invocation : Invocation
  surroundings : Surroundings

namespace Run

/-! ### One run -/

/-- The run, with the log chosen by its configuration. -/
def attempt (run : Run) (log : Config → Option String) : FileTask Outcome := do
  let config ← FileTask.discoverConfig run.invocation.config run.surroundings.configPath
  run.invocation.command.perform
    { surroundings := run.surroundings, config, eventsPath := log config }

/-- What comes of the run on a disk, and the disk after it. -/
def on (run : Run) (disk : Disk) : Outcome × Disk :=
  (run.invocation.perform run.surroundings).run disk

/-- What would come of the run if it kept no log. -/
def unlogged (run : Run) (disk : Disk) : Outcome × Disk :=
  (.ofResult ((run.attempt fun _ => none).runOn disk).1, ((run.attempt fun _ => none).runOn disk).2)

/-- The log of the run, given its configuration. -/
def log (run : Run) (config : Config) : Option String := run.invocation.events <|> config.eventsLog

theorem on_eq (run : Run) (disk : Disk) :
    run.on disk =
      (.ofResult ((run.attempt run.log).runOn disk).1, ((run.attempt run.log).runOn disk).2) := by
  unfold on Invocation.perform
  rw [FileProgram.run_bind]
  have hattempt : FileProgram.run disk (run.invocation.attempt run.surroundings).run =
      (run.attempt run.log).runOn disk := rfl
  rw [hattempt]
  rcases (run.attempt run.log).runOn disk with ⟨error | outcome, after⟩
  · rfl
  · rfl

/-- The configuration of the run loads, and its command starts its work. -/
def Starts (disk : Disk) (run : Run) : Prop :=
  (FileTask.discoverConfig run.invocation.config run.surroundings.configPath).Loads disk ∧
    run.invocation.command.Starts disk

/-- The log of the run is at the path, and the run does not write there otherwise. -/
structure SharesLog (path : String) (disk : Disk) (run : Run) : Prop where
  log : ∀ config,
    ((FileTask.discoverConfig run.invocation.config run.surroundings.configPath).runOn disk).1 =
      .ok config → run.log config = some path
  apart : ∀ output ∈ run.invocation.command.outputs run.surroundings.processTag,
    disk.place output ≠ disk.place path

/-- If the run starts its work, the log is writable when the work is done. -/
def WritesLog (path : String) (disk : Disk) (run : Run) : Prop :=
  run.Starts disk → (run.unlogged disk).2.IsWritableLog path

/-- The run adds the event to the log. -/
structure Enters (path : String) (disk : Disk) (run : Run) (event : Event) : Prop where
  action : run.invocation.command.action? = some event.action
  verdict : event.outcome = .ok ↔ (run.on disk).1.error = none
  oneLine : IsOneLine event.line
  told : event.ToldBy event.line
  changes : (run.on disk).2 = ((FileTask.appendEvent path event).runOn (run.unlogged disk).2).2
  logged : ((FileTask.appendEvent path event).runOn (run.unlogged disk).2).1 = .ok () →
    (run.on disk).1 = (run.unlogged disk).1 ∧
      (run.on disk).2.get? (disk.place path) =
        some (.file (disk.contentAt (disk.place path) ++ (event.line ++ "\n").toUTF8))
  lost : ∀ error,
    ((FileTask.appendEvent path event).runOn (run.unlogged disk).2).1 = .error error →
      let notice := Notice.unloggedEvent event.action.name error.message
      (run.on disk).1 =
        { (run.unlogged disk).1 with notices := (run.unlogged disk).1.notices ++ [notice] }

variable {path : String} {disk : Disk} {run : Run}

theorem silent (h : ¬ run.Starts disk) :
    run.on disk = run.unlogged disk ∧ (run.on disk).2 = disk := by
  have hsilent : Silent disk run.attempt := by
    refine Silent.bind (FileTask.readsOnly_discoverConfig _ _) fun config hconfig => ?_
    obtain ⟨result, hresult⟩ := Command.silent
      (fun hstarts => h ⟨FileTask.loads_of_runOn hconfig, hstarts⟩) run.surroundings config
    exact ⟨result, fun log => hresult (log config)⟩
  obtain ⟨result, hresult⟩ := hsilent
  rw [on_eq, unlogged, hresult, hresult]
  exact ⟨rfl, rfl⟩

/-- A run that starts does its work, and then comes to the log that its configuration chooses. -/
theorem works (h : run.Starts disk) :
    ∃ config work,
      ((FileTask.discoverConfig run.invocation.config run.surroundings.configPath).runOn disk).1 =
        .ok config ∧
      run.invocation.command.Works run.surroundings config disk work ∧
      run.on disk = work.close (run.log config) ∧ run.unlogged disk = (work.outcome, work.disk) := by
  obtain ⟨config, hconfig⟩ := (FileTask.readsOnly_discoverConfig _ _).loads h.1
  obtain ⟨work, hwork⟩ := Command.works h.2 run.surroundings config
  have hattempt : ∀ log, (run.attempt log).runOn disk = work.result (log config) := fun log =>
    (FileTask.runOn_bind_ok hconfig).trans (hwork.closes (log config))
  refine ⟨config, work, congrArg Prod.fst hconfig, hwork, ?_, ?_⟩
  · rw [on_eq, hattempt]
    rfl
  · rw [unlogged, hattempt]
    rfl

theorem enters (hshared : run.SharesLog path disk) (h : run.Starts disk) :
    ∃ event, run.Enters path disk event := by
  obtain ⟨config, work, hconfig, hwork, hon, hunlogged⟩ := works h
  rw [hshared.log config hconfig] at hon
  have hverdict : work.event.outcome = .ok ↔ (run.on disk).1.error = none := by
    obtain ⟨notices, hclosed⟩ := work.outcome_close (some path)
    rw [hon, hclosed, hwork.verdict]
    cases work.outcome.error <;> simp [EventOutcome.ofError]
  have hheld : work.disk.contentAt (disk.place path) = disk.contentAt (disk.place path) :=
    hwork.changes.contentAt hshared.apart
  rcases hadded : (FileTask.appendEvent path work.event).runOn work.disk with ⟨error | ⟨⟩, after⟩
  · rw [Work.close_of_error hadded] at hon
    refine ⟨work.event, hwork.action, hverdict, work.event.isOneLine_line, work.event.toldBy_line, ?_,
      ?_, ?_⟩
    · rw [hon, hunlogged, hadded]
    · rw [hunlogged, hadded]
      rintro ⟨⟩
    · rw [hon, hunlogged, hadded]
      rintro _ ⟨⟩
      rfl
  · rw [Work.close_of_ok hadded] at hon
    refine ⟨work.event, hwork.action, hverdict, work.event.isOneLine_line, work.event.toldBy_line, ?_,
      ?_, ?_⟩
    · rw [hon, hunlogged, hadded]
    · rw [FileTask.appendEvent_eq] at hadded
      have hcontent := FileTask.get?_of_appendContent hadded
      rw [hwork.changes.place, hheld] at hcontent
      rw [hon, hunlogged]
      exact fun _ => ⟨rfl, hcontent⟩
    · rw [hunlogged, hadded]
      rintro _ ⟨⟩

/-- A run moves nowhere, so the log has one place all along. -/
theorem place_on (run : Run) (disk : Disk) (path : String) :
    (run.on disk).2.place path = disk.place path :=
  FileProgram.place_run (run.invocation.perform run.surroundings) disk path

/-- On a writable log the run leaves its line. -/
theorem Enters.get?_on {event : Event} (h : run.Enters path disk event)
    (hwrites : (run.unlogged disk).2.IsWritableLog path) :
    (run.on disk).2.get? (disk.place path) =
      some (.file (disk.contentAt (disk.place path) ++ (event.line ++ "\n").toUTF8)) := by
  obtain ⟨after, hafter⟩ :=
    FileTask.appendContent_of_isWritableLog hwrites (event.line ++ "\n").toUTF8
  exact (h.logged (congrArg Prod.fst hafter)).2

/-! ### Logs that are regular files -/

theorem changesOnly_unlogged (h : run.Starts disk) :
    Disk.ChangesOnly (run.invocation.command.outputs run.surroundings.processTag) disk
      (run.unlogged disk).2 := by
  obtain ⟨config, work, -, hwork, -, hunlogged⟩ := works h
  rw [hunlogged]
  exact hwork.changes

theorem writesLog_of_isFile (hshared : run.SharesLog path disk) (h : disk.isFile path = true) :
    run.WritesLog path disk := fun hstarts =>
  FileTask.isWritableLog_of_isFile ((changesOnly_unlogged hstarts).isFile hshared.apart h)

theorem isFile_on (hshared : run.SharesLog path disk) (h : disk.isFile path = true) :
    (run.on disk).2.isFile path = true := by
  by_cases hstarts : run.Starts disk
  · obtain ⟨event, hevent⟩ := enters hshared hstarts
    obtain ⟨after, hafter⟩ := FileTask.appendContent_of_isWritableLog
      (writesLog_of_isFile hshared h hstarts) (event.line ++ "\n").toUTF8
    rw [hevent.changes, FileTask.appendEvent_eq, hafter]
    exact FileTask.isFile_of_appendContent
      ((changesOnly_unlogged hstarts).isFile hshared.apart h) hafter
  · rw [(silent hstarts).2, h]

end Run

/-! ### Sequences of runs -/

/-- The disk after runs one after the other. -/
def Disk.after (disk : Disk) (runs : List Run) : Disk :=
  runs.foldl (fun disk run => (run.on disk).2) disk

/-- Every run meets the condition on the disk that the runs before it leave. -/
def Always (condition : Disk → Run → Prop) : Disk → List Run → Prop
  | _, [] => True
  | disk, run :: rest => condition disk run ∧ Always condition (run.on disk).2 rest

/-- The events that the runs add to the log, those that cannot be added among them. -/
inductive Chronicle (path : String) : Disk → List Run → List Event → Prop where
  | nil (disk : Disk) : Chronicle path disk [] []
  | silent {disk : Disk} {run : Run} {rest : List Run} {events : List Event}
      (hstarts : ¬ run.Starts disk) (hsame : run.on disk = run.unlogged disk)
      (hdisk : (run.on disk).2 = disk) (hrest : Chronicle path (run.on disk).2 rest events) :
      Chronicle path disk (run :: rest) events
  | entry {disk : Disk} {run : Run} {rest : List Run} {event : Event} {events : List Event}
      (hstarts : run.Starts disk) (henters : run.Enters path disk event)
      (hrest : Chronicle path (run.on disk).2 rest events) :
      Chronicle path disk (run :: rest) (event :: events)

/-- The events as lines of a log. -/
def Event.lines (events : List Event) : String :=
  String.join (events.map fun event => event.line ++ "\n")

theorem Event.toUTF8_lines_cons (event : Event) (events : List Event) :
    (Event.lines (event :: events)).toUTF8 =
      (event.line ++ "\n").toUTF8 ++ (Event.lines events).toUTF8 := by
  rw [Event.lines, List.map_cons, String.join_cons]
  rfl

theorem exists_chronicle {path : String} {disk : Disk} {runs : List Run}
    (hshared : Always (Run.SharesLog path) disk runs) :
    ∃ events, Chronicle path disk runs events := by
  induction runs generalizing disk with
  | nil => exact ⟨[], .nil disk⟩
  | cons run rest ih =>
    obtain ⟨events, hrest⟩ := ih hshared.2
    by_cases hstarts : run.Starts disk
    · obtain ⟨event, henters⟩ := Run.enters hshared.1 hstarts
      exact ⟨event :: events, .entry hstarts henters hrest⟩
    · obtain ⟨hsame, hdisk⟩ := Run.silent hstarts
      exact ⟨events, .silent hstarts hsame hdisk hrest⟩

theorem always_writesLog {path : String} {disk : Disk} {runs : List Run}
    (hshared : Always (Run.SharesLog path) disk runs) (h : disk.isFile path = true) :
    Always (Run.WritesLog path) disk runs := by
  induction runs generalizing disk with
  | nil => trivial
  | cons run rest ih =>
    exact ⟨Run.writesLog_of_isFile hshared.1 h, ih hshared.2 (Run.isFile_on hshared.1 h)⟩

/-- On a log that is writable all along the lines of the events stand after what it held. -/
theorem Chronicle.contentAt_after {path : String} {disk : Disk} {runs : List Run}
    {events : List Event} (h : Chronicle path disk runs events)
    (hwrites : Always (Run.WritesLog path) disk runs) :
    (disk.after runs).contentAt (disk.place path) =
      disk.contentAt (disk.place path) ++ (Event.lines events).toUTF8 := by
  induction h with
  | nil disk => exact ByteArray.append_empty.symm
  | @silent disk run rest events hstarts hsame hdisk hrest ih =>
    have hafter := ih hwrites.2
    rw [hdisk] at hafter
    change ((run.on disk).2.after rest).contentAt (disk.place path) = _
    rwa [hdisk]
  | @entry disk run rest event events hstarts henters hrest ih =>
    have hcontent := Disk.contentAt_of_get? (henters.get?_on (hwrites.1 hstarts))
    have hafter := ih hwrites.2
    rw [run.place_on, hcontent, ByteArray.append_assoc, ← Event.toUTF8_lines_cons] at hafter
    exact hafter

/-- CORRECT: for every sequence of runs that share a log, each run that starts its work enters one
event: one line of JSON, whose fields tell its action and whether the run succeeded. Where the line
can be added, what comes of the run is what would come of it without a log; where it cannot, a remark
is added and nothing else. The other runs leave the disk as it is. If the log is writable all along,
it holds at last what it held at first and then the lines, and so it does if it is a regular file at
first. -/
theorem log_tells_the_truth (path : String) (disk : Disk) (runs : List Run)
    (hshared : Always (Run.SharesLog path) disk runs) :
    ∃ events, Chronicle path disk runs events ∧
      (Always (Run.WritesLog path) disk runs →
        (disk.after runs).contentAt (disk.place path) =
          disk.contentAt (disk.place path) ++ (Event.lines events).toUTF8) ∧
      (disk.isFile path = true → Always (Run.WritesLog path) disk runs) := by
  obtain ⟨events, hchronicle⟩ := exists_chronicle hshared
  exact ⟨events, hchronicle, hchronicle.contentAt_after, always_writesLog hshared⟩

/-- A validation with a finding, a resolution against a workflow that is not there, and a script whose
text goes to a file, on a log that holds something: the first and the last leave a line. -/
theorem log_tells_of_three_runs :
    let disk : Disk :=
      { entries := [(["t.yaml"], .file "canonical_text: 'A @\x7bstep:pet\x7d'\n".toUTF8),
          (["log"], .file "held\n".toUTF8)] }
    let run (command : Command) : Run :=
      { invocation := { events := "log", command }
        surroundings := { processTag := "1", actor := "a", now := .ofSeconds 0 0 } }
    let runs := [run (.validate "t.yaml" none), run (.resolve "t.yaml" "w.yaml" none),
      run (.compose "hi" none none "o.txt")]
    Always (Run.SharesLog "log") disk runs ∧ ∃ events, Chronicle "log" disk runs events ∧
      (disk.after runs).contentAt ["log"] = "held\n".toUTF8 ++ (Event.lines events).toUTF8 ∧
      (disk.after runs).contentAt ["log"] =
        ("held\n" ++
          "\x7b\"ts\":\"1970-01-01T00:00:00Z\",\"action\":\"validate\",\"actor\":\"a\"," ++
          "\"template\":\"t.yaml\",\"outcome\":\"failed\"," ++
          "\"details\":\x7b\"dangling_references\":1,\"uniqueness_violations\":0\x7d\x7d\n" ++
          "\x7b\"ts\":\"1970-01-01T00:00:00Z\",\"action\":\"compose\",\"actor\":\"a\"," ++
          "\"outcome\":\"ok\",\"details\":\x7b\"chars\":2,\"mentions\":0\x7d\x7d\n").toUTF8 := by
  intro disk run runs
  have hshared : Always (Run.SharesLog "log") disk runs := by
    refine ⟨⟨fun _ _ => rfl, nofun⟩, ⟨fun _ _ => rfl, nofun⟩, ⟨fun _ _ => rfl, ?_⟩, trivial⟩
    intro output houtput
    rw [Run.place_on, Run.place_on, Run.place_on, Run.place_on]
    revert output
    decide +kernel
  obtain ⟨events, hchronicle, hcontent, hfile⟩ := log_tells_the_truth "log" disk runs hshared
  refine ⟨hshared, events, hchronicle, hcontent (hfile (by decide +kernel)), ?_⟩
  exact ByteArray.ext (Array.toList_inj.1 (by decide +kernel))

end MentionPrompt
