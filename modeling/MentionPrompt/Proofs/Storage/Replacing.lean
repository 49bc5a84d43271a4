import MentionPrompt.Proofs.Storage.Faults
import MentionPrompt.Storage.Writing

/-!
Replacing a file as a whole, whatever fails.

        made        directories that the path stands in
        writing     these, and a temporary file that holds some part of the text
        replaced    these, no temporary file, and the text at the path
        removed     these, and no temporary file

A run is made, then writing, and then ends replaced or removed; or it fails before it gets to
writing. Main statement: so at no moment is a part of the text at the path; after a success all of
it is there, and after a failure what was there before.
-/

namespace MentionPrompt

/-! ### Steps that may fail -/

namespace FileTask

variable {α β : Type} {before : Files} {states : List Files}

/-- The task, started with the files, can go through the states and come to the result. -/
def Runs (before : Files) (task : FileTask α) (states : List Files)
    (result : Except PromptError α) : Prop :=
  FileProgram.Runs before (ExceptT.run task) states result

/-- A run of two tasks is a run of both, or ends with the failure of the first. -/
theorem runs_bind {task : FileTask α} {next : α → FileTask β} {result : Except PromptError β}
    (h : (task >>= next).Runs before states result) :
    (∃ value first rest, task.Runs before first (.ok value) ∧
      (next value).Runs (first.getLastD before) rest result ∧ states = first ++ rest) ∨
    ∃ error, task.Runs before states (.error error) ∧ result = .error error := by
  rw [Runs, ExceptT.run_bind] at h
  obtain ⟨value, first, rest, hfirst, hrest, rfl⟩ := FileProgram.runs_bind.1 h
  cases value with
  | ok value => exact .inl ⟨value, first, rest, hfirst, hrest, rfl⟩
  | error error =>
    obtain ⟨rfl, rfl⟩ := FileProgram.runs_done.1 hrest
    exact .inr ⟨error, by rwa [List.append_nil], rfl⟩

theorem runs_pure {value : α} {result : Except PromptError α}
    (h : (pure value : FileTask α).Runs before states result) : states = [] ∧ result = .ok value :=
  FileProgram.runs_done.1 h

theorem runs_lift {program : FileProgram α} {result : Except PromptError α}
    (h : (liftM program : FileTask α).Runs before states result) :
    ∃ value, program.Runs before states value ∧ result = .ok value := by
  obtain ⟨value, first, rest, hfirst, hrest, rfl⟩ := FileProgram.runs_bind.1 h
  obtain ⟨rfl, rfl⟩ := FileProgram.runs_done.1 hrest
  exact ⟨value, by rwa [List.append_nil], rfl⟩

/-- A step of writing goes through the states of its program, and ends well when that does. -/
theorem runs_step {writeStep : WriteStep} {path : String}
    {program : FileProgram (Except FileError Unit)} {result : Except PromptError Unit}
    (h : (step writeStep path program).Runs before states result) :
    ∃ reply, program.Runs before states reply ∧
      result = reply.mapError fun cause => .unwritten writeStep path cause := by
  rw [step, Runs, ExceptT.run_mk] at h
  obtain ⟨reply, first, rest, hfirst, hrest, rfl⟩ := FileProgram.runs_bind.1 h
  obtain ⟨rfl, rfl⟩ := FileProgram.runs_done.1 hrest
  exact ⟨reply, by rwa [List.append_nil], rfl⟩

/-- The same step, with a file taken away after a failure. -/
theorem runs_stepOrRemove {writeStep : WriteStep} {path temporary : String}
    {program : FileProgram (Except FileError Unit)} {result : Except PromptError Unit}
    (h : (stepOrRemove writeStep path temporary program).Runs before states result) :
    (program.Runs before states (.ok ()) ∧ result = .ok ()) ∨
    ∃ cause first reply after, program.Runs before first (.error cause) ∧
      (first.getLastD before).Allows (.remove temporary) reply after ∧ states = first ++ [after] ∧
        result = .error (.unwritten writeStep path cause) := by
  obtain ⟨reply, hreply, rfl⟩ := runs_step h
  obtain ⟨ended, first, rest, hfirst, hrest, rfl⟩ := FileProgram.runs_bind.1 hreply
  cases ended with
  | ok =>
    obtain ⟨rfl, rfl⟩ := FileProgram.runs_done.1 hrest
    exact .inl ⟨by rwa [List.append_nil], rfl⟩
  | error cause =>
    obtain ⟨removed, middle, last, hmiddle, hlast, rfl⟩ := FileProgram.runs_bind.1 hrest
    obtain ⟨after, hafter, rfl⟩ := FileProgram.runs_ask.1 hmiddle
    obtain ⟨rfl, rfl⟩ := FileProgram.runs_done.1 hlast
    exact .inr ⟨cause, first, removed, after, hfirst, hafter, by rw [List.append_nil], rfl⟩

end FileTask

/-! ### Where a run can be -/

namespace Files

variable {path temporary text : String} {before made state : Files}

/-- From one to the other, nothing happens but that directories appear that the path stands in. -/
def MakesParents (path : String) (before after : Files) : Prop :=
  MakesDirectories (Path.StandsIn path) before after

/-- The files, and a temporary file that holds something. -/
def Writing (made : Files) (temporary : String) (state : Files) : Prop :=
  ∃ content, state = Function.update made temporary (some (.file content))

/-- The files without the temporary file. -/
def removed (made : Files) (temporary : String) : Files := Function.update made temporary none

/-- The files without the temporary file, and with the text at the path. -/
def replaced (made : Files) (temporary path text : String) : Files :=
  Function.update (made.removed temporary) path (some (.file text.toUTF8))

theorem MakesParents.refl (path : String) (before : Files) : MakesParents path before before :=
  MakesDirectories.refl _ before

theorem MakesParents.path_eq (h : MakesParents path before state) : state path = before path :=
  h.eq_of_not fun hin => hin.ne rfl

/-- What holds of the files at the start and after each call holds of those at the end. -/
theorem getLastD_of_forall {p : Files → Prop} {states : List Files} (hbefore : p before)
    (h : ∀ state ∈ states, p state) : p (states.getLastD before) := by
  rcases List.eq_nil_or_concat' states with rfl | ⟨front, last, rfl⟩
  · exact hbefore
  · rw [List.getLastD_concat]
    exact h last (by simp)

/-- Taking away what was being written. -/
theorem Writing.eq_removed {reply : Except FileError Unit} {after : Files}
    (h : Writing made temporary state) (hremove : state.Allows (.remove temporary) reply after) :
    after = made.removed temporary := by
  obtain ⟨content, rfl⟩ := h
  cases reply with
  | ok =>
    obtain ⟨-, rfl⟩ := hremove
    exact Function.update_idem ..
  | error cause =>
    exact absurd (Function.update_self ..) (hremove.1 content)

end Files

namespace FileTask

variable {tag path temporary text : String} {before made : Files} {states : List Files}
  {result : Except PromptError Unit}

/-! ### The steps of a replacement -/

theorem makesParents_of_createParent {writeStep : WriteStep}
    (h : (createParent writeStep path).Runs before states result) :
    ∀ state ∈ states, Files.MakesParents path before state := by
  unfold createParent at h
  split at h
  · obtain ⟨rfl, -⟩ := runs_pure h
    simp
  · rename_i parent hparent
    rcases runs_bind h with ⟨present, first, rest, hfirst, hrest, rfl⟩ | ⟨error, hfirst, rfl⟩
    · obtain ⟨present, hask, ⟨⟩⟩ := runs_lift hfirst
      obtain ⟨asked, ⟨hasked, -⟩, rfl⟩ := FileProgram.runs_ask.1 hask
      obtain rfl := hasked.symm
      have hsame := List.forall_mem_singleton.2 (Files.MakesParents.refl path before)
      split at hrest
      · obtain ⟨rfl, -⟩ := runs_pure hrest
        exact hsame
      · obtain ⟨reply, hcreate, -⟩ := runs_step hrest
        obtain ⟨after, hafter, rfl⟩ := FileProgram.runs_ask.1 hcreate
        have hmade : Files.MakesParents path before after :=
          Files.MakesDirectories.mono hafter fun _ => Path.standsIn_of_parent hparent
        exact List.forall_mem_append.2 ⟨hsame, List.forall_mem_singleton.2 hmade⟩
    · obtain ⟨_, -, ⟨⟩⟩ := runs_lift hfirst

/-- Adding to a temporary file: it goes on holding something, and after a success what it held and
what was added. -/
theorem writing_of_appendAndSync {held content : ByteArray} {reply : Except FileError Unit}
    (h : (appendAndSync temporary content).Runs
      (Function.update made temporary (some (.file held))) states reply) :
    (∀ state ∈ states, Files.Writing made temporary state) ∧
      (reply = .ok () → states.getLastD (Function.update made temporary (some (.file held)))
        = Function.update made temporary (some (.file (held ++ content)))) := by
  obtain ⟨appended, first, rest, hfirst, hrest, rfl⟩ := FileProgram.runs_bind.1 h
  obtain ⟨after, hafter, rfl⟩ := FileProgram.runs_ask.1 hfirst
  cases appended with
  | ok =>
    obtain ⟨held', hheld, rfl⟩ := hafter
    rw [Function.update_self] at hheld
    cases hheld
    obtain ⟨synced, rfl, rfl⟩ := FileProgram.runs_ask.1 hrest
    rw [Function.update_idem]
    have hafter : Files.Writing made temporary
      (Function.update made temporary (some (.file (held ++ content)))) := ⟨_, rfl⟩
    exact ⟨by simpa using hafter, fun _ => rfl⟩
  | error cause =>
    obtain ⟨rfl, rfl⟩ := FileProgram.runs_done.1 hrest
    refine ⟨?_, by simp⟩
    rcases hafter with rfl | ⟨held', written, -, rfl⟩
    · simpa using ⟨held, rfl⟩
    · rw [Function.update_idem]
      simpa using ⟨_, rfl⟩

/-- How a run goes on once the temporary file is there. -/
theorem runs_fill_and_rename
    (h : (stepOrRemove .writeTemporary temporary temporary
        (appendAndSync temporary text.toUTF8) >>= fun _ =>
      stepOrRemove .replace path temporary (FileProgram.rename temporary path)).Runs
        (Function.update made temporary (some (.file ByteArray.empty))) states result) :
    ∃ writing last, states = writing ++ [last] ∧
      (∀ state ∈ writing, Files.Writing made temporary state) ∧
      (result = .ok () ∧ last = made.replaced temporary path text ∨
        (∃ error, result = .error error) ∧ last = made.removed temporary) := by
  have hempty : Files.Writing made temporary
      (Function.update made temporary (some (.file ByteArray.empty))) := ⟨_, rfl⟩
  rcases runs_bind h with ⟨⟨⟩, first, rest, hfirst, hrest, rfl⟩ | ⟨error, hfirst, rfl⟩
  · rcases runs_stepOrRemove hfirst with ⟨hfill, -⟩ | ⟨_, _, _, _, -, -, -, ⟨⟩⟩
    obtain ⟨hwriting, hfilled⟩ := writing_of_appendAndSync hfill
    rw [hfilled rfl, ByteArray.empty_append] at hrest
    rcases runs_stepOrRemove hrest with
      ⟨hrename, rfl⟩ | ⟨cause, middle, reply, after, hrename, hremove, rfl, rfl⟩
    · obtain ⟨after, ⟨content, hcontent, -, rfl⟩, rfl⟩ := FileProgram.runs_ask.1 hrename
      rw [Function.update_self] at hcontent
      cases hcontent
      refine ⟨first, _, rfl, hwriting, .inl ⟨rfl, ?_⟩⟩
      rw [Function.update_idem]
      rfl
    · obtain ⟨kept, rfl, rfl⟩ := FileProgram.runs_ask.1 hrename
      have hkept : Files.Writing made temporary
        (Function.update made temporary (some (.file text.toUTF8))) := ⟨_, rfl⟩
      exact ⟨first ++ [_], after, by rw [List.append_assoc],
        List.forall_mem_append.2 ⟨hwriting, List.forall_mem_singleton.2 hkept⟩,
        .inr ⟨⟨_, rfl⟩, hkept.eq_removed hremove⟩⟩
  · rcases runs_stepOrRemove hfirst with
      ⟨-, ⟨⟩⟩ | ⟨cause, writing, reply, after, hfill, hremove, rfl, -⟩
    have hwriting := (writing_of_appendAndSync hfill).1
    exact ⟨writing, after, rfl, hwriting,
      .inr ⟨⟨_, rfl⟩, (Files.getLastD_of_forall hempty hwriting).eq_removed hremove⟩⟩

/-- A run of a replacement fails before there is a temporary file, or makes the directories that the
path stands in, writes the temporary file, and ends with the file replaced or with the temporary file
removed. -/
theorem runs_writeFile (h : (writeFile tag path text).Runs before states result) :
    ((∃ error, result = .error error) ∧ ∀ state ∈ states, Files.MakesParents path before state) ∨
    ∃ temporary made preparing writing last, temporaryPath? tag path = some temporary ∧
      Files.MakesParents path before made ∧ states = preparing ++ (writing ++ [last]) ∧
      (∀ state ∈ preparing, Files.MakesParents path before state) ∧
      (∀ state ∈ writing, Files.Writing made temporary state) ∧
      (result = .ok () ∧ last = made.replaced temporary path text ∨
        (∃ error, result = .error error) ∧ last = made.removed temporary) := by
  unfold writeFile at h
  rcases runs_bind h with ⟨⟨⟩, parents, rest, hparents, hrest, rfl⟩ | ⟨error, hparents, rfl⟩
  swap
  · exact .inl ⟨⟨error, rfl⟩, makesParents_of_createParent hparents⟩
  have hmade := makesParents_of_createParent hparents
  have hlast : Files.MakesParents path before (parents.getLastD before) :=
    Files.getLastD_of_forall (.refl path before) hmade
  split at hrest
  · obtain ⟨rfl, rfl⟩ := FileProgram.runs_done.1 hrest
    exact .inl ⟨⟨_, rfl⟩, by rwa [List.append_nil]⟩
  · rename_i temporary htemporary
    rcases runs_bind hrest with ⟨⟨⟩, created, later, hcreated, hlater, rfl⟩ | ⟨error, hcreated, rfl⟩
    · obtain ⟨reply, hreply, hok⟩ := runs_step hcreated
      obtain ⟨after, hafter, rfl⟩ := FileProgram.runs_ask.1 hreply
      cases reply with
      | error cause => cases hok
      | ok =>
        obtain ⟨-, rfl⟩ := hafter
        obtain ⟨writing, last, rfl, hwriting, hend⟩ := runs_fill_and_rename hlater
        refine .inr
          ⟨temporary, _, parents, _ :: writing, last, htemporary, hlast, rfl, hmade, ?_, hend⟩
        rintro state (_ | ⟨_, hstate⟩)
        · exact ⟨_, rfl⟩
        · exact hwriting state hstate
    · obtain ⟨reply, hreply, hfailed⟩ := runs_step hcreated
      obtain ⟨after, hafter, rfl⟩ := FileProgram.runs_ask.1 hreply
      cases reply with
      | ok => cases hfailed
      | error cause =>
        obtain rfl : after = parents.getLastD before := hafter
        exact .inl ⟨⟨_, rfl⟩, List.forall_mem_append.2 ⟨hmade, List.forall_mem_singleton.2 hlast⟩⟩

/-! ### The temporary file -/

/-- The temporary file stands beside the path, under a name with a dot in front and more behind. All
texts have their last character first. -/
theorem temporaryPath?_eq_some (h : temporaryPath? tag path = some temporary) :
    (Path.splitLast path).1 ≠ [] ∧ ∃ slash : List Char, (slash = [] ∨ slash = ['/']) ∧
      temporary.toList.reverse = ['p', 'm', 't', '.'] ++ tag.toList.reverse ++ ['.'] ++
        (Path.splitLast path).1 ++ ['.'] ++ slash ++ Path.trimEnd (Path.splitLast path).2 := by
  obtain ⟨name, hname, rfl⟩ := Option.map_eq_some_iff.1 h
  obtain ⟨hne, rfl⟩ := Path.name?_eq_some hname
  refine ⟨hne, ?_⟩
  rw [Path.parent?_of_ne_nil hne, Option.getD_some]
  obtain ⟨slash, hslash, hjoin⟩ := Path.join_eq
    (.ofList (Path.trimEnd (Path.splitLast path).2).reverse)
    ("." ++ .ofList (Path.splitLast path).1.reverse ++ "." ++ tag ++ ".tmp")
  refine ⟨slash, hslash, ?_⟩
  rw [hjoin]
  rcases hslash with rfl | rfl <;> simp

/-- The temporary file is not the file itself. -/
theorem temporaryPath?_ne (h : temporaryPath? tag path = some temporary) : temporary ≠ path := by
  obtain ⟨hname, slash, hslash, htext⟩ := temporaryPath?_eq_some h
  rintro rfl
  obtain ⟨hnoslash, hsplit, -⟩ := Path.splitLast_spec temporary
  obtain ⟨front, c, hlast⟩ := (List.eq_nil_or_concat' _).resolve_left hname
  obtain ⟨trimmed, htrimmed, hdots⟩ := Path.trimEnd_spec (Path.splitLast temporary).2
  have hwhole : Path.trimEnd temporary.toList.reverse = temporary.toList.reverse := by
    rw [htext]
    simp [Path.trimEnd]
  -- what was trimmed is long enough to hold the first character of the name and the dot before it
  have hsame : front ++ [c] ++ trimmed = ['p', 'm', 't', '.'] ++ tag.toList.reverse ++ ['.'] ++
      front ++ ([c, '.'] ++ slash) := by
    refine (List.append_left_inj (Path.trimEnd (Path.splitLast temporary).2)).1 ?_
    rw [List.append_assoc, ← htrimmed, ← hlast, hsplit, hwhole, htext, hlast]
    simp
  have hlength := congrArg List.length hsame
  have hsuffix : [c, '.'] ++ slash <:+ trimmed := by
    refine List.suffix_of_suffix_length_le ⟨_, hsame.symm⟩ (List.suffix_append _ _) ?_
    simp at hlength ⊢
    omega
  have hslashed : c = '/' :=
    hdots c (((List.prefix_append _ _).isInfix).trans hsuffix.isInfix)
  exact hnoslash (by simp [hlast, hslashed])

/-- The temporary file is no directory that the path stands in. -/
theorem not_standsIn_temporary (h : temporaryPath? tag path = some temporary) :
    ¬ Path.StandsIn path temporary := by
  obtain ⟨hname, slash, hslash, htext⟩ := temporaryPath?_eq_some h
  intro hin
  have hshort := hin.length_le (Path.parent?_of_ne_nil hname)
  have hlength := congrArg List.length htext
  rw [← String.length_toList, ← String.length_toList, String.toList_ofList] at hshort
  simp at hlength hshort
  omega

/-! ### The whole run -/

/-- A run of a replacement, from the files before it through the files after each call to the
result: at no moment is a part of the text at the path; after a success all of it is there, and no
temporary file; after a failure the path is what it was, and so is the temporary file if it was not
made; and elsewhere directories appear at most, those that the path stands in. -/
structure ReplacesWhole (tag path text : String) (before : Files) (states : List Files)
    (result : Except PromptError Unit) : Prop where
  never_in_part : ∀ state ∈ states,
    state path = before path ∨ state path = some (.file text.toUTF8)
  success : result = .ok () →
    states.getLastD before path = some (.file text.toUTF8) ∧
      ∃ temporary ∈ temporaryPath? tag path, states.getLastD before temporary = none
  failure : ∀ error, result = .error error →
    states.getLastD before path = before path ∧
      ∀ temporary ∈ temporaryPath? tag path, states.getLastD before temporary = none ∨
        ∀ state ∈ states, state temporary = before temporary
  elsewhere : ∀ other, other ≠ path → other ∉ temporaryPath? tag path →
    states.getLastD before other = before other ∨
      Path.StandsIn path other ∧ before other = none ∧
        states.getLastD before other = some .directory

/-- CORRECT: whatever calls fail, and wherever, a run of a replacement is all or nothing. -/
theorem writeFile_replaces_whole (h : (writeFile tag path text).Runs before states result) :
    ReplacesWhole tag path text before states result := by
  rcases runs_writeFile h with ⟨⟨error, rfl⟩, hparents⟩ |
    ⟨temporary, made, preparing, writing, last, htemporary, hmade, rfl, hpreparing, hwriting, hend⟩
  · -- no temporary file was made
    have hlast : Files.MakesParents path before (states.getLastD before) :=
      Files.getLastD_of_forall (.refl path before) hparents
    refine ⟨fun state hstate => .inl (hparents state hstate).path_eq, by simp,
      fun _ _ => ⟨hlast.path_eq, fun temporary htemporary => .inr fun state hstate => ?_⟩,
      fun other _ _ => hlast other⟩
    exact (hparents state hstate).eq_of_not (not_standsIn_temporary htemporary)
  · have hne := temporaryPath?_ne htemporary
    have hafter : (preparing ++ (writing ++ [last])).getLastD before = last := by
      rw [← List.append_assoc, List.getLastD_concat]
    have hpath : ∀ state ∈ preparing ++ writing, state path = before path := by
      intro state hstate
      rcases List.mem_append.1 hstate with hstate | hstate
      · exact (hpreparing state hstate).path_eq
      · obtain ⟨content, rfl⟩ := hwriting state hstate
        rw [Function.update_of_ne hne.symm, hmade.path_eq]
    have hstates : ∀ state ∈ preparing ++ (writing ++ [last]),
        state ∈ preparing ++ writing ∨ state = last := by
      intro state hstate
      rwa [← List.append_assoc, List.mem_append, List.mem_singleton] at hstate
    rcases hend with ⟨rfl, rfl⟩ | ⟨⟨error, rfl⟩, rfl⟩
    · have htext : made.replaced temporary path text path = some (.file text.toUTF8) :=
        Function.update_self ..
      refine ⟨fun state hstate => ?_, fun _ => ?_, by simp, fun other hother hnot => ?_⟩
      · rcases hstates state hstate with hbefore | rfl
        · exact .inl (hpath state hbefore)
        · exact .inr htext
      · rw [hafter]
        refine ⟨htext, temporary, htemporary, ?_⟩
        rw [Files.replaced, Function.update_of_ne hne, Files.removed, Function.update_self]
      · have htemp : other ≠ temporary := fun heq => hnot (heq ▸ htemporary)
        rw [hafter, Files.replaced, Function.update_of_ne hother, Files.removed,
          Function.update_of_ne htemp]
        exact hmade other
    · have hkept : made.removed temporary path = before path := by
        rw [Files.removed, Function.update_of_ne hne.symm, hmade.path_eq]
      refine ⟨fun state hstate => ?_, by simp, fun _ _ => ?_, fun other _ hnot => ?_⟩
      · rcases hstates state hstate with hbefore | rfl
        · exact .inl (hpath state hbefore)
        · exact .inl hkept
      · rw [hafter]
        refine ⟨hkept, fun other hother => .inl ?_⟩
        obtain rfl : temporary = other := Option.some.inj (htemporary.symm.trans hother)
        exact Function.update_self ..
      · have htemp : other ≠ temporary := fun heq => hnot (heq ▸ htemporary)
        rw [hafter, Files.removed, Function.update_of_ne htemp]
        exact hmade other

/-- The disk is full after one byte of three: the old file stays, and the temporary file is
removed. -/
theorem writeFile_replaces_whole_of_full_disk :
    let before : Files := fun path => if path = "a" then some (.file "old".toUTF8) else none
    let created : Files := Function.update before ".a.7.tmp" (some (.file ByteArray.empty))
    let inPart : Files := Function.update created ".a.7.tmp"
      (some (.file (ByteArray.empty ++ "new".toUTF8.extract 0 1)))
    let states := [before, created, inPart, Function.update inPart ".a.7.tmp" none]
    let result : Except PromptError Unit :=
      .error (.unwritten .writeTemporary ".a.7.tmp" .noSpace)
    (writeFile "7" "a" "new").Runs before states result ∧
      ReplacesWhole "7" "a" "new" before states result := by
  intro before created inPart states result
  have hparent : Path.parent? "a" = some "" := by cbv
  have htemporary : temporaryPath? "7" "a" = some ".a.7.tmp" := by cbv
  have hruns : (writeFile "7" "a" "new").Runs before states result := by
    unfold writeFile createParent
    rw [hparent, htemporary]
    have hask : before.Allows (.isPresent "") false before := ⟨rfl, by simp [before]⟩
    have hcreate : before.Allows (.create ".a.7.tmp") (.ok ()) created := ⟨by simp [before], rfl⟩
    have hheld : created ".a.7.tmp" = some (.file ByteArray.empty) := Function.update_self ..
    have happend : created.Allows (.append ".a.7.tmp" "new".toUTF8) (.error .noSpace) inPart :=
      .inr ⟨ByteArray.empty, 1, hheld, rfl⟩
    have hremove : inPart.Allows (.remove ".a.7.tmp") (.ok ())
        (Function.update inPart ".a.7.tmp" none) := ⟨⟨_, Function.update_self ..⟩, rfl⟩
    exact .call hask (.call hcreate (.call happend (.call hremove (.done _ _))))
  exact ⟨hruns, writeFile_replaces_whole hruns⟩

end FileTask

end MentionPrompt
