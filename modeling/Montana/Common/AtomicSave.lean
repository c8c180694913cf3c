import Montana.Common.CheckpointJson

/-! Saves of checkpoints, step by step: each is cut off anywhere, and those of
different paths interleave. -/

namespace Montana

/-- Where a save stands between its calls of the file system, and the text it writes. -/
inductive SaveStage where
  | opening (json : Bytes)
  | writing (json : Bytes) (written : Nat)
  deriving DecidableEq, Repr

def SaveStage.json : SaveStage → Bytes
  | .opening json => json
  | .writing json _ => json

inductive SaveStep where
  | save (checkpoint : Checkpoint)
  | write (count : Nat)
  | rename

structure SavingFiles where
  files : FileSystem
  saving : Path → Option SaveStage

namespace SavingFiles

variable (json : CheckpointJson)

/-- One step of the save to `path`. A save that was cut off takes no further step, and the
next one starts over. `fs::write` creates the temporary file and may stop after any number
of bytes; the rename follows when all are written. -/
def step (self : SavingFiles) : Path × SaveStep → SavingFiles
  | (path, .save checkpoint) =>
    match json.toStringPretty checkpoint with
    | .error _ => { self with saving := Function.update self.saving path none }
    | .ok text => { self with saving := Function.update self.saving path (some (.opening text)) }
  | (path, .write count) =>
    match self.saving path with
    | none => self
    | some (.opening text) =>
      { files := self.files.write (path.withExtension "tmp") (text.take count)
        saving := Function.update self.saving path (some (.writing text count)) }
    | some (.writing text written) =>
      { files := self.files.write (path.withExtension "tmp") (text.take (written + count))
        saving := Function.update self.saving path (some (.writing text (written + count))) }
  | (path, .rename) =>
    match self.saving path with
    | some (.writing text written) =>
      if text.length ≤ written then
        { files := (self.files.rename (path.withExtension "tmp") path).getD self.files
          saving := Function.update self.saving path none }
      else self
    | _ => self

def run (self : SavingFiles) (steps : List (Path × SaveStep)) : SavingFiles :=
  steps.foldl (step json) self

/-- Files that nobody is writing. -/
def atRest (files : FileSystem) : SavingFiles := ⟨files, fun _ => none⟩

/-- Wherever a save stops, a load returns what it would have returned before or what was
to be saved. -/
def CrashAtomic (inUse : Path → Prop) (files : FileSystem) : Prop :=
  ∀ path, inUse path → ∀ (checkpoint : Checkpoint) (before after : List (Path × SaveStep)),
    (∀ step ∈ before ++ after, inUse step.1) →
    (∀ checkpoint', (path, SaveStep.save checkpoint') ∉ after) →
    ∃ previous : Option Checkpoint,
      Checkpoint.load json ((atRest files).run json before).files path = .ok previous ∧
      (Checkpoint.load json
          ((atRest files).run json (before ++ (path, .save checkpoint) :: after)).files path = .ok previous ∨
       Checkpoint.load json
          ((atRest files).run json (before ++ (path, .save checkpoint) :: after)).files path =
            .ok (some checkpoint))

/-- A load depends on the saves to its own path only. -/
def PathLocal (inUse : Path → Prop) (files : FileSystem) : Prop :=
  ∀ path, inUse path → ∀ steps : List (Path × SaveStep), (∀ step ∈ steps, inUse step.1) →
    Checkpoint.load json ((atRest files).run json steps).files path =
      Checkpoint.load json ((atRest files).run json (steps.filter fun step => step.1 = path)).files path

/-- No temporary file is a checkpoint, nor that of two checkpoints. -/
structure TemporariesApart (inUse : Path → Prop) : Prop where
  notInUse : ∀ path other, inUse path → inUse other → path.withExtension "tmp" ≠ other
  distinct : ∀ path other, inUse path → inUse other →
    path.withExtension "tmp" = other.withExtension "tmp" → path = other

@[simp] theorem run_append (self : SavingFiles) (before after : List (Path × SaveStep)) :
    self.run json (before ++ after) = (self.run json before).run json after :=
  List.foldl_append ..

variable {json}

/-- A step of one save changes its path and its temporary file, and no other save. -/
theorem step_frame (self : SavingFiles) (path other : Path) (step : SaveStep) :
    (other ≠ path → (self.step json (path, step)).saving other = self.saving other) ∧
    (other ≠ path → other ≠ path.withExtension "tmp" →
      (self.step json (path, step)).files other = self.files other) := by
  cases step with
  | save checkpoint =>
    simp only [SavingFiles.step]
    split
    · exact ⟨fun different => Function.update_of_ne different .., fun _ _ => rfl⟩
    · exact ⟨fun different => Function.update_of_ne different .., fun _ _ => rfl⟩
  | write count =>
    simp only [SavingFiles.step]
    split
    · exact ⟨fun _ => rfl, fun _ _ => rfl⟩
    · exact ⟨fun different => Function.update_of_ne different ..,
        fun _ notTemporary => FileSystem.write_of_ne _ _ notTemporary⟩
    · exact ⟨fun different => Function.update_of_ne different ..,
        fun _ notTemporary => FileSystem.write_of_ne _ _ notTemporary⟩
  | rename =>
    simp only [SavingFiles.step]
    split
    · split
      · refine ⟨fun different => Function.update_of_ne different .., fun different notTemporary => ?_⟩
        cases renamed : self.files.rename (path.withExtension "tmp") path with
        | none => rfl
        | some files => exact FileSystem.rename_of_ne renamed notTemporary different
      · exact ⟨fun _ => rfl, fun _ _ => rfl⟩
    · exact ⟨fun _ => rfl, fun _ _ => rfl⟩

/-- What the saves to one path and its loads go by. -/
structure SameAt (path : Path) (one other : SavingFiles) : Prop where
  file : one.files path = other.files path
  temporary : one.files (path.withExtension "tmp") = other.files (path.withExtension "tmp")
  saving : one.saving path = other.saving path

/-- Another path's step is not noticed. -/
theorem sameAt_step_other {inUse : Path → Prop} (apart : TemporariesApart inUse) (self : SavingFiles)
    {path other : Path} (used : inUse path) (otherUsed : inUse other) (different : path ≠ other)
    (step : SaveStep) : SameAt path (self.step json (other, step)) self where
  file := (self.step_frame other path step).2 different
    fun same => apart.notInUse other path otherUsed used same.symm
  temporary := (self.step_frame other (path.withExtension "tmp") step).2
    (apart.notInUse path other used otherUsed)
    fun same => different (apart.distinct path other used otherUsed same)
  saving := (self.step_frame other path step).1 different

private theorem rename_sameAt {path : Path} {self other : SavingFiles} (same : SameAt path self other)
    (apart : path.withExtension "tmp" ≠ path) :
    ((self.files.rename (path.withExtension "tmp") path).getD self.files) path =
        ((other.files.rename (path.withExtension "tmp") path).getD other.files) path ∧
      ((self.files.rename (path.withExtension "tmp") path).getD self.files) (path.withExtension "tmp") =
        ((other.files.rename (path.withExtension "tmp") path).getD other.files) (path.withExtension "tmp") := by
  simp only [FileSystem.rename, same.temporary, apart, if_false]
  cases other.files (path.withExtension "tmp") with
  | none => exact ⟨same.file, same.temporary⟩
  | some contents =>
    refine ⟨?_, ?_⟩
    · simp only [Option.getD_some, Function.update_self]
    · simp only [Option.getD_some, Function.update_of_ne apart, Function.update_self]

/-- The path's own step does the same in both. -/
theorem sameAt_step_own {path : Path} {self other : SavingFiles} (same : SameAt path self other)
    (apart : path.withExtension "tmp" ≠ path) (step : SaveStep) :
    SameAt path (self.step json (path, step)) (other.step json (path, step)) := by
  have written : ∀ text : Bytes, SameAt path
      ⟨self.files.write (path.withExtension "tmp") text, self.saving⟩
      ⟨other.files.write (path.withExtension "tmp") text, other.saving⟩ := by
    intro text
    refine ⟨?_, ?_, same.saving⟩
    · exact (FileSystem.write_of_ne _ _ apart.symm).trans
        (same.file.trans (FileSystem.write_of_ne _ _ apart.symm).symm)
    · exact (FileSystem.write_self ..).trans (FileSystem.write_self ..).symm
  cases step with
  | save checkpoint =>
    simp only [SavingFiles.step]
    split
    · exact ⟨same.file, same.temporary, by simp only [Function.update_self]⟩
    · exact ⟨same.file, same.temporary, by simp only [Function.update_self]⟩
  | write count =>
    simp only [SavingFiles.step, same.saving]
    split
    · exact same
    · rename_i text _
      exact ⟨(written (text.take count)).file, (written (text.take count)).temporary,
        by simp only [Function.update_self]⟩
    · rename_i text begun _
      exact ⟨(written (text.take (begun + count))).file, (written (text.take (begun + count))).temporary,
        by simp only [Function.update_self]⟩
  | rename =>
    simp only [SavingFiles.step, same.saving]
    split
    · split
      · exact ⟨(rename_sameAt same apart).1, (rename_sameAt same apart).2,
          by simp only [Function.update_self]⟩
      · exact same
    · exact same

/-- Leaving out the steps of the other paths changes nothing for one path. -/
theorem sameAt_run {inUse : Path → Prop} (apart : TemporariesApart inUse) {path : Path} (used : inUse path)
    (steps : List (Path × SaveStep)) (allUsed : ∀ step ∈ steps, inUse step.1)
    (self other : SavingFiles) (same : SameAt path self other) :
    SameAt path (self.run json steps) (other.run json (steps.filter fun step => step.1 = path)) := by
  induction steps generalizing self other with
  | nil => exact same
  | cons head rest ih =>
    obtain ⟨acting, step⟩ := head
    have restUsed : ∀ step ∈ rest, inUse step.1 :=
      fun step member => allUsed step (List.mem_cons_of_mem _ member)
    by_cases own : acting = path
    · subst own
      rw [List.filter_cons_of_pos (by simp)]
      apply ih restUsed
      exact sameAt_step_own same (apart.notInUse acting acting used used) step
    · rw [List.filter_cons_of_neg (by simpa using own)]
      apply ih restUsed
      have unnoticed : SameAt path (self.step json (acting, step)) self :=
        sameAt_step_other apart self used (allUsed _ (List.mem_cons_self ..)) (Ne.symm own) step
      exact ⟨unnoticed.file.trans same.file, unnoticed.temporary.trans same.temporary,
        unnoticed.saving.trans same.saving⟩

/-- The file of a path and the one it is about to become both load as expected. -/
structure Expects (json : CheckpointJson) (path : Path) (expected : Option Checkpoint → Prop)
    (disk : SavingFiles) : Prop where
  loads : ∃ found, Checkpoint.load json disk.files path = .ok found ∧ expected found
  saved : ∀ stage, disk.saving path = some stage →
    ∃ checkpoint, json.fromStr stage.json = .ok checkpoint ∧ expected (some checkpoint)
  begun : ∀ text written, disk.saving path = some (.writing text written) →
    disk.files (path.withExtension "tmp") = some (text.take written)

private theorem Expects.of_sameAt {path : Path} {expected : Option Checkpoint → Prop}
    {self other : SavingFiles}
    (expects : self.Expects json path expected) (same : SameAt path other self) :
    other.Expects json path expected where
  loads := by
    rw [Checkpoint.load_congr json same.file]
    exact expects.loads
  saved := by
    rw [same.saving]
    exact expects.saved
  begun := by
    rw [same.saving, same.temporary]
    exact expects.begun

private theorem expects_update {files : FileSystem} {path : Path} {expected : Option Checkpoint → Prop}
    (loads : ∃ found, Checkpoint.load json files path = .ok found ∧ expected found)
    (saving : Path → Option SaveStage) (next : Option SaveStage)
    (saved : ∀ stage, next = some stage →
      ∃ checkpoint, json.fromStr stage.json = .ok checkpoint ∧ expected (some checkpoint))
    (begun : ∀ text written, next = some (.writing text written) →
      files (path.withExtension "tmp") = some (text.take written)) :
    Expects json path expected ⟨files, Function.update saving path next⟩ where
  loads := loads
  saved := by simpa only [Function.update_self] using saved
  begun := by simpa only [Function.update_self] using begun

private theorem expects_save (faithful : json.Faithful) {path : Path} {expected : Option Checkpoint → Prop}
    {self : SavingFiles} (loads : ∃ found, Checkpoint.load json self.files path = .ok found ∧ expected found)
    (checkpoint : Checkpoint) (wanted : expected (some checkpoint)) :
    (self.step json (path, .save checkpoint)).Expects json path expected := by
  obtain ⟨text, serialized, read⟩ := faithful.roundtrip checkpoint
  simp only [SavingFiles.step, serialized]
  apply expects_update loads
  · intro stage now
    cases now
    exact ⟨checkpoint, read, wanted⟩
  · intro text written now
    cases now

private theorem expects_write {path : Path} {expected : Option Checkpoint → Prop} {self : SavingFiles}
    (expects : self.Expects json path expected) (apart : path.withExtension "tmp" ≠ path) (stage : SaveStage)
    (current : self.saving path = some stage) (count : Nat) :
    Expects json path expected
      { files := self.files.write (path.withExtension "tmp") (stage.json.take count)
        saving := Function.update self.saving path (some (.writing stage.json count)) } := by
  apply expects_update
  · rw [Checkpoint.load_congr json (FileSystem.write_of_ne self.files _ apart.symm)]
    exact expects.loads
  · intro next now
    cases now
    exact expects.saved stage current
  · intro text written now
    cases now
    exact FileSystem.write_self ..

/-- The text is complete when it takes the place of the file. -/
theorem expects_rename {path : Path} {expected : Option Checkpoint → Prop} {self : SavingFiles}
    (expects : self.Expects json path expected) (apart : path.withExtension "tmp" ≠ path) (text : Bytes)
    (written : Nat) (current : self.saving path = some (.writing text written))
    (complete : text.length ≤ written) :
    Expects json path expected
      { files := (self.files.rename (path.withExtension "tmp") path).getD self.files
        saving := Function.update self.saving path none } := by
  have whole : self.files (path.withExtension "tmp") = some text := by
    rw [expects.begun text written current, List.take_of_length_le complete]
  obtain ⟨checkpoint, read, wanted⟩ := expects.saved _ current
  apply expects_update
  · refine ⟨some checkpoint, ?_, wanted⟩
    apply Checkpoint.load_of_json _ read
    simp only [FileSystem.rename, whole, apart, if_false, Option.getD_some, Function.update_self]
    rfl
  · intro stage now
    cases now
  · intro text written now
    cases now

private theorem expects_step {inUse : Path → Prop} (faithful : json.Faithful)
    (apart : TemporariesApart inUse)
    {path : Path} (used : inUse path) {expected : Option Checkpoint → Prop} {self : SavingFiles}
    (expects : self.Expects json path expected) (acting : Path) (actingUsed : inUse acting) (step : SaveStep)
    (wanted : ∀ checkpoint, (acting, step) = (path, .save checkpoint) → expected (some checkpoint)) :
    (self.step json (acting, step)).Expects json path expected := by
  by_cases own : acting = path
  · subst own
    have notSelf := apart.notInUse acting acting used used
    cases step with
    | save checkpoint => exact expects_save faithful expects.loads checkpoint (wanted checkpoint rfl)
    | write count =>
      simp only [SavingFiles.step]
      split
      · exact expects
      · rename_i text saving
        exact expects_write expects notSelf (.opening text) saving count
      · rename_i text written saving
        exact expects_write expects notSelf (.writing text written) saving (written + count)
    | rename =>
      simp only [SavingFiles.step]
      split
      · split
        · rename_i text written saving complete
          exact expects_rename expects notSelf text written saving complete
        · exact expects
      · exact expects
  · exact expects.of_sameAt (sameAt_step_other apart self used actingUsed (Ne.symm own) step)

private theorem expects_run {inUse : Path → Prop} (faithful : json.Faithful)
    (apart : TemporariesApart inUse)
    {path : Path} (used : inUse path) {expected : Option Checkpoint → Prop}
    (steps : List (Path × SaveStep)) (allUsed : ∀ step ∈ steps, inUse step.1)
    (wanted : ∀ checkpoint, (path, .save checkpoint) ∈ steps → expected (some checkpoint))
    (self : SavingFiles) (expects : self.Expects json path expected) :
    (self.run json steps).Expects json path expected := by
  induction steps generalizing self with
  | nil => exact expects
  | cons head rest ih =>
    obtain ⟨acting, step⟩ := head
    apply ih (fun step member => allUsed step (List.mem_cons_of_mem _ member))
      (fun checkpoint member => wanted checkpoint (List.mem_cons_of_mem _ member))
    apply expects_step faithful apart used expects acting (allUsed _ (List.mem_cons_self ..))
    intro checkpoint isSave
    apply wanted checkpoint
    rw [← isSave]
    exact List.mem_cons_self ..

private theorem atRest_expects {files : FileSystem} {path : Path} {found : Option Checkpoint}
    (loaded : Checkpoint.load json files path = .ok found) :
    (atRest files).Expects json path fun _ => True :=
  ⟨⟨found, loaded, trivial⟩, (fun _ saving => nomatch saving), (fun _ _ saving => nomatch saving)⟩

private theorem crashAtomic_of_apart {inUse : Path → Prop} (faithful : json.Faithful)
    (apart : TemporariesApart inUse)
    (files : FileSystem) (readable : ∀ path, inUse path → ∃ found, Checkpoint.load json files path = .ok found) :
    CrashAtomic json inUse files := by
  intro path used checkpoint before after allUsed noSave
  obtain ⟨found, loaded⟩ := readable path used
  have reached : ((atRest files).run json before).Expects json path fun _ => True :=
    expects_run faithful apart used before
      (fun step member => allUsed step (List.mem_append_left _ member)) (fun _ _ => trivial) _
      (atRest_expects loaded)
  obtain ⟨previous, before_loaded, -⟩ := reached.loads
  refine ⟨previous, before_loaded, ?_⟩
  -- once the save is called, there are two outcomes left
  have called : (((atRest files).run json before).step json (path, .save checkpoint)).Expects json path
      fun outcome => outcome = previous ∨ outcome = some checkpoint :=
    expects_save faithful ⟨previous, before_loaded, .inl rfl⟩ checkpoint (.inr rfl)
  obtain ⟨outcome, outcome_loaded, either⟩ := (expects_run faithful apart used after
    (fun step member => allUsed step (List.mem_append_right _ member))
    (fun checkpoint' member => absurd member (noSave checkpoint')) _ called).loads
  rw [run_append]
  change Checkpoint.load json ((((atRest files).run json before).step json (path, .save checkpoint)).run json
    after).files path = _ at outcome_loaded
  rcases either with rfl | rfl
  · exact .inl outcome_loaded
  · exact .inr outcome_loaded

private theorem pathLocal_of_apart {inUse : Path → Prop} (apart : TemporariesApart inUse)
    (files : FileSystem) :
    PathLocal json inUse files := by
  intro path used steps allUsed
  apply Checkpoint.load_congr
  exact (sameAt_run apart used steps allUsed _ _ ⟨rfl, rfl, rfl⟩).file

/-- `fs::write` has created the temporary file and not come further. -/
theorem truncated (faithful : json.Faithful) (files : FileSystem) (path : Path) :
    ((atRest files).run json [(path, .save Checkpoint.fresh), (path, .write 0)]).files
      (path.withExtension "tmp") = some [] := by
  obtain ⟨text, serialized, -⟩ := faithful.roundtrip Checkpoint.fresh
  simp [run, SavingFiles.step, serialized, FileSystem.write]

private theorem notInUse_of_crashAtomic {inUse : Path → Prop} (faithful : json.Faithful)
    {files : FileSystem}
    (atomic : CrashAtomic json inUse files) (path other : Path) (used : inUse path) (otherUsed : inUse other) :
    path.withExtension "tmp" ≠ other := by
  intro same
  obtain ⟨previous, loaded, -⟩ := atomic other otherUsed Checkpoint.fresh
    [(path, .save Checkpoint.fresh), (path, .write 0)] [] (by simp [used]) (by simp)
  exact Checkpoint.load_of_empty faithful (same ▸ truncated faithful files path) previous loaded

private theorem distinct_of_pathLocal {inUse : Path → Prop} (faithful : json.Faithful) {files : FileSystem}
    (pathLocal : PathLocal json inUse files)
    (apart : ∀ path other, inUse path → inUse other → path.withExtension "tmp" ≠ other)
    (path other : Path) (used : inUse path) (otherUsed : inUse other)
    (same : path.withExtension "tmp" = other.withExtension "tmp") : path = other := by
  by_contra different
  obtain ⟨text, serialized, read⟩ := faithful.roundtrip Checkpoint.fresh
  obtain ⟨text', serialized', read'⟩ := faithful.roundtrip (Checkpoint.fresh.touch 1)
  have notSelf : path.withExtension "tmp" ≠ path := apart path path used used
  -- the other save writes its text before this one renames
  have alone := pathLocal path used
    [(path, .save Checkpoint.fresh), (path, .write text.length),
     (other, .save (Checkpoint.fresh.touch 1)), (other, .write text'.length), (path, .rename)]
    (by simp [used, otherUsed])
  have otherText : Checkpoint.load json ((atRest files).run json
      [(path, .save Checkpoint.fresh), (path, .write text.length),
       (other, .save (Checkpoint.fresh.touch 1)), (other, .write text'.length), (path, .rename)]).files path =
      .ok (some (Checkpoint.fresh.touch 1)) := by
    apply Checkpoint.load_of_json _ read'
    simp [run, SavingFiles.step, serialized, serialized', FileSystem.write, FileSystem.rename, different,
      ← same, notSelf]
  have ownText : Checkpoint.load json ((atRest files).run json
      [(path, .save Checkpoint.fresh), (path, .write text.length), (path, .rename)]).files path =
      .ok (some Checkpoint.fresh) := by
    apply Checkpoint.load_of_json _ read
    simp [run, SavingFiles.step, serialized, FileSystem.write, FileSystem.rename, notSelf]
  have ownSteps : ([(path, .save Checkpoint.fresh), (path, .write text.length),
      (other, .save (Checkpoint.fresh.touch 1)), (other, .write text'.length),
      (path, .rename)] : List (Path × SaveStep)).filter (fun step => step.1 = path) =
      [(path, .save Checkpoint.fresh), (path, .write text.length), (path, .rename)] := by
    simp [Ne.symm different]
  rw [otherText, ownSteps, ownText] at alone
  simp [Checkpoint.touch, Checkpoint.fresh] at alone

/-- Saves are atomic and keep to their own path exactly when the temporary files are neither
checkpoints in use nor shared, and all checkpoints in use could be read to begin with. -/
theorem crashAtomic_and_pathLocal_iff (json : CheckpointJson) (faithful : json.Faithful)
    (inUse : Path → Prop) (files : FileSystem) :
    CrashAtomic json inUse files ∧ PathLocal json inUse files ↔
      TemporariesApart inUse ∧
        ∀ path, inUse path → ∃ found, Checkpoint.load json files path = .ok found := by
  constructor
  · rintro ⟨atomic, pathLocal⟩
    refine ⟨⟨notInUse_of_crashAtomic faithful atomic, ?_⟩, ?_⟩
    · exact distinct_of_pathLocal faithful pathLocal (notInUse_of_crashAtomic faithful atomic)
    · intro path used
      obtain ⟨previous, loaded, -⟩ := atomic path used Checkpoint.fresh [] [] (by simp) (by simp)
      exact ⟨previous, loaded⟩
  · rintro ⟨apart, readable⟩
    exact ⟨crashAtomic_of_apart faithful apart files readable, pathLocal_of_apart apart files⟩

section Examples

open Reference

/-- Two checkpoints of other names in one directory. -/
theorem crashAtomic_and_pathLocal_iff_data :
    CrashAtomic prettyJson (· ∈ [⟨["data"], "sequencer.json"⟩, ⟨["data"], "validator.json"⟩]) (fun _ => none) ∧
      PathLocal prettyJson (· ∈ [⟨["data"], "sequencer.json"⟩, ⟨["data"], "validator.json"⟩]) (fun _ => none) := by
  apply (crashAtomic_and_pathLocal_iff prettyJson prettyJson_faithful
    (· ∈ [⟨["data"], "sequencer.json"⟩, ⟨["data"], "validator.json"⟩]) (fun _ => none)).2
  refine ⟨⟨?_, ?_⟩, fun path _ => ⟨none, rfl⟩⟩
  · intro path other used otherUsed
    simp only [List.mem_cons, List.not_mem_nil, or_false] at used otherUsed
    rcases used with rfl | rfl <;> rcases otherUsed with rfl | rfl <;> decide
  · intro path other used otherUsed
    simp only [List.mem_cons, List.not_mem_nil, or_false] at used otherUsed
    rcases used with rfl | rfl <;> rcases otherUsed with rfl | rfl <;> decide

/-- A checkpoint that is called `checkpoint.tmp` is its own temporary file: a crash right after
it was opened leaves it empty. -/
theorem not_crashAtomic_tmp :
    ¬ CrashAtomic prettyJson (· = ⟨["data"], "checkpoint.tmp"⟩) (fun _ => none) := by
  intro atomic
  obtain ⟨previous, loaded, -⟩ := atomic ⟨["data"], "checkpoint.tmp"⟩ rfl Checkpoint.fresh
    [(⟨["data"], "checkpoint.tmp"⟩, .save Checkpoint.fresh), (⟨["data"], "checkpoint.tmp"⟩, .write 0)] []
    (by simp) (by simp)
  exact Checkpoint.load_of_empty prettyJson_faithful
    (truncated prettyJson_faithful (fun _ => none) ⟨["data"], "checkpoint.tmp"⟩) previous loaded

end Examples

end SavingFiles

end Montana
