import JoinLatency.Proofs.Files.Paths
import JoinLatency.Proofs.Timer.Shift
import JoinLatency.Sweep.Run

/-! What sweeps do to the tree of files. The repetitions of a job and its averages all go to one
detail log, so that a job leaves the nodes that touching the path of the log would leave.
-/

namespace JoinLatency

-----------------------------------------------------------------------------------------
-- Files as a storage
-----------------------------------------------------------------------------------------

namespace Files

variable {files next : Files} {path text : String}

theorem openLog_of_refused {fault : IoFault} (refused : files.writable path = .error fault)
    : Storage.openLog files path = (.error fault, files) := by
  simp [Storage.openLog, refused, Except.map]

theorem openLog_of_writable {location : Location} (writes : files.writable path = .ok location)
    : Storage.openLog files path = (.ok { location }, files) := by
  simp [Storage.openLog, writes, Except.map]

theorem saveText_of_refused {fault : IoFault} (refused : files.writable path = .error fault)
    : Storage.save files path text = (.error fault, files) := by
  simp only [Storage.save, save_of_refused refused]

theorem saveText_of_writable {location : Location} (writes : files.writable path = .ok location)
    : Storage.save files path text = (.ok (), files.put location text.toUTF8) := by
  simp only [Storage.save, save_of_writable writes]

/-- A text is saved where its path may write. -/
theorem saveText_of_ok (h : Storage.save files path text = (.ok (), next))
    : files.save path text.toUTF8 = .ok next := by
  cases writes : files.writable path with
  | error refused => cases (saveText_of_refused writes).symm.trans h
  | ok location =>
      obtain ⟨_, rfl⟩ := Prod.mk.inj ((saveText_of_writable writes).symm.trans h)
      exact save_of_writable writes _

/-- A text that cannot be saved leaves the files as they are. -/
theorem saveText_of_error {fault : IoFault}
    (h : Storage.save files path text = (.error fault, next))
    : files.writable path = .error fault ∧ next = files := by
  cases writes : files.writable path with
  | error refused =>
      obtain ⟨same, rfl⟩ := Prod.mk.inj ((saveText_of_refused writes).symm.trans h)
      exact ⟨congrArg Except.error (Except.error.inj same), rfl⟩
  | ok location => cases (saveText_of_writable writes).symm.trans h

end Files

/-- The log of a file goes like an unlimited log behind what the file log holds already. -/
theorem FileLog.alike (location : Location) (opening : String)
    : Sink.Alike fun (log : Log) (file : FileLog) =>
        log.capacity = none ∧ file = { location, text := opening ++ log.text } where
  status := by
    rintro log _ ⟨unlimited, rfl⟩
    exact (Log.status_of_unlimited unlimited).symm
  write := by
    rintro log _ ⟨unlimited, rfl⟩ text
    refine ⟨unlimited, ?_⟩
    simp only [Sink.write, Log.write, String.append_assoc]
  flush h := h

/-- A run on the log of a file writes what it writes to a log of its own. -/
theorem Timer.run_fileLog {R σ : Type} [Seconds R] [RowSource σ] (timer : Timer R) (source : σ)
    (file : FileLog)
    : let finished := timer.run source ({} : Log)
      timer.run source file
      = {
          result := finished.result
          log := { file with text := file.text ++ finished.log.text }
          source := finished.source
        } := by
  have opened : file = { location := file.location, text := file.text ++ ({} : Log).text } := by
    simp
  cases run_alike (FileLog.alike file.location file.text) (RowSource.Alike.same (σ := σ)) timer
      rfl ⟨rfl, opened⟩ with
  | overflow excuse => exact excuse.elim
  | same result log left =>
      rcases other : timer.run source file with ⟨result', log', source'⟩
      rw [other] at result log left
      dsimp only at result log left ⊢
      rw [result, log.2, left]

namespace Sweep

variable {S C : Type} [RowSource C] [Session S C]

-----------------------------------------------------------------------------------------
-- Jobs
-----------------------------------------------------------------------------------------

/-- A repetition with an open log touches neither its location nor the files. -/
theorem runQuery_files (sweep : Sweep) (job : Job) (iteration : Nat) (bench : Bench S Files)
    (file : FileLog)
    : let done := sweep.runQuery job iteration bench file
      done.2.1.location = file.location ∧ done.2.2.files = bench.files := by
  simp only [runQuery, Sink.status, Timer.run_fileLog]
  split
  · exact ⟨rfl, rfl⟩
  · split <;> exact ⟨rfl, rfl⟩

/-- A repetition touches the path of the log, whether it fails or not. -/
theorem runOnce_touch (sweep : Sweep) (job : Job) (iteration : Nat) (bench : Bench S Files)
    : (bench.files.touch job.path).SameKinds (sweep.runOnce job iteration bench).2.files := by
  rw [runOnce]
  cases writes : bench.files.writable job.path with
  | error fault =>
      rw [Files.openLog_of_refused writes, Files.touch, writes]
      exact .refl bench.files
  | ok location =>
      obtain ⟨place, files⟩ := sweep.runQuery_files job iteration bench { location }
      rw [Files.openLog_of_writable writes]
      dsimp only [Storage.closeLog]
      rw [place, files]
      exact .touch_appendAt writes _

/-- Repetitions touch no other path, by induction on their number. They have touched the path of
the log if one of them fails, also if it is the first.
-/
theorem repeatFrom_touch (sweep : Sweep) (job : Job) (bench : Bench S Files)
    (iteration left : Nat)
    : let ending := (sweep.repeatFrom job bench iteration left).2
      (bench.files.touch job.path).SameKinds (ending.2.files.touch job.path)
      ∧ (ending.1 ≠ none → (bench.files.touch job.path).SameKinds ending.2.files) := by
  induction left generalizing bench iteration with
  | zero => exact ⟨.refl _, fun failed => absurd rfl failed⟩
  | succ left ih =>
      have first := sweep.runOnce_touch job iteration bench
      have settled := (Files.SameKinds.touch_touch bench.files job.path).trans
        (first.touch job.path)
      simp only [repeatFrom]
      split
      next error next failed =>
        rw [failed] at first settled
        exact ⟨settled, fun _ => first⟩
      next trace next returned =>
        rw [returned] at settled
        have later := ih next (iteration + 1)
        exact ⟨settled.trans later.1, fun failed => settled.trans (later.2 failed)⟩

/-- Averages are written to the end of a log that can be opened. -/
theorem logAverages_of_writable {job : Job} {bench : Bench S Files} {location : Location}
    (writes : bench.files.writable job.path = .ok location) (averaged : AveragedTrace)
    : logAverages job averaged bench
      = (.ok (),
          {
            bench with
            files := bench.files.appendAt location (averaged.logText job.sql).toUTF8
          }) := by
  rw [logAverages, Files.openLog_of_writable writes]
  change (Except.ok (), {
    bench with
    files := bench.files.appendAt location ("" ++ averaged.logText job.sql).toUTF8
  }) = _
  rw [String.empty_append]

theorem logAverages_of_refused {job : Job} {bench : Bench S Files} {fault : IoFault}
    (refused : bench.files.writable job.path = .error fault) (averaged : AveragedTrace)
    : logAverages job averaged bench = (.error fault, bench) := by
  rw [logAverages, Files.openLog_of_refused refused]

/-- A job touches the path of its log, whether it fails or not. -/
theorem runJob_touch (sweep : Sweep) (job : Job) (bench : Bench S Files)
    : (bench.files.touch job.path).SameKinds (sweep.runJob job bench).2.files := by
  have repeated := sweep.repeatFrom_touch job bench 1 sweep.config.repetitions
  rw [runJob]
  split
  next runs error next failed =>
    rw [failed] at repeated
    exact repeated.2 (by simp)
  next runs next finished =>
    rw [finished] at repeated
    cases writes : next.files.writable job.path with
    | error fault =>
        have same : next.files.touch job.path = next.files := by rw [Files.touch, writes]
        simp only [logAverages_of_refused writes]
        exact same ▸ repeated.1
    | ok location =>
        simp only [logAverages_of_writable writes]
        exact repeated.1.trans (.touch_appendAt writes _)

-----------------------------------------------------------------------------------------
-- Variants
-----------------------------------------------------------------------------------------

theorem runVariant_sameDirectories (sweep : Sweep) (base : String) (variant : Variant)
    (bench : Bench S Files)
    : bench.files.SameDirectories (sweep.runVariant base variant bench).2.files := by
  rw [runVariant]
  split
  · exact .refl bench.files
  · split
    · exact .refl bench.files
    next job known =>
      exact (Files.SameDirectories.touch bench.files job.path).trans
        (sweep.runJob_touch job bench).toSameDirectories

end Sweep

end JoinLatency
