import JoinLatency.Command.Run
import JoinLatency.Proofs.Files.Paths
import JoinLatency.Proofs.Summary.Averaging

/-! The command that averages summary files. All inputs are read before the output is written, and
every failure comes before that, so that a run changes one file or none. It makes no difference
whether the output is one of the inputs.
-/

namespace JoinLatency

/-- A file that is saved is the only node that changes. -/
theorem Files.node?_save {files next : Files} {path : String} {content : ByteArray}
    (h : files.save path content = .ok next)
    : ∃ location,
        files.writable path = .ok location
        ∧ next.here = files.here
        ∧ ∀ other,
            next.node? other
            = if location = other then some (.file content) else files.node? other := by
  obtain ⟨location, writes, done⟩ := bind_eq_ok.mp h
  obtain rfl := Except.ok.inj done
  exact ⟨location, writes, rfl, node?_put (writable_eq_ok writes).2 content⟩

/-- An average has no other faults than those of its inputs. -/
theorem Summary.average_error {files : Files} {inputs : List String} {policy : MissingPolicy}
    {error : Error} (h : average files inputs policy = .error error)
    : ∃ fault, error = .average fault := by
  rw [average] at h
  split at h
  · exact ⟨_, (Except.error.inj h).symm⟩
  · split at h
    · exact ⟨_, (Except.error.inj h).symm⟩
    · cases h

namespace Command

variable {files : Files} {output : String} {inputs : List String} {policy : MissingPolicy}

-----------------------------------------------------------------------------------------
-- What a run does
-----------------------------------------------------------------------------------------

/-- What a run on some files leaves. Nothing is changed if no input can be read or if the output
cannot be created, and otherwise the output holds the averages of the inputs as they were.
-/
inductive Averages (files : Files) (output : String) (inputs : List String) (policy : MissingPolicy)
    : Finished → Prop
  | unreadable (fault : AverageFault) (lost : ∀ path ∈ inputs, Summary.Unreadable files path)
    : Averages files output inputs policy { result := .error (.ofError (.average fault)), files }
  | uncreatable {entries : List SummaryEntry} {fault : IoFault}
    (averaged : Summary.average files inputs policy = .ok entries)
    (refused : files.writable output = .error fault)
    : Averages files output inputs policy
        { result := .error ⟨[s!"creating {output}", fault.message]⟩, files }
  | written {entries : List SummaryEntry} {next : Files}
    (averaged : Summary.average files inputs policy = .ok entries)
    (saved : files.save output (SummaryEntry.text entries).toUTF8 = .ok next)
    : Averages files output inputs policy { result := .ok "", files := next }

theorem averages_average (files : Files) (output : String) (inputs : List String)
    (policy : MissingPolicy)
    : Averages files output inputs policy (average output inputs policy files) := by
  rw [average]
  cases averaged : Summary.average files inputs policy with
  | error error =>
      obtain ⟨fault, rfl⟩ := Summary.average_error averaged
      have none := Summary.average_eq_error_iff.mp ⟨_, averaged⟩
      exact .unreadable fault (Summary.readable_eq_nil_iff.mp none)
  | ok entries =>
      simp only [fail, Except.mapError]
      cases writes : files.writable output with
      | error fault =>
          rw [Files.save_of_refused writes]
          exact .uncreatable averaged writes
      | ok location =>
          have saved := Files.save_of_writable writes (SummaryEntry.text entries).toUTF8
          rw [saved]
          exact .written averaged saved

/-- Averages are of some input that can be read. -/
theorem exists_readable {entries : List SummaryEntry}
    (averaged : Summary.average files inputs policy = .ok entries)
    : ∃ path ∈ inputs, ¬ Summary.Unreadable files path := by
  by_contra none
  push Not at none
  obtain ⟨fault, failed⟩ :=
    Summary.average_eq_error_iff.mpr (Summary.readable_eq_nil_iff.mpr none)
  cases averaged.symm.trans failed

/-- A run succeeds if and only if some input can be read and the output can be created. -/
theorem Averages.succeeds_iff {finished : Finished}
    (h : Averages files output inputs policy finished)
    : (∃ shown, finished.result = .ok shown)
      ↔ (∃ path ∈ inputs, ¬ Summary.Unreadable files path)
        ∧ ∃ location, files.writable output = .ok location := by
  cases h with
  | unreadable fault lost =>
      refine iff_of_false nofun ?_
      rintro ⟨⟨path, member, read⟩, _⟩
      exact read (lost path member)
  | uncreatable averaged refused =>
      refine iff_of_false nofun ?_
      rintro ⟨_, location, writes⟩
      cases refused.symm.trans writes
  | written averaged saved =>
      obtain ⟨location, writes, _⟩ := Files.node?_save saved
      exact iff_of_true ⟨"", rfl⟩ ⟨exists_readable averaged, location, writes⟩

-----------------------------------------------------------------------------------------
-- Command lines
-----------------------------------------------------------------------------------------

/-- The flags that choose a policy. -/
def policyFlags : MissingPolicy → List String
  | .skip => []
  | .zero => ["--zero-missing"]
  | .fillZero => ["--fill-zero"]

/-- A command line for an average: flags, and the paths behind the end of the options. -/
def averageLine (policy : MissingPolicy) (output : String) (inputs : List String) : List String :=
  "average" :: (policyFlags policy ++ "--" :: output :: inputs)

theorem mapM_path {paths : List String} (named : "" ∉ paths) : paths.mapM path = .ok paths := by
  rw [mapM_eq_ok, List.forall₂_same]
  intro text member
  have some : text.isEmpty = false := by
    rw [Bool.eq_false_iff, Ne, String.isEmpty_iff]
    rintro rfl
    exact named member
  rw [path, some, if_neg (by decide)]

/-- What stands before the end of the options are the flags of one policy, and all behind it are
paths.
-/
theorem read_policyFlags (policy : MissingPolicy) (paths : List String)
    : ∃ line,
        Line.read [("zero-missing", .none), ("fill-zero", .none)] {}
            (policyFlags policy ++ "--" :: paths)
          = .ok line
        ∧ line.positional = paths
        ∧ line.flag "zero-missing" = .ok (policy = .zero)
        ∧ line.flag "fill-zero" = .ok (policy = .fillZero) := by
  have ends (line : Line)
      : Line.read [("zero-missing", .none), ("fill-zero", .none)] line ("--" :: paths)
        = .ok (line.withPositional paths) := by
    rw [Line.read]
  cases policy with
  | skip => exact ⟨_, ends {}, rfl, rfl, rfl⟩
  | zero =>
      refine ⟨{ options := [("zero-missing", [])], positional := paths }, ?_, rfl, rfl, rfl⟩
      change Line.read _ _ ("--zero-missing" :: "--" :: paths) = _
      rw [Line.read] <;> simp [isValue, splitAttached, takeValues, ends]
      rfl
  | fillZero =>
      refine ⟨{ options := [("fill-zero", [])], positional := paths }, ?_, rfl, rfl, rfl⟩
      change Line.read _ _ ("--fill-zero" :: "--" :: paths) = _
      rw [Line.read] <;> simp [isValue, splitAttached, takeValues, List.lookup_cons, ends]
      rfl

/-- Flags and paths are read as the average that they ask for. -/
theorem ofArguments_averageLine (some : inputs ≠ []) (named : "" ∉ output :: inputs)
    : ofArguments (averageLine policy output inputs)
      = .ok (.averageFiles output inputs policy) := by
  obtain ⟨line, reads, paths, zero, fillZero⟩ := read_policyFlags policy (output :: inputs)
  have read : readAverage (policyFlags policy ++ "--" :: output :: inputs)
      = .ok (.averageFiles output inputs policy) := by
    obtain ⟨input, more, rfl⟩ := List.exists_cons_of_ne_nil some
    rw [readAverage, reads]
    simp only [bind, Except.bind, paths, zero, fillZero, mapM_path named]
    cases policy <;> rfl
  rw [averageLine, ofArguments]
  · simpa [readers, List.lookup_cons] using read
  all_goals simp

/-- A command line leaves the files of its command, and its exit code tells whether that succeeded.
-/
theorem runLine_of_command {arguments : List String} {command : Command}
    (reads : ofArguments arguments = .ok command) (files : Files) (epoch : Moment)
    : (runLine arguments files epoch).files = (command.run files epoch).files
      ∧ ((runLine arguments files epoch).exit = 0
        ↔ ∃ shown, (command.run files epoch).result = .ok shown) := by
  rw [runLine, reads]
  cases ran : (command.run files epoch).result with
  | ok shown => simp [ran]
  | error failure => cases aborted : (command.run files epoch).aborted <;> simp [ran, aborted]

-----------------------------------------------------------------------------------------
-- One file or none
-----------------------------------------------------------------------------------------

/-- An average succeeds if and only if some input can be read and the output can be created. Then
the output holds the averages of the inputs as they were, even if it is one of them, and no other
node differs. Otherwise the failure names what was refused and no file differs at all. This is what
is left by every command line that asks for the average, and the one of its flags and paths does so.
-/
theorem average_writes_one_or_none (files : Files) (epoch : Moment) (output : String)
    (inputs : List String) (policy : MissingPolicy)
    : let command := Command.averageFiles output inputs policy
      let finished := command.run files epoch
      ((∃ shown, finished.result = .ok shown)
        ↔ (∃ path ∈ inputs, ¬ Summary.Unreadable files path)
          ∧ ∃ location, files.writable output = .ok location)
      ∧ (∀ shown, finished.result = .ok shown →
          ∃ entries location,
            Summary.average files inputs policy = .ok entries
            ∧ files.writable output = .ok location
            ∧ finished.files.readText output = .ok (SummaryEntry.text entries)
            ∧ finished.files.here = files.here
            ∧ ∀ other,
                finished.files.node? other
                = if location = other then some (.file (SummaryEntry.text entries).toUTF8)
                  else files.node? other)
      ∧ (∀ failure, finished.result = .error failure →
          finished.files = files
          ∧ ((∀ path ∈ inputs, Summary.Unreadable files path)
              ∧ (∃ fault, failure = .ofError (.average fault))
            ∨ ∃ fault,
                files.writable output = .error fault
                ∧ failure = ⟨[s!"creating {output}", fault.message]⟩))
      ∧ (∀ arguments, ofArguments arguments = .ok command →
          (runLine arguments files epoch).files = finished.files
          ∧ ((runLine arguments files epoch).exit = 0 ↔ ∃ shown, finished.result = .ok shown))
      ∧ (inputs ≠ [] → "" ∉ output :: inputs →
          ofArguments (averageLine policy output inputs) = .ok command) := by
  intro command finished
  refine ⟨?success, ?saved, ?kept, fun arguments reads => runLine_of_command reads files epoch,
    ofArguments_averageLine⟩
  all_goals
    have ran : Averages files output inputs policy finished := averages_average ..
    clear_value finished
  case success => exact ran.succeeds_iff
  case saved =>
    intro shown done
    cases ran with
    | unreadable => cases done
    | uncreatable => cases done
    | @written entries next averaged saved =>
        obtain ⟨location, writes, here, nodes⟩ := Files.node?_save saved
        exact ⟨entries, location, averaged, writes, Files.readText_save saved, here, nodes⟩
  case kept =>
    intro failure failed
    cases ran with
    | unreadable fault lost => exact ⟨rfl, .inl ⟨lost, fault, (Except.error.inj failed).symm⟩⟩
    | uncreatable averaged refused =>
        exact ⟨rfl, .inr ⟨_, refused, (Except.error.inj failed).symm⟩⟩
    | written => cases failed

/-- An average of a file and of a missing one, written over the file by another path to it, and one
that is not written because its output is a directory.
-/
theorem average_writes_one_or_none_over_input
    : ∃ files : Files,
        files.readText "first" = .ok "b\t2\nb\t4\n"
        ∧ ofArguments ["average", "--zero-missing", "--", "./first", "first", "missing"]
          = .ok (.averageFiles "./first" ["first", "missing"] .zero)
        ∧ (let finished := run (.averageFiles "./first" ["first", "missing"] .zero) files ⟨0, 0⟩
          finished.files.readText "./first" = .ok "b\t3.0000000000\n"
          ∧ finished.files.node? ["second"] = some (.file "b\t8\n".toUTF8))
        ∧ (runLine ["average", "--", "results", "first"] files ⟨0, 0⟩).exit ≠ 0
        ∧ (runLine ["average", "--", "results", "first"] files ⟨0, 0⟩).files = files := by
  let files : Files := {
    nodes := [
      (["first"], .file "b\t2\nb\t4\n".toUTF8),
      (["second"], .file "b\t8\n".toUTF8),
      (["results"], .directory)
    ]
  }
  obtain ⟨succeeds, written, _, _, line⟩ :=
    average_writes_one_or_none files ⟨0, 0⟩ "./first" ["first", "missing"] .zero
  obtain ⟨fails, _, kept, lines, line'⟩ :=
    average_writes_one_or_none files ⟨0, 0⟩ "results" ["first"] .skip
  refine ⟨files, toOption_eq_some.mp (by decide +kernel), line (by decide) (by decide), ?_, ?_⟩
  · have read : ¬ Summary.Unreadable files "first" := by
      rw [Summary.unreadable_iff, ← Option.isNone_iff_eq_none]
      decide +kernel
    have place : files.writable "./first" = .ok ["first"] :=
      toOption_eq_some.mp (by decide +kernel)
    have text : (Summary.average files ["first", "missing"] .zero).toOption.map SummaryEntry.text
        = some "b\t3.0000000000\n" := by
      decide +kernel
    obtain ⟨shown, done⟩ := succeeds.mpr ⟨⟨"first", by simp, read⟩, _, place⟩
    obtain ⟨entries, location, averaged, writes, read, _, nodes⟩ := written shown done
    obtain rfl := Except.ok.inj (place.symm.trans writes)
    rw [averaged] at text
    obtain same := Option.some.inj text
    exact ⟨by rw [read, same], nodes ["second"]⟩
  · obtain ⟨same, exit⟩ := lines _ (line' (by decide) (by decide))
    have refused : (files.writable "results").toOption = none := by decide +kernel
    have failed : ¬ ∃ shown, (run (.averageFiles "results" ["first"] .skip) files ⟨0, 0⟩).result
        = .ok shown := by
      rw [fails]
      rintro ⟨_, location, writes⟩
      cases refused.symm.trans (toOption_eq_some.mpr writes)
    refine ⟨fun zero => failed (exit.mp zero), same.trans ?_⟩
    cases ran : (run (.averageFiles "results" ["first"] .skip) files ⟨0, 0⟩).result with
    | ok shown => exact absurd ⟨shown, ran⟩ failed
    | error failure => exact (kept failure ran).1

end Command

end JoinLatency
