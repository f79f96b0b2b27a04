import JoinLatency.Proofs.Decimal.Fixed
import JoinLatency.Proofs.Summary.Merging

/-! Averages read again. A key that was read from any file is trimmed and has no tab and no line
feed, so that the text of some averages is a table with the same keys.
-/

namespace JoinLatency

-----------------------------------------------------------------------------------------
-- Keys that are read
-----------------------------------------------------------------------------------------

namespace Text

theorem mem_of_mem_dropReturn {line : List Char} {c : Char} (h : c ∈ dropReturn line)
    : c ∈ line := by
  rw [dropReturn] at h
  split at h
  next last => exact List.mem_of_mem_dropLast h
  next other => exact h

/-- Lines have no line feeds inside, by induction along the text with the line that is begun. -/
theorem feed_of_mem_linesFrom {current text line : List Char} (begun : '\n' ∉ current)
    (h : line ∈ linesFrom current text)
    : '\n' ∉ line := by
  fun_induction linesFrom current text with
  | case1 current => cases h
  | case2 current some =>
      rw [List.mem_singleton.mp h]
      exact mt List.mem_reverse.mp begun
  | case3 current rest ih =>
      rcases List.mem_cons.mp h with rfl | later
      · exact fun member => begun (List.mem_reverse.mp (mem_of_mem_dropReturn member))
      · exact ih List.not_mem_nil later
  | case4 current c rest other ih =>
      refine ih ?_ h
      rw [List.mem_cons, not_or]
      exact ⟨fun same => other same.symm, begun⟩

theorem feed_of_mem_lines {text line : List Char} (h : line ∈ lines text) : '\n' ∉ line :=
  feed_of_mem_linesFrom List.not_mem_nil h

end Text

namespace SummaryEntry

/-- The key of a line ends before the first tab and is trimmed. -/
theorem isKey_of_ofLine {line : List Char} {entry : SummaryEntry} (feed : '\n' ∉ line)
    (h : ofLine line = .ok entry)
    : IsKey entry.key.toList := by
  rw [ofLine] at h
  split at h
  next untabbed => cases h
  next tabbed =>
    split at h
    next fault => cases h
    next x read =>
      obtain rfl := Except.ok.inj h
      rw [String.toList_ofList]
      refine ⟨Text.trim_trim _, fun member => ?_, fun member => ?_⟩
      · have before := List.mem_takeWhile_imp (Text.mem_of_mem_trim member)
        exact absurd before (by decide)
      · exact feed ((List.takeWhile_sublist _).subset (Text.mem_of_mem_trim member))

/-- All keys of a table are read from its lines, by induction along them. -/
theorem isKey_of_ofLines {path : String} {number : Nat} {lines : List (List Char)}
    {entries : List SummaryEntry} (feed : ∀ line ∈ lines, '\n' ∉ line)
    (h : ofLines path number lines = .ok entries)
    : ∀ entry ∈ entries, IsKey entry.key.toList := by
  fun_induction ofLines path number lines generalizing entries with
  | case1 number =>
      obtain rfl := Except.ok.inj h
      simp
  | case2 number line rest blank ih => exact ih (List.forall_mem_cons.mp feed).2 h
  | case3 number line rest filled fault read => cases h
  | case4 number line rest filled entry read ih =>
      obtain ⟨own, others⟩ := List.forall_mem_cons.mp feed
      obtain ⟨more, later, rfl⟩ := map_eq_ok.mp h
      exact List.forall_mem_cons.mpr ⟨isKey_of_ofLine own read, ih others later⟩

theorem isKey_of_ofFile {files : Files} {path : String} {entries : List SummaryEntry}
    (h : ofFile files path = .ok entries)
    : ∀ entry ∈ entries, IsKey entry.key.toList := by
  rw [ofFile] at h
  split at h
  next fault lost => cases h
  next text read => exact isKey_of_ofLines (fun _ => Text.feed_of_mem_lines) h

-----------------------------------------------------------------------------------------
-- Texts of entries
-----------------------------------------------------------------------------------------

/-- An entry as it is read from its line: its value is rounded to ten decimal places. -/
def rounded (entry : SummaryEntry) : SummaryEntry where
  key := entry.key
  value := Decimal.rounded 10 entry.value

/-- The text of some entries is read line by line, by induction along them. -/
theorem ofText_text (path : String) {entries : List SummaryEntry}
    (keys : ∀ entry ∈ entries, IsKey entry.key.toList)
    : ofText path (text entries) = .ok (entries.map rounded) := by
  have spelled (entry : SummaryEntry)
      : entry.line.toList
        = entry.key.toList ++ '\t' :: (Decimal.fixed 10 entry.value).toList ++ ['\n'] := by
    have parts : entry.line = entry.key ++ "\t" ++ Decimal.fixed 10 entry.value ++ "\n" := rfl
    rw [parts]
    simp
  rw [ofText, text, String.toList_join, List.flatMap_map]
  generalize 1 = number
  induction entries generalizing number with
  | nil => rfl
  | cons entry rest ih =>
      obtain ⟨own, others⟩ := List.forall_mem_cons.mp keys
      rw [List.flatMap_cons, spelled, List.append_assoc _ ['\n'], List.singleton_append,
        ofLines_cons own (fun _ => Decimal.isBlank_of_mem_fixed)
          (Decimal.literal_fixed 10 entry.value),
        ih others, String.ofList_toList]
      rfl

end SummaryEntry

-----------------------------------------------------------------------------------------
-- Averages
-----------------------------------------------------------------------------------------

namespace Summary

variable {files written : Files} {inputs : List String} {policy : MissingPolicy}
  {entries : List SummaryEntry}

/-- The keys of an average are those of its readable inputs. -/
theorem keys_average (h : average files inputs policy = .ok entries)
    : entries.map (·.key) = (valuesOf (readable files inputs).flatten).keys := by
  have some : readable files inputs ≠ [] := fun none => by
    obtain ⟨fault, failed⟩ : ∃ fault, average files inputs policy = .error fault :=
      average_of_unreadable none
    rw [failed] at h
    cases h
  rw [average_of_readable some] at h
  obtain rfl := Except.ok.inj h
  rw [List.map_map]
  exact List.map_id _

theorem nodup_keys_average (h : average files inputs policy = .ok entries)
    : (entries.map (·.key)).Nodup := by
  rw [keys_average h]
  exact (firstOccurrences_valuesOf _).nodup

/-- Averages have keys that were read, and so keep what every key that is read has. -/
theorem isKey_of_average (h : average files inputs policy = .ok entries)
    : ∀ entry ∈ entries, SummaryEntry.IsKey entry.key.toList := by
  intro entry member
  have known : entry.key ∈ (valuesOf (readable files inputs).flatten).keys := by
    rw [← keys_average h]
    exact List.mem_map_of_mem member
  rw [(firstOccurrences_valuesOf _).mem_iff] at known
  obtain ⟨source, there, same⟩ := List.mem_map.mp known
  obtain ⟨summary, listed, inside⟩ := List.mem_flatten.mp there
  obtain ⟨input, _, read⟩ := List.mem_filterMap.mp listed
  rw [← same]
  exact SummaryEntry.isKey_of_ofFile (toOption_eq_some.mp read) source inside

/-- The average of a single file with distinct keys has the entries of the file. -/
theorem average_single {path : String} (read : SummaryEntry.ofFile files path = .ok entries)
    (distinct : (entries.map (·.key)).Nodup) (policy : MissingPolicy)
    : average files [path] policy = .ok entries := by
  have one : readable files [path] = [entries] := by
    simp [readable, read, Except.toOption]
  have after : (({} : Values).keys ++ entries.map (·.key)).Nodup := distinct
  have values : (entries.foldl addEntry {}).entries
      = entries.map fun entry => (entry.key, [entry.value]) :=
    Table.entries_updateAll_of_nodup SummaryEntry.key [] _ after
  have mean (entry : SummaryEntry) : meanEntry policy 1 entry.key [entry.value] = entry := by
    cases policy <;> simp [meanEntry, MissingPolicy.terms, mean_singleton]
  rw [average, one]
  simp [values, mean, Function.comp_def]

/-- The text of an average is read back with the same keys in the same order, each once, and with
the values that the text holds, which are rounded to ten decimal places. Once it is saved in a
file, wherever that is, averaging the file alone gives just these entries again.
-/
theorem average_again (averaged : average files inputs policy = .ok entries)
    : (entries.map (·.key)).Nodup
      ∧ (∀ entry ∈ entries,
          entry.rounded.key = entry.key
          ∧ Decimal.literal (Decimal.fixed 10 entry.value).toList = .ok entry.rounded.value)
      ∧ (∀ path,
          SummaryEntry.ofText path (SummaryEntry.text entries)
          = .ok (entries.map SummaryEntry.rounded))
      ∧ ∀ (before after : Files) (output : String) (again : MissingPolicy),
          before.save output (SummaryEntry.text entries).toUTF8 = .ok after
          → average after [output] again = .ok (entries.map SummaryEntry.rounded) := by
  have keys := isKey_of_average averaged
  have distinct := nodup_keys_average averaged
  have read (path : String) := SummaryEntry.ofText_text path keys
  refine ⟨distinct, fun entry _ => ⟨rfl, Decimal.literal_fixed 10 entry.value⟩, read, ?_⟩
  intro before after output again saved
  have text := Files.readText_save saved
  have file : SummaryEntry.ofFile after output = .ok (entries.map SummaryEntry.rounded) := by
    rw [SummaryEntry.ofFile, text]
    exact read output
  refine average_single file ?_ again
  rw [List.map_map]
  exact distinct

/-- One input has an empty key and a key with a carriage return inside, another one is no text; the
average is saved over the first one.
-/
theorem average_again_odd_keys
    : ∃ (files after : Files) (entries : List SummaryEntry),
        average files ["first", "second"] .skip = .ok entries
        ∧ entries.map (·.key) = ["", "a\r b", "5"]
        ∧ files.save "first" (SummaryEntry.text entries).toUTF8 = .ok after
        ∧ average after ["first"] .zero = .ok (entries.map SummaryEntry.rounded) := by
  let files : Files := {
    nodes := [
      (["first"], .file "\t1\r\n a\r b \t 0.1\n\n5\t2\n".toUTF8),
      (["second"], .file ⟨#[255, 9, 49]⟩)
    ]
  }
  have keys : ((average files ["first", "second"] .skip).toOption.map fun entries =>
      entries.map (·.key)) = some ["", "a\r b", "5"] := by
    decide +kernel
  obtain ⟨entries, found, known⟩ := Option.map_eq_some_iff.mp keys
  have averaged := toOption_eq_some.mp found
  have saved : files.save "first" (SummaryEntry.text entries).toUTF8
      = .ok (files.put ["first"] (SummaryEntry.text entries).toUTF8) := by
    have place : (files.writable "first").toOption = some ["first"] := by decide +kernel
    rw [Files.save, toOption_eq_some.mp place]
    rfl
  obtain ⟨_, _, _, again⟩ := average_again averaged
  exact ⟨files, _, entries, averaged, known, saved, again files _ "first" .zero saved⟩

end Summary

end JoinLatency
