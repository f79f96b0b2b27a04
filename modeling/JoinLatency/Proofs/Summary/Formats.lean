import JoinLatency.Proofs.Decimal.Fixed
import JoinLatency.Proofs.Summary.Averaging
import JoinLatency.Proofs.Summary.Reading

/-! Summary formats read back. The two tables are read as they were written, and a text in one of
the two formats for readers is refused at its first line: what stands behind the first tab of that
line is no number, or there is no tab.
-/

namespace JoinLatency

-----------------------------------------------------------------------------------------
-- Lines that are no entries
-----------------------------------------------------------------------------------------

/-- A text with an initial that opens no number is no literal. -/
theorem Decimal.literal_of_initial {initial : Char} {rest : List Char}
    (digit : initial.isDigit = false) (signs : initial ∉ ['-', '+', '.'])
    (words : initial.toLower ∉ ['i', 'n'])
    : literal (initial :: rest) = .error .malformed := by
  simp only [List.mem_cons, List.not_mem_nil, or_false, not_or] at signs words
  obtain ⟨minus, plus, point⟩ := signs
  have other (word : String) {first : Char} {more : List Char}
      (spelled : word.toList = first :: more) (apart : initial.toLower ≠ first)
      : (String.ofList ((initial :: rest).map Char.toLower) == word) = false := by
    rw [beq_eq_false_iff_ne]
    intro same
    rw [← same, String.toList_ofList, List.map_cons] at spelled
    exact apart (List.cons.inj spelled).1
  have decimal : decimal? (initial :: rest) = none := by
    rw [decimal?, List.takeWhile_cons, List.dropWhile_cons, digit]
    simp only [Bool.false_eq_true, if_false]
    split <;> simp_all
  have unsigned : unsignedLiteral? (initial :: rest) = none := by
    simp only [unsignedLiteral?, other "inf" rfl words.1, other "infinity" rfl words.1,
      other "nan" rfl words.2, decimal]
    rfl
  rw [literal, splitSign_of_ne minus plus]
  simp [unsigned]

/-- Trimming keeps an initial that is not blank. -/
theorem Text.trim_cons {initial : Char} (h : isBlank initial = false) (rest : List Char)
    : ∃ more, trim (initial :: rest) = initial :: more := by
  have kept : (initial :: rest).dropWhile isBlank = initial :: rest := by
    rw [List.dropWhile_cons, h, if_neg (by decide)]
  have shorter : trim (initial :: rest) <+: initial :: rest := by
    rw [trim, kept]
    exact List.rdropWhile_prefix isBlank _
  have some : trim (initial :: rest) ≠ [] := trim_ne_nil List.mem_cons_self h
  obtain ⟨first, more, spelled⟩ := List.exists_cons_of_ne_nil some
  rw [spelled] at shorter
  exact ⟨more, (List.cons_prefix_cons.mp shorter).1 ▸ spelled⟩

namespace SummaryEntry

theorem ofLine_of_no_tab {line : List Char} (h : '\t' ∉ line) : ofLine line = .error .noTab := by
  have none : line.dropWhile (· != '\t') = [] := by
    rw [List.dropWhile_eq_nil_iff]
    intro c member
    rw [bne_iff_ne]
    rintro rfl
    exact h member
  rw [ofLine, none]

/-- A value with an initial that opens no number makes a line no entry. -/
theorem ofLine_of_initial {key value : List Char} {initial : Char} (tab : '\t' ∉ key)
    (solid : Text.isBlank initial = false) (digit : initial.isDigit = false)
    (signs : initial ∉ ['-', '+', '.']) (words : initial.toLower ∉ ['i', 'n'])
    : ofLine (key ++ '\t' :: initial :: value) = .error (.badValue .malformed) := by
  obtain ⟨more, trimmed⟩ := Text.trim_cons solid value
  rw [ofLine_of_tab tab, trimmed, Decimal.literal_of_initial digit signs words]

end SummaryEntry

-----------------------------------------------------------------------------------------
-- Texts in each format
-----------------------------------------------------------------------------------------

namespace SummaryFormat

/-- A text is refused at its first line if that is no entry. -/
theorem ofText_of_refused (path : String) {format : SummaryFormat} {line : SummaryLine}
    {body : List Char} {fault : EntryFault}
    (spelled : (format.line line).toList = body ++ ['\n'])
    (ends : ∀ c ∈ ['\n', '\r'], c ∉ body) (filled : ∃ c ∈ body, Text.isBlank c = false)
    (refused : SummaryEntry.ofLine body = .error fault) (lines : List SummaryLine)
    : SummaryEntry.ofText path (format.text (line :: lines))
      = .error (.malformedSummary path 1 fault) := by
  obtain ⟨c, member, solid⟩ := filled
  have some : (Text.trim body).isEmpty = false := by
    rw [List.isEmpty_eq_false_iff]
    exact Text.trim_ne_nil member solid
  have return' : body.getLast? ≠ .some '\r' := fun last =>
    ends '\r' (by simp) (List.mem_of_getLast? last)
  rw [SummaryEntry.ofText, text, String.toList_join, List.flatMap_map, List.flatMap_cons, spelled,
    List.append_assoc, List.singleton_append, Text.lines_append (ends '\n' (by simp)) return',
    SummaryEntry.ofLines, some, refused]
  rfl

theorem not_mem_digits {c : Char} (h : Text.isBlank c = true) (k : Nat)
    : c ∉ Nat.toDigits 10 k := by
  intro member
  have digit := Nat.isDigit_of_mem_toDigits (by decide) (by decide) member
  rw [Decimal.isBlank_of_isDigit digit] at h
  cases h

theorem not_mem_fixed {c : Char} (h : Text.isBlank c = true) (x : Float)
    : c ∉ (Decimal.fixed 6 x).toList := by
  intro member
  rw [Decimal.isBlank_of_mem_fixed member] at h
  cases h

/-- The verbose format has words behind its first tab. -/
theorem ofText_verbose (path : String) (line : SummaryLine) (lines : List SummaryLine)
    : SummaryEntry.ofText path (SummaryFormat.verbose.text (line :: lines))
      = .error (.malformedSummary path 1 (.badValue .malformed)) := by
  let key := "K val:".toList ++ Nat.toDigits 10 line.k
  let value := "verage time (unweighted): ".toList ++ (Decimal.fixed 6 line.unweighted).toList
    ++ "\t Average time (weighted): ".toList ++ (Decimal.fixed 6 line.weighted).toList
  have spelled : (SummaryFormat.verbose.line line).toList
      = (key ++ '\t' :: 'A' :: value) ++ ['\n'] := by
    have parts : SummaryFormat.verbose.line line
        = "K val:" ++ toString line.k ++ "\tAverage time (unweighted): "
          ++ Decimal.fixed 6 line.unweighted
          ++ ("\t Average time (weighted): " ++ Decimal.fixed 6 line.weighted ++ "\n") := rfl
    rw [parts, Nat.toString_eq_ofList_toDigits]
    simp [key, value]
  have tab : '\t' ∉ key := by
    simp (disch := decide) [key, not_mem_digits]
  refine ofText_of_refused path spelled ?_ ⟨'A', by simp, by decide⟩
    (SummaryEntry.ofLine_of_initial tab (by decide) (by decide) (by decide) (by decide)) lines
  simp (disch := decide) [key, value, not_mem_digits, not_mem_fixed]

/-- The format of pairs has no tabs. -/
theorem ofText_pair (path : String) (line : SummaryLine) (lines : List SummaryLine)
    : SummaryEntry.ofText path (SummaryFormat.pair.text (line :: lines))
      = .error (.malformedSummary path 1 .noTab) := by
  let pair (time : Float) :=
    '(' :: Nat.toDigits 10 line.k ++ ", ".toList ++ (Decimal.fixed 6 time).toList ++ [')']
  have spelled : (SummaryFormat.pair.line line).toList
      = (pair line.unweighted ++ ' ' :: pair line.weighted) ++ ['\n'] := by
    have parts : SummaryFormat.pair.line line
        = "(" ++ toString line.k ++ ", " ++ Decimal.fixed 6 line.unweighted ++ ")"
          ++ (" (" ++ toString line.k ++ ", " ++ Decimal.fixed 6 line.weighted ++ ")\n") := rfl
    rw [parts, Nat.toString_eq_ofList_toDigits]
    simp [pair]
  have tab : '\t' ∉ pair line.unweighted ++ ' ' :: pair line.weighted := by
    simp (disch := decide) [pair, not_mem_digits, not_mem_fixed]
  refine ofText_of_refused path spelled ?_ ⟨'(', by simp [pair], by decide⟩
    (SummaryEntry.ofLine_of_no_tab tab) lines
  simp (disch := decide) [pair, not_mem_digits, not_mem_fixed]

/-- Of every summary the two tables are read back as one entry a line, in order, with the row count
as the key and exactly the time that the table is about. A summary with lines in another format is
refused at its first line, so that a file with such a text never counts for an average.
-/
theorem tables_read_back (path : String) (lines : List SummaryLine)
    : let entries (time : SummaryLine → Float) : List SummaryEntry :=
        lines.map fun line => ⟨toString line.k, time line⟩
      SummaryEntry.ofText path (SummaryFormat.weighted.text lines)
        = .ok (entries SummaryLine.weighted)
      ∧ SummaryEntry.ofText path (SummaryFormat.unweighted.text lines)
        = .ok (entries SummaryLine.unweighted)
      ∧ (lines ≠ [] →
          ∀ format : SummaryFormat,
            format = .verbose ∨ format = .pair →
            (∃ fault,
              SummaryEntry.ofText path (format.text lines)
              = .error (.malformedSummary path 1 fault))
            ∧ ∀ files : Files,
                files.readText path = .ok (format.text lines) →
                ∀ before after,
                  Summary.readable files (before ++ path :: after)
                  = Summary.readable files (before ++ after)) := by
  refine ⟨ofText_table path (fun _ => rfl) lines, ofText_table path (fun _ => rfl) lines, ?_⟩
  intro some format reader
  obtain ⟨line, rest, rfl⟩ := List.exists_cons_of_ne_nil some
  have refused : ∃ fault, SummaryEntry.ofText path (format.text (line :: rest))
      = .error (.malformedSummary path 1 fault) := by
    rcases reader with rfl | rfl
    · exact ⟨_, ofText_verbose path line rest⟩
    · exact ⟨_, ofText_pair path line rest⟩
  refine ⟨refused, fun files holds before after => ?_⟩
  obtain ⟨fault, error⟩ := refused
  have lost : Summary.Unreadable files path := by
    refine ⟨.malformedSummary path 1 fault, ?_⟩
    rw [SummaryEntry.ofFile, holds]
    exact error
  simp only [Summary.readable, List.filterMap_append, List.filterMap_cons,
    Summary.unreadable_iff.mp lost]

/-- An infinite and an undefined time, and the same lines as pairs in a file. -/
theorem tables_read_back_odd_times
    : ∃ (files : Files) (lines : List SummaryLine) (undefined infinite : Float),
        Decimal.Layout.plain.text undefined = "NaN"
        ∧ Decimal.Layout.plain.text infinite = "-inf"
        ∧ lines = [⟨7, undefined, infinite⟩, ⟨10, 0.1, 3⟩]
        ∧ SummaryEntry.ofText "summary" (SummaryFormat.weighted.text lines)
          = .ok [⟨"7", infinite⟩, ⟨"10", 3⟩]
        ∧ SummaryEntry.ofText "summary" (SummaryFormat.unweighted.text lines)
          = .ok [⟨"7", undefined⟩, ⟨"10", 0.1⟩]
        ∧ files.readText "summary" = .ok (SummaryFormat.pair.text lines)
        ∧ Summary.readable files ["table", "summary"] = Summary.readable files ["table"] := by
  let undefined := Decimal.ofMagnitude false (Decimal.infinityBits + Nat.pow 2 51)
  let infinite := Decimal.ofMagnitude true Decimal.infinityBits
  let lines : List SummaryLine := [⟨7, undefined, infinite⟩, ⟨10, 0.1, 3⟩]
  let files : Files := {
    nodes := [
      (["summary"], .file (SummaryFormat.pair.text lines).toUTF8),
      (["table"], .file "7\t1\n".toUTF8)
    ]
  }
  have holds : files.readText "summary" = .ok (SummaryFormat.pair.text lines) :=
    toOption_eq_some.mp (by decide +kernel)
  obtain ⟨weighted, unweighted, readers⟩ := tables_read_back "summary" lines
  have keys : toString 7 = "7" ∧ toString 10 = "10" := by decide +kernel
  simp only [lines, List.map_cons, List.map_nil, keys] at weighted unweighted
  obtain ⟨_, lost⟩ := readers (List.cons_ne_nil _ _) .pair (.inr rfl)
  exact ⟨files, lines, undefined, infinite, by decide +kernel, by decide +kernel, rfl, weighted,
    unweighted, holds, lost files holds ["table"] []⟩

end SummaryFormat

end JoinLatency
