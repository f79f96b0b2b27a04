import JoinLatency.Proofs.Decimal.ReadBack
import JoinLatency.Summary.Entry
import JoinLatency.Summary.Format

/-! Tables of times read back. A table of weighted times is read as one entry a line, with the
row count as its key and exactly the time that was written.
-/

namespace JoinLatency

-----------------------------------------------------------------------------------------
-- Lines and blanks
-----------------------------------------------------------------------------------------

namespace Text

/-- Trimming keeps a text without blanks. -/
theorem trim_of_no_blank {text : List Char} (h : ∀ c ∈ text, isBlank c = false)
    : trim text = text := by
  have kept {text : List Char} (h : ∀ c ∈ text, isBlank c = false)
      : text.dropWhile isBlank = text := by
    cases text with
    | nil => rfl
    | cons c rest => rw [List.dropWhile_cons, h c List.mem_cons_self, if_neg (by decide)]
  have reversed (c : Char) (member : c ∈ text.reverse) : isBlank c = false :=
    h c (List.mem_reverse.mp member)
  rw [trim, kept h, kept reversed, List.reverse_reverse]

/-- Trimming leaves something of a text that does not consist of blanks. -/
theorem trim_ne_nil {text : List Char} {c : Char} (member : c ∈ text) (h : isBlank c = false)
    : trim text ≠ [] := by
  intro empty
  rw [trim, List.reverse_eq_nil_iff, List.dropWhile_eq_nil_iff] at empty
  rw [← List.takeWhile_append_dropWhile (p := isBlank) (l := text)] at member
  have blank : isBlank c = true :=
    (List.mem_append.mp member).elim List.mem_takeWhile_imp fun later =>
      empty c (List.mem_reverse.mpr later)
  rw [h] at blank
  cases blank

/-- A trimmed text opens and closes with no blank, so that trimming it again keeps it. -/
theorem trim_trim (text : List Char) : trim (trim text) = trim text := by
  let opened := text.dropWhile isBlank
  have shorter : trim text <+: opened := List.rdropWhile_prefix isBlank opened
  have kept : (trim text).dropWhile isBlank = trim text := by
    refine List.dropWhile_eq_self_iff.mpr fun some => ?_
    rw [shorter.getElem some]
    exact List.dropWhile_get_zero_not isBlank text (Nat.lt_of_lt_of_le some shorter.length_le)
  change ((trim text).dropWhile isBlank).rdropWhile isBlank = trim text
  rw [kept]
  exact List.rdropWhile_idempotent isBlank opened

theorem mem_of_mem_trim {text : List Char} {c : Char} (h : c ∈ trim text) : c ∈ text := by
  rw [trim, List.mem_reverse] at h
  have inner := (List.dropWhile_sublist isBlank).subset h
  exact (List.dropWhile_sublist isBlank).subset (List.mem_reverse.mp inner)

theorem dropReturn_of_getLast? {line : List Char} (h : line.getLast? ≠ some '\r')
    : dropReturn line = line := by
  rw [dropReturn]
  split
  next last => exact absurd last h
  next other => rfl

theorem linesFrom_append {line : List Char} (h : '\n' ∉ line) (current rest : List Char)
    : linesFrom current (line ++ '\n' :: rest)
      = dropReturn (current.reverse ++ line) :: linesFrom [] rest := by
  induction line generalizing current with
  | nil => rw [List.nil_append, linesFrom, List.append_nil]
  | cons c line ih =>
      have other : c ≠ '\n' := fun same => h (same ▸ List.mem_cons_self)
      have inner : '\n' ∉ line := fun member => h (List.mem_cons_of_mem _ member)
      rw [List.cons_append, linesFrom, ih inner]
      · simp
      · exact other

/-- A line before a line feed is the first one. -/
theorem lines_append {line : List Char} (feed : '\n' ∉ line)
    (return' : line.getLast? ≠ some '\r') (rest : List Char)
    : lines (line ++ '\n' :: rest) = line :: lines rest := by
  rw [lines, linesFrom_append feed, List.reverse_nil, List.nil_append,
    dropReturn_of_getLast? return', lines]

end Text

-----------------------------------------------------------------------------------------
-- Entries
-----------------------------------------------------------------------------------------

namespace SummaryEntry

/-- A key that is read as it was written: it has no blanks around it, and nothing in it ends a key
or a line.
-/
structure IsKey (key : List Char) : Prop where
  trimmed : Text.trim key = key
  tab : '\t' ∉ key
  feed : '\n' ∉ key

variable {key value : List Char} {x : Float}

theorem isKey_of_no_blank (h : ∀ c ∈ key, Text.isBlank c = false) : IsKey key where
  trimmed := Text.trim_of_no_blank h
  tab := fun member => absurd (h '\t' member) (by decide)
  feed := fun member => absurd (h '\n' member) (by decide)

/-- A line is read around its first tab. -/
theorem ofLine_of_tab {key : List Char} (tab : '\t' ∉ key) (value : List Char)
    : ofLine (key ++ '\t' :: value)
      = match Decimal.literal (Text.trim value) with
        | .error fault => .error (.badValue fault)
        | .ok x => .ok ⟨String.ofList (Text.trim key), x⟩ := by
  have inside (c : Char) (member : c ∈ key) : (c != '\t') = true := by
    rw [bne_iff_ne]
    rintro rfl
    exact tab member
  rw [ofLine, List.takeWhile_append_of_pos inside, List.dropWhile_append_of_pos inside]
  cases read : Decimal.literal (Text.trim value) <;> simp [read]

/-- A key and a literal around a tab are an entry. -/
theorem ofLine_tab (hk : IsKey key) (hv : ∀ c ∈ value, Text.isBlank c = false)
    (read : Decimal.literal value = .ok x)
    : ofLine (key ++ '\t' :: value) = .ok ⟨String.ofList key, x⟩ := by
  rw [ofLine_of_tab hk.tab, Text.trim_of_no_blank hv, read, hk.trimmed]

/-- The first line of a text is its first entry, if it is a key and a literal around a tab. The
literal ends the line, so that no carriage return belongs to the line end.
-/
theorem ofLines_cons (hk : IsKey key) (hv : ∀ c ∈ value, Text.isBlank c = false)
    (read : Decimal.literal value = .ok x) (path : String) (number : Nat) (rest : List Char)
    : ofLines path number (Text.lines (key ++ '\t' :: value ++ '\n' :: rest))
      = (ofLines path (number + 1) (Text.lines rest)).map (⟨String.ofList key, x⟩ :: ·) := by
  have some : value ≠ [] := by
    rintro rfl
    cases read
  obtain ⟨front, final, rfl⟩ := (List.eq_nil_or_concat' value).resolve_left some
  have solid : Text.isBlank final = false := hv final (by simp)
  have feed : '\n' ∉ key ++ '\t' :: (front ++ [final]) := by
    intro member
    rcases List.mem_append.mp member with member | member
    · exact hk.feed member
    · rcases List.mem_cons.mp member with same | member
      · exact absurd same (by decide)
      · exact absurd (hv '\n' member) (by decide)
  have ends : (key ++ '\t' :: (front ++ [final])).getLast? ≠ .some '\r' := by
    rw [← List.cons_append, ← List.append_assoc, List.getLast?_concat]
    rintro ⟨⟩
    exact absurd solid (by decide)
  have filled : (Text.trim (key ++ '\t' :: (front ++ [final]))).isEmpty = false := by
    rw [List.isEmpty_eq_false_iff]
    exact Text.trim_ne_nil (by simp) solid
  rw [Text.lines_append feed ends, ofLines, filled, ofLine_tab hk hv read]
  rfl

end SummaryEntry

/-- The entry of a line in a table of weighted times. -/
def SummaryLine.entry (line : SummaryLine) : SummaryEntry where
  key := toString line.k
  value := line.weighted

namespace SummaryFormat

/-- A table of one of the times is read as it was written, by induction on its lines. -/
theorem ofText_table (path : String) {format : SummaryFormat} {time : SummaryLine → Float}
    (tabbed
      : ∀ line,
          format.line line
          = toString line.k ++ "\t" ++ Decimal.Layout.plain.text (time line) ++ "\n")
    (lines : List SummaryLine)
    : SummaryEntry.ofText path (format.text lines)
      = .ok (lines.map fun line => ⟨toString line.k, time line⟩) := by
  have spelled (line : SummaryLine)
      : (format.line line).toList
        = Nat.toDigits 10 line.k ++ '\t' :: (Decimal.Layout.plain.text (time line)).toList
          ++ ['\n'] := by
    rw [tabbed, Nat.toString_eq_ofList_toDigits]
    simp
  rw [SummaryEntry.ofText, text, String.toList_join, List.flatMap_map]
  generalize 1 = number
  induction lines generalizing number with
  | nil => rfl
  | cons line rest ih =>
      have digit (c : Char) (member : c ∈ Nat.toDigits 10 line.k) : Text.isBlank c = false :=
        Decimal.isBlank_of_isDigit (Nat.isDigit_of_mem_toDigits (by decide) (by decide) member)
      rw [List.flatMap_cons, spelled, List.append_assoc _ ['\n'], List.singleton_append,
        SummaryEntry.ofLines_cons (SummaryEntry.isKey_of_no_blank digit)
          (fun _ => Decimal.isBlank_of_mem_plain_text)
          (Decimal.literal_plain_text (time line)), ih,
        ← Nat.toString_eq_ofList_toDigits]
      rfl

theorem ofText_weighted (path : String) (lines : List SummaryLine)
    : SummaryEntry.ofText path (SummaryFormat.weighted.text lines)
      = .ok (lines.map SummaryLine.entry) :=
  ofText_table path (fun _ => rfl) lines

end SummaryFormat

end JoinLatency
