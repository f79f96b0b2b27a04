import JoinLatency.Proofs.Summary.Formats

/-! The grammar of summary tables. A text splits into lines in one way, a line is taken apart at its
first tab, and the two parts lose the blanks at their ends. A table is read if and only if each line
that is not blank is an entry, and otherwise the first line that is none is reported.
-/

namespace JoinLatency

-----------------------------------------------------------------------------------------
-- Lines of a text
-----------------------------------------------------------------------------------------

namespace Text

/-- The lines that a text consists of. A line feed ends a line, together with a carriage return
right before it, and what follows the last line feed is a line unless there is nothing.
-/
inductive SplitsInto : List Char → List (List Char) → Prop
  | nothing : SplitsInto [] []
  | last {line : List Char} (some : line ≠ []) (feed : '\n' ∉ line) : SplitsInto line [line]
  | fed {line rest : List Char} {lines : List (List Char)} (feed : '\n' ∉ line)
    (solid : line.getLast? ≠ some '\r') (later : SplitsInto rest lines)
    : SplitsInto (line ++ '\n' :: rest) (line :: lines)
  | returned {line rest : List Char} {lines : List (List Char)} (feed : '\n' ∉ line)
    (later : SplitsInto rest lines)
    : SplitsInto (line ++ '\r' :: '\n' :: rest) (line :: lines)

/-- Without a line feed a text goes on with the line that is begun, by induction along it. -/
theorem linesFrom_of_no_feed {line : List Char} (h : '\n' ∉ line) (current : List Char)
    : linesFrom current line
      = if (current.reverse ++ line).isEmpty then [] else [current.reverse ++ line] := by
  induction line generalizing current with
  | nil => simp [linesFrom]
  | cons c rest ih =>
      rw [List.mem_cons, not_or] at h
      rw [linesFrom, ih h.2]
      · simp
      · exact fun same => h.1 same.symm

theorem dropReturn_concat (line : List Char) : dropReturn (line ++ ['\r']) = line := by
  rw [dropReturn, List.getLast?_concat]
  exact List.dropLast_concat

theorem SplitsInto.eq_lines {text : List Char} {lines : List (List Char)}
    (h : SplitsInto text lines)
    : Text.lines text = lines := by
  induction h with
  | nothing => rfl
  | @last line some feed =>
      have filled : ([].reverse ++ line).isEmpty = false := by simpa using some
      rw [Text.lines, linesFrom_of_no_feed feed, filled]
      rfl
  | @fed line rest lines feed solid later ih => rw [lines_append feed solid, ih]
  | @returned line rest lines feed later ih =>
      have inner : '\n' ∉ line ++ ['\r'] := by simpa using feed
      rw [List.append_cons, Text.lines, linesFrom_append inner, List.reverse_nil, List.nil_append,
        dropReturn_concat, ← Text.lines, ih]

/-- Every text splits into lines, by induction on its length: up to the first line feed there is a
line, with or without a carriage return at its end.
-/
theorem exists_splitsInto (text : List Char) : ∃ lines, SplitsInto text lines := by
  by_cases feed : '\n' ∈ text
  · obtain ⟨line, rest, split, before⟩ := List.eq_append_cons_of_mem feed
    have shorter : rest.length < text.length := by
      rw [split, List.length_append, List.length_cons]
      omega
    obtain ⟨lines, later⟩ := exists_splitsInto rest
    by_cases ends : line.getLast? = some '\r'
    · obtain ⟨front, rfl⟩ := List.getLast?_eq_some_iff.mp ends
      rw [split, List.append_assoc, List.singleton_append]
      exact ⟨_, .returned (fun member => before (List.mem_append_left _ member)) later⟩
    · rw [split]
      exact ⟨_, .fed before ends later⟩
  · by_cases none : text = []
    · exact ⟨[], none ▸ .nothing⟩
    · exact ⟨[text], .last none feed⟩
termination_by text.length

theorem splitsInto_iff {text : List Char} {lines : List (List Char)}
    : SplitsInto text lines ↔ lines = Text.lines text := by
  refine ⟨fun h => h.eq_lines.symm, fun same => ?_⟩
  obtain ⟨others, h⟩ := exists_splitsInto text
  rwa [same, h.eq_lines]

-----------------------------------------------------------------------------------------
-- Blanks
-----------------------------------------------------------------------------------------

/-- A text without the blanks before its first and after its last other character. -/
structure Trims (text inner : List Char) : Prop where
  around
    : ∃ before after,
        text = before ++ inner ++ after
        ∧ (∀ c ∈ before, isBlank c = true)
        ∧ ∀ c ∈ after, isBlank c = true
  opens : ∀ c ∈ inner.head?, isBlank c = false
  closes : ∀ c ∈ inner.getLast?, isBlank c = false

/-- Blanks are dropped up to a text that opens with no blank. -/
theorem dropWhile_blanks {blanks rest : List Char} (h : ∀ c ∈ blanks, isBlank c = true)
    (opens : ∀ c ∈ rest.head?, isBlank c = false)
    : (blanks ++ rest).dropWhile isBlank = rest := by
  rw [List.dropWhile_append_of_pos h]
  cases rest with
  | nil => rfl
  | cons c rest => rw [List.dropWhile_cons, opens c rfl, if_neg (by decide)]

theorem Trims.trim_eq {text inner : List Char} (h : Trims text inner) : trim text = inner := by
  obtain ⟨⟨before, after, rfl, blank, blank'⟩, opens, closes⟩ := h
  by_cases none : inner = []
  · subst none
    apply trim_eq_nil_of_all
    simp only [List.append_nil, List.all_append, Bool.and_eq_true, List.all_eq_true]
    exact ⟨blank, blank'⟩
  · obtain ⟨c, rest, rfl⟩ := List.exists_cons_of_ne_nil none
    have first : (before ++ ((c :: rest) ++ after)).dropWhile isBlank = (c :: rest) ++ after :=
      dropWhile_blanks blank opens
    have last : (after.reverse ++ (c :: rest).reverse).dropWhile isBlank = (c :: rest).reverse := by
      refine dropWhile_blanks (fun c member => blank' c (List.mem_reverse.mp member)) ?_
      rwa [List.head?_reverse]
    rw [trim, List.append_assoc, first, List.reverse_append, last, List.reverse_reverse]

/-- Trimming takes blanks from both ends, and no blank is left there. -/
theorem trims_trim (text : List Char) : Trims text (trim text) := by
  let opened := text.dropWhile isBlank
  have whole : trim text ++ opened.rtakeWhile isBlank = opened :=
    List.rdropWhile_append_rtakeWhile
  have split : text = text.takeWhile isBlank ++ trim text ++ opened.rtakeWhile isBlank := by
    rw [List.append_assoc, whole, List.takeWhile_append_dropWhile]
  refine ⟨⟨_, _, split, fun _ => List.mem_takeWhile_imp, fun _ => List.mem_rtakeWhile_imp⟩, ?_, ?_⟩
  · intro c first
    have head : opened.head? = some c := by
      rw [← whole, List.head?_append, Option.mem_def.mp first, Option.some_or]
    have solid := List.head?_dropWhile_not isBlank text
    rw [head] at solid
    exact solid
  · intro c last
    obtain ⟨front, trimmed⟩ := List.getLast?_eq_some_iff.mp last
    have some : opened.rdropWhile isBlank ≠ [] := by
      change trim text ≠ []
      simp [trimmed]
    have solid := List.rdropWhile_last_not isBlank opened some
    have same : (opened.rdropWhile isBlank).getLast some = c := by
      have := List.getLast?_eq_some_getLast some
      exact Option.some.inj (this.symm.trans last)
    rwa [same, Bool.not_eq_true] at solid

theorem trims_iff {text inner : List Char} : Trims text inner ↔ inner = trim text :=
  ⟨fun h => h.trim_eq.symm, fun same => same ▸ trims_trim text⟩

/-- A text holds something that is not blank. -/
def Filled (text : List Char) : Prop :=
  ∃ c ∈ text, isBlank c = false

instance (text : List Char) : Decidable (Filled text) :=
  decidable_of_iff (text.any fun c => !isBlank c) (by simp [Filled])

/-- Trimming leaves nothing of blanks, and something of every other text. -/
theorem isEmpty_trim_iff {text : List Char} : (trim text).isEmpty = true ↔ ¬ Filled text := by
  rw [List.isEmpty_iff]
  constructor
  · rintro none ⟨c, member, solid⟩
    exact trim_ne_nil member solid none
  · intro blank
    apply trim_eq_nil_of_all
    rw [List.all_eq_true]
    intro c member
    by_contra solid
    exact blank ⟨c, member, Bool.eq_false_iff.mpr solid⟩

end Text

-----------------------------------------------------------------------------------------
-- Lines that are entries
-----------------------------------------------------------------------------------------

namespace SummaryEntry

/-- A line as an entry: its key stands before the first tab and its value behind it, both with
blanks around them.
-/
inductive IsEntry : List Char → SummaryEntry → Prop
  | tabbed {before after literal : List Char} {entry : SummaryEntry} (tab : '\t' ∉ before)
    (key : Text.Trims before entry.key.toList) (value : Text.Trims after literal)
    (read : Decimal.literal literal = .ok entry.value)
    : IsEntry (before ++ '\t' :: after) entry

/-- Why a line is no entry: it has no tab, or what stands behind the first one is no literal. -/
inductive Offends : List Char → EntryFault → Prop
  | noTab {line : List Char} (tab : '\t' ∉ line) : Offends line .noTab
  | badValue {before after literal : List Char} {fault : Decimal.LiteralFault} (tab : '\t' ∉ before)
    (value : Text.Trims after literal) (refused : Decimal.literal literal = .error fault)
    : Offends (before ++ '\t' :: after) (.badValue fault)

variable {line : List Char} {entry : SummaryEntry} {fault : EntryFault}

theorem ofLine_of_isEntry (h : IsEntry line entry) : ofLine line = .ok entry := by
  obtain ⟨tab, key, value, read⟩ := h
  rw [ofLine_of_tab tab, value.trim_eq, read, key.trim_eq, String.ofList_toList]

theorem ofLine_of_offends (h : Offends line fault) : ofLine line = .error fault := by
  cases h with
  | noTab tab => exact ofLine_of_no_tab tab
  | badValue tab value refused => rw [ofLine_of_tab tab, value.trim_eq, refused]

/-- Every line is an entry or has a fault, as its text behind the first tab is a literal or not. -/
theorem isEntry_or_offends (line : List Char)
    : (∃ entry, IsEntry line entry) ∨ ∃ fault, Offends line fault := by
  by_cases tab : '\t' ∈ line
  · obtain ⟨before, after, rfl, first⟩ := List.eq_append_cons_of_mem tab
    have value := Text.trims_trim after
    have key := Text.trims_trim before
    cases read : Decimal.literal (Text.trim after) with
    | error fault => exact .inr ⟨_, .badValue first value read⟩
    | ok x =>
        refine .inl ⟨⟨String.ofList (Text.trim before), x⟩, .tabbed first ?_ value read⟩
        rwa [String.toList_ofList]
  · exact .inr ⟨_, .noTab tab⟩

theorem ofLine_eq_ok_iff : ofLine line = .ok entry ↔ IsEntry line entry := by
  refine ⟨fun read => ?_, ofLine_of_isEntry⟩
  rcases isEntry_or_offends line with ⟨other, h⟩ | ⟨fault, h⟩
  · obtain rfl := Except.ok.inj (read.symm.trans (ofLine_of_isEntry h))
    exact h
  · cases read.symm.trans (ofLine_of_offends h)

theorem not_isEntry_iff : (¬ ∃ entry, IsEntry line entry) ↔ ∃ fault, Offends line fault := by
  refine ⟨(isEntry_or_offends line).resolve_left, ?_⟩
  rintro ⟨fault, h⟩ ⟨entry, h'⟩
  cases (ofLine_of_offends h).symm.trans (ofLine_of_isEntry h')

-----------------------------------------------------------------------------------------
-- Tables
-----------------------------------------------------------------------------------------

variable {path : String} {number : Nat} {rest lines : List (List Char)}

theorem ofLines_of_blank (blank : ¬ Text.Filled line)
    : ofLines path number (line :: rest) = ofLines path (number + 1) rest := by
  rw [ofLines, if_pos (Text.isEmpty_trim_iff.mpr blank)]

theorem ofLines_of_isEntry (filled : Text.Filled line) (h : IsEntry line entry)
    : ofLines path number (line :: rest) = (ofLines path (number + 1) rest).map (entry :: ·) := by
  rw [ofLines, if_neg (mt Text.isEmpty_trim_iff.mp (not_not_intro filled)), ofLine_of_isEntry h]

theorem ofLines_of_offends (filled : Text.Filled line) (h : Offends line fault)
    : ofLines path number (line :: rest) = .error (.malformedSummary path number fault) := by
  rw [ofLines, if_neg (mt Text.isEmpty_trim_iff.mp (not_not_intro filled)), ofLine_of_offends h]

/-- Lines are read as the entries of those that are not blank, by induction along them. -/
theorem ofLines_eq_ok_iff {entries : List SummaryEntry}
    : ofLines path number lines = .ok entries
      ↔ List.Forall₂ IsEntry (lines.filter (Text.Filled ·)) entries := by
  induction lines generalizing number entries with
  | nil => rw [ofLines, List.filter_nil, List.forall₂_nil_left_iff, Except.ok.injEq, eq_comm]
  | cons line rest ih =>
      by_cases filled : Text.Filled line
      · rw [List.filter_cons_of_pos (by simpa using filled), List.forall₂_cons_left_iff]
        rcases isEntry_or_offends line with ⟨entry, h⟩ | ⟨fault, h⟩
        · rw [ofLines_of_isEntry filled h]
          constructor
          · intro read
            obtain ⟨others, later, made⟩ := map_eq_ok.mp read
            exact ⟨entry, others, h, ih.mp later, made.symm⟩
          · rintro ⟨other, others, own, later, rfl⟩
            obtain rfl := Except.ok.inj ((ofLine_of_isEntry h).symm.trans (ofLine_of_isEntry own))
            exact map_eq_ok.mpr ⟨others, ih.mpr later, rfl⟩
        · rw [ofLines_of_offends filled h]
          constructor
          · intro read
            cases read
          · rintro ⟨entry, _, own, _⟩
            exact absurd ⟨entry, own⟩ (not_isEntry_iff.mpr ⟨fault, h⟩)
      · rw [ofLines_of_blank filled, List.filter_cons_of_neg (by simpa using filled), ih]

/-- Lines have entries if each of them has one. -/
theorem exists_entries_iff
    : (∃ entries, List.Forall₂ IsEntry lines entries)
      ↔ ∀ line ∈ lines, ∃ entry, IsEntry line entry := by
  have each : (∃ entries, lines.mapM ofLine = .ok entries)
      ↔ ∀ line ∈ lines, ∃ entry, ofLine line = .ok entry :=
    exists_mapM_eq_ok
  simpa only [mapM_eq_ok, ofLine_eq_ok_iff] using each

/-- A line that may stand in a table: a blank one or an entry. -/
def Accepted (line : List Char) : Prop :=
  Text.Filled line → ∃ entry, IsEntry line entry

/-- The first line that may not stand in a table, and why. Blank lines count for its place. -/
structure OffendsFirst (lines : List (List Char)) (place : Nat) (fault : EntryFault) : Prop where
  before : ∀ earlier ∈ lines.take place, Accepted earlier
  here : ∃ line, lines[place]? = some line ∧ Text.Filled line ∧ Offends line fault

/-- Behind a line that may stand in a table the places are those of the later lines. -/
theorem offendsFirst_cons (h : Accepted line) {place : Nat}
    : OffendsFirst (line :: rest) place fault
      ↔ ∃ later, place = later + 1 ∧ OffendsFirst rest later fault := by
  constructor
  · rintro ⟨before, own, there, filled, offends⟩
    cases place with
    | zero =>
        obtain rfl := Option.some.inj there
        exact absurd (h filled) (not_isEntry_iff.mpr ⟨fault, offends⟩)
    | succ later =>
        rw [List.take_succ_cons, List.forall_mem_cons] at before
        exact ⟨later, rfl, before.2, own, there, filled, offends⟩
  · rintro ⟨later, rfl, before, here⟩
    exact ⟨by rw [List.take_succ_cons, List.forall_mem_cons]; exact ⟨h, before⟩, here⟩

/-- A fault behind a line that may stand in a table is one of the later lines. -/
theorem ofLines_cons_eq_error_iff (h : Accepted line) {error : Error}
    : ofLines path number (line :: rest) = .error error
      ↔ ofLines path (number + 1) rest = .error error := by
  by_cases filled : Text.Filled line
  · obtain ⟨entry, own⟩ := h filled
    rw [ofLines_of_isEntry filled own]
    cases ofLines path (number + 1) rest <;> simp [Except.map]
  · rw [ofLines_of_blank filled]

/-- Lines are refused for the first one that may not stand in a table, by induction along them. -/
theorem ofLines_eq_error_iff {error : Error}
    : ofLines path number lines = .error error
      ↔ ∃ place fault,
          OffendsFirst lines place fault
          ∧ error = .malformedSummary path (number + place) fault := by
  induction lines generalizing number with
  | nil =>
      refine iff_of_false nofun ?_
      rintro ⟨_, _, ⟨_, _, there, _⟩, _⟩
      cases there
  | cons line rest ih =>
      by_cases accepted : Accepted line
      · simp only [ofLines_cons_eq_error_iff accepted, ih, offendsFirst_cons accepted]
        constructor
        · rintro ⟨place, fault, offends, rfl⟩
          exact ⟨place + 1, fault, ⟨place, rfl, offends⟩, by rw [Nat.add_right_comm]; rfl⟩
        · rintro ⟨_, fault, ⟨place, rfl, offends⟩, rfl⟩
          exact ⟨place, fault, offends, by rw [Nat.add_right_comm]; rfl⟩
      · obtain ⟨filled, none⟩ := Classical.not_imp.mp accepted
        obtain ⟨fault, offends⟩ := not_isEntry_iff.mp none
        rw [ofLines_of_offends filled offends]
        constructor
        · intro refused
          exact ⟨0, fault, ⟨by simp, line, rfl, filled, offends⟩, (Except.error.inj refused).symm⟩
        · rintro ⟨place, other, ⟨before, own, there, _, offends'⟩, rfl⟩
          cases place with
          | zero =>
              obtain rfl := Option.some.inj there
              obtain rfl := Except.error.inj
                ((ofLine_of_offends offends).symm.trans (ofLine_of_offends offends'))
              rfl
          | succ place => exact absurd (before line List.mem_cons_self) accepted

/-- A readable text is taken apart into lines in one way. It is read as a table if and only if every
line is blank or has a tab and a literal behind it, and then has one entry for each line that is not
blank, in order. Otherwise it is refused for the first other line, whose number counts all lines
before it.
-/
theorem ofFile_by_lines {files : Files} {path text : String}
    (readable : files.readText path = .ok text)
    : ∃ lines,
        (∀ others, Text.SplitsInto text.toList others ↔ others = lines)
        ∧ ((∃ entries, ofFile files path = .ok entries) ↔ ∀ line ∈ lines, Accepted line)
        ∧ (∀ entries,
            ofFile files path = .ok entries
            ↔ List.Forall₂ IsEntry (lines.filter (Text.Filled ·)) entries)
        ∧ ∀ error,
            ofFile files path = .error error
            ↔ ∃ place fault,
                OffendsFirst lines place fault
                ∧ error = .malformedSummary path (place + 1) fault := by
  have read : ofFile files path = ofLines path 1 (Text.lines text.toList) := by
    rw [ofFile, readable]
    rfl
  refine ⟨Text.lines text.toList, fun others => Text.splitsInto_iff, ?_, fun entries => ?_,
    fun error => ?_⟩
  · simp only [read, ofLines_eq_ok_iff, exists_entries_iff, List.mem_filter, decide_eq_true_eq,
      and_imp, Accepted]
  · rw [read, ofLines_eq_ok_iff]
  · simp only [read, ofLines_eq_error_iff, Nat.add_comm 1]

/-- A table with an empty key, a blank line and no end of its last line, and a text whose third line
has a second tab before what should be its value.
-/
theorem ofFile_by_lines_mixed_ends
    : ∃ files : Files,
        files.readText "table" = .ok "\t1\r\n\u2003\n a b \t 2\r"
        ∧ ofFile files "table" = .ok [⟨"", 1⟩, ⟨"a b", 2⟩]
        ∧ files.readText "notes" = .ok "\r\n \t\n8\t2\tx\n9"
        ∧ ofFile files "notes" = .error (.malformedSummary "notes" 3 (.badValue .malformed)) := by
  let table := "\t1\r\n\u2003\n a b \t 2\r"
  let notes := "\r\n \t\n8\t2\tx\n9"
  let files : Files := {
    nodes := [(["table"], .file table.toUTF8), (["notes"], .file notes.toUTF8)]
  }
  have holds : files.readText "table" = .ok table := toOption_eq_some.mp (by decide +kernel)
  have holds' : files.readText "notes" = .ok notes := toOption_eq_some.mp (by decide +kernel)
  obtain ⟨lines, split, _, read, _⟩ := ofFile_by_lines holds
  obtain ⟨lines', split', _, _, refused⟩ := ofFile_by_lines holds'
  have parts : [['\t', '1'], ['\u2003'], " a b \t 2\r".toList] = lines :=
    (split _).mp (Text.splitsInto_iff.mpr (by decide +kernel))
  have parts' : [[], [' ', '\t'], "8\t2\tx".toList, ['9']] = lines' :=
    (split' _).mp (Text.splitsInto_iff.mpr (by decide +kernel))
  refine ⟨files, holds, (read _).mpr ?_, holds', (refused _).mpr ⟨2, _, ⟨?_, ?_⟩, rfl⟩⟩
  · have kept : lines.filter (Text.Filled ·) = [['\t', '1'], " a b \t 2\r".toList] := by
      rw [← parts]
      decide +kernel
    rw [kept]
    refine .cons ?_ (.cons ?_ .nil)
    · exact .tabbed (by decide : '\t' ∉ []) (Text.trims_iff.mpr rfl)
        (Text.trims_iff.mpr (by decide +kernel : ['1'] = _))
        (toOption_eq_some.mp (by decide +kernel))
    · exact .tabbed (by decide : '\t' ∉ " a b ".toList) (Text.trims_iff.mpr (by decide +kernel))
        (Text.trims_iff.mpr (by decide +kernel : ['2'] = _))
        (toOption_eq_some.mp (by decide +kernel))
  · rw [← parts']
    have blank : ∀ line ∈ [[], [' ', '\t']], ¬ Text.Filled line := by decide
    exact fun line member filled => absurd filled (blank line member)
  · rw [← parts']
    exact ⟨_, rfl, by decide, .badValue (by decide : '\t' ∉ ['8'])
      (Text.trims_iff.mpr (by decide +kernel : "2\tx".toList = _)) rfl⟩

end SummaryEntry

end JoinLatency
