import JoinLatency.Decimal.Fixed
import JoinLatency.Files
import JoinLatency.Text.Blank
import JoinLatency.Text.Lines

/-! Entries of summary tables. A line that is not blank is a key, a tab and a number, each with
blanks around it; the first line that is none of these is reported with its number.
-/

namespace JoinLatency

/-- A key and its value. -/
structure SummaryEntry where
  key : String
  value : Float
  deriving Repr, Inhabited

namespace SummaryEntry

/-- The entry of a line that is not blank. -/
def ofLine (line : List Char) : Except EntryFault SummaryEntry :=
  let key := line.takeWhile (· != '\t')
  match line.dropWhile (· != '\t') with
  | [] => .error .noTab
  | _ :: value =>
      match Decimal.literal (Text.trim value) with
      | .error fault => .error (.badValue fault)
      | .ok value => .ok { key := String.ofList (Text.trim key), value }

/-- The entries of a list of lines, the first of which has a number. -/
def ofLines (path : String) (number : Nat) : List (List Char) → Except Error (List SummaryEntry)
  | [] => .ok []
  | line :: rest =>
      if (Text.trim line).isEmpty then ofLines path (number + 1) rest
      else
        match ofLine line with
        | .error fault => .error (.malformedSummary path number fault)
        | .ok entry => (ofLines path (number + 1) rest).map (entry :: ·)

/-- The entries of a text. -/
def ofText (path : String) (text : String) : Except Error (List SummaryEntry) :=
  ofLines path 1 (Text.lines text.toList)

/-- The entries of a file. -/
def ofFile (files : Files) (path : String) : Except Error (List SummaryEntry) :=
  match files.readText path with
  | .error fault => .error (.io fault)
  | .ok text => ofText path text

/-- An entry as a line, with ten decimal places. -/
def line (entry : SummaryEntry) : String :=
  s!"{entry.key}\t{Decimal.fixed 10 entry.value}\n"

/-- A list of entries as a text. -/
def text (entries : List SummaryEntry) : String :=
  String.join (entries.map line)

end SummaryEntry

end JoinLatency
