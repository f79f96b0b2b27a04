import JoinLatency.Average.Groups

/-! Texts of summaries: one line a checkpoint, as a table of one of the two times or as a list
of both.
-/

namespace JoinLatency

/-- How the lines of a summary are written. -/
inductive SummaryFormat
  | weighted
  | unweighted
  | verbose
  | pair
  deriving DecidableEq, Repr, Inhabited

namespace SummaryFormat

/-- The names of the formats. -/
def names : List (String × SummaryFormat) :=
  [("weighted", .weighted), ("unweighted", .unweighted), ("verbose", .verbose), ("pair", .pair)]

/-- The name of a format. -/
def name : SummaryFormat → String
  | .weighted => "weighted"
  | .unweighted => "unweighted"
  | .verbose => "verbose"
  | .pair => "pair"

/-- The text of one line. Tables hold shortest decimals, the other formats six places. -/
def line (format : SummaryFormat) (line : SummaryLine) : String :=
  match format with
  | .weighted => s!"{line.k}\t{Decimal.Layout.plain.text line.weighted}\n"
  | .unweighted => s!"{line.k}\t{Decimal.Layout.plain.text line.unweighted}\n"
  | .verbose =>
      s!"K val:{line.k}\tAverage time (unweighted): {Decimal.fixed 6 line.unweighted}"
        ++ s!"\t Average time (weighted): {Decimal.fixed 6 line.weighted}\n"
  | .pair =>
      s!"({line.k}, {Decimal.fixed 6 line.unweighted})"
        ++ s!" ({line.k}, {Decimal.fixed 6 line.weighted})\n"

/-- The text of a summary. -/
def text (format : SummaryFormat) (lines : List SummaryLine) : String :=
  String.join (lines.map format.line)

end SummaryFormat

end JoinLatency
