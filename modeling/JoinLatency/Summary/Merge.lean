import JoinLatency.Average.Groups
import JoinLatency.Summary.Entry

/-! Averages over summary files. Keys keep the order of their first appearance, and a file that
cannot be read contributes nothing but still counts as a file.
-/

namespace JoinLatency.Summary

/-- The values of every key, in the order in which they were read. -/
abbrev Values := Table String (List Float)

/-- One more entry. -/
def addEntry (values : Values) (entry : SummaryEntry) : Values :=
  values.update entry.key [] (· ++ [entry.value])

/-- The entries of the readable files among the inputs, file by file. -/
def readable (files : Files) (inputs : List String) : List (List SummaryEntry) :=
  inputs.filterMap fun input => (SummaryEntry.ofFile files input).toOption

/-- The mean of the values of a key among a number of files. -/
def meanEntry (policy : MissingPolicy) (fileCount : Nat) (key : String) (values : List Float)
    : SummaryEntry where
  key := key
  value := sum values / divisor (policy.terms fileCount values.length)

/-- The mean entries of a list of input files. -/
def average (files : Files) (inputs : List String) (policy : MissingPolicy)
    : Except Error (List SummaryEntry) :=
  if inputs.isEmpty then .error (.average .noInputs)
  else
    match readable files inputs with
    | [] => .error (.average (.noneReadable inputs.length))
    | summaries =>
        let values := summaries.flatten.foldl addEntry {}
        .ok (values.entries.map fun (key, present) =>
          meanEntry policy inputs.length key present)

end JoinLatency.Summary
