import JoinLatency.Error

/-! Failures of commands: a message, and the messages of its causes. Each cause is set off from the
others when a failure is shown.
-/

namespace JoinLatency.Command

/-- The messages of a failure, the outermost first. -/
structure Failure where
  messages : List String
  deriving DecidableEq, Repr

namespace Failure

/-- The failure that an error is. Faults of files and of data texts are causes of their own. -/
def ofError (error : Error) : Failure where
  messages :=
    match error with
    | .io fault => [error.message, fault.message]
    | .json => [error.message, Error.jsonFault]
    | _ => [error.message]

/-- A failure as the cause of another one. -/
def within (context : String) (failure : Failure) : Failure where
  messages := context :: failure.messages

/-- A text whose first line starts in one way and whose other lines start in another. -/
def indented (first others text : String) : String :=
  first ++ s!"\n{others}".intercalate (text.splitOn "\n")

/-- A cause with its number among several ones. -/
def numbered (number : Nat) (cause : String) : String :=
  let digits := toString number
  indented (String.ofList (List.replicate (5 - digits.length) ' ') ++ digits ++ ": ") "       "
    cause

/-- The causes below their heading. -/
def causes : List String → String
  | [] => ""
  | [cause] => "\nCaused by:\n" ++ indented "    " "    " cause ++ "\n"
  | several =>
      let texts := several.zipIdx.map fun (cause, number) => numbered number cause ++ "\n"
      "\nCaused by:\n" ++ String.join texts

/-- A failure as it is shown. -/
def text (failure : Failure) : String :=
  match failure.messages with
  | [] => ""
  | outermost :: inner => s!"Error: {outermost}\n" ++ causes inner

/-- A failure as it is shown when it ends the program. -/
def abortText (failure : Failure) : String :=
  String.join (failure.messages.map (· ++ "\n"))

end Failure

end JoinLatency.Command
