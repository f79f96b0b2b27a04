/-! Lines of a text end at a line feed, and a carriage return right before it belongs to the
line end. A last line without a line end counts, an empty one after a line end does not.
-/

namespace JoinLatency.Text

/-- One carriage return at the end of a line belongs to its line end. -/
def dropReturn (line : List Char) : List Char :=
  match line.getLast? with
  | some '\r' => line.dropLast
  | _ => line

/-- The lines of a text, read with the characters already seen of the current line. -/
def linesFrom (current : List Char) : List Char → List (List Char)
  | [] => if current.isEmpty then [] else [current.reverse]
  | '\n' :: rest => dropReturn current.reverse :: linesFrom [] rest
  | c :: rest => linesFrom (c :: current) rest

/-- The lines of a text, without their line ends. -/
def lines (text : List Char) : List (List Char) :=
  linesFrom [] text

end JoinLatency.Text
