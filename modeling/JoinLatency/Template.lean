import JoinLatency.Variant.Basic

/-! Templates are texts with named placeholders between braces; a doubled brace stands for
itself. Reading gives a canonical list of segments, and writing canonical segments gives the
only text that reads as them.
-/

namespace JoinLatency

/-- A part of a template. -/
inductive Segment
  | literal (text : String)
  | placeholder (name : String)
  deriving DecidableEq, Repr

namespace Segment

/-- The name of a placeholder. -/
def name? : Segment → Option String
  | .literal _ => none
  | .placeholder name => some name

/-- A brace of a literal is written twice. -/
def escapeChar (c : Char) : List Char :=
  if c == '\x7b' || c == '\x7d' then [c, c] else [c]

/-- The template text of one segment. -/
def write : Segment → List Char
  | .literal text => text.toList.flatMap escapeChar
  | .placeholder name => '\x7b' :: (name.toList ++ ['\x7d'])

/-- The literal read so far as a segment, unless it is empty. -/
def flush (literal : List Char) : List Segment :=
  if literal.isEmpty then [] else [.literal (String.ofList literal.reverse)]

/-- The segments of a template text, with the literal and the placeholder name read so far in
reverse. A name extends to the next closing brace. The source is kept for the messages.
-/
def read (source : String) (literal : List Char)
    : Option (List Char) → List Char → Except TemplateFault (List Segment)
  | none, [] => .ok (flush literal)
  | none, '\x7b' :: '\x7b' :: rest => read source ('\x7b' :: literal) none rest
  | none, '\x7d' :: '\x7d' :: rest => read source ('\x7d' :: literal) none rest
  | none, '\x7b' :: rest => read source literal (some []) rest
  | none, '\x7d' :: _ => .error (.unmatchedBrace source)
  | none, c :: rest => read source (c :: literal) none rest
  | some name, [] => .error (.unterminated (String.ofList name.reverse) source)
  | some name, '\x7d' :: rest =>
      if isIdentifierText name.reverse then
        (read source [] none rest).map
          (flush literal ++ .placeholder (String.ofList name.reverse) :: ·)
      else .error (.badName (String.ofList name.reverse) source)
  | some name, c :: rest => read source literal (some (c :: name)) rest

end Segment

/-- A template keeps its source text beside the segments that it reads as. -/
structure Template where
  source : String
  segments : List Segment
  deriving DecidableEq, Repr, Inhabited

namespace Template

/-- The template of a source text, if it is well formed. -/
def ofSource (source : String) : Except Error Template :=
  match Segment.read source [] none source.toList with
  | .ok segments => .ok { source, segments }
  | .error fault => .error (.template fault)

/-- The template text of a list of segments. -/
def write (segments : List Segment) : String :=
  String.ofList (segments.flatMap Segment.write)

/-- The placeholder names in order, with repetitions. -/
def placeholders (template : Template) : List String :=
  template.segments.filterMap Segment.name?

/-- The text of the segments under a lookup of names; the first unknown name is refused. -/
def renderSegments (source : String) (lookup : String → Option String)
    : List Segment → Except Error String
  | [] => .ok ""
  | .literal text :: rest => (renderSegments source lookup rest).map (text ++ ·)
  | .placeholder name :: rest =>
      match lookup name with
      | none => .error (.template (.unknownPlaceholder name source))
      | some value => (renderSegments source lookup rest).map (value ++ ·)

/-- The text of a template under a lookup of names. -/
def renderWith (template : Template) (lookup : String → Option String) : Except Error String :=
  renderSegments template.source lookup template.segments

/-- The text of a template for a variant. -/
def render (template : Template) (variant : Variant) : Except Error String :=
  template.renderWith variant.get?

end Template

end JoinLatency
