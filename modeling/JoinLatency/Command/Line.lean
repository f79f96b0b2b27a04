/-! Command lines. Options stand anywhere between the positional arguments, and a double hyphen
ends them. What an option takes decides which of the arguments after it are its values.
-/

namespace JoinLatency.Command

/-- What an option takes: no value, one, or one and more. -/
inductive Arity
  | none
  | one
  | several
  deriving DecidableEq, Repr

/-- Why a command line names no command to run: it asks for the version or for help, or it fits no
command.
-/
inductive Notice
  | version
  | help
  | invalid
  deriving DecidableEq, Repr

/-- A command line taken apart: each occurrence of an option with its values, and the positional
arguments.
-/
structure Line where
  options : List (String × List String) := []
  positional : List String := []
  deriving DecidableEq, Repr

/-- Whether an argument is a value and not an option. A lone hyphen is a value. -/
def isValue (argument : String) : Bool :=
  argument == "-" || !argument.startsWith "-"

/-- The name of a long option and the value attached to it. -/
def splitAttached (argument : List Char) : String × Option String :=
  let name := argument.takeWhile (· != '=')
  match argument.dropWhile (· != '=') with
  | _ :: value => (String.ofList name, some (String.ofList value))
  | [] => (String.ofList name, none)

/-- The values of an option and the number of arguments that they take up. An attached value is
the only one.
-/
def takeValues (arity : Arity) (attached : Option String) (rest : List String)
    : Except Notice (List String × Nat) :=
  match arity, attached with
  | .none, none => .ok ([], 0)
  | .none, some _ => .error .invalid
  | _, some value => .ok ([value], 0)
  | .one, none =>
      match rest with
      | value :: _ => if isValue value then .ok ([value], 1) else .error .invalid
      | [] => .error .invalid
  | .several, none =>
      let values := rest.takeWhile isValue
      if values.isEmpty then .error .invalid else .ok (values, values.length)

namespace Line

/-- The line with one more occurrence of an option. -/
def withOption (line : Line) (name : String) (values : List String) : Line :=
  { line with options := line.options ++ [(name, values)] }

/-- The line with more positional arguments. -/
def withPositional (line : Line) (arguments : List String) : Line :=
  { line with positional := line.positional ++ arguments }

/-- Arguments taken apart by the options that they may hold, behind those of a line. -/
def read (options : List (String × Arity)) (line : Line) (arguments : List String)
    : Except Notice Line :=
  match arguments with
  | [] => .ok line
  | "--" :: rest => .ok (line.withPositional rest)
  | argument :: rest =>
      if isValue argument then read options (line.withPositional [argument]) rest
      else
        match argument.toList with
        | '-' :: '-' :: long =>
            let (name, attached) := splitAttached long
            if name == "help" && attached.isNone then .error .help
            else
              match options.lookup name with
              | none => .error .invalid
              | some arity =>
                  match takeValues arity attached rest with
                  | .error notice => .error notice
                  | .ok (values, taken) =>
                      read options (line.withOption name values) (rest.drop taken)
        | _ :: 'h' :: _ => .error .help
        | _ => .error .invalid
termination_by arguments.length
decreasing_by all_goals simp only [List.length_cons, List.length_drop]; omega

/-- The values of all occurrences of an option. -/
def values (line : Line) (name : String) : List String :=
  (line.options.filter (·.1 == name)).flatMap (·.2)

/-- Whether an option without a value is there. It may not be repeated. -/
def flag (line : Line) (name : String) : Except Notice Bool :=
  match line.options.filter (·.1 == name) with
  | [] => .ok false
  | [_] => .ok true
  | _ => .error .invalid

/-- The value of an option that takes one, if it is there. It may not be repeated. -/
def value? (line : Line) (name : String) : Except Notice (Option String) :=
  match line.options.filter (·.1 == name) with
  | [] => .ok none
  | [(_, [value])] => .ok (some value)
  | _ => .error .invalid

end Line

end JoinLatency.Command
