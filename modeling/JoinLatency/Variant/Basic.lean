import JoinLatency.Variant.Token

/-! A variant is one point of a sweep: parameter names with values, in a fixed order. Its label
lists them, and its projection onto some names is the group that it is averaged in.
-/

namespace JoinLatency

/-- Parameters of a query in the order of their axes. -/
structure Variant where
  params : List (String × String)
  deriving DecidableEq, Repr, Inhabited

namespace Variant

/-- Parameters are accepted from the left: each name is an identifier that has not occurred,
each value a token. The names already accepted come along.
-/
def checkParams (seen : List String) : List (String × String) → Except Error Unit
  | [] => .ok ()
  | (name, value) :: rest => do
      checkIdentifier name
      checkToken name value
      if seen.contains name then .error (.invalidParameter name value)
      else checkParams (name :: seen) rest

/-- The variant with the given parameters, if they are acceptable. -/
def ofParams (params : List (String × String)) : Except Error Variant := do
  checkParams [] params
  return { params }

/-- The value of a parameter; the first one counts. -/
def get? (variant : Variant) (name : String) : Option String :=
  variant.params.lookup name

/-- The parameters with the given names, in the order of the names. Absent names are left out. -/
def project (variant : Variant) (names : List String) : Variant where
  params := names.filterMap fun name => (variant.get? name).map (name, ·)

/-- Whether a variant has no parameters. -/
def isEmpty (variant : Variant) : Bool :=
  variant.params.isEmpty

/-- One parameter in a label. -/
def paramLabel (param : String × String) : String :=
  param.1 ++ "=" ++ param.2

/-- The label lists the parameters; the variant without any has a label of its own. -/
def label (variant : Variant) : String :=
  if variant.isEmpty then "(default)"
  else ", ".intercalate (variant.params.map paramLabel)

/-- Parameter lists compare position by position, names before values, by code points. -/
def compareParams : List (String × String) → List (String × String) → Ordering
  | [], [] => .eq
  | [], _ :: _ => .lt
  | _ :: _, [] => .gt
  | (leftName, leftValue) :: left, (rightName, rightValue) :: right =>
      (compare leftName rightName).then
        ((compare leftValue rightValue).then (compareParams left right))

/-- Variants compare by their parameter lists. -/
def compare (left right : Variant) : Ordering :=
  compareParams left.params right.params

/-- The distinct variants of a list in increasing order. -/
def sorted (variants : List Variant) : List Variant :=
  let ordered := variants.mergeSort fun left right => (compare left right).isLE
  ordered.foldr
    (fun variant rest => if rest.head? == some variant then rest else variant :: rest) []

end Variant

end JoinLatency
