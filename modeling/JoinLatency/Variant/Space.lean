import JoinLatency.Variant.Basic

/-! The parameter space of a sweep is the product of its axes. The first axis is the outermost:
its value changes last.
-/

namespace JoinLatency

/-- A named dimension of a sweep and the values it takes, in order. -/
structure Axis where
  name : String
  values : List String
  deriving DecidableEq, Repr, Inhabited

/-- The product of a list of axes. -/
structure ParamSpace where
  axes : List Axis
  deriving DecidableEq, Repr, Inhabited

namespace ParamSpace

/-- The values of one axis are tokens, the leftmost other value is refused. -/
def checkValues (name : String) : List String → Except Error Unit
  | [] => .ok ()
  | value :: rest => do
      checkToken name value
      checkValues name rest

/-- Axes are accepted from the left: each name is an identifier that has not occurred, and there
is at least one value. The names already accepted come along.
-/
def checkAxes (seen : List String) : List Axis → Except Error Unit
  | [] => .ok ()
  | axis :: rest => do
      checkIdentifier axis.name
      if seen.contains axis.name then throw (.invalidConfig (.axisRepeated axis.name))
      if axis.values.isEmpty then throw (.invalidConfig (.axisEmpty axis.name))
      checkValues axis.name axis.values
      checkAxes (axis.name :: seen) rest

/-- The space of the given axes, if they are acceptable. -/
def ofAxes (axes : List Axis) : Except Error ParamSpace := do
  checkAxes [] axes
  return { axes }

/-- The number of points is the product of the axis lengths. It has no bound here. In a machine
word it overflows from 2⁶⁴ points on (64 axes of two values each, for instance), which no memory
holds when they are listed.
-/
def size (space : ParamSpace) : Nat :=
  (space.axes.map (·.values.length)).foldr (· * ·) 1

/-- Whether a space has no points. A space without axes has one. -/
def isEmpty (space : ParamSpace) : Bool :=
  space.size == 0

/-- Every choice of one value per axis, the choices of the first axis outermost. -/
def choices : List Axis → List (List (String × String))
  | [] => [[]]
  | axis :: rest =>
      axis.values.flatMap fun value => (choices rest).map ((axis.name, value) :: ·)

/-- The points of the space. -/
def variants (space : ParamSpace) : List Variant :=
  (choices space.axes).map (⟨·⟩)

end ParamSpace

end JoinLatency
