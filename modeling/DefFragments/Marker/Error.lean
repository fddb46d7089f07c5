/-!
# Marker errors

A line that has the shape of a marker but yields no announcement stops the run: a marker
is never dropped silently.
-/

namespace DefFragments

inductive MarkerError
  | unsupportedArity (name : String) (count : Nat)
  | unsupportedFlag (name flag : String)
  /-- A constant marker whose body is no declaration with a proper release in front where one is
  due. -/
  | malformedConstant (flag body : String)
  /-- A constant marker with a type that has no statement to store it. -/
  | unsupportedType (name type : String)
  deriving DecidableEq

def MarkerError.message : MarkerError → String
  | .unsupportedArity name count =>
    "function `" ++ name ++ "` takes " ++ toString count
      ++ " argument(s); only 1, 2 or 3 are supported"
  | .unsupportedFlag name flag =>
    "constant `" ++ name ++ "` uses unsupported flag `EXPCONST" ++ flag ++ "`"
  | .malformedConstant flag body =>
    "malformed constant marker `EXPCONST" ++ flag ++ "(" ++ body ++ ")`"
  | .unsupportedType name type =>
    "constant `" ++ name ++ "` has unsupported type `" ++ type ++ "`"

end DefFragments
