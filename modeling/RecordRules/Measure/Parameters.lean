import RecordRules.Schema.Measure
import RecordRules.Json.Writer

/-!
# Parameters of a measure

* `Measure.resolve` settles the value of every declared parameter: the supplied value, null
  included, or else the default.
* `Measure.cacheKey` is the text under which the value of a measure is kept: identifier, version and
  the resolved parameters by name, in JSON.
* `Measure.context` is what the expression of a measure can refer to.
-/

set_option autoImplicit false

namespace RecordRules
namespace Measure

/-- The fault of a parameter without a value. -/
def missingParameter (m : Measure) (name : String) : Fault :=
  Fault.of .missingParameter s!"Required parameter missing: {name}"
    [("measure_identifier", .text m.identifier), ("version", .int m.version),
     ("parameter_name", .text name)]

/-- The value of a parameter: the supplied one, or the default. -/
def parameterValue? (supplied : Fields Value) (p : Parameter) : Option Value :=
  match supplied.get? p.name with
  | some v => some v
  | none => p.default?

/-- The values of parameters in their order, up to the first that has none. -/
def resolveFrom (m : Measure) (supplied : Fields Value) :
    List Parameter → Except Fault (Fields Value)
  | [] => .ok []
  | p :: rest =>
    match parameterValue? supplied p with
    | some v => (resolveFrom m supplied rest).map ((p.name, v) :: ·)
    | none => .error (m.missingParameter p.name)

/-- The values of all declared parameters. -/
def resolve (m : Measure) (supplied : Fields Value) : Except Fault (Fields Value) :=
  resolveFrom m supplied m.parameters

/-- The text of one parameter in a cache key. -/
def keyPart (name : String) (json : List Char) : List Char := name.toList ++ '=' :: json

/-- The text of parameters in a cache key, the parameters separated by commas. -/
def keyParts : Fields Value → List Char
  | [] => []
  | [(name, v)] => keyPart name (Json.encode .byName v)
  | (name, v) :: rest => keyPart name (Json.encode .byName v) ++ ',' :: keyParts rest

/-- The text under which the value of a measure for some parameters is kept. -/
def cacheKey (identifier : String) (version : Int) (parameters : Fields Value) :
    Except ValueError String :=
  if parameters.any fun (_, v) => v.hasHugeInt then .error .integerTextTooLong
  else
    .ok (identifier ++ ":" ++ toString version ++ ":" ++
      String.ofList (keyParts (Fields.sorted parameters)))

/-- What the expression of a measure can refer to: every parameter by its name, and by its name
after a dollar sign. -/
def context (parameters : Fields Value) : Expression.Context :=
  parameters.foldl (fun ctx (name, v) => (Fields.set ctx name v).set ("$" ++ name) v) []

end Measure
end RecordRules
