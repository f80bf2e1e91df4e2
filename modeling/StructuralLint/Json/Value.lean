/-!
# JSON values

Values of a JSON text. Numbers without fraction and exponent stay integers; fields keep their order
and may repeat. A token that is well formed and yet denotes nothing, such as a number beyond every
double, is kept as `unreadable`: it does no harm where it is ignored.
-/

namespace StructuralLint

/-- The value of a JSON text. -/
inductive Json where
  | null
  | bool (value : Bool)
  | int (value : Int)
  | float (value : Float)
  | string (text : String)
  | array (items : List Json)
  | object (fields : List (String × Json))
  /--
  A well-formed token without a value: a number out of range or text with half a surrogate pair.
  -/
  | unreadable
deriving Inhabited

namespace Json

/-- The last value of a field. -/
def field? (name : String) : Json → Option Json
  | object fields => (fields.reverse.find? (·.1 == name)).map (·.2)
  | _ => none

/-- The text of a string. -/
def string? : Json → Option String
  | string text => some text
  | _ => none

/-- The items of an array. -/
def array? : Json → Option (List Json)
  | array items => some items
  | _ => none

/-- The truth value. -/
def bool? : Json → Option Bool
  | bool value => some value
  | _ => none

end Json

end StructuralLint
