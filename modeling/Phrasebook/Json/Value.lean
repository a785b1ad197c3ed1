import Phrasebook.Text

/-!
JSON values. Members keep their order. The size of a number with a fraction or an exponent is not
kept: no document of this library holds one.
-/

namespace Phrasebook

inductive Json where
  | null
  | boolean (b : Bool)
  | integer (n : Int)
  | real
  | text (t : Text)
  | array (items : List Json)
  | object (members : List (Text × Json))

namespace Json

instance : Inhabited Json := ⟨.null⟩

def typeName : Json → Text
  | .null => "NoneType"
  | .boolean _ => "bool"
  | .integer _ => "int"
  | .real => "float"
  | .text _ => "str"
  | .array _ => "list"
  | .object _ => "dict"

end Json

end Phrasebook
