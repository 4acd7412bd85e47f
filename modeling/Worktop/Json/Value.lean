/-!
# JSON values
-/

namespace Worktop.Json

/-- A JSON value as written: members of objects in order and with repetitions, numbers as texts.  A
string is `none` if its escapes spell half of a surrogate pair, so that it is no text. -/
inductive Value where
  | null
  | bool (b : Bool)
  | number (text : List Char)
  | string (text? : Option String)
  | array (items : List Value)
  | object (members : List (Option String × Value))
  deriving Repr

end Worktop.Json
