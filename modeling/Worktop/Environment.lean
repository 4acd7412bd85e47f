import Worktop.Text.Blank

/-!
# Environment variables
-/

namespace Worktop

/-- Settings of variables, in order; the last setting of a variable counts. -/
abbrev Environment := List (String × String)

namespace Environment

/-- The value of a variable. -/
def get? (env : Environment) (name : String) : Option String :=
  (env.reverse.find? (·.1 = name)).map (·.2)

/-- The value of a variable that is set to more than blanks. -/
def filled? (env : Environment) (name : String) : Option String :=
  (env.get? name).filter fun value => !Text.isBlankText value

end Environment

end Worktop
