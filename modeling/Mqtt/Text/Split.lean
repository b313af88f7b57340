/-!
Text cut into the parts between separators.
-/

namespace Mqtt.Text
set_option autoImplicit false

/-- The parts of a text between separators; there is always one more than there are separators. -/
def splitAt (isSeparator : Char → Bool) : List Char → List (List Char)
  | [] => [[]]
  | c :: cs =>
    if isSeparator c then [] :: splitAt isSeparator cs
    else
      match splitAt isSeparator cs with
      | [] => [[c]]
      | p :: ps => (c :: p) :: ps

end Mqtt.Text
