/-!
Blank characters, and the words between them. The blanks are the characters with the Unicode
property White_Space.
-/

namespace Mqtt.Text
set_option autoImplicit false

def isBlank (c : Char) : Bool :=
  let n := c.toNat
  (9 ≤ n && n ≤ 13) || n = 0x20 || n = 0x85 || n = 0xa0 || n = 0x1680 || (0x2000 ≤ n && n ≤ 0x200a)
    || n = 0x2028 || n = 0x2029 || n = 0x202f || n = 0x205f || n = 0x3000

/-- The runs of characters between characters of a kind, empty runs left out. `current` is the run
before, its characters in reverse. -/
def runs (separates : Char → Bool) (current : List Char) : List Char → List (List Char)
  | [] => if current.isEmpty then [] else [current.reverse]
  | c :: cs =>
    if separates c then
      if current.isEmpty then runs separates [] cs
      else current.reverse :: runs separates [] cs
    else runs separates (c :: current) cs

def words (s : String) : List String := (runs isBlank [] s.toList).map String.ofList

end Mqtt.Text
