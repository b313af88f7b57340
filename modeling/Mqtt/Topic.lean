import Mqtt.Bytes
import Mqtt.Error
import Mqtt.Wire.Field

/-!
Topics and topic filters. A filter is a sequence of levels divided by slashes. The wildcard plus
stands for one whole level, the wildcard number sign for all levels from its place on. A topic is a
filter without wildcards.
-/

namespace Mqtt
set_option autoImplicit false

/-- Whether a text fits in a field with a 16-bit length. -/
def Field.fits (s : String) : Bool := s.utf8ByteSize ≤ Field.maximumSize

namespace Topic

/-- The runs of characters between slashes; there is always one more than there are slashes. -/
def levels : List Char → List (List Char)
  | [] => [[]]
  | c :: cs =>
    if c = '/' then [] :: levels cs
    else
      match levels cs with
      | [] => [[c]]
      | l :: ls => (c :: l) :: ls

/-- Whether the levels of a filter use wildcards as whole levels, and the number sign only last. -/
def wildcardsStandAlone : List (List Char) → Bool
  | [] => true
  | l :: ls =>
    (!l.contains '+' || l = ['+'])
    && (!l.contains '#' || (l = ['#'] && ls.isEmpty))
    && wildcardsStandAlone ls

def isValidFilter (s : String) : Bool :=
  Field.fits s && !s.isEmpty && !s.toList.contains '\x00' && wildcardsStandAlone (levels s.toList)

def isValid (s : String) : Bool :=
  Field.fits s && !s.isEmpty && !s.toList.any fun c => c = '+' || c = '#' || c = '\x00'

def check (s : String) : Except Error Unit := if isValid s then .ok () else .error .invalidTopic

def checkFilter (s : String) : Except Error Unit :=
  if isValidFilter s then .ok () else .error .invalidTopicFilter

end Topic

end Mqtt
