import Mqtt.Text.Lossy
import Mqtt.Unicode.Hidden

/-!
Text between double quotes, as a diagnosis shows it: quotes, backslashes and characters that would
not show are escaped.
-/

namespace Mqtt.Text
set_option autoImplicit false

def escaped (c : Char) : List Char :=
  if c = '"' then ['\\', '"']
  else if c = '\\' then ['\\', '\\']
  else if c = '\n' then ['\\', 'n']
  else if c = '\r' then ['\\', 'r']
  else if c = '\t' then ['\\', 't']
  else if c = '\x00' then ['\\', '0']
  else if Unicode.isHidden c then
    "\\u\x7b".toList ++ Nat.toDigits 16 c.toNat ++ ['\x7d']
  else [c]

def quoted (s : String) : String := String.ofList (['"'] ++ s.toList.flatMap escaped ++ ['"'])

end Mqtt.Text
