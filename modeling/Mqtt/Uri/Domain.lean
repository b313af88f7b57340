import Mqtt.Text.Split
import Mqtt.Uri.Domain.Mapping
import Mqtt.Uri.Domain.Punycode
import Mqtt.Unicode.Composition
import Mqtt.Unicode.Direction
import Mqtt.Unicode.Joining
import Mqtt.Unicode.Mark

/-!
Names of domains, in which any script can be used. Every name has one normal form: its characters
are mapped and composed, and labels that are written in ASCII for others are decoded. Labels stand
between dots, and none of them may break the rules for its script and direction.
-/

namespace Mqtt.Domain
set_option autoImplicit false

open Unicode (Direction Joining direction joining)

/-- What begins a label that stands for another. -/
def marker : List Char := "xn--".toList

/-- The longest text after a marker that is decoded. -/
def longestEncoded : Nat := 2000

/-- The longest label beyond ASCII that can be encoded. -/
def longestDecoded : Nat := 1000

/-- The characters of ASCII that no name holds. -/
def isForbidden (c : Char) : Bool :=
  c.toNat ≤ 0x20 || c.toNat = 0x7f || "%#/:<>?@[\\]^|".toList.contains c

def isAscii (c : Char) : Bool := c.toNat < 0x80

/-- The label that the text after a marker stands for, if that is one that had to be encoded and
has its normal form. -/
def decodeLabel? (encoded : List Char) : Option (List Char) :=
  if encoded.isEmpty || encoded.getLast? = some '-' || !encoded.all isAscii
      || longestEncoded < encoded.length then none
  else
    (Punycode.decode encoded).filter fun cs =>
      cs.all (fun c => isKept c && c ≠ '.') && Unicode.compose cs = cs

/-- A label in its normal form. -/
def normalLabel? (label : List Char) : Option (List Char) :=
  if marker.isPrefixOf label then decodeLabel? (label.drop marker.length)
  else if !label.all isAscii && longestDecoded < label.length then none
  else some label

/-! ### Rules for the characters of a label -/

/-- The class of the marks that leave out a vowel. -/
def viramaClass : Nat := 9

/-- Whether the first letter that is not transparent joins as one of these do. -/
def joins (kinds : List Joining) (cs : List Char) : Bool :=
  match cs.dropWhile fun c => joining c = .transparent with
  | c :: _ => kinds.contains (joining c)
  | [] => false

/-- Whether a joiner or a non-joiner has a place between the characters before it, the nearest
first, and those after it. -/
def joinerFits (c : Char) (before after : List Char) : Bool :=
  match before with
  | [] => false
  | b :: _ =>
    Unicode.combiningClass b = viramaClass
      || (c = Char.ofNat 0x200c && joins [.left, .dual] before && joins [.right, .dual] after)

def isJoiner (c : Char) : Bool := c.toNat = 0x200c || c.toNat = 0x200d

/-- Whether every joiner and non-joiner has its place. -/
def joinersFit (before : List Char) : List Char → Bool
  | [] => true
  | c :: rest => (!isJoiner c || joinerFits c before rest) && joinersFit (c :: before) rest

/-- Whether a label is well-formed: it does not begin with a mark, and holds nothing that is
forbidden or out of place. -/
def isWellFormed (label : List Char) : Bool :=
  !label.head?.any Unicode.isMark && joinersFit [] label && !label.any isForbidden

/-! ### Directions -/

def isRightToLeft (d : Direction) : Bool := d = .rightToLeft || d = .arabicNumber

/-- Whether a label keeps the rule for names that are partly written from right to left: it begins
with a letter and keeps to the direction of that letter, and has numbers of one kind only, if it is
written from right to left. -/
def keepsDirection (label : List Char) : Bool :=
  let ds := label.map direction
  let last := (ds.reverse.dropWhile (· = Direction.mark)).head?
  match ds with
  | [] => true
  | .leftToRight :: _ =>
    !ds.any isRightToLeft && (last = some .leftToRight || last = some .europeanNumber)
  | .rightToLeft :: _ =>
    !ds.contains .leftToRight && last ≠ some .neutral
      && !(ds.contains .europeanNumber && ds.contains .arabicNumber)
  | _ => false

/-- Whether a name with these labels can be read in one way only. -/
def directionsFit (labels : List (List Char)) : Bool :=
  !labels.any (fun l => l.any fun c => isRightToLeft (direction c)) || labels.all keepsDirection

/-! ### Names -/

/-- The normal form of a name; none if it is no name of a domain. -/
def normalize? (cs : List Char) : Option (List Char) := do
  let mapped ← cs.mapM mapChar?
  let labels ← (Text.splitAt (· = '.') (Unicode.compose mapped.flatten)).mapM normalLabel?
  if labels.all isWellFormed && directionsFit labels then
    some (List.intercalate ['.'] labels)
  else none

end Mqtt.Domain
