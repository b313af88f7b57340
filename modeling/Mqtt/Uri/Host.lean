import Mqtt.Bytes
import Mqtt.Text.Split
import Mqtt.Uri.Domain

/-!
The host part of a URI: an address or a name. Schemes of the web read it more strictly, and accept
addresses in the many spellings of old; for any other scheme a name is kept as it is, apart from
percent encoding.
-/

namespace Mqtt
set_option autoImplicit false

inductive Host where
  | name (s : String)
  | ipv4 (address : Nat)
  /-- Eight pieces of 16 bits. -/
  | ipv6 (pieces : List Nat)
deriving DecidableEq, Repr

inductive UriError where
  | emptyHost
  | idnaError
  | invalidPort
  | invalidIpv4Address
  | invalidIpv6Address
  | invalidDomainCharacter
  | relativeUrlWithoutBase
deriving DecidableEq, Repr

def UriError.name : UriError → String
  | emptyHost => "EmptyHost"
  | idnaError => "IdnaError"
  | invalidPort => "InvalidPort"
  | invalidIpv4Address => "InvalidIpv4Address"
  | invalidIpv6Address => "InvalidIpv6Address"
  | invalidDomainCharacter => "InvalidDomainCharacter"
  | relativeUrlWithoutBase => "RelativeUrlWithoutBase"

/-! ### Percent encoding -/

namespace Percent

def hexDigit (n : Nat) : Char := if n < 10 then Char.ofNat (48 + n) else Char.ofNat (55 + n)

def hexValue? (c : Char) : Option Nat :=
  if '0' ≤ c && c ≤ '9' then some (c.toNat - 48)
  else if 'a' ≤ c && c ≤ 'f' then some (c.toNat - 87)
  else if 'A' ≤ c && c ≤ 'F' then some (c.toNat - 55)
  else none

/-- Control characters and everything beyond ASCII. -/
def isControl (c : Char) : Bool := c.toNat < 0x20 || 0x7f ≤ c.toNat

/-- What is encoded in a user name or password. -/
def isUserInfo (c : Char) : Bool := isControl c || " \"#<>?`\x7b\x7d/:;=@[\\]^|".toList.contains c

def encodeByte (b : UInt8) : List Char :=
  ['%', hexDigit (b.toNat / 16), hexDigit (b.toNat % 16)]

/-- Encodes the characters of a set, byte by byte of their UTF-8 form. -/
def encode (isEncoded : Char → Bool) (cs : List Char) : String :=
  String.ofList <| cs.flatMap fun c =>
    if isEncoded c then (Bytes.ofText (String.singleton c)).flatMap encodeByte else [c]

def decode : List Char → Bytes
  | '%' :: a :: b :: rest =>
    match hexValue? a, hexValue? b with
    | some x, some y => (16 * x + y).toUInt8 :: decode rest
    | _, _ => Bytes.ofText "%" ++ decode (a :: b :: rest)
  | c :: rest => Bytes.ofText (String.singleton c) ++ decode rest
  | [] => []
termination_by cs => cs.length

end Percent

/-! ### Spelling of addresses -/

namespace Host

def isDigit (c : Char) : Bool := '0' ≤ c && c ≤ '9'

/-- The number that digits of a base spell. -/
def number? (base : Nat) (cs : List Char) : Option Nat :=
  cs.foldlM (fun n c =>
    match Percent.hexValue? c with
    | some d => if d < base then some (n * base + d) else none
    | none => none) 0

/-! ### Addresses of 128 bits -/

/-- One piece: one to four hexadecimal digits. -/
def piece? (cs : List Char) : Option Nat :=
  if cs.isEmpty || 4 < cs.length then none else number? 16 cs

/-- One part of a dotted address: up to 255, without leading zeros. -/
def octet? (cs : List Char) : Option Nat :=
  if cs.isEmpty || 3 < cs.length || (cs.head? = some '0' && 1 < cs.length) then none
  else (number? 10 cs).filter fun n => n ≤ 255

/-- A dotted address as two pieces. -/
def dotted? (cs : List Char) : Option (List Nat) := do
  match ← (Text.splitAt (· = '.') cs).mapM octet? with
  | [a, b, c, d] => some [256 * a + b, 256 * c + d]
  | _ => none

/-- Pieces between colons; the last may be a dotted address where that is allowed. -/
def pieces? (dottedAllowed : Bool) : List (List Char) → Option (List Nat)
  | [] => some []
  | [p] => if dottedAllowed && p.contains '.' then dotted? p else (piece? p).map fun n => [n]
  | p :: ps => do
    let n ← piece? p
    let rest ← pieces? dottedAllowed ps
    pure (n :: rest)

/-- The text before and after the first pair of colons. -/
def splitPair : List Char → Option (List Char × List Char)
  | ':' :: ':' :: rest => some ([], rest)
  | c :: rest => (splitPair rest).map fun (a, b) => (c :: a, b)
  | [] => none

/-- One side of a pair of colons, which may be empty. -/
def side? (dottedAllowed : Bool) (cs : List Char) : Option (List Nat) :=
  if cs.isEmpty then some [] else pieces? dottedAllowed (Text.splitAt (· = ':') cs)

/-- The address that a text between brackets spells. A pair of colons stands for at least one piece
of zero. -/
def ipv6? (cs : List Char) : Option Host := do
  match splitPair cs with
  | none =>
    let all ← pieces? true (Text.splitAt (· = ':') cs)
    if all.length = 8 then some (.ipv6 all) else none
  | some (before, after) =>
    let front ← side? false before
    let back ← side? true after
    let known := front.length + back.length
    if known ≤ 7 then some (.ipv6 (front ++ List.replicate (8 - known) 0 ++ back)) else none

/-- Where the longest run of zeros begins and how long it is; the first of several. -/
def longestZeros (pieces : List Nat) : Nat × Nat :=
  (List.range pieces.length).foldl (fun best i =>
    let run := ((pieces.drop i).takeWhile (· = 0)).length
    if best.2 < run then (i, run) else best) (0, 0)

def hexText (n : Nat) : String := String.ofList (Nat.toDigits 16 n)

/-- Pieces with colons between them. -/
def piecesText (pieces : List Nat) : String := String.intercalate ":" (pieces.map hexText)

/-- An address in its shortest form: the longest run of two or more zeros is left out. -/
def ipv6Text (pieces : List Nat) : String :=
  let (start, run) := longestZeros pieces
  if run < 2 then piecesText pieces
  else piecesText (pieces.take start) ++ "::" ++ piecesText (pieces.drop (start + run))

/-! ### Addresses of 32 bits -/

/-- A part of an address: decimal, octal after 0, hexadecimal after 0x. None if it is no number. -/
def part? (cs : List Char) : Option Nat :=
  match cs with
  | [] => none
  | '0' :: 'x' :: rest | '0' :: 'X' :: rest => number? 16 rest
  | '0' :: c :: rest => number? 8 (c :: rest)
  | cs => number? 10 cs

/-- The parts of an address; a last dot is not counted. -/
def parts (cs : List Char) : List (List Char) :=
  match (Text.splitAt (· = '.') cs).reverse with
  | [] :: rest => rest.reverse
  | all => all.reverse

/-- Whether a name has to be read as an address. -/
def endsInNumber (cs : List Char) : Bool :=
  match (parts cs).getLast? with
  | some p => (!p.isEmpty && p.all isDigit) || (part? p).isSome
  | none => false

/-- The address that up to four parts spell. The last part fills what the others leave. -/
def ipv4? (cs : List Char) : Option Host := do
  let ps := parts cs
  let ns ← ps.mapM part?
  let last ← ns.getLast?
  let front := ns.dropLast
  if 4 < ns.length || front.any (fun n => 255 < n) || 1 <<< (8 * (4 - front.length)) ≤ last then
    none
  else
    some (.ipv4 (front.zipIdx.foldl (fun sum (n, i) => sum + n <<< (8 * (3 - i))) last))

def ipv4Text (n : Nat) : String :=
  String.intercalate "." ([24, 16, 8, 0].map fun k => toString ((n >>> k) % 256))

/-! ### Hosts -/

def text : Host → String
  | name s => s
  | ipv4 n => ipv4Text n
  | ipv6 pieces => "[" ++ ipv6Text pieces ++ "]"

/-- The text between brackets, if the host is in brackets. -/
def bracketed (cs : List Char) : Except UriError (Option Host) :=
  match cs with
  | '[' :: rest =>
    if rest.getLast? = some ']' then
      match ipv6? rest.dropLast with
      | some h => .ok (some h)
      | none => .error .invalidIpv6Address
    else .error .invalidIpv6Address
  | _ => .ok none

/-- Characters that no host holds. -/
def isForbidden (c : Char) : Bool := "\x00\t\n\r #/:<>?@[\\]^|".toList.contains c

/-- The host of a scheme that is not of the web. -/
def parseOpaque (cs : List Char) : Except UriError Host := do
  match ← bracketed cs with
  | some h => pure h
  | none =>
    if cs.any isForbidden then throw .invalidDomainCharacter
    else pure (.name (Percent.encode Percent.isControl cs))

/-- The host of a scheme of the web. A name is kept in its normal form. -/
def parseWeb (cs : List Char) : Except UriError Host := do
  match ← bracketed cs with
  | some h => pure h
  | none =>
    match Bytes.toText? (Percent.decode cs) with
    | none => throw .idnaError
    | some s =>
      match Domain.normalize? s.toList with
      | none => throw .idnaError
      | some [] => throw .emptyHost
      | some domain =>
        if endsInNumber domain then
          match ipv4? domain with
          | some h => pure h
          | none => throw .invalidIpv4Address
        else pure (.name (String.ofList domain))

end Host

end Mqtt
