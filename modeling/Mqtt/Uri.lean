import Mqtt.Uri.Host

/-!
URIs, as far as a broker's address needs them: scheme, user name, password, host and port. They are
read by the rules of web addresses. Path, query and fragment are skipped; no text makes them wrong.
-/

namespace Mqtt
set_option autoImplicit false

structure Uri where
  scheme : String
  /-- Percent encoded; empty if there is none. -/
  username : String := ""
  /-- Percent encoded; never empty. -/
  password : Option String := none
  host : Option Host := none
  /-- None also where it is the default of a scheme of the web. -/
  port : Option UInt16 := none
deriving DecidableEq, Repr

namespace Uri

/-- The text that is parsed: without control characters and blanks at its ends, and without tabs
and line ends inside. -/
def clean (s : String) : List Char :=
  let isEdge (c : Char) : Bool := c.toNat ≤ 0x20
  let front := s.toList.dropWhile isEdge
  (front.reverse.dropWhile isEdge).reverse.filter fun c => c ≠ '\t' && c ≠ '\n' && c ≠ '\r'

def isSchemeChar (c : Char) : Bool := c.isAlphanum || c = '+' || c = '-' || c = '.'

/-- The scheme in lower case, and what follows its colon. -/
def splitScheme (cs : List Char) : Option (String × List Char) :=
  let name := cs.takeWhile isSchemeChar
  match cs.head?, cs.dropWhile isSchemeChar with
  | some c, ':' :: rest =>
    if c.isAlpha then some (String.ofList (name.map Char.toLower), rest) else none
  | _, _ => none

/-- The schemes of the web that name a host, with their default ports. -/
def webPort? : String → Option UInt16
  | "http" | "ws" => some 80
  | "https" | "wss" => some 443
  | "ftp" => some 21
  | _ => none

/-- Whether a character ends the authority of a URI. -/
def endsAuthority (isWeb : Bool) (c : Char) : Bool :=
  c = '/' || c = '?' || c = '#' || (isWeb && c = '\\')

/-- The text before the last at sign, if there is one, and the text after it. -/
def splitUserInfo (cs : List Char) : Option (List Char) × List Char :=
  let host := (cs.reverse.takeWhile (· ≠ '@')).reverse
  if host.length = cs.length then (none, cs)
  else (some (cs.take (cs.length - host.length - 1)), host)

/-- The host, and what follows it from the first colon outside of brackets. -/
def splitHost (inBrackets : Bool) : List Char → List Char × List Char
  | [] => ([], [])
  | c :: cs =>
    if c = ':' && !inBrackets then ([], c :: cs)
    else
      let inBrackets := if c = '[' then true else if c = ']' then false else inBrackets
      let (host, rest) := splitHost inBrackets cs
      (c :: host, rest)

/-- The number that the digits at the front spell, and the rest. None where it is too large. -/
def leadingNumber (limit : Nat) (n : Nat) : List Char → Option (Nat × List Char)
  | [] => some (n, [])
  | c :: cs =>
    if Host.isDigit c then
      let n' := n * 10 + (c.toNat - 48)
      if limit < n' then none else leadingNumber limit n' cs
    else some (n, c :: cs)

/-- The port in the text after a colon. -/
def parsePort (cs : List Char) : Except UriError (Option UInt16) :=
  match leadingNumber 65535 0 cs with
  | none => .error .invalidPort
  | some (n, rest) =>
    let hasDigit := rest.length < cs.length
    match rest with
    | [] | '\\' :: _ => .ok (if hasDigit then some n.toUInt16 else none)
    | _ => .error .invalidPort

def hostAndPort (isWeb : Bool) (cs : List Char) :
    Except UriError (Option Host × Option UInt16) := do
  let (name, rest) := splitHost false cs
  if isWeb && name.isEmpty then throw .emptyHost
  let host ← if isWeb then Host.parseWeb name else Host.parseOpaque name
  match rest with
  | ':' :: port =>
    if name.isEmpty then throw .emptyHost
    let port ← parsePort port
    pure (some host, port)
  | _ => pure (if name.isEmpty then none else some host, none)

/-- What follows the two slashes. -/
def parseAuthority (scheme : String) (isWeb : Bool) (cs : List Char) : Except UriError Uri := do
  let authority := cs.takeWhile fun c => !endsAuthority isWeb c
  let (userInfo, rest) := splitUserInfo authority
  if userInfo = some [] && rest.isEmpty && authority.length < cs.length then throw .emptyHost
  let credentials := userInfo.getD []
  let username := credentials.takeWhile (· ≠ ':')
  let password := (credentials.dropWhile (· ≠ ':')).drop 1
  let (host, port) ← hostAndPort isWeb rest
  if host.isNone && (!username.isEmpty || !password.isEmpty) then throw .emptyHost
  pure
    { scheme
      username := Percent.encode Percent.isUserInfo username
      password :=
        if password.isEmpty then none else some (Percent.encode Percent.isUserInfo password)
      host
      port := if port = webPort? scheme then none else port }

/-- Whether a text is a drive letter with its colon or bar, which is no host. -/
def isDrive : List Char → Bool
  | [c, d] => c.isAlpha && (d = ':' || d = '|')
  | _ => false

def isSlash (c : Char) : Bool := c = '/' || c = '\\'

/-- Whether a segment of a path stands for where it is. -/
def isDot (segment : List Char) : Bool :=
  [".", "%2e"].contains (String.ofList (segment.map Char.toLower))

/-- Whether a segment of a path takes back the one before it. -/
def isDoubleDot (segment : List Char) : Bool :=
  ["..", ".%2e", "%2e.", "%2e%2e"].contains (String.ofList (segment.map Char.toLower))

/-- Whether the path of a file goes to a drive from its root, and so to no other host. `above` are
the segments before, the last one first; a drive letter among them is not taken back. -/
def reachesDrive (above : List (List Char)) : List (List Char) → Bool
  | [] => false
  | segment :: rest =>
    if isDot segment then reachesDrive above rest
    else if isDoubleDot segment then
      reachesDrive (if above.head?.any isDrive then above else above.drop 1) rest
    else (above.isEmpty && isDrive segment) || reachesDrive (segment :: above) rest

/-- Whether a URI goes on after its host with a path to a drive. -/
def leadsToDrive (cs : List Char) : Bool :=
  let path := cs.takeWhile fun c => c ≠ '?' && c ≠ '#'
  reachesDrive [] (Text.splitAt isSlash (path.drop 1))

/-- The URI of a file, which has a host only between two slashes and the next. -/
def parseFile (cs : List Char) : Except UriError Uri :=
  match cs with
  | a :: b :: rest =>
    if isSlash a && isSlash b then
      let name := rest.takeWhile fun c => !endsAuthority true c
      if name.isEmpty || isDrive name then .ok { scheme := "file" }
      else do
        let host ← Host.parseWeb name
        let isNear := host = .name "localhost" || leadsToDrive (rest.drop name.length)
        pure { scheme := "file", host := if isNear then none else some host }
    else .ok { scheme := "file" }
  | _ => .ok { scheme := "file" }

def parse (s : String) : Except UriError Uri :=
  match splitScheme (clean s) with
  | none => .error .relativeUrlWithoutBase
  | some (scheme, rest) =>
    if scheme = "file" then parseFile rest
    else if (webPort? scheme).isSome then
      parseAuthority scheme true (rest.dropWhile fun c => c = '/' || c = '\\')
    else
      match rest with
      | '/' :: '/' :: rest => parseAuthority scheme false rest
      | _ => .ok { scheme }

end Uri

end Mqtt
