import Mqtt.Trust.Base64

/-!
Text that holds labelled sections of base64 between a begin line and an end line. What stands
outside of sections is ignored, and so are sections whose label is not known.
-/

namespace Mqtt.Trust
set_option autoImplicit false

inductive PemError where
  /-- A begin line that does not end as it should. -/
  | illegalSectionStart (line : Bytes)
  | missingSectionEnd (label : Bytes)
  | base64 (e : Base64Error)
deriving DecidableEq, Repr

structure PemSection where
  label : Bytes
  content : Bytes
deriving DecidableEq, Repr

namespace Pem

/-- The lines of a text, each with the byte that ends it. `current` is the line so far, reversed. -/
def lines (current : Bytes) : Bytes → List Bytes
  | [] => if current.isEmpty then [] else [current.reverse]
  | b :: rest =>
    if b = 10 || b = 13 then (b :: current).reverse :: lines [] rest else lines (b :: current) rest

def beginning : Bytes := Bytes.ofText "-----BEGIN "

def ending (label : Bytes) : Bytes := Bytes.ofText "-----END " ++ label ++ Bytes.ofText "-----"

def certificate : Bytes := Bytes.ofText "CERTIFICATE"

/-- The labels of the sections that are read. -/
def labels : List Bytes :=
  ["CERTIFICATE", "PUBLIC KEY", "RSA PRIVATE KEY", "PRIVATE KEY", "EC PRIVATE KEY", "X509 CRL",
    "CERTIFICATE REQUEST", "ECHCONFIG"].map Bytes.ofText

/-- Counts the dashes at the end of a line, blanks and line ends among them left out, and takes off
all of it. The line is reversed. -/
def dashes : Nat → Bytes → Bytes → Nat × Bytes
  | count, kept, b :: rest =>
    if b = 45 then dashes (count + 1) rest rest
    else if b = 10 || b = 13 || b = 32 then dashes count kept rest
    else (count, kept)
  | count, kept, [] => (count, kept)

/-- The label of a begin line. -/
def label? (line : Bytes) : Option Bytes :=
  let reversed := line.reverse
  let (count, kept) := dashes 0 reversed reversed
  if count = 5 then some (kept.reverse.drop beginning.length) else none

/-- Reads sections line by line, up to the first fault. `current` is the label of the section that
has begun; `body` are the bytes of it so far, reversed. -/
def sections (current : Option Bytes) (body : Bytes) :
    List Bytes → List (Except PemError PemSection)
  | [] =>
    match current with
    | some label => [.error (.missingSectionEnd label)]
    | none => []
  | line :: rest =>
    if beginning.isPrefixOf line then
      match label? line with
      | some label => sections (some label) body rest
      | none => [.error (.illegalSectionStart line)]
    else
      match current with
      | none => sections none body rest
      | some label =>
        if (ending label).isPrefixOf line then
          if labels.contains label then
            match Base64.decode body.reverse with
            | .error e => [.error (.base64 e)]
            | .ok content => .ok ⟨label, content⟩ :: sections none [] rest
          else sections none [] rest
        else sections (some label) (line.reverse ++ body) rest

/-- The contents of the certificate sections of a text, up to the first fault. -/
def certificates (text : Bytes) : List (Except PemError Bytes) :=
  (sections none [] (lines [] text)).filterMap fun r =>
    match r with
    | .ok s => if s.label = certificate then some (.ok s.content) else none
    | .error e => some (.error e)

end Pem

end Mqtt.Trust
