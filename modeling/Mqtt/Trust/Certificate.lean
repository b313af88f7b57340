import Mqtt.Trust.Der

/-!
Whether the bytes of a certificate can serve as a trust anchor: version 3 with extensions that are
known or not critical, or version 1.
-/

namespace Mqtt.Trust
set_option autoImplicit false

inductive CertificateError where
  | badEncoding
  /-- The outer and the inner signature algorithm differ. -/
  | signatureAlgorithmMismatch
  | unsupportedCriticalExtension
  /-- An extension that is there twice. -/
  | extensionValueInvalid
deriving DecidableEq, Repr

namespace CertificateError

def label : CertificateError → String
  | badEncoding => "BadEncoding"
  | signatureAlgorithmMismatch => "Other(OtherError(SignatureAlgorithmMismatch))"
  | unsupportedCriticalExtension => "Other(OtherError(UnsupportedCriticalExtension))"
  | extensionValueInvalid => "Other(OtherError(ExtensionValueInvalid))"

end CertificateError

namespace Certificate

open Der

/-- A value of DER, or a bad encoding. -/
def require {α : Type} (x : Option α) : Except CertificateError α :=
  match x with
  | some a => .ok a
  | none => .error .badEncoding

/-- The identifiers below 2.5.29 of the extensions that are kept: key usage, alternative names,
basic constraints, name constraints, distribution points, extended key usage. -/
def keptExtensions : List UInt8 := [15, 17, 19, 30, 31, 37]

/-- The last part of an identifier below 2.5.29. -/
def standardId? : Bytes → Option UInt8
  | [0x55, 0x1d, n] => some n
  | _ => none

/-- Whether an extension is critical, and what follows the mark. -/
def critical? (bs : Bytes) : Option (Bool × Bytes) :=
  if bs.head? = some boolean then
    match value? boolean bs with
    | some ([0xff], rest) => some (true, rest)
    | some ([0x00], rest) => some (false, rest)
    | _ => none
  else some (false, bs)

/-- Checks one extension; the result are the identifiers that were seen. -/
def checkExtension (seen : List UInt8) (content : Bytes) :
    Except CertificateError (List UInt8) := do
  let (id, rest) ← require (value? objectId content)
  let (isCritical, rest) ← require (critical? rest)
  let (value, rest) ← require (value? octetString rest)
  match (standardId? id).filter keptExtensions.contains with
  | none =>
    if isCritical then throw .unsupportedCriticalExtension
    else if !rest.isEmpty then throw .badEncoding
    else pure seen
  | some n =>
    if seen.contains n then throw .extensionValueInvalid
    else
      if n ≠ 15 then
        let (_, after) ← require (value? sequence value)
        if !after.isEmpty then throw .badEncoding
      if !rest.isEmpty then throw .badEncoding
      pure (n :: seen)

/-- Checks the extensions one by one. -/
def checkExtensions (seen : List UInt8) : Nat → Bytes → Except CertificateError Unit
  | _, [] => .ok ()
  | 0, _ => .error .badEncoding
  | k + 1, bs => do
    let (content, rest) ← require (value? sequence bs)
    let seen ← checkExtension seen content
    checkExtensions seen k rest

/-- The outer parts of a certificate: the signed part, the signature algorithm, what follows. -/
def outer (bs : Bytes) : Except CertificateError (Bytes × Bytes × Bytes) := do
  let (content, rest) ← require (value? sequence bs)
  if !rest.isEmpty then throw .badEncoding
  let (signed, rest) ← require (value? sequence content)
  let (algorithm, rest) ← require (value? sequence rest)
  pure (signed, algorithm, rest)

/-- Checks the signed part of a certificate of version 3, after its version. If it has a list of
extensions, that is not empty. -/
def checkSigned (algorithm : Bytes) (bs : Bytes) : Except CertificateError Unit := do
  let bs ← require (skip? integer bs)
  let (inner, bs) ← require (value? sequence bs)
  if inner ≠ algorithm then throw .signatureAlgorithmMismatch
  let bs ← require (skip? sequence bs)
  let bs ← require (skip? sequence bs)
  let bs ← require (skip? sequence bs)
  let bs ← require (skip? sequence bs)
  if bs.isEmpty then pure ()
  else
    let (tagged, rest) ← require (value? (field 3) bs)
    let (extensions, after) ← require (value? sequence tagged)
    if extensions.isEmpty then throw .badEncoding
    checkExtensions [] extensions.length extensions
    if !after.isEmpty || !rest.isEmpty then throw .badEncoding

/-- Whether the signed part states version 3; none if it states no version. -/
def isVersion3? (signed : Bytes) : Option (Except CertificateError Bytes) :=
  match value? (field 0) signed with
  | none => none
  | some (version, rest) =>
    some <|
      match value? integer version with
      | some (n, []) => if natural? n = some [2] then .ok rest else .error .badEncoding
      | _ => .error .badEncoding

/-- Checks a certificate of version 1, which has no version field and no extensions. -/
def checkVersion1 (bs : Bytes) : Except CertificateError Unit := do
  let (signed, _, rest) ← outer bs
  let rest ← require (skip? bitString rest)
  if !rest.isEmpty then throw .badEncoding
  let signed ← require (skip? integer signed)
  let signed ← require (skip? sequence signed)
  let signed ← require (skip? sequence signed)
  let signed ← require (skip? sequence signed)
  let signed ← require (skip? sequence signed)
  let signed ← require (skip? sequence signed)
  if !signed.isEmpty then throw .badEncoding

/-- Checks the bytes of a certificate. -/
def check (bs : Bytes) : Except CertificateError Unit := do
  let (signed, algorithm, rest) ← outer bs
  let (signature, rest) ← require (value? bitString rest)
  if signature.head? ≠ some 0 || !rest.isEmpty then throw .badEncoding
  match isVersion3? signed with
  | none => checkVersion1 bs
  | some version => checkSigned algorithm (← version)

end Certificate

end Mqtt.Trust
