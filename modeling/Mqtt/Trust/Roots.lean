import Mqtt.Text.Quoted
import Mqtt.Trust.Certificate
import Mqtt.Trust.Pem

/-!
The certificates that a client trusts: those of a file, all of which have to be good, or those of
the platform, of which the bad ones are left out. Without any the client has nothing to go by.
-/

namespace Mqtt.Trust
set_option autoImplicit false

inductive TrustError where
  | pem (e : PemError)
  | certificate (e : CertificateError)
  | noCertificates
deriving DecidableEq, Repr

/-- Where trusted certificates come from. -/
inductive Source where
  | file (text : Bytes)
  | platform (text : Bytes)
deriving DecidableEq, Repr

/-- The certificates in a file, in order; stops at the first fault. -/
def ofFile : List (Except PemError Bytes) → Except TrustError (List Bytes)
  | [] => .ok []
  | .error e :: _ => .error (.pem e)
  | .ok bs :: rest =>
    match Certificate.check bs with
    | .error e => .error (.certificate e)
    | .ok () => (bs :: ·) <$> ofFile rest

/-- The good certificates of the platform. -/
def ofPlatform : List (Except PemError Bytes) → Except TrustError (List Bytes)
  | [] => .ok []
  | .error e :: _ => .error (.pem e)
  | .ok bs :: rest => do
    let more ← ofPlatform rest
    pure (if (Certificate.check bs).isOk then bs :: more else more)

/-- The trusted certificates, of which there is at least one. -/
def load (s : Source) : Except TrustError (List Bytes) := do
  let roots ← match s with
    | .file text => ofFile (Pem.certificates text)
    | .platform text => ofPlatform (Pem.certificates text)
  if roots.isEmpty then throw .noCertificates else pure roots

/-! ### Wording -/

def Base64Error.label : Base64Error → String
  | invalidCharacter b => "InvalidCharacter(" ++ toString b.toNat ++ ")"
  | prematurePadding => "PrematurePadding"
  | invalidTrailingPadding => "InvalidTrailingPadding"

def PemError.message : PemError → String
  | illegalSectionStart line => "illegal section start: " ++ Text.quoted (Text.lossy line)
  | missingSectionEnd label => "section end " ++ Text.quoted (Text.lossy label) ++ " missing"
  | base64 e => e.label

namespace TrustError

def message : TrustError → String
  | pem e => e.message
  | certificate e => "invalid peer certificate: " ++ e.label
  | noCertificates => "no usable CA certificates"

/-- The error as a diagnosis shows it. -/
def diagnosis : TrustError → String
  | pem e => "Custom \x7b kind: InvalidData, error: " ++ Text.quoted e.message ++ " \x7d"
  | certificate e => "InvalidCertificate(" ++ e.label ++ ")"
  | noCertificates => Text.quoted "no usable CA certificates"

end TrustError

end Mqtt.Trust
