import Mqtt.Config
import Mqtt.Shell.Files
import Mqtt.Shell.Options
import Mqtt.Transport
import Mqtt.Trust.Roots
import Mqtt.Uri

/-!
From options to a client's configuration and the kind of stream that it uses. The steps come in a
fixed order, and the first that fails decides what is reported.
-/

namespace Mqtt.Shell
set_option autoImplicit false

inductive SetupError where
  | file (e : FileError)
  | uri (e : UriError)
  | noHost
  | unsupportedScheme (scheme : String)
  | trust (e : Trust.TrustError)
  | client (e : Error)
deriving DecidableEq, Repr

def SetupError.diagnosis : SetupError → String
  | file e => e.diagnosis
  | uri e => e.name
  | noHost => Text.quoted "uri has no host"
  | unsupportedScheme scheme => Text.quoted ("unsupported uri scheme '" ++ scheme ++ "'")
  | trust e => e.diagnosis
  | client e => e.label

namespace Setup

/-- Opens the log, where the options name a file for it. The result are the files after that. -/
def openLog (files : Files) (o : Options) : Except SetupError Files :=
  match o.logFile with
  | none => .ok files
  | some path =>
    match files.create path with
    | .ok () => .ok (files.emptied path)
    | .error e => .error (.file e)

def parseUri (o : Options) : Except SetupError Uri :=
  match Uri.parse o.uri with
  | .ok u => .ok u
  | .error e => .error (.uri e)

/-- The will that the options ask for. A message without a topic is no will. -/
def will? (o : Options) : Option LastWill :=
  o.willTopic.map fun topic => ⟨topic, Bytes.ofText (o.willMessage.getD ""), .atMostOnce, false⟩

def settings (o : Options) (u : Uri) : Except SetupError Settings :=
  match u.host with
  | none => .error .noHost
  | some host =>
    .ok
      { host := host.text, port := u.port.getD 0, clientId := o.clientId
        username := if u.username.isEmpty then none else some u.username
        password := u.password.map Bytes.ofText, will := will? o, keepAlive := o.keepAlive
        cleanSession := !o.noCleanSession, autoReconnect := !o.noReconnect }

/-- Where the certificates come from that a client trusts, and the files after they are read. -/
def trustSource (files : Files) (o : Options) : Except SetupError (Trust.Source × Files) :=
  match o.caFile with
  | none => .ok (.platform files.trusted, files)
  | some path =>
    match files.read path with
    | .ok (text, files) => .ok (.file text, files)
    | .error e => .error (.file e)

/-- The kind of stream that the scheme of a URI asks for, and the files after that is settled. A
secured one needs certificates that it can trust. -/
def streamKind (files : Files) (o : Options) (u : Uri) : Except SetupError (StreamKind × Files) :=
  if u.scheme = "mqtt" || u.scheme = "tcp" then .ok (.plain, files)
  else if u.scheme = "mqtts" || u.scheme = "ssl" then
    match trustSource files o with
    | .error e => .error e
    | .ok (source, files) =>
      match Trust.load source with
      | .ok _ => .ok (.secured, files)
      | .error e => .error (.trust e)
  else .error (.unsupportedScheme u.scheme)

/-- The configuration and the kind of stream, and the files after that. `generated` is the id of a
client that is given none. -/
def run (files : Files) (o : Options) (generated : String) :
    Except SetupError (Config × StreamKind × Files) := do
  let u ← parseUri o
  let s ← settings o u
  let (kind, files) ← streamKind files o u
  pure (s.toConfig generated, kind, files)

end Setup

end Mqtt.Shell
