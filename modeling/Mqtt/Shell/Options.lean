/-!
The options of the command line. Each has a long name; most take a value, which is the next
argument.
-/

namespace Mqtt.Shell
set_option autoImplicit false

/-- How much is logged. -/
inductive LogLevel where
  | off
  | error
  | warn
  | info
  | debug
  | trace
deriving DecidableEq, Repr

namespace LogLevel

def name : LogLevel → String
  | off => "off"
  | error => "error"
  | warn => "warn"
  | info => "info"
  | debug => "debug"
  | trace => "trace"

def all : List LogLevel := [off, error, warn, info, debug, trace]

/-- A level by its name, in letters of either case. -/
def ofName? (s : String) : Option LogLevel :=
  all.find? fun l => l.name.toList = s.toList.map Char.toLower

end LogLevel

structure Options where
  uri : String
  caFile : Option String := none
  clientId : Option String := none
  keepAlive : UInt16 := 60
  noCleanSession : Bool := false
  noReconnect : Bool := false
  willTopic : Option String := none
  willMessage : Option String := none
  logFile : Option String := none
  logLevel : LogLevel := .warn
deriving Repr

/-- What is known of the options while arguments are read. -/
structure Draft where
  uri : Option String := none
  caFile : Option String := none
  clientId : Option String := none
  keepAlive : Option UInt16 := none
  noCleanSession : Bool := false
  noReconnect : Bool := false
  willTopic : Option String := none
  willMessage : Option String := none
  logFile : Option String := none
  logLevel : Option LogLevel := none
deriving Repr

/-- Why the arguments do not say what to do. -/
inductive UsageError where
  | missing (options : List String)
  | unrecognized (argument : String)
  | noValue (option : String)
  | badValue (option value reason : String)
  | afterHelp
deriving DecidableEq, Repr

def UsageError.message : UsageError → String
  | missing options =>
    "Required options not provided:" ++ String.join (options.map fun o => "\n    " ++ o) ++ "\n"
  | unrecognized argument => "Unrecognized argument: " ++ argument ++ "\n"
  | noValue option => "No value provided for option '" ++ option ++ "'.\n"
  | badValue option value reason =>
    "Error parsing option '" ++ option ++ "' with value '" ++ value ++ "': " ++ reason ++ "\n"
  | afterHelp => "Trailing arguments are not allowed after `help`."

/-- The number with one more digit, or the reason why there is none. -/
def appendDigit (limit n : Nat) (c : Char) : Except String Nat :=
  if '0' ≤ c && c ≤ '9' then
    let n' := n * 10 + (c.toNat - 48)
    if n' ≤ limit then .ok n' else .error "number too large to fit in target type"
  else .error "invalid digit found in string"

/-- A number of at most `limit` in decimal digits, after a plus sign or without, or the reason why
it is none; of several the one that comes first from the left. -/
def parseNumber (limit : Nat) (s : String) : Except String Nat :=
  match s.toList with
  | [] => .error "cannot parse integer from empty string"
  | cs =>
    let digits := if cs.head? = some '+' && 1 < cs.length then cs.drop 1 else cs
    digits.foldlM (appendDigit limit) 0

/-- What the arguments ask for. -/
inductive Invocation where
  | help
  | run (o : Options)
deriving Repr

namespace Draft

/-- Fills a place once. -/
def once {α : Type} (place : Option α) (value : Except String α) : Except String (Option α) :=
  match place with
  | some _ => .error "duplicate values provided"
  | none => some <$> value

/-- Sets the option that takes a value; none if there is no such option. -/
def set? (d : Draft) (option value : String) : Option (Except String Draft) :=
  match option with
  | "--uri" => some ((fun x => { d with uri := x }) <$> once d.uri (.ok value))
  | "--ca-file" => some ((fun x => { d with caFile := x }) <$> once d.caFile (.ok value))
  | "--client-id" => some ((fun x => { d with clientId := x }) <$> once d.clientId (.ok value))
  | "--keepalive" =>
    some ((fun x => { d with keepAlive := x }) <$>
      once d.keepAlive (Nat.toUInt16 <$> parseNumber 65535 value))
  | "--will-topic" => some ((fun x => { d with willTopic := x }) <$> once d.willTopic (.ok value))
  | "--will-message" =>
    some ((fun x => { d with willMessage := x }) <$> once d.willMessage (.ok value))
  | "--log-file" => some ((fun x => { d with logFile := x }) <$> once d.logFile (.ok value))
  | "--log-level" =>
    some ((fun x => { d with logLevel := x }) <$> once d.logLevel
      (match LogLevel.ofName? value with
      | some l => .ok l
      | none => .error "attempted to convert a string that doesn't match an existing log level"))
  | _ => none

/-- Sets the option that takes no value; none if there is no such option. -/
def setFlag? (d : Draft) : String → Option Draft
  | "--no-clean-session" => some { d with noCleanSession := true }
  | "--no-reconnect" => some { d with noReconnect := true }
  | _ => none

def finish (d : Draft) : Except UsageError Options :=
  match d.uri with
  | none => .error (.missing ["--uri"])
  | some uri =>
    .ok
      { uri, caFile := d.caFile, clientId := d.clientId, keepAlive := d.keepAlive.getD 60
        noCleanSession := d.noCleanSession, noReconnect := d.noReconnect
        willTopic := d.willTopic, willMessage := d.willMessage, logFile := d.logFile
        logLevel := d.logLevel.getD .warn }

/-- Reads arguments one after the other. `help` tells whether help was asked for. -/
def read (d : Draft) (help : Bool) : List String → Except UsageError Invocation
  | [] => if help then .ok .help else .run <$> d.finish
  | a :: rest =>
    if a = "--help" || a = "help" then read d true rest
    else if a = "--" then
      match rest with
      | b :: _ => .error (.unrecognized b)
      | [] => if help then .ok .help else .run <$> d.finish
    else if a.toList.head? ≠ some '-' then .error (.unrecognized a)
    else if help then .error .afterHelp
    else
      match d.setFlag? a with
      | some d => read d false rest
      | none =>
        match rest with
        | [] =>
          .error (if (d.set? a "").isSome then .noValue a else .unrecognized a)
        | value :: rest =>
          match d.set? a value with
          | none => .error (.unrecognized a)
          | some (.error reason) => .error (.badValue a value reason)
          | some (.ok d) => read d false rest

end Draft

def Options.parse (arguments : List String) : Except UsageError Invocation :=
  ({} : Draft).read false arguments

/-! ### Help -/

namespace Help

/-- The options with what they take and what they are for. -/
def entries : List (String × String × String) :=
  [ ("--uri", "<uri>",
      "broker uri: mqtt://[user[:password]@]host[:port] or mqtts://..."),
    ("--ca-file", "<ca-file>",
      "PEM file of CA certificates to trust for mqtts (defaults to the native roots)"),
    ("--client-id", "<client-id>", "client id (generated if absent)"),
    ("--keepalive", "<keepalive>", "keep alive interval in seconds"),
    ("--no-clean-session", "", "ask the broker to resume a previous session"),
    ("--no-reconnect", "", "stay disconnected after the connection drops"),
    ("--will-topic", "<will-topic>", "topic of the last will message"),
    ("--will-message", "<will-message>", "payload of the last will message"),
    ("--log-file", "<log-file>", "log to this file instead of the terminal"),
    ("--log-level", "<log-level>", "log level: off, error, warn, info, debug or trace") ]

/-- One option in the usage line; all but the first may be left out. -/
def usage (option value : String) : String :=
  let form := if value.isEmpty then option else option ++ " " ++ value
  if option = "--uri" then form else "[" ++ form ++ "]"

/-- Words in lines of at most 80 characters, each line indented to column 20. -/
def wrap (line : String) : List String → List String
  | [] => [line]
  | w :: ws =>
    if 80 < line.length + 1 + w.length then
      line :: wrap (String.ofList (List.replicate 20 ' ') ++ w) ws
    else wrap (line ++ " " ++ w) ws

/-- An option with its description beside it, or below it if the name is too long. -/
def describe (option description : String) : String :=
  let name := "  " ++ option
  let column := String.ofList (List.replicate (20 - name.length) ' ')
  let (above, start) :=
    if name.length < 20 then ([], name ++ column)
    else ([name], String.ofList (List.replicate 20 ' '))
  match description.splitOn " " with
  | [] => String.join ((above ++ [start]).map ("\n" ++ ·))
  | w :: ws => String.join ((above ++ wrap (start ++ w) ws).map ("\n" ++ ·))

def text (program : String) : String :=
  "Usage: " ++ program ++ String.join (entries.map fun (o, v, _) => " " ++ usage o v)
  ++ "\n\nInteractive MQTT 3.1.1 client shell\n\nOptions:"
  ++ String.join (entries.map fun (o, _, d) => describe o d)
  ++ describe "--help, help" "display usage information" ++ "\n"

end Help

end Mqtt.Shell
