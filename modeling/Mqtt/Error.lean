import Mqtt.ReturnCode

/-!
Everything that can go wrong, by cause. `message` is the wording shown to a user, `name` the short
name of the cause, and `isProtocolFailure` the causes that blame the peer's packets.
-/

namespace Mqtt
set_option autoImplicit false

inductive Error where
  -- the stream below
  | connectionEstablishmentFailure
  | connectionClosed
  | connectionTimeout
  | streamReadFailure
  | streamWriteFailure
  -- what the peer sent
  | malformedPacket
  | decoderInvalidVli
  | protocolError
  | unexpectedPacket
  | connectionRefused (code : ConnectReturnCode)
  -- what the caller asked for
  | notConnected
  | alreadyStarted
  | invalidTopic
  | invalidTopicFilter
  | invalidClientId
  | invalidCredentials
  | payloadTooLarge
  | invalidQos
  -- limits
  | outboxFull
  | encodeBufferTooSmall
  | variableLengthIntegerMaximumExceeded
  -- between caller and session
  | operationChannelSendError
  | operationChannelReceiveError
  | internalStateError
deriving DecidableEq, Repr, Inhabited

namespace Error

def message : Error → String
  | connectionEstablishmentFailure => "failed to establish a transport connection"
  | connectionClosed => "connection closed by the remote endpoint"
  | connectionTimeout => "timed out waiting for the connection handshake"
  | streamReadFailure => "transport read failed"
  | streamWriteFailure => "transport write failed"
  | malformedPacket => "malformed packet"
  | decoderInvalidVli => "invalid variable length integer"
  | protocolError => "protocol error"
  | unexpectedPacket => "unexpected packet type"
  | connectionRefused code => "connection refused: " ++ code.name
  | notConnected => "client is not connected"
  | alreadyStarted => "client has already been started"
  | invalidTopic => "invalid topic"
  | invalidTopicFilter => "invalid topic filter"
  | invalidClientId => "invalid client id"
  | invalidCredentials => "a password requires a username"
  | payloadTooLarge => "payload too large"
  | invalidQos => "invalid quality of service value"
  | outboxFull => "outbox is full"
  | encodeBufferTooSmall => "packet does not fit in the configured buffer size"
  | variableLengthIntegerMaximumExceeded => "value exceeds the variable length integer maximum"
  | operationChannelSendError => "failed to submit operation to the client task"
  | operationChannelReceiveError => "client task dropped the operation result"
  | internalStateError => "internal state error"

/-- The name of the cause, without the code that a refusal carries. -/
def name : Error → String
  | connectionEstablishmentFailure => "ConnectionEstablishmentFailure"
  | connectionClosed => "ConnectionClosed"
  | connectionTimeout => "ConnectionTimeout"
  | streamReadFailure => "StreamReadFailure"
  | streamWriteFailure => "StreamWriteFailure"
  | malformedPacket => "MalformedPacket"
  | decoderInvalidVli => "DecoderInvalidVli"
  | protocolError => "ProtocolError"
  | unexpectedPacket => "UnexpectedPacket"
  | connectionRefused _ => "ConnectionRefused"
  | notConnected => "NotConnected"
  | alreadyStarted => "AlreadyStarted"
  | invalidTopic => "InvalidTopic"
  | invalidTopicFilter => "InvalidTopicFilter"
  | invalidClientId => "InvalidClientId"
  | invalidCredentials => "InvalidCredentials"
  | payloadTooLarge => "PayloadTooLarge"
  | invalidQos => "InvalidQos"
  | outboxFull => "OutboxFull"
  | encodeBufferTooSmall => "EncodeBufferTooSmall"
  | variableLengthIntegerMaximumExceeded => "VariableLengthIntegerMaximumExceeded"
  | operationChannelSendError => "OperationChannelSendError"
  | operationChannelReceiveError => "OperationChannelReceiveError"
  | internalStateError => "InternalStateError"

/-- The cause as the console shows it: its name, with a refusal's code in parentheses. -/
def label : Error → String
  | connectionRefused code => "ConnectionRefused(" ++ code.name ++ ")"
  | e => e.name

/-- The causes for which the peer's packets are to blame. -/
def isProtocolFailure : Error → Bool
  | connectionRefused _ | malformedPacket | decoderInvalidVli | protocolError
  | unexpectedPacket => true
  | _ => false

/-- Every cause, a refusal once for each code. -/
def all : List Error :=
  [connectionEstablishmentFailure, connectionClosed, connectionTimeout, streamReadFailure,
    streamWriteFailure, malformedPacket, decoderInvalidVli, protocolError, unexpectedPacket,
    notConnected, alreadyStarted, invalidTopic, invalidTopicFilter, invalidClientId,
    invalidCredentials, payloadTooLarge, invalidQos, outboxFull, encodeBufferTooSmall,
    variableLengthIntegerMaximumExceeded, operationChannelSendError,
    operationChannelReceiveError, internalStateError]
    ++ ConnectReturnCode.all.map connectionRefused

end Error

end Mqtt
