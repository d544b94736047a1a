import DeviceLink.Coded
/-!
# MQTT codes

Quality of service, the answer to a connect request, and the error codes of the MQTT layer.
-/

namespace DeviceLink.Mqtt

/-- Quality of service. `failure` stands only in answers to subscribe requests. -/
inductive Qos
  | atMostOnce
  | atLeastOnce
  | exactlyOnce
  | failure
  deriving DecidableEq, Repr, Inhabited

namespace Qos

/-- The number of a quality of service. -/
def code : Qos → Int
  | atMostOnce => 0
  | atLeastOnce => 1
  | exactlyOnce => 2
  | failure => 128

/-- The name of a quality of service. -/
def name : Qos → String
  | atMostOnce => "AtMostOnce"
  | atLeastOnce => "AtLeastOnce"
  | exactlyOnce => "ExactlyOnce"
  | failure => "Failure"

instance : Coded Qos where
  typeName := "Qos"
  all := [atMostOnce, atLeastOnce, exactlyOnce, failure]
  code := code
  name := name

/-- The quality of service used where none is named. -/
def default : Qos := atLeastOnce

/-- The quality that a request can ask for by a number; `failure` is none. -/
def ofRequest? : Int → Option Qos
  | 0 => some atMostOnce
  | 1 => some atLeastOnce
  | 2 => some exactlyOnce
  | _ => none

/-- The wording of a number that no request can ask for. -/
def refusal (n : Int) : String := s!"invalid MQTT QoS {n}, expected 0, 1 or 2"

/-- Whether a request can be sent with this quality of service. -/
def isRequestable (q : Qos) : Bool := q ≠ failure

end Qos

/-- The broker's answer to a connect request. -/
inductive ReturnCode
  | accepted
  | unacceptableProtocolVersion
  | identifierRejected
  | serverUnavailable
  | badUsernameOrPassword
  | notAuthorized
  deriving DecidableEq, Repr, Inhabited

namespace ReturnCode

/-- The number of a return code. -/
def code : ReturnCode → Int
  | accepted => 0
  | unacceptableProtocolVersion => 1
  | identifierRejected => 2
  | serverUnavailable => 3
  | badUsernameOrPassword => 4
  | notAuthorized => 5

/-- The name of a return code. -/
def name : ReturnCode → String
  | accepted => "Accepted"
  | unacceptableProtocolVersion => "UnacceptableProtocolVersion"
  | identifierRejected => "IdentifierRejected"
  | serverUnavailable => "ServerUnavailable"
  | badUsernameOrPassword => "BadUsernameOrPassword"
  | notAuthorized => "NotAuthorized"

instance : Coded ReturnCode where
  typeName := "ConnectReturnCode"
  all := [accepted, unacceptableProtocolVersion, identifierRejected, serverUnavailable,
    badUsernameOrPassword, notAuthorized]
  code := code
  name := name

/-- Whether the broker took the connection. -/
def isAccepted (c : ReturnCode) : Bool := c = accepted

end ReturnCode

/-- An error of the MQTT layer. -/
inductive ErrorCode
  | invalidReservedBits
  | bufferTooBig
  | invalidRemainingLength
  | unsupportedProtocolName
  | unsupportedProtocolLevel
  | invalidCredentials
  | invalidQos
  | invalidPacketType
  | invalidTopic
  | timeout
  | protocolError
  | notConnected
  | alreadyConnected
  | builtWithoutWebsockets
  | unexpectedHangup
  | connectionShutdown
  | connectionDestroyed
  | connectionDisconnecting
  | cancelledForCleanSession
  | queueFull
  | clientOptionsValidation
  | connectOptionsValidation
  | disconnectOptionsValidation
  | publishOptionsValidation
  | subscribeOptionsValidation
  | unsubscribeOptionsValidation
  | userPropertyValidation
  | packetValidation
  | encodeFailure
  | decodeProtocolError
  | connackConnectionRefused
  | connackTimeout
  | pingResponseTimeout
  | userRequestedStop
  | disconnectReceived
  | clientTerminated
  | operationFailedDueToOfflineQueuePolicy
  | encodeSizeUnsupportedPacketType
  | operationProcessingFailure
  | invalidInboundTopicAlias
  | invalidOutboundTopicAlias
  | invalidUtf8String
  | connectionResetForAdapterConnect
  | connectionResubscribeNoTopics
  deriving DecidableEq, Repr, Inhabited

namespace ErrorCode

/-- The number of the first error. -/
def base : Int := 5120

/-- The name of an error. -/
def name : ErrorCode → String
  | .invalidReservedBits => "InvalidReservedBits"
  | .bufferTooBig => "BufferTooBig"
  | .invalidRemainingLength => "InvalidRemainingLength"
  | .unsupportedProtocolName => "UnsupportedProtocolName"
  | .unsupportedProtocolLevel => "UnsupportedProtocolLevel"
  | .invalidCredentials => "InvalidCredentials"
  | .invalidQos => "InvalidQos"
  | .invalidPacketType => "InvalidPacketType"
  | .invalidTopic => "InvalidTopic"
  | .timeout => "Timeout"
  | .protocolError => "ProtocolError"
  | .notConnected => "NotConnected"
  | .alreadyConnected => "AlreadyConnected"
  | .builtWithoutWebsockets => "BuiltWithoutWebsockets"
  | .unexpectedHangup => "UnexpectedHangup"
  | .connectionShutdown => "ConnectionShutdown"
  | .connectionDestroyed => "ConnectionDestroyed"
  | .connectionDisconnecting => "ConnectionDisconnecting"
  | .cancelledForCleanSession => "CancelledForCleanSession"
  | .queueFull => "QueueFull"
  | .clientOptionsValidation => "ClientOptionsValidation"
  | .connectOptionsValidation => "ConnectOptionsValidation"
  | .disconnectOptionsValidation => "DisconnectOptionsValidation"
  | .publishOptionsValidation => "PublishOptionsValidation"
  | .subscribeOptionsValidation => "SubscribeOptionsValidation"
  | .unsubscribeOptionsValidation => "UnsubscribeOptionsValidation"
  | .userPropertyValidation => "UserPropertyValidation"
  | .packetValidation => "PacketValidation"
  | .encodeFailure => "EncodeFailure"
  | .decodeProtocolError => "DecodeProtocolError"
  | .connackConnectionRefused => "ConnackConnectionRefused"
  | .connackTimeout => "ConnackTimeout"
  | .pingResponseTimeout => "PingResponseTimeout"
  | .userRequestedStop => "UserRequestedStop"
  | .disconnectReceived => "DisconnectReceived"
  | .clientTerminated => "ClientTerminated"
  | .operationFailedDueToOfflineQueuePolicy => "OperationFailedDueToOfflineQueuePolicy"
  | .encodeSizeUnsupportedPacketType => "EncodeSizeUnsupportedPacketType"
  | .operationProcessingFailure => "OperationProcessingFailure"
  | .invalidInboundTopicAlias => "InvalidInboundTopicAlias"
  | .invalidOutboundTopicAlias => "InvalidOutboundTopicAlias"
  | .invalidUtf8String => "InvalidUtf8String"
  | .connectionResetForAdapterConnect => "ConnectionResetForAdapterConnect"
  | .connectionResubscribeNoTopics => "ConnectionResubscribeNoTopics"

/-- Every error, in the order of their numbers. -/
def all : List ErrorCode :=
  [.invalidReservedBits, .bufferTooBig, .invalidRemainingLength, .unsupportedProtocolName,
   .unsupportedProtocolLevel, .invalidCredentials, .invalidQos, .invalidPacketType,
   .invalidTopic, .timeout, .protocolError, .notConnected, .alreadyConnected,
   .builtWithoutWebsockets, .unexpectedHangup, .connectionShutdown, .connectionDestroyed,
   .connectionDisconnecting, .cancelledForCleanSession, .queueFull, .clientOptionsValidation,
   .connectOptionsValidation, .disconnectOptionsValidation, .publishOptionsValidation,
   .subscribeOptionsValidation, .unsubscribeOptionsValidation, .userPropertyValidation,
   .packetValidation, .encodeFailure, .decodeProtocolError, .connackConnectionRefused,
   .connackTimeout, .pingResponseTimeout, .userRequestedStop, .disconnectReceived,
   .clientTerminated, .operationFailedDueToOfflineQueuePolicy,
   .encodeSizeUnsupportedPacketType, .operationProcessingFailure, .invalidInboundTopicAlias,
   .invalidOutboundTopicAlias, .invalidUtf8String, .connectionResetForAdapterConnect,
   .connectionResubscribeNoTopics]

/-- The number of an error. -/
def code (e : ErrorCode) : Int := base + e.ctorIdx

instance : Coded ErrorCode where
  typeName := "MqttErrorCode"
  all := all
  code := code
  name := name

/-- An error number in words: the name of the error, `Success` for zero, else the number. -/
def describe (n : Int) : String :=
  match (Coded.ofCode? n : Option ErrorCode) with
  | some e => e.name
  | none => if n = 0 then "Success" else s!"error [{n}]"

end ErrorCode

end DeviceLink.Mqtt
