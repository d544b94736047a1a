import DeviceLink.Error
import DeviceLink.Log
/-!
# Tunnel notices

The subscription that tells a thing of tunnels opened for it: what the library reports, and
the callbacks it leads to.
-/

namespace DeviceLink.Tunnel

/-- A tunnel was opened; any field may be left out. -/
structure Opened where
  region : Option String := none
  clientMode : Option String := none
  services : Option (List String) := none
  accessToken : Option String := none
  deriving DecidableEq, Repr, Inhabited

/-- A notice as the caller gets it: the token, region and mode are always there. -/
structure Notice where
  accessToken : String
  region : String
  clientMode : String
  services : List String
  deriving DecidableEq, Repr, Inhabited

/-- Why a notice is not passed on. -/
inductive NoticeFault
  | ioError (code : Int)
  | noResponse
  | noAccessToken
  | noRegion
  | noClientMode
  deriving DecidableEq, Repr

/-- The wording of a fault. -/
def NoticeFault.message : NoticeFault → String
  | ioError code => s!"subscribing failed, error_code [{code}]"
  | noResponse => "tunnel notification without a response"
  | noAccessToken => "missing the access token"
  | noRegion => "missing the region"
  | noClientMode => "missing the client mode"

/-- The notice of a report, or the first thing that is wrong with it. -/
def Notice.ofReport (response : Option Opened) (ioError : Int) : Except NoticeFault Notice := do
  if ioError ≠ 0 then throw (.ioError ioError)
  let some opened := response | throw .noResponse
  let some accessToken := opened.accessToken | throw .noAccessToken
  let some region := opened.region | throw .noRegion
  let some clientMode := opened.clientMode | throw .noClientMode
  pure { accessToken, region, clientMode, services := opened.services.getD [] }

namespace Listener

/-- A call to the user of a listener. -/
inductive Callback
  | subscribeComplete (code : Int)
  | notify (notice : Notice)
  deriving DecidableEq, Repr

/-- The name of a callback. -/
def Callback.name : Callback → String
  | subscribeComplete _ => "on_subscribe_complete"
  | notify _ => "on_tunnel_notify"

/-- What the library tells the receiver of a subscription. -/
inductive Signal
  | subscribed (code : Int)
  | opened (response : Option Opened) (ioError : Int)
  deriving DecidableEq, Repr

/-- The callback a signal leads to, or the error noted instead. -/
def callback : Signal → Except Log.Line Callback
  | .subscribed code => .ok (.subscribeComplete code)
  | .opened response ioError =>
    match Notice.ofReport response ioError with
    | .ok notice => .ok (.notify notice)
    | .error fault => .error ⟨.error, fault.message⟩

/-- What is noted when a listener is about to be built. -/
def startNote (thing : String) : Log.Line :=
  ⟨.debug, s!"start building internal tunnel client for [{thing}]"⟩

end Listener

end DeviceLink.Tunnel
