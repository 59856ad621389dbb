import SensorCore.Api.Controller
import SensorCore.Core.Operations

/-!
The request methods of `RequestHandler` and the RPCs of `GrpcCallbackHandler`.

A method of the handler is `guarded`: it refuses while the handler is not running
and otherwise does what the core does. The refusals come in two spellings.

An RPC is `handleGrpcSyncRequest`: it runs the method, fills the response message
when the method succeeds, and finishes the reactor. The response message it is
given is a default one (`CoreService.blank`); `dispatch` is the choice of the RPC
that the generated service makes.
-/

namespace SensorCore.Api

open SensorCore.Lib SensorCore.Clients

/-! ### The request handler -/

namespace RequestHandler

def guarded {κ α : Type} (refusal : String) (h : RequestHandler κ) (operation : κ → Wire α) :
    Wire α :=
  if h.isRunning then operation h.core else .fail refusal

variable (world : Downstream) (h : RequestHandler Core) (cameraId : UInt32)

def setZoom (zoomLevel : Zoom) : Wire Unit :=
  h.guarded "RequestHandler is not running" fun core => core.setZoom world cameraId zoomLevel

def getZoom : Wire Zoom :=
  h.guarded "Request Handler is not running" fun core => core.getZoom world cameraId

def goToMinZoom : Wire Unit :=
  h.guarded "Request Handler is not running" fun core => core.goToMinZoom world cameraId

def goToMaxZoom : Wire Unit :=
  h.guarded "Request Handler is not running" fun core => core.goToMaxZoom world cameraId

def setFocus (focusValue : Focus) : Wire Unit :=
  h.guarded "Request Handler is not running" fun core => core.setFocus world cameraId focusValue

def getFocus : Wire Focus :=
  h.guarded "Request Handler is not running" fun core => core.getFocus world cameraId

def enableAutoFocus (on : Bool) : Wire Unit :=
  h.guarded "Request Handler is not running" fun core => core.enableAutoFocus world cameraId on

def getAutoFocus : Wire Bool :=
  h.guarded "Request Handler is not running" fun core => core.getAutoFocus world cameraId

def getInfo : Wire String :=
  h.guarded "Request Handler is not running" fun core => core.getInfo world cameraId

def stabilize (on : Bool) : Wire Unit :=
  h.guarded "Request Handler is not running" fun core => core.stabilize world cameraId on

def getStabilization : Wire Bool :=
  h.guarded "Request Handler is not running" fun core => core.getStabilization world cameraId

def getCapabilities : Wire (List Capability) :=
  h.guarded "Request Handler is not running" fun core => core.getCapabilities world cameraId

def setVideoCapabilityState (capability : String) (enable : Bool) : Wire Unit :=
  h.guarded "RequestHandler is not running" fun core =>
    core.setVideoCapabilityState world cameraId capability enable

def getVideoCapabilities : Wire (List String) :=
  h.guarded "RequestHandler is not running" fun core => core.getVideoCapabilities world cameraId

def getVideoCapabilityState (capability : String) : Wire Bool :=
  h.guarded "RequestHandler is not running" fun core =>
    core.getVideoCapabilityState world cameraId capability

end RequestHandler

/-! ### The messages of `core.v1.CoreService` -/

/-- The RPCs with the fields of their request messages. -/
inductive CoreService where
  | setZoom (cameraId zoom : UInt32)
  | getZoom (cameraId : UInt32)
  | goToMinZoom (cameraId : UInt32)
  | goToMaxZoom (cameraId : UInt32)
  | setFocus (cameraId focus : UInt32)
  | getFocus (cameraId : UInt32)
  | setAutoFocus (cameraId : UInt32) (enable : Bool)
  | getAutoFocus (cameraId : UInt32)
  | getInfo (cameraId : UInt32)
  | getCapabilities (cameraId : UInt32)
  | setStabilization (cameraId : UInt32) (enable : Bool)
  | getStabilization (cameraId : UInt32)
  | getVideoCapabilities (cameraId : UInt32)
  | setVideoCapabilityState (cameraId : UInt32) (capability : String) (enable : Bool)
  | getVideoCapabilityState (cameraId : UInt32) (capability : String)
  deriving DecidableEq, Repr

/-- The fields of the response messages. -/
def CoreService.Response : CoreService → Type
  | .setZoom _ _ | .goToMinZoom _ | .goToMaxZoom _ | .setFocus _ _ => Unit
  | .setAutoFocus _ _ | .setStabilization _ _ | .setVideoCapabilityState _ _ _ => Unit
  | .getZoom _ | .getFocus _ => UInt32
  | .getAutoFocus _ | .getStabilization _ | .getVideoCapabilityState _ _ => Bool
  | .getInfo _ => String
  | .getCapabilities _ => List Int32
  | .getVideoCapabilities _ => List String

/-- A response message before anything is set in it. -/
def CoreService.blank : (rpc : CoreService) → rpc.Response
  | .setZoom _ _ | .goToMinZoom _ | .goToMaxZoom _ | .setFocus _ _ => ()
  | .setAutoFocus _ _ | .setStabilization _ _ | .setVideoCapabilityState _ _ _ => ()
  | .getZoom _ | .getFocus _ => (0 : UInt32)
  | .getAutoFocus _ | .getStabilization _ | .getVideoCapabilityState _ _ => false
  | .getInfo _ => ""
  | .getCapabilities _ => ([] : List Int32)
  | .getVideoCapabilities _ => ([] : List String)

/-- The statuses the service finishes with. -/
inductive Status where
  | ok
  | internal (message : String)
  deriving DecidableEq, Repr

/-- What an RPC leaves: the statuses its reactor was finished with, in order, and
the response message. -/
structure Reply (R : Type) where
  finished : List Status
  response : R
  deriving DecidableEq, Repr

/-! ### The callback handler -/

namespace GrpcCallbackHandler

/-- `core.v1.Capability` of a domain capability. -/
def toProto : Capability → Int32
  | .zoom => 1
  | .focus => 2
  | .autoFocus => 3
  | .info => 4
  | .stabilization => 5

/-- Run `process` on the response message and finish the reactor. -/
def handleGrpcSyncRequest {R : Type}
    (process : R → List Sent → (Result Unit × R) × List Sent) (response : R) (sent : List Sent) :
    Reply R × List Sent :=
  match process response sent with
  | ((.error error, response), sent) => (⟨[.internal error], response⟩, sent)
  | ((.ok (), response), sent) => (⟨[.ok], response⟩, sent)

/-- The lambdas of the RPCs: `fill` sets the result of the method in the response. -/
def respond {α R : Type} (operation : Wire α) (fill : α → R → R) (response : R)
    (sent : List Sent) : (Result Unit × R) × List Sent :=
  match operation sent with
  | (.ok value, sent) => ((.ok (), fill value response), sent)
  | (.error error, sent) => ((.error error, response), sent)

variable (world : Downstream) (h : RequestHandler Core)

def setZoom (cameraId zoom : UInt32) : Unit → List Sent → Reply Unit × List Sent :=
  handleGrpcSyncRequest (respond (h.setZoom world cameraId zoom) fun _ resp => resp)

def setFocus (cameraId focus : UInt32) : Unit → List Sent → Reply Unit × List Sent :=
  handleGrpcSyncRequest (respond (h.setFocus world cameraId focus) fun _ resp => resp)

def getZoom (cameraId : UInt32) : UInt32 → List Sent → Reply UInt32 × List Sent :=
  handleGrpcSyncRequest (respond (h.getZoom world cameraId) fun zoom _ => zoom)

def getFocus (cameraId : UInt32) : UInt32 → List Sent → Reply UInt32 × List Sent :=
  handleGrpcSyncRequest (respond (h.getFocus world cameraId) fun focus _ => focus)

def getInfo (cameraId : UInt32) : String → List Sent → Reply String × List Sent :=
  handleGrpcSyncRequest (respond (h.getInfo world cameraId) fun info _ => info)

def getCapabilities (cameraId : UInt32) :
    List Int32 → List Sent → Reply (List Int32) × List Sent :=
  handleGrpcSyncRequest (respond (h.getCapabilities world cameraId)
    fun capabilities resp => resp ++ capabilities.map toProto)

def goToMinZoom (cameraId : UInt32) : Unit → List Sent → Reply Unit × List Sent :=
  handleGrpcSyncRequest (respond (h.goToMinZoom world cameraId) fun _ resp => resp)

def goToMaxZoom (cameraId : UInt32) : Unit → List Sent → Reply Unit × List Sent :=
  handleGrpcSyncRequest (respond (h.goToMaxZoom world cameraId) fun _ resp => resp)

def setAutoFocus (cameraId : UInt32) (enable : Bool) : Unit → List Sent → Reply Unit × List Sent :=
  handleGrpcSyncRequest (respond (h.enableAutoFocus world cameraId enable) fun _ resp => resp)

def getAutoFocus (cameraId : UInt32) : Bool → List Sent → Reply Bool × List Sent :=
  handleGrpcSyncRequest (respond (h.getAutoFocus world cameraId) fun enable _ => enable)

def setStabilization (cameraId : UInt32) (enable : Bool) :
    Unit → List Sent → Reply Unit × List Sent :=
  handleGrpcSyncRequest (respond (h.stabilize world cameraId enable) fun _ resp => resp)

def getStabilization (cameraId : UInt32) : Bool → List Sent → Reply Bool × List Sent :=
  handleGrpcSyncRequest (respond (h.getStabilization world cameraId) fun enable _ => enable)

def setVideoCapabilityState (cameraId : UInt32) (capability : String) (enable : Bool) :
    Unit → List Sent → Reply Unit × List Sent :=
  handleGrpcSyncRequest (respond (h.setVideoCapabilityState world cameraId capability enable)
    fun _ resp => resp)

def getVideoCapabilities (cameraId : UInt32) :
    List String → List Sent → Reply (List String) × List Sent :=
  handleGrpcSyncRequest (respond (h.getVideoCapabilities world cameraId)
    fun capabilities resp => resp ++ capabilities)

def getVideoCapabilityState (cameraId : UInt32) (capability : String) :
    Bool → List Sent → Reply Bool × List Sent :=
  handleGrpcSyncRequest (respond (h.getVideoCapabilityState world cameraId capability)
    fun enable _ => enable)

/-- The RPC of a request, on a blank response message. -/
def dispatch : (rpc : CoreService) → List Sent → Reply rpc.Response × List Sent
  | .setZoom cameraId zoom => setZoom world h cameraId zoom ()
  | .getZoom cameraId => getZoom world h cameraId (0 : UInt32)
  | .goToMinZoom cameraId => goToMinZoom world h cameraId ()
  | .goToMaxZoom cameraId => goToMaxZoom world h cameraId ()
  | .setFocus cameraId focus => setFocus world h cameraId focus ()
  | .getFocus cameraId => getFocus world h cameraId (0 : UInt32)
  | .setAutoFocus cameraId enable => setAutoFocus world h cameraId enable ()
  | .getAutoFocus cameraId => getAutoFocus world h cameraId false
  | .getInfo cameraId => getInfo world h cameraId ""
  | .getCapabilities cameraId => getCapabilities world h cameraId []
  | .setStabilization cameraId enable => setStabilization world h cameraId enable ()
  | .getStabilization cameraId => getStabilization world h cameraId false
  | .getVideoCapabilities cameraId => getVideoCapabilities world h cameraId []
  | .setVideoCapabilityState cameraId capability enable =>
      setVideoCapabilityState world h cameraId capability enable ()
  | .getVideoCapabilityState cameraId capability =>
      getVideoCapabilityState world h cameraId capability false

end GrpcCallbackHandler

end SensorCore.Api
