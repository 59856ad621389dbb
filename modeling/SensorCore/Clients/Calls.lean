import SensorCore.Clients.Manager

/-!
Calls to the downstream services.

`CameraService` and `VideoService` are the methods of the two services with their
payloads, `Response` is what each answers. A downstream service may answer
anything: `Downstream` is any function of the calls sent so far, the channel and
the call. A computation that may call a service is a `Wire`: it returns its result
and the calls sent, in order, each with the channel it went to.

The methods of `CameraServiceClient` and `VideoServiceClient` are one template,
`unary`: one call on the client's stub, and on a status that is not OK the text of
the status prefixed by service and method. The code of such a status is not read.
-/

namespace SensorCore.Clients

open SensorCore.Lib

/-! ### Types of the domain -/

abbrev Zoom := UInt32

abbrev Focus := UInt32

def minNormalizedZoom : Zoom := 0

def maxNormalizedZoom : Zoom := 100

inductive Capability where
  | zoom
  | focus
  | autoFocus
  | info
  | stabilization
  deriving DecidableEq, Repr

/-! ### The services -/

/-- `camera.v1.CameraService`. -/
inductive CameraService where
  | setZoom (zoom : UInt32)
  | getZoom
  | goToMinZoom
  | goToMaxZoom
  | setFocus (focus : UInt32)
  | getFocus
  | setAutoFocus (enable : Bool)
  | getAutoFocus
  | getInfo
  | getCapabilities
  | setStabilization (enable : Bool)
  | getStabilization
  deriving DecidableEq, Repr

/-- `video.v1.VideoService`. -/
inductive VideoService where
  | getVideoCapabilities
  | setVideoCapabilityState (capability : String) (enable : Bool)
  | getVideoCapabilityState (capability : String)
  deriving DecidableEq, Repr

/-- The fields of the response messages. An enumeration on the wire is open: it
may carry any number. -/
def CameraService.Response : CameraService → Type
  | .setZoom _ | .goToMinZoom | .goToMaxZoom | .setFocus _ => Unit
  | .setAutoFocus _ | .setStabilization _ => Unit
  | .getZoom | .getFocus => UInt32
  | .getAutoFocus | .getStabilization => Bool
  | .getInfo => String
  | .getCapabilities => List Int32

def VideoService.Response : VideoService → Type
  | .setVideoCapabilityState _ _ => Unit
  | .getVideoCapabilityState _ => Bool
  | .getVideoCapabilities => List String

/-- A call of either service. -/
inductive Call where
  | camera (method : CameraService)
  | video (method : VideoService)
  deriving DecidableEq, Repr

def Call.Response : Call → Type
  | .camera method => method.Response
  | .video method => method.Response

/-- A call that was made, and the channel it went to. -/
structure Sent where
  channel : Channel
  call : Call
  deriving DecidableEq, Repr

/-- How the downstream services answer: the response, or the message of a status
that is not OK. -/
abbrev Downstream := List Sent → Channel → (call : Call) → Except String call.Response

/-- A computation that may call downstream services. -/
abbrev Wire (α : Type) := List Sent → Result α × List Sent

/-- An error without a call. -/
def Wire.fail {α : Type} (error : String) : Wire α := fun sent => (.error error, sent)

section Clients

variable {α : Type} (world : Downstream)

/-- One call on a stub. -/
def callStub (stub : Channel) (call : Call) (sent : List Sent) :
    Except String call.Response × List Sent :=
  (world sent stub call, sent ++ [⟨stub, call⟩])

/-- What every client method does: `handleGrpcVoidError` where nothing is read
from the response, the same inline where something is. -/
def unary (service method : String) (call : Call) (read : call.Response → α) (stub : Channel) :
    Wire α := fun sent =>
  match callStub world stub call sent with
  | (.error message, sent) => (.error (service ++ "." ++ method ++ ": " ++ message), sent)
  | (.ok response, sent) => (.ok (read response), sent)

/-! ### The camera client -/

namespace CameraServiceClient

variable (c : CameraServiceClient)

def setZoom (zoomLevel : Zoom) : Wire Unit :=
  unary world "camera_service" "SetZoom" (.camera (.setZoom zoomLevel)) (fun _ => ()) c.stub

def getZoom : Wire Zoom :=
  unary world "camera_service" "GetZoom" (.camera .getZoom) (fun zoom => zoom) c.stub

def goToMinZoom : Wire Unit :=
  unary world "camera_service" "GoToMinZoom" (.camera .goToMinZoom) (fun _ => ()) c.stub

def goToMaxZoom : Wire Unit :=
  unary world "camera_service" "GoToMaxZoom" (.camera .goToMaxZoom) (fun _ => ()) c.stub

def setFocus (focusValue : Focus) : Wire Unit :=
  unary world "camera_service" "SetFocus" (.camera (.setFocus focusValue)) (fun _ => ()) c.stub

def getFocus : Wire Focus :=
  unary world "camera_service" "GetFocus" (.camera .getFocus) (fun focus => focus) c.stub

def enableAutoFocus (on : Bool) : Wire Unit :=
  unary world "camera_service" "SetAutoFocus" (.camera (.setAutoFocus on)) (fun _ => ()) c.stub

def getAutoFocus : Wire Bool :=
  unary world "camera_service" "GetAutoFocus" (.camera .getAutoFocus) (fun enable => enable) c.stub

def getInfo : Wire String :=
  unary world "camera_service" "GetInfo" (.camera .getInfo) (fun info => info) c.stub

def stabilize (on : Bool) : Wire Unit :=
  unary world "camera_service" "SetStabilization" (.camera (.setStabilization on)) (fun _ => ())
    c.stub

def getStabilization : Wire Bool :=
  unary world "camera_service" "GetStabilization" (.camera .getStabilization)
    (fun enable => enable) c.stub

/-- `camera.v1.Capability` to the domain; an unknown number is logged and dropped. -/
def fromProto (capability : Int32) : Option Capability :=
  if capability = 1 then some .zoom
  else if capability = 2 then some .focus
  else if capability = 3 then some .autoFocus
  else if capability = 4 then some .info
  else if capability = 5 then some .stabilization
  else none

def getCapabilities : Wire (List Capability) :=
  unary world "camera_service" "GetCapabilities" (.camera .getCapabilities)
    (List.filterMap fromProto) c.stub

end CameraServiceClient

/-! ### The video client -/

namespace VideoServiceClient

variable (c : VideoServiceClient)

def setVideoCapabilityState (capability : String) (enable : Bool) : Wire Unit :=
  unary world "video_service" "SetVideoCapabilityState"
    (.video (.setVideoCapabilityState capability enable)) (fun _ => ()) c.stub

def getVideoCapabilityState (capability : String) : Wire Bool :=
  unary world "video_service" "GetVideoCapabilityState"
    (.video (.getVideoCapabilityState capability)) (fun enable => enable) c.stub

def getVideoCapabilities : Wire (List String) :=
  unary world "video_service" "GetVideoCapabilities" (.video .getVideoCapabilities)
    (fun capabilities => capabilities) c.stub

end VideoServiceClient

end Clients

end SensorCore.Clients
