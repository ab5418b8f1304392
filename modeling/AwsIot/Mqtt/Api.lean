/-
  Mqtt/Api.lean --- the API as an application and its handlers use it.

  A handler of the application may call the client again, to any depth.  Depth is
  fuel: a call below the last level halts the run.
-/
import AwsIot.Mqtt.Yield

set_option autoImplicit false

namespace AwsIot.Mqtt

open AwsIot.Foundation

variable {m : Type → Type} [Monad m] [Halting m] [ClientOps m] (env : Env) (fuel : Nat)

/-- A handler of the application: it makes the calls its surroundings choose,
one after the other, and returns. -/
def runHandler (nextCall : Nat → Option ApiCall) (call : ApiCall → m IoTError) : m Unit :=
  loop (fun (_ : Unit) => do
    match ← ask nextCall with
    | none => return .stop ()
    | some c => do
        let _ ← call c
        return .again ()) fuel ()

/-- The handlers of the application, which call the client by `call`. -/
def applicationCallbacks (call : ApiCall → m IoTError) : Callbacks m where
  message _ := runHandler fuel env.messageHandler call
  disconnect := runHandler fuel env.disconnectHandler call

/-- `aws_iot_mqtt_autoreconnect_set_status`. -/
def autoreconnectSetStatus (newStatus : Bool) : m IoTError := do
  modifyClient fun c => { c with isAutoReconnectEnabled := newStatus }
  return .success

/-- `aws_iot_mqtt_set_disconnect_handler`. -/
def setDisconnectHandler (given : Bool) : m IoTError := do
  if ¬ given then return .nullValueError
  modifyClient fun c => { c with disconnectHandler := true }
  return .success

/-- `aws_iot_mqtt_reset_network_disconnected_count`. -/
def resetNetworkDisconnectedCount : m IoTError := do
  modifyClient fun c => { c with counterNetworkDisconnected := 0 }
  return .success

/-- The function behind an API call. -/
def dispatch (callbacks : Callbacks m) : ApiCall → m IoTError
  | .init params => init env params
  | .connect params => connect env fuel callbacks params
  | .publish topicName topicNameLen params =>
      publish env fuel callbacks topicName topicNameLen params
  | .subscribe topicName topicNameLen qos handler data =>
      subscribe env fuel callbacks topicName topicNameLen qos handler data
  | .unsubscribe topicFilter topicFilterLen =>
      unsubscribe env fuel callbacks topicFilter topicFilterLen
  | .resubscribe => resubscribe env fuel callbacks
  | .yield timeoutMs => yield env fuel callbacks timeoutMs
  | .disconnect => disconnect env fuel
  | .attemptReconnect => attemptReconnect env fuel callbacks
  | .autoreconnectSetStatus newStatus => autoreconnectSetStatus newStatus
  | .setDisconnectHandler given => setDisconnectHandler given
  | .setConnectParams params => setConnectParams params
  | .resetNetworkDisconnectedCount => resetNetworkDisconnectedCount

/-- An API call, with handlers that may call the client `depth` levels deep. -/
def apiCall : Nat → ApiCall → m IoTError
  | 0, _ => halt
  | depth + 1, call => do
      emit fun _ => .called call
      let rc ← within .call
        (dispatch env fuel (applicationCallbacks env fuel (apiCall depth)) call)
      emit fun _ => .returned call rc
      return rc

/-- A single-threaded application: the calls it makes outside its handlers, in
order. -/
def application (calls : List ApiCall) : m Unit :=
  forEach (fun call => do let _ ← apiCall env fuel fuel call) calls

/-! ## A first session -/

/-- Plain init parameters, without auto reconnect or a disconnect handler. -/
def plainInit : InitParams where
  enableAutoReconnect := false
  hasHostURL := true
  port := 8883
  hasRootCALocation := true
  hasDeviceCertLocation := true
  hasDevicePrivateKeyLocation := true
  mqttCommandTimeoutMs := 20000
  disconnectHandler := false

/-- How the network delivers a short packet whose header byte is read by question
`t`: the next question is about a local variable, then the remaining length and
the body are read. -/
def readOf (t : Nat) (packet : List UInt8) (n : Nat) : Option ReadOutcome :=
  if n = t then some ⟨.success, packet.take 1, 1⟩
  else if n = t + 2 then some ⟨.success, (packet.drop 1).take 1, 1⟩
  else if n = t + 3 then some ⟨.success, packet.drop 2, packet.length - 2⟩
  else none

/-- Surroundings in which packets arrive at given questions. -/
def Env.receiving (env : Env) (script : List (Nat × List UInt8)) : Env :=
  { env with read := fun n => (script.findSome? fun p => readOf p.1 p.2 n).getD (env.read n) }

/-- The world after an application's first calls. -/
def World.after (env : Env) (fuel : Nat) (calls : List ApiCall) : World :=
  ((application env fuel calls : M Unit).run World.start).state

/-- Plain connect parameters, for client `c`. -/
def plainConnect : ConnectParams :=
  { connectParamsInitializer with pClientID := some ⟨[0x63]⟩, clientIDLen := 1 }

/-- Surroundings that accept a first connect and then deliver `script`. -/
def sessionEnv (script : List (Nat × List UInt8)) : Env :=
  quietEnv.receiving ((6, [0x20, 2, 0, 0]) :: script)

/-- A subscribe to a filter of one character with QoS 1. -/
def subscribeTo (filter : UInt8) : ApiCall := .subscribe (some ⟨[filter]⟩) 1 .qos1 (some 1) 0

/-- A first session that makes `calls`. -/
def sessionCalls (calls : List ApiCall) : List ApiCall :=
  .init plainInit :: .connect (some plainConnect) :: calls

/-- A client that has just connected; it has asked eleven questions. -/
def World.connected (env : Env) : World := World.after env 8 (sessionCalls [])

end AwsIot.Mqtt
