import BusExporter.Lib.Decimal
import BusExporter.Lib.Machine
import BusExporter.Lib.Text
import BusExporter.Model.Config
import BusExporter.Model.Metrics

/-! The publish loop of the MQTT exporter (`exporter/mqtt/mod.rs`) with the task of its event loop. Of the
client the model has the bounded channel of requests between the two, and what a poll can report. -/

namespace BusExporter.Mqtt
open Lib Config

inductive QoS
  | atMostOnce
  | atLeastOnce
  | exactlyOnce
deriving DecidableEq

def qosFromU8 (q : UInt8) : QoS :=
  if q = 0 then .atMostOnce else if q = 1 then .atLeastOnce else .exactlyOnce

def buildTopic (topicPrefix collector metric : String) : String := s!"{topicPrefix}/{collector}/{metric}"

def formatValue (v : Float) : String :=
  if Decimal.isWhole v then toString (Decimal.asI64 v) else F64.display v

/-! ## Endpoints -/

def defaultPort (tls : Bool) : UInt16 := if tls then 8883 else 1883

def parsePlain (rest : List Char) (tls : Bool) : String × UInt16 × Bool :=
  match rsplitOnce ':' rest with
  | some (h, p) =>
      match parseU16 p with
      | some port => (String.ofList h, port, tls)
      | none => (String.ofList rest, defaultPort tls, tls)
  | none => (String.ofList rest, defaultPort tls, tls)

def parseAuthority (rest : List Char) (tls : Bool) : String × UInt16 × Bool :=
  match (stripPrefix ['['] rest).bind (splitOnce ']') with
  | some (addr, afterBracket) =>
      let port := ((stripPrefix [':'] afterBracket).bind parseU16).getD (defaultPort tls)
      (String.ofList addr, port, tls)
  | none => parsePlain rest tls

def parseEndpoint (endpoint : String) : String × UInt16 × Bool :=
  match stripPrefix "mqtts://".toList endpoint.toList with
  | some rest => parseAuthority rest true
  | none =>
      match stripPrefix "mqtt://".toList endpoint.toList with
      | some rest => parseAuthority rest false
      | none => parseAuthority endpoint.toList false

/-! ## Options -/

structure Message where
  topic : String
  qos : QoS
  retain : Bool
  payload : String
deriving DecidableEq

structure TlsConfiguration where
  ca : List UInt8
  clientAuth : Option (List UInt8 × List UInt8)

abbrev Files := String → Except String (List UInt8)

def buildTlsConfig (files : Files) (tlsCfg : Option MqttTlsConfig) : Except String TlsConfiguration := do
  let ca ← match tlsCfg.bind (·.caCert) with
    | some path => (files path).mapError fun e => s!"failed to read ca_cert '{path}': {e}"
    | none => .ok []
  let clientAuth ← match tlsCfg.bind (·.clientCert), tlsCfg.bind (·.clientKey) with
    | some certPath, some keyPath => do
        let cert ← (files certPath).mapError fun e => s!"failed to read client_cert: {e}"
        let key ← (files keyPath).mapError fun e => s!"failed to read client_key: {e}"
        .ok (some (cert, key))
    | _, _ => .ok none
  .ok { ca, clientAuth }

structure MqttOptions where
  clientId : String
  host : String
  port : UInt16
  keepAlive : Duration
  credentials : Option (String × String)
  transport : Option TlsConfiguration
  lastWill : Message

def statusTopic (config : MqttExporterConfig) : String := s!"{config.topicPrefix}/status"

def statusMessage (config : MqttExporterConfig) (payload : String) : Message :=
  { topic := statusTopic config, qos := qosFromU8 config.qos, retain := true, payload }

def mqttOptions (files : Files) (config : MqttExporterConfig) (endpoint : String) : Except String MqttOptions := do
  let (host, port, useTls) := parseEndpoint endpoint
  let transport ← if useTls then (buildTlsConfig files config.tls).map some else .ok none
  .ok {
    clientId := config.clientId.getD "bus-exporter"
    host, port
    keepAlive := config.timeout
    credentials := config.auth.map fun auth => (auth.username, auth.password)
    transport
    lastWill := statusMessage config "offline" }

def metricMessage (config : MqttExporterConfig) (m : MetricValue) : Message :=
  { topic := buildTopic config.topicPrefix (m.labels["collector"]?.getD "unknown") m.name
    qos := qosFromU8 config.qos
    retain := config.retain
    payload := formatValue m.value }

/-! ## The client -/

inductive Request
  | publish (m : Message)
  | disconnect
deriving DecidableEq

/-- A loop that has failed holds the receiver of the requests until its task has ended. -/
inductive EventLoop
  | running
  | failed
  | ended
deriving DecidableEq

structure Connection where
  eventLoop : EventLoop := .running
  requests : List Request := []
  connected : Bool := true
  changed : Bool := false

def capacity : Nat := 64

/-- An answer once there is one: a full channel makes the sender wait. -/
def Connection.send (c : Connection) (request : Request) : Option (Bool × Connection) :=
  if c.eventLoop = .ended then some (false, c)
  else if c.requests.length < capacity then some (true, { c with requests := c.requests ++ [request] })
  else none

def Connection.fail (c : Connection) : Connection :=
  { c with eventLoop := .failed, connected := false, changed := true }

/-! ## The tasks -/

inductive Pc
  | start
  | connecting (options : MqttOptions)
  | announcing (options : MqttOptions)
  | serving (options : MqttOptions)
  | publishing (options : MqttOptions) (rest : List MetricValue)
  | joining (options : MqttOptions)
  | waiting (options : MqttOptions)
  | farewell
  | disconnecting
  | leaving
  | returned

structure State where
  pc : Pc := .start
  connection : Connection := { eventLoop := .ended }
  backoff : Duration := Duration.fromSecs 1
  cancelled : Bool := false

def maxBackoff : Duration := Duration.fromSecs 60

inductive Wake
  | cancelled
  | changed
  | slept

structure Env where
  wake : Wake := .slept
  files : Files := fun _ => .error "No such file or directory (os error 2)"
  store : MetricStore := ∅
  stored : RandomState := []

inductive Notification
  | connAck
  | other
  | failed

inductive Input
  | main (env : Env)
  | poll (taken : Nat) (notification : Notification)
  | eventLoopCancelled
  | eventLoopEnded
  | cancel

inductive Event
  | attempt (options : MqttOptions)
  | online (accepted : Bool)
  | published (m : MetricValue) (message : Message) (accepted : Bool)
  | offline (accepted : Bool)
  | waited (d : Duration)
  | connAck
  | failed

def mainStep (config : MqttExporterConfig) (env : Env) (s : State) : Option (State × List Event) :=
  match s.pc with
  | .start =>
      match config.endpoint with
      | none => some ({ s with pc := .returned }, [])
      | some endpoint =>
          match mqttOptions env.files config endpoint with
          | .error _ => some ({ s with pc := .returned }, [])
          | .ok options => some ({ s with pc := .connecting options }, [])
  | .connecting options =>
      some ({ s with pc := .announcing options, connection := {} }, [.attempt options])
  | .announcing options =>
      (s.connection.send (.publish (statusMessage config "online"))).map fun (accepted, connection) =>
        if accepted then
          ({ s with connection, pc := .serving options, backoff := Duration.fromSecs 1 }, [.online true])
        else ({ s with connection, pc := .joining options }, [.online false])
  | .serving options =>
      match env.wake with
      | .cancelled => if s.cancelled then some ({ s with pc := .farewell }, []) else none
      | .changed =>
          -- the sender of the watch channel is dropped with the event loop
          if s.connection.changed || s.connection.eventLoop = .ended then
            some ({ s with
                    connection := { s.connection with changed := false }
                    pc := if s.connection.connected then .serving options else .joining options }, [])
          else none
      | .slept => some ({ s with pc := .publishing options (env.store.allMetricsFlat env.stored) }, [])
  | .publishing options (m :: rest) =>
      (s.connection.send (.publish (metricMessage config m))).map fun (accepted, connection) =>
        ({ s with connection, pc := .publishing options rest }, [.published m (metricMessage config m) accepted])
  | .publishing options [] => some ({ s with pc := .serving options }, [])
  | .joining options =>
      if s.connection.eventLoop ≠ .ended then none
      else if s.cancelled then some ({ s with pc := .returned }, [])
      else some ({ s with pc := .waiting options }, [.waited s.backoff])
  | .waiting options =>
      match env.wake with
      | .cancelled => if s.cancelled then some ({ s with pc := .returned }, []) else none
      | .changed => none
      | .slept => some ({ s with pc := .connecting options, backoff := min (s.backoff * 2) maxBackoff }, [])
  | .farewell =>
      (s.connection.send (.publish (statusMessage config "offline"))).map fun (accepted, connection) =>
        ({ s with connection, pc := .disconnecting }, [.offline accepted])
  | .disconnecting =>
      (s.connection.send .disconnect).map fun (_, connection) => ({ s with connection, pc := .leaving }, [])
  | .leaving => if s.connection.eventLoop = .ended then some ({ s with pc := .returned }, []) else none
  | .returned => none

def pollStep (taken : Nat) (notification : Notification) (c : Connection) : Option (Connection × List Event) :=
  if c.eventLoop = .running then
    let polled := { c with requests := c.requests.drop taken }
    match notification with
    | .connAck => some (polled, [.connAck])
    | .other => some (polled, [])
    | .failed => some (polled.fail, [.failed])
  else none

def step (config : MqttExporterConfig) (s : State) : Input → Option (State × List Event)
  | .main env => mainStep config env s
  | .poll taken notification =>
      (pollStep taken notification s.connection).map fun (connection, events) => ({ s with connection }, events)
  | .eventLoopCancelled =>
      if s.cancelled ∧ s.connection.eventLoop = .running then
        some ({ s with connection := { s.connection with eventLoop := .ended } }, [])
      else none
  | .eventLoopEnded =>
      if s.connection.eventLoop = .failed then
        some ({ s with connection := { s.connection with eventLoop := .ended } }, [])
      else none
  | .cancel => some ({ s with cancelled := true }, [])

def machine (config : MqttExporterConfig) : Machine State Input Event := ⟨step config⟩

end BusExporter.Mqtt
