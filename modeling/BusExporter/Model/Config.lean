import BusExporter.Lib.HashMap
import BusExporter.Lib.Primitives

/-! The configuration as it stands after parsing (`config.rs`). Field defaults are those of the
schema. -/

namespace BusExporter
open Lib

namespace Config

inductive MetricType
  | counter
  | gauge
deriving DecidableEq, Repr

inductive RegisterType
  | holding
  | input
  | coil
  | discrete
deriving DecidableEq, Repr

inductive DataType
  | u8
  | u16
  | i16
  | u32
  | i32
  | f32
  | u64
  | i64
  | f64
  | bool
deriving DecidableEq, Repr

def DataType.registerCount : DataType → UInt16
  | .u8 | .u16 | .i16 | .bool => 1
  | .u32 | .i32 | .f32 => 2
  | .u64 | .i64 | .f64 => 4

def DataType.byteSize : DataType → Nat
  | .bool | .u8 => 1
  | .u16 | .i16 => 2
  | .u32 | .i32 | .f32 => 4
  | .u64 | .i64 | .f64 => 8

inductive ByteOrder
  | bigEndian
  | littleEndian
  | midBigEndian
  | midLittleEndian
deriving DecidableEq, Repr

inductive ByteValue
  | single (byte : UInt8)
  | multi (bytes : List UInt8)
deriving DecidableEq

def ByteValue.asBytes : ByteValue → List UInt8
  | .single b => [b]
  | .multi v => v

structure WriteStep where
  address : Option UInt8 := none
  value : Option ByteValue := none
  command : Option (List UInt8) := none
  delay : Option Duration := none
deriving DecidableEq

inductive Parity
  | none
  | even
  | odd
deriving DecidableEq

inductive Protocol
  | modbusTcp (endpoint : String)
  | modbusRtu (device : String) (bps : UInt32) (dataBits stopBits : UInt8) (parity : Parity)
  | i2c (bus : String) (address : UInt8)
  | spi (device : String) (speedHz : UInt32) (mode bitsPerWord : UInt8)
  | i3c (bus : String) (pid : Option String) (address : Option UInt8)
      (deviceClass : Option String) (instance_ : Option UInt8)
deriving DecidableEq

namespace Protocol

def toString : Protocol → String
  | .modbusTcp _ => "modbus-tcp"
  | .modbusRtu .. => "modbus-rtu"
  | .i2c .. => "i2c"
  | .spi .. => "spi"
  | .i3c .. => "i3c"

def isI2c : Protocol → Bool
  | .i2c .. => true
  | _ => false

def isSpi : Protocol → Bool
  | .spi .. => true
  | _ => false

def isI3c : Protocol → Bool
  | .i3c .. => true
  | _ => false

def isModbus (p : Protocol) : Bool := !p.isI2c && !p.isSpi && !p.isI3c

end Protocol

structure MetricConfig where
  name : String
  description : String := ""
  metricType : MetricType
  registerType : Option RegisterType := none
  address : Option UInt16 := none
  dataType : DataType
  byteOrder : ByteOrder := .bigEndian
  scale : Float := 1.0
  offset : Float := 0.0
  unit : String := ""
  command : List UInt8 := []
  responseLength : Option UInt16 := none
  responseOffset : UInt16 := 0
deriving DecidableEq

structure CollectorConfig where
  name : String
  protocol : Protocol
  slaveId : Option UInt8 := none
  pollingInterval : Duration := Duration.fromSecs 10
  initWrites : List WriteStep := []
  prePoll : List WriteStep := []
  labels : HashMap String String := ∅
  metricsFiles : Option (List String) := none
  metrics : List MetricConfig := []

inductive LogLevel
  | trace
  | debug
  | info
  | warn
  | error
deriving DecidableEq

inductive LogOutput
  | stdout
  | stderr
  | json
  | syslog
deriving DecidableEq

inductive SyslogFacility
  | daemon
  | local0
  | local1
  | local2
  | local3
  | local4
  | local5
  | local6
  | local7
deriving DecidableEq

structure LoggingConfig where
  level : LogLevel := .info
  output : LogOutput := .syslog
  syslogFacility : SyslogFacility := .daemon
deriving DecidableEq

structure OtlpExporterConfig where
  enabled : Bool := false
  endpoint : Option String := none
  timeout : Duration := Duration.fromSecs 10
  interval : Duration := Duration.fromSecs 10
  headers : HashMap String String := ∅

structure PrometheusExporterConfig where
  enabled : Bool := false
  listen : String := "0.0.0.0:9090"
  path : String := "/metrics"

structure MqttAuthConfig where
  username : String
  password : String

structure MqttTlsConfig where
  caCert : Option String := none
  clientCert : Option String := none
  clientKey : Option String := none
  insecure : Bool := false

structure MqttExporterConfig where
  enabled : Bool := false
  endpoint : Option String := none
  clientId : Option String := none
  topicPrefix : String := "modbus/metrics"
  auth : Option MqttAuthConfig := none
  tls : Option MqttTlsConfig := none
  qos : UInt8 := 1
  retain : Bool := false
  interval : Duration := Duration.fromSecs 10
  timeout : Duration := Duration.fromSecs 5

structure ExportersConfig where
  otlp : Option OtlpExporterConfig := none
  prometheus : Option PrometheusExporterConfig := none
  mqtt : Option MqttExporterConfig := none

end Config

structure Config where
  globalLabels : HashMap String String := ∅
  logging : Config.LoggingConfig := {}
  exporters : Config.ExportersConfig
  collectors : List Config.CollectorConfig

end BusExporter
