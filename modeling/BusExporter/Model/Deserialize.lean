import BusExporter.Lib.Document
import BusExporter.Model.Load

/-! Deserialization of configurations and metrics files (`config.rs`). What humantime reads as a duration
is a parameter; a value that is refused is none, as the texts of these errors are serde's. -/

namespace BusExporter
open Lib Serde

namespace Config

def deserializeU8 (v : Document) : Option UInt8 := (readNat (2 ^ 8) v).map UInt8.ofNat

def deserializeU16 (v : Document) : Option UInt16 := (readNat (2 ^ 16) v).map UInt16.ofNat

def deserializeU32 (v : Document) : Option UInt32 := (readNat (2 ^ 32) v).map UInt32.ofNat

def deserializeBytes : Document → Option (List UInt8) := readSeq deserializeU8

-- a key that comes twice is inserted twice
def insertString (m : HashMap String String) (entry : String × Document) : Option (HashMap String String) :=
  (readStr entry.2).map fun value => m.insert entry.1 value

def deserializeStrings : Document → Option (HashMap String String)
  | .map entries => entries.foldlM insertString ∅
  | _ => none

def LogLevel.deserialize : Document → Option LogLevel :=
  readVariant [("trace", .trace), ("debug", .debug), ("info", .info), ("warn", .warn), ("error", .error)]

def LogOutput.deserialize : Document → Option LogOutput :=
  readVariant [("stdout", .stdout), ("stderr", .stderr), ("json", .json), ("syslog", .syslog)]

def SyslogFacility.deserialize : Document → Option SyslogFacility :=
  readVariant
    [("daemon", .daemon), ("local0", .local0), ("local1", .local1), ("local2", .local2), ("local3", .local3),
      ("local4", .local4), ("local5", .local5), ("local6", .local6), ("local7", .local7)]

def Parity.deserialize : Document → Option Parity := readVariant [("none", .none), ("even", .even), ("odd", .odd)]

def MetricType.deserialize : Document → Option MetricType := readVariant [("counter", .counter), ("gauge", .gauge)]

def RegisterType.deserialize : Document → Option RegisterType :=
  readVariant [("holding", .holding), ("input", .input), ("coil", .coil), ("discrete", .discrete)]

def DataType.deserialize : Document → Option DataType :=
  readVariant
    [("u8", .u8), ("u16", .u16), ("i16", .i16), ("u32", .u32), ("i32", .i32), ("f32", .f32), ("u64", .u64),
      ("i64", .i64), ("f64", .f64), ("bool", .bool)]

def ByteOrder.deserialize : Document → Option ByteOrder :=
  readVariant
    [("big_endian", .bigEndian), ("little_endian", .littleEndian), ("mid_big_endian", .midBigEndian),
      ("mid_little_endian", .midLittleEndian)]

def ByteValue.deserialize : Document → Option ByteValue
  | .unsigned v => if v > 255 then none else some (.single (UInt8.ofNat v))
  | .seq items => (items.mapM deserializeU8).map .multi
  | _ => none

def LoggingConfig.deserialize (v : Document) : Option LoggingConfig := do
  let get ← readStruct ["level", "output", "syslog_facility"] v
  let level ← fieldOr .info LogLevel.deserialize (get "level")
  let output ← fieldOr .syslog LogOutput.deserialize (get "output")
  let syslogFacility ← fieldOr .daemon SyslogFacility.deserialize (get "syslog_facility")
  return { level, output, syslogFacility }

def Protocol.deserializeVariant (variant : String) (entries : List (String × Document)) : Option Protocol :=
  match variant with
  | "modbus-tcp" => do
      let get ← readFields ["endpoint"] entries
      let endpoint ← field readStr (get "endpoint")
      return .modbusTcp endpoint
  | "modbus-rtu" => do
      let get ← readFields ["device", "bps", "data_bits", "stop_bits", "parity"] entries
      let device ← field readStr (get "device")
      let bps ← fieldOr 9600 deserializeU32 (get "bps")
      let dataBits ← fieldOr 8 deserializeU8 (get "data_bits")
      let stopBits ← fieldOr 1 deserializeU8 (get "stop_bits")
      let parity ← fieldOr .none Parity.deserialize (get "parity")
      return .modbusRtu device bps dataBits stopBits parity
  | "i2c" => do
      let get ← readFields ["bus", "address"] entries
      let bus ← field readStr (get "bus")
      let address ← field deserializeU8 (get "address")
      return .i2c bus address
  | "spi" => do
      let get ← readFields ["device", "speed_hz", "mode", "bits_per_word"] entries
      let device ← field readStr (get "device")
      let speedHz ← fieldOr 1000000 deserializeU32 (get "speed_hz")
      let mode ← fieldOr 0 deserializeU8 (get "mode")
      let bitsPerWord ← fieldOr 8 deserializeU8 (get "bits_per_word")
      return .spi device speedHz mode bitsPerWord
  | "i3c" => do
      let get ← readFields ["bus", "pid", "address", "device_class", "instance"] entries
      let bus ← field readStr (get "bus")
      let pid ← fieldOption readStr (get "pid")
      let address ← fieldOption deserializeU8 (get "address")
      let deviceClass ← fieldOption readStr (get "device_class")
      let instance_ ← fieldOption deserializeU8 (get "instance")
      return .i3c bus pid address deviceClass instance_
  | _ => none

def Protocol.deserialize (v : Document) : Option Protocol := do
  let (variant, entries) ← readTag "type" v
  Protocol.deserializeVariant variant entries

def MetricConfig.deserialize (v : Document) : Option MetricConfig := do
  let get ← readStruct
    ["name", "description", "type", "register_type", "address", "data_type", "byte_order", "scale", "offset", "unit",
      "command", "response_length", "response_offset"] v
  let name ← field readStr (get "name")
  let description ← fieldOr "" readStr (get "description")
  let metricType ← field MetricType.deserialize (get "type")
  let registerType ← fieldOption RegisterType.deserialize (get "register_type")
  let address ← fieldOption deserializeU16 (get "address")
  let dataType ← field DataType.deserialize (get "data_type")
  let byteOrder ← fieldOr .bigEndian ByteOrder.deserialize (get "byte_order")
  let scale ← fieldOr 1.0 readF64 (get "scale")
  let offset ← fieldOr 0.0 readF64 (get "offset")
  let unit ← fieldOr "" readStr (get "unit")
  let command ← fieldOr [] deserializeBytes (get "command")
  let responseLength ← fieldOption deserializeU16 (get "response_length")
  let responseOffset ← fieldOr 0 deserializeU16 (get "response_offset")
  return { name, description, metricType, registerType, address, dataType, byteOrder, scale, offset, unit, command,
           responseLength, responseOffset }

def MetricDefaultsConfig.deserialize (v : Document) : Option MetricDefaultsConfig := do
  let get ← readStruct
    ["description", "type", "register_type", "data_type", "byte_order", "scale", "offset", "unit"] v
  let description ← fieldOption readStr (get "description")
  let metricType ← fieldOption MetricType.deserialize (get "type")
  let registerType ← fieldOption RegisterType.deserialize (get "register_type")
  let dataType ← fieldOption DataType.deserialize (get "data_type")
  let byteOrder ← fieldOption ByteOrder.deserialize (get "byte_order")
  let scale ← fieldOption readF64 (get "scale")
  let offset ← fieldOption readF64 (get "offset")
  let unit ← fieldOption readStr (get "unit")
  return { description, metricType, registerType, dataType, byteOrder, scale, offset, unit }

def RawMetricConfig.deserialize (v : Document) : Option RawMetricConfig := do
  let get ← readStruct
    ["name", "description", "type", "register_type", "address", "data_type", "byte_order", "scale", "offset", "unit",
      "command", "response_length", "response_offset"] v
  let name ← field readStr (get "name")
  let description ← fieldOption readStr (get "description")
  let metricType ← fieldOption MetricType.deserialize (get "type")
  let registerType ← fieldOption RegisterType.deserialize (get "register_type")
  let address ← fieldOption deserializeU16 (get "address")
  let dataType ← fieldOption DataType.deserialize (get "data_type")
  let byteOrder ← fieldOption ByteOrder.deserialize (get "byte_order")
  let scale ← fieldOption readF64 (get "scale")
  let offset ← fieldOption readF64 (get "offset")
  let unit ← fieldOption readStr (get "unit")
  let command ← fieldOr [] deserializeBytes (get "command")
  let responseLength ← fieldOption deserializeU16 (get "response_length")
  let responseOffset ← fieldOr 0 deserializeU16 (get "response_offset")
  return { name, description, metricType, registerType, address, dataType, byteOrder, scale, offset, unit, command,
           responseLength, responseOffset }

def MetricsFileConfig.deserialize (v : Document) : Option MetricsFileConfig := do
  let get ← readStruct ["defaults", "metrics"] v
  let defaults ← fieldOption MetricDefaultsConfig.deserialize (get "defaults")
  let metrics ← field (readSeq RawMetricConfig.deserialize) (get "metrics")
  return { defaults, metrics }

section Durations
variable (parseDuration : String → Option Duration)

def deserializeDuration (v : Document) : Option Duration := (readStr v).bind parseDuration

def WriteStep.deserialize (v : Document) : Option WriteStep := do
  let get ← readStruct ["address", "value", "command", "delay"] v
  let address ← fieldOption deserializeU8 (get "address")
  let value ← fieldOption ByteValue.deserialize (get "value")
  let command ← fieldOption deserializeBytes (get "command")
  let delay ← fieldOption (deserializeDuration parseDuration) (get "delay")
  return { address, value, command, delay }

def CollectorConfig.deserialize (v : Document) : Option CollectorConfig := do
  let get ← readStruct
    ["name", "protocol", "slave_id", "polling_interval", "init_writes", "pre_poll", "labels", "metrics_files",
      "metrics"] v
  let name ← field readStr (get "name")
  let protocol ← field Protocol.deserialize (get "protocol")
  let slaveId ← fieldOption deserializeU8 (get "slave_id")
  let pollingInterval ← fieldOr (Duration.fromSecs 10) (deserializeDuration parseDuration) (get "polling_interval")
  let initWrites ← fieldOr [] (readSeq (WriteStep.deserialize parseDuration)) (get "init_writes")
  let prePoll ← fieldOr [] (readSeq (WriteStep.deserialize parseDuration)) (get "pre_poll")
  let labels ← fieldOr ∅ deserializeStrings (get "labels")
  let metricsFiles ← fieldOption (readSeq readStr) (get "metrics_files")
  let metrics ← fieldOr [] (readSeq MetricConfig.deserialize) (get "metrics")
  return { name, protocol, slaveId, pollingInterval, initWrites, prePoll, labels, metricsFiles, metrics }

def OtlpExporterConfig.deserialize (v : Document) : Option OtlpExporterConfig := do
  let get ← readStruct ["enabled", "endpoint", "timeout", "interval", "headers"] v
  let enabled ← fieldOr false readBool (get "enabled")
  let endpoint ← fieldOption readStr (get "endpoint")
  let timeout ← fieldOr (Duration.fromSecs 10) (deserializeDuration parseDuration) (get "timeout")
  let interval ← fieldOr (Duration.fromSecs 10) (deserializeDuration parseDuration) (get "interval")
  let headers ← fieldOr ∅ deserializeStrings (get "headers")
  return { enabled, endpoint, timeout, interval, headers }

def PrometheusExporterConfig.deserialize (v : Document) : Option PrometheusExporterConfig := do
  let get ← readStruct ["enabled", "listen", "path"] v
  let enabled ← fieldOr false readBool (get "enabled")
  let listen ← fieldOr "0.0.0.0:9090" readStr (get "listen")
  let path ← fieldOr "/metrics" readStr (get "path")
  return { enabled, listen, path }

def MqttAuthConfig.deserialize (v : Document) : Option MqttAuthConfig := do
  let get ← readStruct ["username", "password"] v
  let username ← field readStr (get "username")
  let password ← field readStr (get "password")
  return { username, password }

def MqttTlsConfig.deserialize (v : Document) : Option MqttTlsConfig := do
  let get ← readStruct ["ca_cert", "client_cert", "client_key", "insecure"] v
  let caCert ← fieldOption readStr (get "ca_cert")
  let clientCert ← fieldOption readStr (get "client_cert")
  let clientKey ← fieldOption readStr (get "client_key")
  let insecure ← fieldOr false readBool (get "insecure")
  return { caCert, clientCert, clientKey, insecure }

def MqttExporterConfig.deserialize (v : Document) : Option MqttExporterConfig := do
  let get ← readStruct
    ["enabled", "endpoint", "client_id", "topic_prefix", "auth", "tls", "qos", "retain", "interval", "timeout"] v
  let enabled ← fieldOr false readBool (get "enabled")
  let endpoint ← fieldOption readStr (get "endpoint")
  let clientId ← fieldOption readStr (get "client_id")
  let topicPrefix ← fieldOr "modbus/metrics" readStr (get "topic_prefix")
  let auth ← fieldOption MqttAuthConfig.deserialize (get "auth")
  let tls ← fieldOption MqttTlsConfig.deserialize (get "tls")
  let qos ← fieldOr 1 deserializeU8 (get "qos")
  let retain ← fieldOr false readBool (get "retain")
  let interval ← fieldOr (Duration.fromSecs 10) (deserializeDuration parseDuration) (get "interval")
  let timeout ← fieldOr (Duration.fromSecs 5) (deserializeDuration parseDuration) (get "timeout")
  return { enabled, endpoint, clientId, topicPrefix, auth, tls, qos, retain, interval, timeout }

def ExportersConfig.deserialize (v : Document) : Option ExportersConfig := do
  let get ← readStruct ["otlp", "prometheus", "mqtt"] v
  let otlp ← fieldOption (OtlpExporterConfig.deserialize parseDuration) (get "otlp")
  let prometheus ← fieldOption PrometheusExporterConfig.deserialize (get "prometheus")
  let mqtt ← fieldOption (MqttExporterConfig.deserialize parseDuration) (get "mqtt")
  return { otlp, prometheus, mqtt }

end Durations
end Config

def Config.deserialize (parseDuration : String → Option Duration) (v : Document) : Option Config := do
  let get ← readStruct ["global_labels", "logging", "exporters", "collectors"] v
  let globalLabels ← fieldOr ∅ Config.deserializeStrings (get "global_labels")
  let logging ← fieldOr {} Config.LoggingConfig.deserialize (get "logging")
  let exporters ← field (Config.ExportersConfig.deserialize parseDuration) (get "exporters")
  let collectors ← field (readSeq (Config.CollectorConfig.deserialize parseDuration)) (get "collectors")
  return { globalLabels, logging, exporters, collectors }

end BusExporter
