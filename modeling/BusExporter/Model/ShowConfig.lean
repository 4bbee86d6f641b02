import BusExporter.Lib.Serde
import BusExporter.Model.Commands
import BusExporter.Model.Load

/-! The show-config command (`commands/show_config.rs`) and the serialization of the configuration
(`config.rs`). The serializers and the text of a duration are parameters. -/

namespace BusExporter
open Lib

structure Serializers where
  formatDuration : Duration → String
  toYaml : List Call → Result String
  toJsonPretty : List Call → Result String

structure WalkOrders where
  globalLabels : RandomState := []
  headers : RandomState := []
  labels : Nat → RandomState := fun _ => []

namespace Config

def serializeStr (s : String) : List Call := [.str s]

def serializeBool (b : Bool) : List Call := [.bool b]

def serializeU8 (n : UInt8) : List Call := [.unsigned n.toNat]

def serializeU16 (n : UInt16) : List Call := [.unsigned n.toNat]

def serializeU32 (n : UInt32) : List Call := [.unsigned n.toNat]

def serializeF64 (x : Float) : List Call := [.float x]

def serializeBytes (bytes : List UInt8) : List Call := Serde.seq (bytes.map serializeU8)

def serializeStrings (order : RandomState) (m : HashMap String String) : List Call :=
  Serde.map ((m.iter order).map fun e => (e.1, serializeStr e.2))

def serializeRedacted (_value : String) : List Call := [.str "***"]

def LogLevel.serialize : LogLevel → List Call
  | .trace => [.str "trace"]
  | .debug => [.str "debug"]
  | .info => [.str "info"]
  | .warn => [.str "warn"]
  | .error => [.str "error"]

def LogOutput.serialize : LogOutput → List Call
  | .stdout => [.str "stdout"]
  | .stderr => [.str "stderr"]
  | .json => [.str "json"]
  | .syslog => [.str "syslog"]

def SyslogFacility.serialize : SyslogFacility → List Call
  | .daemon => [.str "daemon"]
  | .local0 => [.str "local0"]
  | .local1 => [.str "local1"]
  | .local2 => [.str "local2"]
  | .local3 => [.str "local3"]
  | .local4 => [.str "local4"]
  | .local5 => [.str "local5"]
  | .local6 => [.str "local6"]
  | .local7 => [.str "local7"]

def LoggingConfig.serialize (logging : LoggingConfig) : List Call :=
  Serde.map
    [("level", logging.level.serialize),
      ("output", logging.output.serialize),
      ("syslog_facility", logging.syslogFacility.serialize)]

def Parity.serialize : Parity → List Call
  | .none => [.str "none"]
  | .even => [.str "even"]
  | .odd => [.str "odd"]

def MetricType.serialize : MetricType → List Call
  | .counter => [.str "counter"]
  | .gauge => [.str "gauge"]

def RegisterType.serialize : RegisterType → List Call
  | .holding => [.str "holding"]
  | .input => [.str "input"]
  | .coil => [.str "coil"]
  | .discrete => [.str "discrete"]

def DataType.serialize : DataType → List Call
  | .u8 => [.str "u8"]
  | .u16 => [.str "u16"]
  | .i16 => [.str "i16"]
  | .u32 => [.str "u32"]
  | .i32 => [.str "i32"]
  | .f32 => [.str "f32"]
  | .u64 => [.str "u64"]
  | .i64 => [.str "i64"]
  | .f64 => [.str "f64"]
  | .bool => [.str "bool"]

def ByteOrder.serialize : ByteOrder → List Call
  | .bigEndian => [.str "big_endian"]
  | .littleEndian => [.str "little_endian"]
  | .midBigEndian => [.str "mid_big_endian"]
  | .midLittleEndian => [.str "mid_little_endian"]

def ByteValue.serialize : ByteValue → List Call
  | .single byte => serializeU8 byte
  | .multi bytes => serializeBytes bytes

def Protocol.serialize : Protocol → List Call
  | .modbusTcp endpoint => Serde.map [("type", serializeStr "modbus-tcp"), ("endpoint", serializeStr endpoint)]
  | .modbusRtu device bps dataBits stopBits parity =>
      Serde.map
        [("type", serializeStr "modbus-rtu"),
          ("device", serializeStr device),
          ("bps", serializeU32 bps),
          ("data_bits", serializeU8 dataBits),
          ("stop_bits", serializeU8 stopBits),
          ("parity", parity.serialize)]
  | .i2c bus address =>
      Serde.map [("type", serializeStr "i2c"), ("bus", serializeStr bus), ("address", serializeU8 address)]
  | .spi device speedHz mode bitsPerWord =>
      Serde.map
        [("type", serializeStr "spi"),
          ("device", serializeStr device),
          ("speed_hz", serializeU32 speedHz),
          ("mode", serializeU8 mode),
          ("bits_per_word", serializeU8 bitsPerWord)]
  | .i3c bus pid address deviceClass instance_ =>
      Serde.map
        ([("type", serializeStr "i3c"), ("bus", serializeStr bus)] ++
          Serde.optional "pid" serializeStr pid ++
          Serde.optional "address" serializeU8 address ++
          Serde.optional "device_class" serializeStr deviceClass ++
          Serde.optional "instance" serializeU8 instance_)

def MetricConfig.serialize (m : MetricConfig) : List Call :=
  Serde.map
    ([("name", serializeStr m.name),
        ("description", serializeStr m.description),
        ("type", m.metricType.serialize)] ++
      Serde.optional "register_type" RegisterType.serialize m.registerType ++
      Serde.optional "address" serializeU16 m.address ++
      [("data_type", m.dataType.serialize),
        ("byte_order", m.byteOrder.serialize),
        ("scale", serializeF64 m.scale),
        ("offset", serializeF64 m.offset),
        ("unit", serializeStr m.unit),
        ("command", serializeBytes m.command)] ++
      Serde.optional "response_length" serializeU16 m.responseLength ++
      [("response_offset", serializeU16 m.responseOffset)])

section Durations
variable (serializers : Serializers)

def serializeDuration (d : Duration) : List Call := [.str (serializers.formatDuration d)]

def WriteStep.serialize (step : WriteStep) : List Call :=
  Serde.map
    (Serde.optional "address" serializeU8 step.address ++
      Serde.optional "value" ByteValue.serialize step.value ++
      Serde.optional "command" serializeBytes step.command ++
      Serde.optional "delay" (serializeDuration serializers) step.delay)

-- `metrics_files` is never serialized
def CollectorConfig.serialize (labelsOrder : RandomState) (c : CollectorConfig) : List Call :=
  Serde.map
    ([("name", serializeStr c.name),
        ("protocol", c.protocol.serialize)] ++
      Serde.optional "slave_id" serializeU8 c.slaveId ++
      [("polling_interval", serializeDuration serializers c.pollingInterval),
        ("init_writes", Serde.seq (c.initWrites.map (WriteStep.serialize serializers))),
        ("pre_poll", Serde.seq (c.prePoll.map (WriteStep.serialize serializers))),
        ("labels", serializeStrings labelsOrder c.labels),
        ("metrics", Serde.seq (c.metrics.map MetricConfig.serialize))])

def OtlpExporterConfig.serialize (headersOrder : RandomState) (otlp : OtlpExporterConfig) : List Call :=
  Serde.map
    ([("enabled", serializeBool otlp.enabled)] ++
      Serde.optional "endpoint" serializeStr otlp.endpoint ++
      [("timeout", serializeDuration serializers otlp.timeout),
        ("interval", serializeDuration serializers otlp.interval),
        ("headers", serializeStrings headersOrder otlp.headers)])

def PrometheusExporterConfig.serialize (prometheus : PrometheusExporterConfig) : List Call :=
  Serde.map
    [("enabled", serializeBool prometheus.enabled),
      ("listen", serializeStr prometheus.listen),
      ("path", serializeStr prometheus.path)]

def MqttAuthConfig.serialize (auth : MqttAuthConfig) : List Call :=
  Serde.map [("username", serializeStr auth.username), ("password", serializeRedacted auth.password)]

def MqttTlsConfig.serialize (tls : MqttTlsConfig) : List Call :=
  Serde.map
    (Serde.optional "ca_cert" serializeStr tls.caCert ++
      Serde.optional "client_cert" serializeStr tls.clientCert ++
      Serde.optional "client_key" serializeStr tls.clientKey ++
      [("insecure", serializeBool tls.insecure)])

def MqttExporterConfig.serialize (mqtt : MqttExporterConfig) : List Call :=
  Serde.map
    ([("enabled", serializeBool mqtt.enabled)] ++
      Serde.optional "endpoint" serializeStr mqtt.endpoint ++
      Serde.optional "client_id" serializeStr mqtt.clientId ++
      [("topic_prefix", serializeStr mqtt.topicPrefix)] ++
      Serde.optional "auth" MqttAuthConfig.serialize mqtt.auth ++
      Serde.optional "tls" MqttTlsConfig.serialize mqtt.tls ++
      [("qos", serializeU8 mqtt.qos),
        ("retain", serializeBool mqtt.retain),
        ("interval", serializeDuration serializers mqtt.interval),
        ("timeout", serializeDuration serializers mqtt.timeout)])

def ExportersConfig.serialize (headersOrder : RandomState) (exporters : ExportersConfig) : List Call :=
  Serde.map
    (Serde.optional "otlp" (OtlpExporterConfig.serialize serializers headersOrder) exporters.otlp ++
      Serde.optional "prometheus" PrometheusExporterConfig.serialize exporters.prometheus ++
      Serde.optional "mqtt" (MqttExporterConfig.serialize serializers) exporters.mqtt)

end Durations
end Config

def Config.serialize (serializers : Serializers) (orders : WalkOrders) (config : Config) : List Call :=
  Serde.map
    [("global_labels", Config.serializeStrings orders.globalLabels config.globalLabels),
      ("logging", config.logging.serialize),
      ("exporters", config.exporters.serialize serializers orders.headers),
      ("collectors", Serde.seq (config.collectors.zipIdx.map fun (c, place) =>
        c.serialize serializers (orders.labels place)))]

inductive OutputFormat
  | yaml
  | json
deriving DecidableEq

structure Environment where
  files : Config.Files
  fileExists : String → Bool
  home : String

def configSearchPaths : List String :=
  ["./config.yaml", "~/.config/bus-exporter/config.yaml", "/etc/bus-exporter/config.yaml"]

def findConfigFile (environment : Environment) : Option String → Result String
  | some p =>
      if environment.fileExists p then .ok p else .error ⟨s!"specified config file not found: {p}", []⟩
  | none =>
      let searched := configSearchPaths.map fun p => String.ofList (replaceChar '~' environment.home.toList p.toList)
      match searched.find? environment.fileExists with
      | some path => .ok path
      | none => .error ⟨"no config file found; searched:\n" ++ "\n".intercalate searched, []⟩

structure Printed where
  stdout : String := ""
  stderr : String := ""

def Serializers.print (serializers : Serializers) (calls : List Call) : OutputFormat → Result String
  | .yaml => (serializers.toYaml calls).map fun output => trimEnd output ++ "\n"
  | .json => (serializers.toJsonPretty calls).map fun output => output ++ "\n"

def loadConfig (environment : Environment) (configPath : Option String) : Result Config := do
  let path ← findConfigFile environment configPath
  Config.loadForPull environment.files path

section Command
variable (serializers : Serializers) (compile : String → Result (String → Bool))

def showLoaded (orders : WalkOrders) (config : Config) (collectorFilter metricFilter : Option String)
    (format : OutputFormat) : Result Unit × Printed :=
  match filterCollectors compile config.collectors collectorFilter metricFilter with
  | .error e => (.error e, {})
  | .ok filtered =>
      let stderr := if filtered.isEmpty && (collectorFilter.isSome || metricFilter.isSome)
        then "warning: no collectors matched the filter\n" else ""
      let calls := Config.serialize serializers orders { config with collectors := filtered }
      match serializers.print calls format with
      | .error e => (.error e, { stderr })
      | .ok stdout => (.ok (), { stdout, stderr })

def showConfigCommand (environment : Environment) (orders : WalkOrders)
    (configPath collectorFilter metricFilter : Option String) (format : OutputFormat) :
    Result Unit × Printed :=
  match loadConfig environment configPath with
  | .error e => (.error e, {})
  | .ok config => showLoaded serializers compile orders config collectorFilter metricFilter format

end Command
end BusExporter
