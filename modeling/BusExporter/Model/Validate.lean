import BusExporter.Model.Config

/-! `Config::validate`: one pass over the exporters and collectors that stops at the first rule
broken. Integer arithmetic is that of a release build, where 16-bit sums wrap. -/

namespace BusExporter
open Lib

namespace Config

def bailIf (condition : Bool) (message : String) : Except String Unit :=
  if condition then .error message else .ok ()

@[simp] theorem bailIf_ok {condition : Bool} {message : String} :
    bailIf condition message = .ok () ↔ condition = false := by
  cases condition <;> simp [bailIf]

@[simp] theorem andThen_ok {first second : Except String Unit} :
    (first >>= fun _ => second) = .ok () ↔ first = .ok () ∧ second = .ok () := by
  cases first <;> simp [bind, Except.bind]

def onlyIf (condition : Bool) (check : Except String Unit) : Except String Unit :=
  if condition then check else .ok ()

def forSome {α : Type} (check : α → Except String Unit) : Option α → Except String Unit
  | none => .ok ()
  | some a => check a

def forEach {α : Type} (check : α → Except String Unit) : List α → Except String Unit
  | [] => .ok ()
  | a :: l => do
      check a
      forEach check l

@[simp] theorem onlyIf_ok {condition : Bool} {check : Except String Unit} :
    onlyIf condition check = .ok () ↔ (condition = true → check = .ok ()) := by
  cases condition <;> simp [onlyIf]

@[simp] theorem forSome_ok {α : Type} {check : α → Except String Unit} {o : Option α} :
    forSome check o = .ok () ↔ ∀ a, o = some a → check a = .ok () := by
  cases o <;> simp [forSome]

theorem forEach_ok {α : Type} {check : α → Except String Unit} {l : List α} :
    forEach check l = .ok () ↔ ∀ a ∈ l, check a = .ok () := by
  induction l with
  | nil => simp [forEach]
  | cons a l ih => simp [forEach, ih]

/-! ## Exporters -/

def validateOtlp (otlp : OtlpExporterConfig) : Except String Unit :=
  bailIf (otlp.enabled && otlp.endpoint.isNone)
    "otlp exporter is enabled but no endpoint is set"

def startsWith (pattern text : String) : Bool := pattern.toList.isPrefixOf text.toList

def validateMqttEndpoint : Option String → Except String Unit
  | none => .error "mqtt exporter is enabled but no endpoint is set"
  | some ep =>
      bailIf (!startsWith "mqtt://" ep && !startsWith "mqtts://" ep)
        "mqtt endpoint must start with mqtt:// or mqtts://"

def validateMqttTls (tls : MqttTlsConfig) : Except String Unit :=
  bailIf (tls.clientCert.isSome != tls.clientKey.isSome)
    "mqtt tls: client_cert and client_key must both be set for mutual TLS"

def validateMqtt (mqtt : MqttExporterConfig) : Except String Unit := do
  onlyIf mqtt.enabled (validateMqttEndpoint mqtt.endpoint)
  bailIf (2 < mqtt.qos) s!"mqtt qos must be 0, 1, or 2, got {mqtt.qos}"
  forSome validateMqttTls mqtt.tls

def validateExporters (e : ExportersConfig) : Except String Unit := do
  bailIf (!e.otlp.any (·.enabled) && !e.prometheus.any (·.enabled) && !e.mqtt.any (·.enabled))
    "at least one exporter must be enabled"
  forSome validateOtlp e.otlp
  forSome validateMqtt e.mqtt

/-! ## Collectors -/

def validateSlaveId (c : CollectorConfig) : Except String Unit :=
  match c.slaveId with
  | some id =>
      bailIf (id == 0 || 247 < id) s!"collector '{c.name}': slave_id must be 1-247, got {id}"
  | none => .error s!"collector '{c.name}': slave_id is required for Modbus protocols"

def validTcpEndpoint (endpoint : String) : Bool :=
  (rsplitOnce ':' endpoint.toList).any fun parts => (fromStrRadix 10 65535 parts.2).isSome

def utf8Length (text : List Char) : Nat := (text.map Char.utf8Size).sum

def validPid (pid : String) : Bool :=
  let hex := trimStartMatches ['0', 'X'] (trimStartMatches ['0', 'x'] pid.toList)
  utf8Length hex == 12 && (fromStrRadix 16 (2 ^ 64 - 1) hex).isSome

def validateProtocol (c : CollectorConfig) : Except String Unit :=
  match c.protocol with
  | .modbusTcp endpoint => do
      validateSlaveId c
      bailIf (!validTcpEndpoint endpoint)
        s!"collector '{c.name}': invalid TCP endpoint '{endpoint}' (expected host:port, e.g. 127.0.0.1:502)"
  | .modbusRtu _ _ dataBits stopBits _ => do
      validateSlaveId c
      bailIf (!(5 ≤ dataBits && dataBits ≤ 8))
        s!"collector '{c.name}': data_bits must be 5-8, got {dataBits}"
      bailIf (!(1 ≤ stopBits && stopBits ≤ 2))
        s!"collector '{c.name}': stop_bits must be 1-2, got {stopBits}"
  | .i2c bus address => do
      bailIf (bus == "") s!"collector '{c.name}': I2C bus path must not be empty"
      bailIf (address < 0x03 || 0x77 < address)
        s!"collector '{c.name}': I2C address must be 0x03-0x77, got {hexPrefixed 4 address.toNat}"
  | .spi device speedHz mode bitsPerWord => do
      bailIf (device == "") s!"collector '{c.name}': SPI device path must not be empty"
      bailIf (speedHz == 0) s!"collector '{c.name}': SPI speed_hz must be > 0"
      bailIf (3 < mode) s!"collector '{c.name}': SPI mode must be 0-3, got {mode}"
      bailIf (bitsPerWord == 0 || 32 < bitsPerWord)
        s!"collector '{c.name}': SPI bits_per_word must be 1-32, got {bitsPerWord}"
  | .i3c bus pid address deviceClass instance_ => do
      bailIf (bus == "") s!"collector '{c.name}': I3C bus path must not be empty"
      bailIf c.slaveId.isSome s!"collector '{c.name}': slave_id is not used for I3C protocol"
      let modeCount := pid.isSome.toNat + address.isSome.toNat +
        (deviceClass.isSome || instance_.isSome).toNat
      bailIf (modeCount != 1)
        s!"collector '{c.name}': exactly one address mode must be set (pid, address, or device_class+instance)"
      bailIf (deviceClass.isSome != instance_.isSome)
        s!"collector '{c.name}': device_class requires instance (and vice versa)"
      forSome (fun addr =>
        bailIf (addr < 0x08 || 0x3D < addr)
          s!"collector '{c.name}': I3C address must be 0x08-0x3D, got {hexPrefixed 4 addr.toNat}") address
      forSome (fun pidStr =>
        bailIf (!validPid pidStr)
          s!"collector '{c.name}': PID must be a valid 48-bit hex string (e.g., \"0x0123456789AB\"), got \"{pidStr}\"") pid

/-! ## Write steps -/

def validateSpiStep (label : String) (step : WriteStep) : Except String Unit := do
  bailIf (step.address.isSome || step.value.isSome)
    s!"{label}: address/value fields are not valid for SPI write steps (use command)"
  bailIf (step.command.isNone && step.delay.isNone)
    s!"{label}: step must have at least one of command or delay"
  bailIf (step.command.any (·.isEmpty)) s!"{label}: command must contain at least one byte"

def emptyMulti : ByteValue → Bool
  | .multi v => v.isEmpty
  | .single _ => false

def validateRegisterStep (label : String) (step : WriteStep) : Except String Unit := do
  bailIf step.command.isSome
    s!"{label}: command field is not valid for I2C/I3C write steps (use address/value)"
  bailIf (step.address.isSome != step.value.isSome)
    s!"{label}: address and value must both be specified together"
  bailIf (step.address.isNone && step.delay.isNone)
    s!"{label}: step must have at least one of address+value or delay"
  bailIf (step.value.any emptyMulti) s!"{label}: value must contain at least one byte"

def validateStep (isSpi : Bool) (label : String) (step : WriteStep) : Except String Unit := do
  if isSpi then validateSpiStep label step else validateRegisterStep label step
  forSome (fun delay =>
    bailIf (Duration.fromSecs 10 < delay)
      s!"{label}: delay must be ≤ 10s, got {Duration.debug delay}") step.delay

def validateWrites (c : CollectorConfig) : Except String Unit := do
  bailIf (c.protocol.isModbus && (!c.initWrites.isEmpty || !c.prePoll.isEmpty))
    s!"collector '{c.name}': init_writes and pre_poll are not supported for Modbus protocols"
  forEach (fun (writes : String × List WriteStep) =>
      forEach (fun (step : WriteStep × Nat) =>
          validateStep c.protocol.isSpi s!"collector '{c.name}', {writes.1}[{step.2}]" step.1)
        writes.2.zipIdx)
    [("init_writes", c.initWrites), ("pre_poll", c.prePoll)]

/-! ## Metrics -/

def isBit (registerType : RegisterType) : Bool := registerType == .coil || registerType == .discrete

def isMidEndian (byteOrder : ByteOrder) : Bool :=
  byteOrder == .midBigEndian || byteOrder == .midLittleEndian

def validateModbusMetric (label : String) (m : MetricConfig) : Except String Unit := do
  let registerType := m.registerType.getD .holding
  bailIf (isBit registerType && m.dataType != .bool)
    s!"{label}: coil/discrete register must use data_type bool"
  bailIf (m.dataType == .bool && !isBit registerType)
    s!"{label}: bool data_type must use coil or discrete register"
  bailIf (m.metricType == .counter && isBit registerType)
    s!"{label}: coil/discrete registers only support gauge metric type"
  bailIf m.registerType.isNone s!"{label}: register_type is required for Modbus protocols"
  bailIf (m.dataType == .u8)
    s!"{label}: data_type u8 is not supported for Modbus protocols (minimum register size is 16-bit)"

/-- I2C and I3C differ in the bus name of their messages only. The source unwraps the address here,
after the check that it is present. -/
def validateRegisterMetric (bus label : String) (m : MetricConfig) : Except String Unit := do
  bailIf (m.address.any (0xFF < ·))
    s!"{label}: {bus} register address {hexPrefixed 6 (m.address.getD 0).toNat} exceeds u8 range (max 0xFF)"
  bailIf (isMidEndian m.byteOrder)
    s!"{label}: mid-endian byte order is not supported for {bus} (Modbus-specific)"

def validateI2cMetric : String → MetricConfig → Except String Unit := validateRegisterMetric "I2C"

def validateI3cMetric : String → MetricConfig → Except String Unit := validateRegisterMetric "I3C"

def validateSpiMetric (label : String) (m : MetricConfig) : Except String Unit := do
  bailIf m.command.isEmpty s!"{label}: command is required for SPI metrics"
  bailIf (isMidEndian m.byteOrder)
    s!"{label}: mid-endian byte order is not supported for SPI (Modbus-specific)"
  let respLen := m.responseLength.getD (asU16 m.command.length)
  let dataBytes := asU16 m.dataType.byteSize
  bailIf (respLen < m.responseOffset + dataBytes)
    s!"{label}: response_offset ({m.responseOffset}) + data_type bytes ({dataBytes}) exceeds response_length ({respLen})"

def protocolLabel (p : Protocol) : String :=
  if p.isI2c then "I2C" else if p.isI3c then "I3C" else "Modbus"

def validateMetric (c : CollectorConfig) (m : MetricConfig) : Except String Unit := do
  let label := s!"collector '{c.name}', metric '{m.name}'"
  bailIf (!c.protocol.isSpi && m.address.isNone)
    s!"{label}: address is required for {protocolLabel c.protocol} protocol"
  onlyIf c.protocol.isModbus (validateModbusMetric label m)
  onlyIf c.protocol.isI2c (validateI2cMetric label m)
  onlyIf c.protocol.isSpi (validateSpiMetric label m)
  onlyIf c.protocol.isI3c (validateI3cMetric label m)
  bailIf (m.metricType == .counter && m.dataType == .bool)
    s!"{label}: counter metric type cannot be used with bool data_type"
  bailIf (m.scale == 0.0) s!"{label}: scale must not be 0.0"
  bailIf (c.protocol.isModbus && 65536 < (m.address.getD 0).toNat + m.dataType.registerCount.toNat)
    s!"{label}: address {m.address.getD 0} + {m.dataType.registerCount} registers exceeds 65535"

def validateCollector (c : CollectorConfig) : Except String Unit := do
  validateProtocol c
  bailIf (Duration.asMillis c.pollingInterval < 1)
    s!"collector '{c.name}': polling_interval must be at least 1ms, got {Duration.debug c.pollingInterval}"
  bailIf c.metrics.isEmpty s!"collector '{c.name}': at least one metric required"
  validateWrites c
  forEach (validateMetric c) c.metrics

def validateCollectors (cnames : List String) : List CollectorConfig → Except String Unit
  | [] => .ok ()
  | c :: rest => do
      bailIf (cnames.contains c.name) s!"duplicate collector name: {c.name}"
      validateCollector c
      validateCollectors (c.name :: cnames) rest

end Config

def Config.validate (config : Config) : Except String Unit := do
  Config.validateExporters config.exporters
  Config.bailIf config.collectors.isEmpty "at least one collector must be defined"
  Config.validateCollectors [] config.collectors

end BusExporter
