import BusExporter.Model.Deserialize
import BusExporter.Model.ShowConfig
import BusExporter.Proof.Resolved

/-! What show-config prints is a configuration, and loading it gives the one that was shown but for the
password and the names of the metrics files. -/

namespace BusExporter
open Lib Serde Config

namespace Config

-- the names of the metrics files are not printed
def CollectorConfig.reread (labelsOrder : RandomState) (c : CollectorConfig) : CollectorConfig :=
  { c with labels := c.labels.rebuilt labelsOrder, metricsFiles := none }

def OtlpExporterConfig.reread (headersOrder : RandomState) (otlp : OtlpExporterConfig) : OtlpExporterConfig :=
  { otlp with headers := otlp.headers.rebuilt headersOrder }

def MqttAuthConfig.reread (auth : MqttAuthConfig) : MqttAuthConfig := { auth with password := "***" }

def MqttExporterConfig.reread (mqtt : MqttExporterConfig) : MqttExporterConfig :=
  { mqtt with auth := mqtt.auth.map MqttAuthConfig.reread }

def ExportersConfig.reread (headersOrder : RandomState) (exporters : ExportersConfig) : ExportersConfig :=
  { exporters with
    otlp := exporters.otlp.map (OtlpExporterConfig.reread headersOrder)
    mqtt := exporters.mqtt.map MqttExporterConfig.reread }

def reread (orders : WalkOrders) (config : Config) : Config :=
  { config with
    globalLabels := config.globalLabels.rebuilt orders.globalLabels
    exporters := config.exporters.reread orders.headers
    collectors := config.collectors.zipIdx.map fun (c, place) => c.reread (orders.labels place) }

theorem str_reads (s : String) : Reads readStr (serializeStr s) s := ⟨.str s, rfl, rfl⟩

theorem u8_reads (n : UInt8) : Reads deserializeU8 (serializeU8 n) n := by
  refine ⟨.unsigned n.toNat, rfl, ?_⟩
  rw [deserializeU8, readNat, if_pos n.toNat_lt, Option.map_some, UInt8.ofNat_toNat]

theorem u16_reads (n : UInt16) : Reads deserializeU16 (serializeU16 n) n := by
  refine ⟨.unsigned n.toNat, rfl, ?_⟩
  rw [deserializeU16, readNat, if_pos n.toNat_lt, Option.map_some, UInt16.ofNat_toNat]

theorem u32_reads (n : UInt32) : Reads deserializeU32 (serializeU32 n) n := by
  refine ⟨.unsigned n.toNat, rfl, ?_⟩
  rw [deserializeU32, readNat, if_pos n.toNat_lt, Option.map_some, UInt32.ofNat_toNat]

theorem bytes_reads (bytes : List UInt8) : Reads deserializeBytes (serializeBytes bytes) bytes :=
  Reads.kept_seq u8_reads bytes

theorem foldlM_insertString (entries : List (Σ _ : String, String)) (m : HashMap String String) :
    (entries.map fun e => (e.1, Document.str e.2)).foldlM insertString m =
      some (entries.foldl (fun m e => m.insert e.1 e.2) m) := by
  induction entries generalizing m with
  | nil => rfl
  | cons e entries ih =>
      rw [List.map_cons, List.foldlM_cons, List.foldl_cons, ← ih]
      rfl

theorem strings_reads (order : RandomState) (m : HashMap String String) :
    Reads deserializeStrings (serializeStrings order m) (m.rebuilt order) := by
  refine ⟨.map ((m.iter order).map fun e => (e.1, .str e.2)), ?_, ?_⟩
  · rw [Document.calls_map, List.map_map]
    rfl
  · rw [deserializeStrings, foldlM_insertString]
    rfl

theorem LogLevel.reads (level : LogLevel) : Reads LogLevel.deserialize level.serialize level := by
  cases level <;> exact ⟨.str _, rfl, rfl⟩

theorem LogOutput.reads (output : LogOutput) : Reads LogOutput.deserialize output.serialize output := by
  cases output <;> exact ⟨.str _, rfl, rfl⟩

theorem SyslogFacility.reads (facility : SyslogFacility) :
    Reads SyslogFacility.deserialize facility.serialize facility := by
  cases facility <;> exact ⟨.str _, rfl, rfl⟩

theorem Parity.reads (parity : Parity) : Reads Parity.deserialize parity.serialize parity := by
  cases parity <;> exact ⟨.str _, rfl, rfl⟩

theorem MetricType.reads (metricType : MetricType) :
    Reads MetricType.deserialize metricType.serialize metricType := by
  cases metricType <;> exact ⟨.str _, rfl, rfl⟩

theorem RegisterType.reads (registerType : RegisterType) :
    Reads RegisterType.deserialize registerType.serialize registerType := by
  cases registerType <;> exact ⟨.str _, rfl, rfl⟩

theorem DataType.reads (dataType : DataType) : Reads DataType.deserialize dataType.serialize dataType := by
  cases dataType <;> exact ⟨.str _, rfl, rfl⟩

theorem ByteOrder.reads (byteOrder : ByteOrder) : Reads ByteOrder.deserialize byteOrder.serialize byteOrder := by
  cases byteOrder <;> exact ⟨.str _, rfl, rfl⟩

theorem ByteValue.reads (value : ByteValue) : Reads ByteValue.deserialize value.serialize value := by
  cases value with
  | single byte =>
      have small : ¬byte.toNat > 255 := Nat.not_lt.mpr (Nat.le_of_lt_succ byte.toNat_lt)
      refine ⟨.unsigned byte.toNat, rfl, ?_⟩
      rw [ByteValue.deserialize, if_neg small, UInt8.ofNat_toNat]
  | multi bytes =>
      obtain ⟨document, calls, done⟩ := bytes_reads bytes
      refine ⟨document, calls, ?_⟩
      cases document with
      | seq items =>
          rw [deserializeBytes, readSeq] at done
          rw [ByteValue.deserialize, done, Option.map_some]
      | _ => cases done

theorem LoggingConfig.reads (logging : LoggingConfig) :
    Reads LoggingConfig.deserialize logging.serialize logging := by
  obtain ⟨level, levelCalls, levelRead⟩ := logging.level.reads
  obtain ⟨output, outputCalls, outputRead⟩ := logging.output.reads
  obtain ⟨facility, facilityCalls, facilityRead⟩ := logging.syslogFacility.reads
  refine ⟨.map (Document.present
    [("level", some level), ("output", some output), ("syslog_facility", some facility)]), ?_, ?_⟩
  · rw [Document.calls_present, LoggingConfig.serialize, ← levelCalls, ← outputCalls, ← facilityCalls]
    rfl
  · exact reading (readStruct_present rfl (by decide))
      (reading levelRead (reading outputRead (reading facilityRead rfl)))

theorem Protocol.reads (protocol : Protocol) : Reads Protocol.deserialize protocol.serialize protocol := by
  cases protocol with
  | modbusTcp endpoint =>
      refine ⟨.map (Document.present [("type", some (.str "modbus-tcp")), ("endpoint", some (.str endpoint))]), ?_, ?_⟩
      · rw [Document.calls_present]
        rfl
      · exact reading (readTag_present "modbus-tcp" (by simp)) (reading (readFields_present rfl (by decide)) rfl)
  | modbusRtu device bps dataBits stopBits parity =>
      obtain ⟨bps', bpsCalls, bpsRead⟩ := u32_reads bps
      obtain ⟨data, dataCalls, dataRead⟩ := u8_reads dataBits
      obtain ⟨stop, stopCalls, stopRead⟩ := u8_reads stopBits
      obtain ⟨parity', parityCalls, parityRead⟩ := parity.reads
      refine ⟨.map (Document.present
        [("type", some (.str "modbus-rtu")), ("device", some (.str device)), ("bps", some bps'),
          ("data_bits", some data), ("stop_bits", some stop), ("parity", some parity')]), ?_, ?_⟩
      · rw [Document.calls_present, Protocol.serialize, ← bpsCalls, ← dataCalls, ← stopCalls, ← parityCalls]
        rfl
      · exact reading (readTag_present "modbus-rtu" (by simp)) (reading (readFields_present rfl (by decide))
          (reading rfl (reading bpsRead (reading dataRead (reading stopRead (reading parityRead rfl))))))
  | i2c bus address =>
      obtain ⟨address', addressCalls, addressRead⟩ := u8_reads address
      refine ⟨.map (Document.present
        [("type", some (.str "i2c")), ("bus", some (.str bus)), ("address", some address')]), ?_, ?_⟩
      · rw [Document.calls_present, Protocol.serialize, ← addressCalls]
        rfl
      · exact reading (readTag_present "i2c" (by simp)) (reading (readFields_present rfl (by decide))
          (reading rfl (reading addressRead rfl)))
  | spi device speedHz mode bitsPerWord =>
      obtain ⟨speed, speedCalls, speedRead⟩ := u32_reads speedHz
      obtain ⟨mode', modeCalls, modeRead⟩ := u8_reads mode
      obtain ⟨bits, bitsCalls, bitsRead⟩ := u8_reads bitsPerWord
      refine ⟨.map (Document.present
        [("type", some (.str "spi")), ("device", some (.str device)), ("speed_hz", some speed), ("mode", some mode'),
          ("bits_per_word", some bits)]), ?_, ?_⟩
      · rw [Document.calls_present, Protocol.serialize, ← speedCalls, ← modeCalls, ← bitsCalls]
        rfl
      · exact reading (readTag_present "spi" (by simp)) (reading (readFields_present rfl (by decide))
          (reading rfl (reading speedRead (reading modeRead (reading bitsRead rfl)))))
  | i3c bus pid address deviceClass instance_ =>
      obtain ⟨pid', pidCalls, pidRead⟩ := Reads.kept_option str_reads pid
      obtain ⟨address', addressCalls, addressRead⟩ := Reads.kept_option u8_reads address
      obtain ⟨deviceClass', classCalls, classRead⟩ := Reads.kept_option str_reads deviceClass
      obtain ⟨instance', instanceCalls, instanceRead⟩ := Reads.kept_option u8_reads instance_
      refine ⟨.map (Document.present
        [("type", some (.str "i3c")), ("bus", some (.str bus)), ("pid", pid'), ("address", address'),
          ("device_class", deviceClass'), ("instance", instance')]), ?_, ?_⟩
      · rw [Document.calls_present, Protocol.serialize, ← pidCalls, ← addressCalls, ← classCalls, ← instanceCalls]
        simp only [List.flatMap_cons, List.flatMap_nil, List.append_nil, List.append_assoc]
        rfl
      · exact reading (readTag_present "i3c" (by simp)) (reading (readFields_present rfl (by decide))
          (reading rfl (reading pidRead (reading addressRead (reading classRead (reading instanceRead rfl))))))

theorem MetricConfig.reads (m : MetricConfig) : Reads MetricConfig.deserialize m.serialize m := by
  obtain ⟨metricType, typeCalls, typeRead⟩ := m.metricType.reads
  obtain ⟨registerType, registerCalls, registerRead⟩ := Reads.kept_option RegisterType.reads m.registerType
  obtain ⟨address, addressCalls, addressRead⟩ := Reads.kept_option u16_reads m.address
  obtain ⟨dataType, dataCalls, dataRead⟩ := m.dataType.reads
  obtain ⟨byteOrder, orderCalls, orderRead⟩ := m.byteOrder.reads
  obtain ⟨command, commandCalls, commandRead⟩ := bytes_reads m.command
  obtain ⟨length, lengthCalls, lengthRead⟩ := Reads.kept_option u16_reads m.responseLength
  obtain ⟨offset, offsetCalls, offsetRead⟩ := u16_reads m.responseOffset
  refine ⟨.map (Document.present
    [("name", some (.str m.name)), ("description", some (.str m.description)), ("type", some metricType),
      ("register_type", registerType), ("address", address), ("data_type", some dataType),
      ("byte_order", some byteOrder), ("scale", some (.float m.scale)), ("offset", some (.float m.offset)),
      ("unit", some (.str m.unit)), ("command", some command), ("response_length", length),
      ("response_offset", some offset)]), ?_, ?_⟩
  · rw [Document.calls_present, MetricConfig.serialize, ← typeCalls, ← registerCalls, ← addressCalls, ← dataCalls,
      ← orderCalls, ← commandCalls, ← lengthCalls, ← offsetCalls]
    simp only [List.flatMap_cons, List.flatMap_nil, List.append_nil, List.append_assoc]
    rfl
  · exact reading (readStruct_present rfl (by decide)) (reading rfl (reading rfl (reading typeRead
      (reading registerRead (reading addressRead (reading dataRead (reading orderRead (reading rfl (reading rfl
        (reading rfl (reading commandRead (reading lengthRead (reading offsetRead rfl)))))))))))))

theorem PrometheusExporterConfig.reads (prometheus : PrometheusExporterConfig) :
    Reads PrometheusExporterConfig.deserialize prometheus.serialize prometheus := by
  refine ⟨.map (Document.present
    [("enabled", some (.bool prometheus.enabled)), ("listen", some (.str prometheus.listen)),
      ("path", some (.str prometheus.path))]), ?_, ?_⟩
  · rw [Document.calls_present]
    rfl
  · exact reading (readStruct_present rfl (by decide)) rfl

theorem MqttTlsConfig.reads (tls : MqttTlsConfig) : Reads MqttTlsConfig.deserialize tls.serialize tls := by
  obtain ⟨caCert, caCalls, caRead⟩ := Reads.kept_option str_reads tls.caCert
  obtain ⟨clientCert, certCalls, certRead⟩ := Reads.kept_option str_reads tls.clientCert
  obtain ⟨clientKey, keyCalls, keyRead⟩ := Reads.kept_option str_reads tls.clientKey
  refine ⟨.map (Document.present
    [("ca_cert", caCert), ("client_cert", clientCert), ("client_key", clientKey),
      ("insecure", some (.bool tls.insecure))]), ?_, ?_⟩
  · rw [Document.calls_present, MqttTlsConfig.serialize, ← caCalls, ← certCalls, ← keyCalls]
    simp only [List.flatMap_cons, List.flatMap_nil, List.append_nil, List.append_assoc]
    rfl
  · exact reading (readStruct_present rfl (by decide)) (reading caRead (reading certRead (reading keyRead rfl)))

theorem MqttAuthConfig.reads (auth : MqttAuthConfig) :
    Reads MqttAuthConfig.deserialize auth.serialize auth.reread := by
  refine ⟨.map (Document.present [("username", some (.str auth.username)), ("password", some (.str "***"))]), ?_, ?_⟩
  · rw [Document.calls_present]
    rfl
  · exact reading (readStruct_present rfl (by decide)) rfl

section Durations
variable {serializers : Serializers} {parseDuration : String → Option Duration}
  (durations : ∀ d, parseDuration (serializers.formatDuration d) = some d)
include durations

theorem duration_reads (d : Duration) :
    Reads (deserializeDuration parseDuration) (serializeDuration serializers d) d :=
  ⟨.str (serializers.formatDuration d), rfl, durations d⟩

theorem WriteStep.reads (step : WriteStep) :
    Reads (WriteStep.deserialize parseDuration) (step.serialize serializers) step := by
  obtain ⟨address, addressCalls, addressRead⟩ := Reads.kept_option u8_reads step.address
  obtain ⟨value, valueCalls, valueRead⟩ := Reads.kept_option ByteValue.reads step.value
  obtain ⟨command, commandCalls, commandRead⟩ := Reads.kept_option bytes_reads step.command
  obtain ⟨delay, delayCalls, delayRead⟩ := Reads.kept_option (duration_reads durations) step.delay
  refine ⟨.map (Document.present
    [("address", address), ("value", value), ("command", command), ("delay", delay)]), ?_, ?_⟩
  · rw [Document.calls_present, WriteStep.serialize, ← addressCalls, ← valueCalls, ← commandCalls, ← delayCalls]
    simp only [List.flatMap_cons, List.flatMap_nil, List.append_nil, List.append_assoc]
  · exact reading (readStruct_present rfl (by decide))
      (reading addressRead (reading valueRead (reading commandRead (reading delayRead rfl))))

theorem CollectorConfig.reads (order : RandomState) (c : CollectorConfig) :
    Reads (CollectorConfig.deserialize parseDuration) (c.serialize serializers order) (c.reread order) := by
  obtain ⟨protocol, protocolCalls, protocolRead⟩ := c.protocol.reads
  obtain ⟨slaveId, slaveCalls, slaveRead⟩ := Reads.kept_option u8_reads c.slaveId
  obtain ⟨interval, intervalCalls, intervalRead⟩ := duration_reads durations c.pollingInterval
  obtain ⟨initWrites, initCalls, initRead⟩ := Reads.kept_seq (WriteStep.reads durations) c.initWrites
  obtain ⟨prePoll, prePollCalls, prePollRead⟩ := Reads.kept_seq (WriteStep.reads durations) c.prePoll
  obtain ⟨labels, labelsCalls, labelsRead⟩ := strings_reads order c.labels
  obtain ⟨metrics, metricsCalls, metricsRead⟩ := Reads.kept_seq MetricConfig.reads c.metrics
  refine ⟨.map (Document.present
    [("name", some (.str c.name)), ("protocol", some protocol), ("slave_id", slaveId),
      ("polling_interval", some interval), ("init_writes", some initWrites), ("pre_poll", some prePoll),
      ("labels", some labels), ("metrics_files", none), ("metrics", some metrics)]), ?_, ?_⟩
  · rw [Document.calls_present, CollectorConfig.serialize, ← protocolCalls, ← slaveCalls, ← intervalCalls,
      ← initCalls, ← prePollCalls, ← labelsCalls, ← metricsCalls]
    simp only [List.flatMap_cons, List.flatMap_nil, List.append_nil, List.append_assoc]
    rfl
  · exact reading (readStruct_present rfl (by decide)) (reading rfl (reading protocolRead (reading slaveRead
      (reading intervalRead (reading initRead (reading prePollRead (reading labelsRead (reading rfl
        (reading metricsRead rfl)))))))))

theorem OtlpExporterConfig.reads (order : RandomState) (otlp : OtlpExporterConfig) :
    Reads (OtlpExporterConfig.deserialize parseDuration) (otlp.serialize serializers order) (otlp.reread order) := by
  obtain ⟨endpoint, endpointCalls, endpointRead⟩ := Reads.kept_option str_reads otlp.endpoint
  obtain ⟨timeout, timeoutCalls, timeoutRead⟩ := duration_reads durations otlp.timeout
  obtain ⟨interval, intervalCalls, intervalRead⟩ := duration_reads durations otlp.interval
  obtain ⟨headers, headersCalls, headersRead⟩ := strings_reads order otlp.headers
  refine ⟨.map (Document.present
    [("enabled", some (.bool otlp.enabled)), ("endpoint", endpoint), ("timeout", some timeout),
      ("interval", some interval), ("headers", some headers)]), ?_, ?_⟩
  · rw [Document.calls_present, OtlpExporterConfig.serialize, ← endpointCalls, ← timeoutCalls, ← intervalCalls,
      ← headersCalls]
    simp only [List.flatMap_cons, List.flatMap_nil, List.append_nil, List.append_assoc]
    rfl
  · exact reading (readStruct_present rfl (by decide)) (reading rfl (reading endpointRead (reading timeoutRead
      (reading intervalRead (reading headersRead rfl)))))

theorem MqttExporterConfig.reads (mqtt : MqttExporterConfig) :
    Reads (MqttExporterConfig.deserialize parseDuration) (mqtt.serialize serializers) mqtt.reread := by
  obtain ⟨endpoint, endpointCalls, endpointRead⟩ := Reads.kept_option str_reads mqtt.endpoint
  obtain ⟨clientId, clientCalls, clientRead⟩ := Reads.kept_option str_reads mqtt.clientId
  obtain ⟨auth, authCalls, authRead⟩ := Reads.option (o := mqtt.auth) fun auth _ => auth.reads
  obtain ⟨tls, tlsCalls, tlsRead⟩ := Reads.kept_option MqttTlsConfig.reads mqtt.tls
  obtain ⟨qos, qosCalls, qosRead⟩ := u8_reads mqtt.qos
  obtain ⟨interval, intervalCalls, intervalRead⟩ := duration_reads durations mqtt.interval
  obtain ⟨timeout, timeoutCalls, timeoutRead⟩ := duration_reads durations mqtt.timeout
  refine ⟨.map (Document.present
    [("enabled", some (.bool mqtt.enabled)), ("endpoint", endpoint), ("client_id", clientId),
      ("topic_prefix", some (.str mqtt.topicPrefix)), ("auth", auth), ("tls", tls), ("qos", some qos),
      ("retain", some (.bool mqtt.retain)), ("interval", some interval), ("timeout", some timeout)]), ?_, ?_⟩
  · rw [Document.calls_present, MqttExporterConfig.serialize, ← endpointCalls, ← clientCalls, ← authCalls, ← tlsCalls,
      ← qosCalls, ← intervalCalls, ← timeoutCalls]
    simp only [List.flatMap_cons, List.flatMap_nil, List.append_nil, List.append_assoc]
    rfl
  · exact reading (readStruct_present rfl (by decide)) (reading rfl (reading endpointRead (reading clientRead
      (reading rfl (reading authRead (reading tlsRead (reading qosRead (reading rfl (reading intervalRead
        (reading timeoutRead rfl))))))))))

theorem ExportersConfig.reads (order : RandomState) (exporters : ExportersConfig) :
    Reads (ExportersConfig.deserialize parseDuration) (exporters.serialize serializers order)
      (exporters.reread order) := by
  obtain ⟨otlp, otlpCalls, otlpRead⟩ :=
    Reads.option (o := exporters.otlp) fun otlp _ => otlp.reads durations order
  obtain ⟨prometheus, prometheusCalls, prometheusRead⟩ :=
    Reads.kept_option PrometheusExporterConfig.reads exporters.prometheus
  obtain ⟨mqtt, mqttCalls, mqttRead⟩ := Reads.option (o := exporters.mqtt) fun mqtt _ => mqtt.reads durations
  refine ⟨.map (Document.present [("otlp", otlp), ("prometheus", prometheus), ("mqtt", mqtt)]), ?_, ?_⟩
  · rw [Document.calls_present, ExportersConfig.serialize, ← otlpCalls, ← prometheusCalls, ← mqttCalls]
    simp only [List.flatMap_cons, List.flatMap_nil, List.append_nil, List.append_assoc]
  · exact reading (readStruct_present rfl (by decide))
      (reading otlpRead (reading prometheusRead (reading mqttRead rfl)))

theorem reads (orders : WalkOrders) (config : Config) :
    Reads (Config.deserialize parseDuration) (config.serialize serializers orders) (config.reread orders) := by
  obtain ⟨globalLabels, labelsCalls, labelsRead⟩ := strings_reads orders.globalLabels config.globalLabels
  obtain ⟨logging, loggingCalls, loggingRead⟩ := config.logging.reads
  obtain ⟨exporters, exportersCalls, exportersRead⟩ := config.exporters.reads durations orders.headers
  have each : ∀ c ∈ config.collectors.zipIdx, Reads (CollectorConfig.deserialize parseDuration)
      (c.1.serialize serializers (orders.labels c.2)) (c.1.reread (orders.labels c.2)) :=
    fun c _ => c.1.reads durations (orders.labels c.2)
  obtain ⟨collectors, collectorsCalls, collectorsRead⟩ := Reads.seq each
  refine ⟨.map (Document.present
    [("global_labels", some globalLabels), ("logging", some logging), ("exporters", some exporters),
      ("collectors", some collectors)]), ?_, ?_⟩
  · rw [Document.calls_present, Config.serialize, ← labelsCalls, ← loggingCalls, ← exportersCalls]
    simp only [List.flatMap_cons, List.flatMap_nil, Serde.optional, collectorsCalls]
    rfl
  · exact reading (readStruct_present rfl (by decide)) (reading labelsRead (reading loggingRead
      (reading exportersRead (reading collectorsRead rfl))))

end Durations
end Config
end BusExporter
