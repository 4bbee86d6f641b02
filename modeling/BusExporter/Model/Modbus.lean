import BusExporter.Model.Batch

/-! The Modbus readers (`reader/modbus/tcp.rs`, `rtu.rs`) over the client library, which is a
parameter: its contexts `κ`, and a state `ω` of the network, the serial ports and the devices. -/

namespace BusExporter.Modbus
open Lib Config

inductive Request
  | holdingRegisters (addr count : UInt16)
  | inputRegisters (addr count : UInt16)
  | coils (addr count : UInt16)
  | discreteInputs (addr count : UInt16)
deriving DecidableEq

abbrev Request.Response : Request → Type
  | .holdingRegisters .. | .inputRegisters .. => List UInt16
  | .coils .. | .discreteInputs .. => List Bool

inductive Reply (α : Type)
  | timedOut
  | transportError (text : String)
  | protocolError (text : String)
  | exception (text : String)
  | data (value : α)

structure SerialPortBuilder where
  device : String
  bps : UInt32
  dataBits : Nat
  stopBits : Nat
  parity : Parity
deriving DecidableEq

structure TokioModbus (κ ω : Type) where
  lookupHost : String → ω → Result (List String) × ω
  connectSlave : (address : String) → (slave : UInt8) → ω → Result κ × ω
  attachSlave : SerialPortBuilder → (slave : UInt8) → ω → Result κ × ω
  call : (request : Request) → κ → ω → Reply request.Response × κ × ω

inductive Transport
  | tcp (endpoint : String)
  | rtu (builder : SerialPortBuilder)
deriving DecidableEq

/-- The TCP and the RTU reader differ in their transport and in what their messages name. -/
structure ModbusMetricReader (κ : Type) where
  transport : Transport
  slaveId : UInt8
  context : Option κ := none
  metrics : List MetricConfig := []

variable {κ ω : Type}

def ModbusTcpMetricReader.new (endpoint : String) (slaveId : UInt8) : ModbusMetricReader κ :=
  { transport := .tcp endpoint, slaveId }

def ModbusRtuMetricReader.new (builder : SerialPortBuilder) (slaveId : UInt8) : ModbusMetricReader κ :=
  { transport := .rtu builder, slaveId }

namespace ModbusMetricReader

def place (reader : ModbusMetricReader κ) : String :=
  match reader.transport with
  | .tcp endpoint => s!"endpoint={endpoint}, slave={reader.slaveId}"
  | .rtu _ => s!"slave={reader.slaveId}"

variable (lib : TokioModbus κ ω)

def connectTcp (endpoint : String) (slaveId : UInt8) (w : ω) : Result κ × ω :=
  match lib.lookupHost endpoint w with
  | (.error e, w) => (.error (e.context s!"failed to resolve endpoint '{endpoint}'"), w)
  | (.ok [], w) => (.error ⟨s!"no addresses found for endpoint '{endpoint}'", []⟩, w)
  | (.ok (address :: _), w) =>
      let (ctx, w) := lib.connectSlave address slaveId w
      (ctx.mapError (·.context s!"failed to connect to {endpoint} (slave={slaveId})"), w)

def connectRtu (builder : SerialPortBuilder) (slaveId : UInt8) (w : ω) : Result κ × ω :=
  let (ctx, w) := lib.attachSlave builder slaveId w
  (ctx.mapError (·.context s!"failed to open serial port (slave={slaveId})"), w)

/-- A connection still there is closed first, also where the new one then fails. -/
def connect (s : ModbusMetricReader κ × ω) : Result Unit × (ModbusMetricReader κ × ω) :=
  let (ctx, w) := match s.1.transport with
    | .tcp endpoint => connectTcp lib endpoint s.1.slaveId s.2
    | .rtu builder => connectRtu lib builder s.1.slaveId s.2
  match ctx with
  | .ok ctx => (.ok (), { s.1 with context := some ctx }, w)
  | .error e => (.error e, { s.1 with context := none }, w)

def disconnect (s : ModbusMetricReader κ × ω) : Result Unit × (ModbusMetricReader κ × ω) :=
  (.ok (), { s.1 with context := none }, s.2)

def answer {α : Type} (label args : String) : Reply α → Result α
  | .timedOut => .error ⟨s!"{label} timed out ({args})", ["deadline has elapsed"]⟩
  | .transportError text | .protocolError text => .error ⟨s!"{label} failed ({args})", [text]⟩
  | .exception text => .error ⟨s!"{label} empty response ({args})", [text]⟩
  | .data value => .ok value

/-- What the four read methods share: the count check, the context, and the library call. An error
leaves the context in place. -/
def request (label : String) (addr count : UInt16) (check : Result Unit) (request : Request)
    (s : ModbusMetricReader κ × ω) : Result request.Response × (ModbusMetricReader κ × ω) :=
  match check with
  | .error e => (.error e, s)
  | .ok () =>
      match s.1.context with
      | none => (.error ⟨s!"not connected ({s.1.place})", []⟩, s)
      | some ctx =>
          let (reply, ctx, w) := lib.call request ctx s.2
          (answer label s!"addr={addr}, count={count}, {s.1.place}" reply,
            { s.1 with context := some ctx }, w)

def modbusReader : ModbusReader (ModbusMetricReader κ × ω) where
  readHoldingRegisters addr count :=
    request lib "read_holding_registers" addr count (validateRegisterCount count)
      (.holdingRegisters addr count)
  readInputRegisters addr count :=
    request lib "read_input_registers" addr count (validateRegisterCount count)
      (.inputRegisters addr count)
  readCoils addr count :=
    request lib "read_coils" addr count (validateCoilCount count) (.coils addr count)
  readDiscreteInputs addr count :=
    request lib "read_discrete_inputs" addr count (validateCoilCount count) (.discreteInputs addr count)

def collectResults (results : List (MetricConfig × Outcome)) : HashMap String Outcome :=
  results.foldl (fun map r => map.insert r.1.name r.2) ∅

def metricReader : MetricReader (ModbusMetricReader κ × ω) where
  setMetrics metrics s := ({ s.1 with metrics }, s.2)
  connect := connect lib
  disconnect := disconnect
  isConnected s := s.1.context.isSome
  read _ s :=
    let (batch, s) := batchReadCoalesced (modbusReader lib) s.1.metrics s
    .ok ({ metrics := collectResults batch.results, ioCount := batch.readCount }, s)

end ModbusMetricReader
end BusExporter.Modbus
