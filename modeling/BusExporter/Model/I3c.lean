import BusExporter.Model.Decoder
import BusExporter.Model.Host
import BusExporter.Model.I2c

/-! The I3C reader and writer (`reader/i3c/mod.rs`), with address resolution and the retry on
transfer errors. -/

namespace BusExporter.I3c
open Lib Config

structure I3cDevice (ω : Type) where
  writeRead : UInt8 → List UInt8 → Nat → ω → Result (List UInt8) × ω

namespace LinuxI3cDevice
variable {ω : Type} (host : Host ω)

/-- The address is not part of the transfer that is submitted. -/
def opened (busPath : String) : I3cDevice ω where
  writeRead _address writeBuf readLen w :=
    let (data, w) := withContext "I3C private transfer ioctl failed"
      (host.transferI3c busPath writeBuf readLen w)
    (data.map List.ofFn, w)

def open_ (busPath : String) (w : ω) : Result (I3cDevice ω) × ω :=
  match withContext s!"opening I3C bus {busPath}" (host.openI3c busPath w) with
  | (.error e, w) => (.error e, w)
  | (.ok (), w) => (.ok (opened host busPath), w)

end LinuxI3cDevice

inductive I3cErrorKind
  | transferError
  | other
deriving DecidableEq

def containsText (text pattern : String) : Bool :=
  text.toList.tails.any (pattern.toList.isPrefixOf ·)

def classifyError (err : Error) : I3cErrorKind :=
  let msg := err.chain.toLower
  if ["nack", "transfer", "i/o error", "io error", "connection reset", "remote i/o"].any
      (containsText msg) then .transferError
  else .other

inductive AddressMode
  | pid (pid : String)
  | static (addr : UInt8)
  | deviceClass (class_ : String) (instance_ : UInt8)
deriving DecidableEq

def AddressMode.isStatic : AddressMode → Bool
  | .static _ => true
  | _ => false

def removeHexPrefixes : List Char → List Char
  | '0' :: 'x' :: rest => removeHexPrefixes rest
  | c :: rest => c :: removeHexPrefixes rest
  | [] => []

def normalizePid (pid : String) : List Char := removeHexPrefixes pid.toLower.toList

def trim (text : String) : String := text.trimAscii.toString

def parseAddress (text : String) : Result UInt8 :=
  let digits := trimStartMatches ['0', 'x'] (trim text).toList
  match fromStrRadix 16 255 digits with
  | some n => .ok (UInt8.ofNat n)
  | none =>
      if digits.isEmpty then .error ⟨"cannot parse integer from empty string", []⟩
      else if (fromStrRadix 16 (16 ^ digits.length) digits).isSome then
        .error ⟨"number too large to fit in target type", []⟩
      else .error ⟨"invalid digit found in string", []⟩

def findPid (pid : String) : List (Result SysfsEntry) → Result UInt8
  | [] => .error ⟨s!"no I3C device found with PID {pid}", []⟩
  | .error e :: _ => .error e
  | .ok entry :: rest =>
      match entry.pid, entry.dynamicAddress with
      | .ok content, .ok text =>
          if normalizePid (trim content) = normalizePid pid then parseAddress text
          else findPid pid rest
      | _, _ => findPid pid rest

def matchingClass (class_ : String) : List (Result SysfsEntry) → Result (List SysfsEntry)
  | [] => .ok []
  | .error e :: _ => .error e
  | .ok entry :: rest => do
      let others ← matchingClass class_ rest
      match entry.dcr with
      | .ok content => .ok (if trim content = class_ then entry :: others else others)
      | .error _ => .ok others

def findClass (class_ : String) (instance_ : UInt8) (entries : List (Result SysfsEntry)) :
    Result UInt8 := do
  let found ← matchingClass class_ entries
  match (found.insertionSort fun a b => a.path ≤ b.path)[instance_.toNat]? with
  | none => .error ⟨s!"no I3C device found for class '{class_}' instance {instance_}", []⟩
  | some entry =>
      let text ← entry.dynamicAddress.mapError (·.context "reading dynamic_address")
      parseAddress text

def resolveAddressFromSysfs {ω : Type} (host : Host ω) (mode : AddressMode) (w : ω) :
    Result UInt8 × ω :=
  match withContext "enumerating I3C devices at /sys/bus/i3c/devices/" (host.readI3cSysfs w) with
  | (.error e, w) => (.error e, w)
  | (.ok entries, w) =>
      match mode with
      | .pid pid => (findPid pid entries, w)
      | .static addr => (.ok addr, w)
      | .deviceClass class_ instance_ => (findClass class_ instance_ entries, w)

structure I3cMetricReader (ω : Type) where
  device : I3cDevice ω
  busPath : String
  addressMode : AddressMode
  resolvedAddress : Option UInt8
  connected : Bool := false

variable {ω : Type}

namespace I3cMetricReader

def new (device : I3cDevice ω) (busPath : String) (mode : AddressMode) : I3cMetricReader ω :=
  { device, busPath, addressMode := mode
    resolvedAddress := match mode with
      | .static addr => some addr
      | _ => none }

def resolveAddress (host : Host ω) (s : I3cMetricReader ω × ω) :
    Result UInt8 × (I3cMetricReader ω × ω) :=
  match s.1.resolvedAddress with
  | some addr => (.ok addr, s)
  | none =>
      match resolveAddressFromSysfs host s.1.addressMode s.2 with
      | (.error e, w) => (.error e, s.1, w)
      | (.ok addr, w) => (.ok addr, { s.1 with resolvedAddress := some addr }, w)

def invalidateAddress (c : I3cMetricReader ω) : I3cMetricReader ω :=
  if c.addressMode.isStatic then c else { c with resolvedAddress := none }

def writeBytes (host : Host ω) (buf : List UInt8) (s : I3cMetricReader ω × ω) :
    Result Unit × (I3cMetricReader ω × ω) :=
  match resolveAddress host s with
  | (.error e, s) => (.error e, s)
  | (.ok addr, c, w) =>
      let (data, w) := withContext "I3C write_bytes" (c.device.writeRead addr buf 0 w)
      (data.map fun _ => (), c, w)

def backoffs : List Duration := [100000000, 500000000, 2000000000]

def retryRead (host : Host ω) (register : UInt8) (byteCount : Nat) :
    List Duration → Error → I3cMetricReader ω × ω → Result (List UInt8) × (I3cMetricReader ω × ω)
  | [], lastErr, s =>
      (.error (lastErr.context s!"I3C read failed after {backoffs.length} retries on {s.1.busPath}"), s)
  | backoff :: rest, _, s =>
      match resolveAddress host (s.1.invalidateAddress, host.sleep backoff s.2) with
      | (.error e, s) => retryRead host register byteCount rest e s
      | (.ok addr, c, w) =>
          match c.device.writeRead addr [register] byteCount w with
          | (.ok data, w) => (.ok data, c, w)
          | (.error e, w) => retryRead host register byteCount rest e (c, w)

def readRegisterSync (host : Host ω) (register : UInt8) (byteCount : Nat)
    (s : I3cMetricReader ω × ω) : Result (List UInt8) × (I3cMetricReader ω × ω) :=
  match resolveAddress host s with
  | (.error e, s) => (.error e, s)
  | (.ok addr, c, w) =>
      match c.device.writeRead addr [register] byteCount w with
      | (.ok data, w) => (.ok data, c, w)
      | (.error err, w) =>
          match classifyError err with
          | .other => (.error (err.context "I3C read failed (non-retriable)"), c, w)
          | .transferError => retryRead host register byteCount backoffs err (c, w)

end I3cMetricReader

def readI3cMetric (decodeBytes : Decoder.ByteDecoder) (host : Host ω) (metric : MetricConfig)
    (s : I3cMetricReader ω × ω) : Except Panic (Result (Float × Float) × (I3cMetricReader ω × ω)) :=
  match metric.address with
  -- the address is unwrapped, as validated before
  | none => .error .unwrapNone
  | some addr =>
      let numBytes := Decoder.byteCount (Decoder.mapDataType metric.dataType)
      let (bytes, s) := I3cMetricReader.readRegisterSync host addr.toUInt8 numBytes s
      .ok (bytes.bind (Decoder.bytesValue decodeBytes metric), s)

structure I3cMetricReaderHandle (ω : Type) where
  client : I3cMetricReader ω
  metrics : List MetricConfig := []

namespace I3cMetricReaderHandle

def setConnected (connected : Bool) (handle : I3cMetricReaderHandle ω) : I3cMetricReaderHandle ω :=
  { handle with client := { handle.client with connected } }

def readMetric (decodeBytes : Decoder.ByteDecoder) (host : Host ω) (metric : MetricConfig)
    (s : I3cMetricReaderHandle ω × ω) :
    Except Panic (Result (Float × Float) × (I3cMetricReaderHandle ω × ω)) := do
  let (result, client, w) ← readI3cMetric decodeBytes host metric (s.1.client, s.2)
  .ok (result, { s.1 with client }, w)

def metricReader (decodeBytes : Decoder.ByteDecoder) (host : Host ω) :
    MetricReader (I3cMetricReaderHandle ω × ω) where
  setMetrics metrics s := ({ s.1 with metrics }, s.2)
  connect s := (.ok (), s.1.setConnected true, s.2)
  disconnect s := (.ok (), s.1.setConnected false, s.2)
  isConnected s := s.1.client.connected
  read cancelled s := readEach cancelled (readMetric decodeBytes host) s.1.metrics s

end I3cMetricReaderHandle

def executeWrites (host : Host ω) (steps : List WriteStep) (s : I3cMetricReader ω × ω) :
    Result Unit × (I3cMetricReader ω × ω) :=
  runSteps (fun idx step s =>
    match I2c.registerWrite step with
    | none => (.ok (), s.1, (step.delay.map host.sleep).getD id s.2)
    | some buf =>
        match withContext s!"I3C write step {idx}" (I3cMetricReader.writeBytes host buf s) with
        | (.error e, s) => (.error e, s)
        | (.ok (), c, w) => (.ok (), c, (step.delay.map host.sleep).getD id w)) steps.zipIdx s

end BusExporter.I3c
