import BusExporter.Model.Factory

/-! The devices that the factories open for a collector. -/

namespace BusExporter
open Lib Config

variable {κ ω : Type}

section Opened
variable {host : Host ω} {w w' : ω}

theorem i2c_opened {busPath : String} {address : UInt8} {device : I2c.I2cDevice ω}
    (done : I2c.LinuxI2cDevice.open_ host busPath address w = (.ok device, w')) :
    device = I2c.LinuxI2cDevice.opened host busPath address := by
  unfold I2c.LinuxI2cDevice.open_ at done
  split at done
  · cases done
  · simp only at done
    split_ifs at done
    · cases done
      rfl
    · cases done

theorem spi_opened {devicePath : String} {speedHz : UInt32} {mode bitsPerWord : UInt8} {device : Spi.SpiDevice ω}
    (done : Spi.LinuxSpiDevice.open_ host devicePath speedHz mode bitsPerWord w = (.ok device, w')) :
    device = Spi.LinuxSpiDevice.opened host devicePath := by
  unfold Spi.LinuxSpiDevice.open_ at done
  split at done
  · cases done
  · split_ifs at done
    · cases done
    · split at done
      · cases done
      · cases done
        rfl

theorem i3c_opened {busPath : String} {device : I3c.I3cDevice ω}
    (done : I3c.LinuxI3cDevice.open_ host busPath w = (.ok device, w')) :
    device = I3c.LinuxI3cDevice.opened host busPath := by
  unfold I3c.LinuxI3cDevice.open_ at done
  split at done
  · cases done
  · cases done
    rfl

theorem opened_ok {α β : Type} {text : String} {f : α → β} {step : Result α × ω} {b : β}
    (done : ((withContext text step).1.map f, (withContext text step).2) = (.ok b, w)) :
    ∃ a, step = (.ok a, w) ∧ f a = b := by
  obtain ⟨r, w₁⟩ := step
  cases r with
  | error e => cases done
  | ok a =>
      cases done
      exact ⟨a, rfl, rfl⟩

end Opened

def BusWriter.OnBus (host : Host ω) (c : CollectorConfig) : BusWriter ω → Prop
  | .i2c writer => ∃ bus address, c.protocol = .i2c bus address ∧
      writer.device = I2c.LinuxI2cDevice.opened host bus address
  | .spi writer => ∃ path speedHz mode bitsPerWord, c.protocol = .spi path speedHz mode bitsPerWord ∧
      writer.device = Spi.LinuxSpiDevice.opened host path
  | .i3c client => ∃ bus pid address deviceClass instance_,
      c.protocol = .i3c bus pid address deviceClass instance_ ∧
      client.device = I3c.LinuxI3cDevice.opened host bus ∧ client.busPath = bus ∧
      addressMode pid address deviceClass instance_ = .ok client.addressMode

theorem createWriter_onBus {platform : Platform κ ω} {c : CollectorConfig} {w w' : ω} {writer : BusWriter ω}
    (made : createWriter platform c w = .ok (.ok (some writer), w')) : writer.OnBus platform.host c := by
  unfold createWriter at made
  split_ifs at made with idle
  · cases made
  · cases protocol : c.protocol with
    | modbusTcp endpoint =>
        rw [protocol] at made
        cases made
    | modbusRtu device bps dataBits stopBits parity =>
        rw [protocol] at made
        cases made
    | i2c bus address =>
        rw [protocol] at made
        obtain ⟨device, opened, given⟩ := opened_ok (Except.ok.inj made)
        cases given
        exact ⟨bus, address, protocol, i2c_opened opened⟩
    | spi path speedHz mode bitsPerWord =>
        rw [protocol] at made
        obtain ⟨device, opened, given⟩ := opened_ok (Except.ok.inj made)
        cases given
        exact ⟨path, speedHz, mode, bitsPerWord, protocol, spi_opened opened⟩
    | i3c bus pid address deviceClass instance_ =>
        rw [protocol] at made
        obtain ⟨mode, addressed, made⟩ := except_bind_ok made
        obtain ⟨device, opened, given⟩ := opened_ok (Except.ok.inj made)
        cases given
        exact ⟨bus, pid, address, deviceClass, instance_, protocol, i3c_opened opened, rfl, addressed⟩

theorem create_i3c {platform : Platform κ ω} {c : CollectorConfig} {w w' : ω}
    {handle : I3c.I3cMetricReaderHandle ω}
    (made : create platform c w = .ok (.ok (.i3c handle), w')) :
    ∃ bus pid address deviceClass instance_, c.protocol = .i3c bus pid address deviceClass instance_ ∧
      ∃ mode, addressMode pid address deviceClass instance_ = .ok mode ∧
        handle.client = .new (I3c.LinuxI3cDevice.opened platform.host bus) bus mode := by
  unfold create at made
  cases protocol : c.protocol with
  | modbusTcp endpoint =>
      rw [protocol] at made
      cases made
  | modbusRtu device bps dataBits stopBits parity =>
      rw [protocol] at made
      cases made
  | i2c bus address =>
      rw [protocol] at made
      obtain ⟨device, -, given⟩ := opened_ok (Except.ok.inj made)
      cases given
  | spi path speedHz mode bitsPerWord =>
      rw [protocol] at made
      obtain ⟨device, -, given⟩ := opened_ok (Except.ok.inj made)
      cases given
  | i3c bus pid address deviceClass instance_ =>
      rw [protocol] at made
      obtain ⟨mode, addressed, made⟩ := except_bind_ok made
      obtain ⟨device, opened, given⟩ := opened_ok (Except.ok.inj made)
      cases given
      exact ⟨bus, pid, address, deviceClass, instance_, rfl, mode, addressed, by rw [i3c_opened opened]⟩

def idleModbus : Modbus.TokioModbus Unit ω where
  lookupHost _ w := (.ok [], w)
  connectSlave _ _ w := (.ok (), w)
  attachSlave _ _ w := (.ok (), w)
  call _ _ w := (.timedOut, (), w)

def idleHost : Host ω where
  openI2c _ w := (.ok (), w)
  ioctlI2cSlave _ _ w := (true, w)
  writeI2c _ _ _ w := (.ok (), w)
  readI2c _ _ _ w := (.ok fun _ => 0, w)
  openSpi _ w := (.ok (), w)
  configureSpi _ _ _ _ w := (.ok (), w)
  transferSpi _ _ w := (.ok fun _ => 0, w)
  openI3c _ w := (.ok (), w)
  transferI3c _ _ _ w := (.ok fun _ => 0, w)
  readI3cSysfs w := (.ok [], w)
  sleep _ w := w

end BusExporter
