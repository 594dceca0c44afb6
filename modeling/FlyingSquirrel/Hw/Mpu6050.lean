import FlyingSquirrel.Hw.AxisMap
import FlyingSquirrel.Hw.ReadHealth

/-!
# The registers of the MPU-6050 (`hw/mpu6050.rs`)

What the bytes of the chip mean: the identity it reports, and the burst of registers that is
one sample. The scales hold of this chip and not of the ones that answer like it, which is why
the identity is looked at.
-/

set_option autoImplicit false

namespace FlyingSquirrel

open Lib

def mpu6050DefaultAddr : UInt8 := 0x68

def regPwrMgmt1 : UInt8 := 0x6B
def regGyroConfig : UInt8 := 0x1B
def regAccelConfig : UInt8 := 0x1C

/-- What the chip reports, whatever its bus address. -/
def whoAmIMpu6050 : UInt8 := 0x68

/-- `{:#04x}` of a byte. -/
def hexByte (b : UInt8) : String :=
  let digit (n : Nat) : Char := (Nat.toDigits 16 n).headD '0'
  String.ofList ['0', 'x', digit (b.toNat / 16), digit (b.toNat % 16)]

example : hexByte 0x71 = "0x71" ∧ hexByte 0x0a = "0x0a" := by decide +kernel

/-- Verify the identity of the chip. -/
def checkWhoAmI (read : UInt8) : Except String Unit :=
  if read = whoAmIMpu6050 then .ok ()
  else
    .error <|
      "IMU WHO_AM_I mismatch: chip at the configured address reports " ++ hexByte read ++
      ", expected 0x68 (MPU-6050/6000). Common values: 0x70=MPU-6500, 0x71=MPU-9250, " ++
      "0x73=MPU-9255, 0x12=ICM-20602. A substituted chip has different full-scale " ++
      "factors, so its samples would be silently mis-scaled — refusing to feed the " ++
      "detector. Fix the wiring/address, or port the driver (register map + scale " ++
      "constants) to the actual chip."

/-- `i16::from_be_bytes`. -/
def i16FromBe (hi lo : UInt8) : Int :=
  let n : Int := hi.toNat * 256 + lo.toNat
  if n < 32768 then n else n - 65536

/-- The register pair at an offset of the burst. -/
def RawFrame.word (raw : RawFrame) (i : Nat) : Int :=
  i16FromBe (raw[i]?.getD 0) (raw[i + 1]?.getD 0)

section Scales

variable {α : Type} [One α] [Mul α] [Div α] [IntCast α] [OfScientific α] [Libm α]

/-- Scales at the default ranges, ±2 g and ±250 °/s. -/
def gPerLsb : α := 1.0 / 16384.0
def degSPerLsb : α := 1.0 / 131.0
def gToMps2 : α := 9.80665

/-- One raw frame, as a sample in the body frame. The temperature is no part of it. -/
def sampleFromRaw (raw : RawFrame) (axisMap : AxisMap α) (now : Instant) : ImuSample α :=
  let accel (i : Nat) : α := (raw.word i : α) * gPerLsb * gToMps2
  let gyro (i : Nat) : α := Libm.toRadians ((raw.word i : α) * degSPerLsb)
  { t := .nowMono now
    accelMps2 := axisMap.apply ⟨accel 0, accel 2, accel 4⟩
    gyroRps := axisMap.apply ⟨gyro 8, gyro 10, gyro 12⟩ }

end Scales

/-! ## Two bytes, most significant first -/

theorem i16FromBe_bounds (hi lo : UInt8) : -32768 ≤ i16FromBe hi lo ∧ i16FromBe hi lo ≤ 32767 := by
  have hhi := hi.toNat_lt
  have hlo := lo.toNat_lt
  unfold i16FromBe
  dsimp only
  split <;> omega

/-- Every word of 16 bits is read back from its bytes. -/
theorem i16FromBe_bytes {z : Int} (hlo : -32768 ≤ z) (hhi : z ≤ 32767) :
    i16FromBe (UInt8.ofNat ((z % 65536).toNat / 256)) (UInt8.ofNat ((z % 65536).toNat % 256)) =
      z := by
  unfold i16FromBe
  simp only [UInt8.toNat_ofNat']
  split <;> omega

end FlyingSquirrel
