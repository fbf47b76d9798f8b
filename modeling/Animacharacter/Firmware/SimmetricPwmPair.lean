import Animacharacter.Firmware.PwmDevices

set_option autoImplicit false

namespace Animacharacter.Firmware

structure SimmetricPWM12Pair where
  pulseMidpoint : Int16
  pulseMin : UInt16
  pulseMax : UInt16
deriving DecidableEq

namespace SimmetricPWM12Pair

-- The int of the ESP32 holds every sum of 16-bit operands, so it is an Int
-- here; what is stored in 16 bits again wraps.
def init (primary slave : PWM12Device) (pulseMidpoint : UInt16) : SimmetricPWM12Pair where
  pulseMidpoint := pulseMidpoint.toInt16
  pulseMin := UInt16.ofInt (pulseMidpoint.toNat -
    min ((pulseMidpoint.toNat : Int) - primary.minPulse.toNat) ((slave.maxPulse.toNat : Int) - pulseMidpoint.toNat))
  pulseMax := UInt16.ofInt (pulseMidpoint.toNat +
    min ((primary.maxPulse.toNat : Int) - pulseMidpoint.toNat) ((pulseMidpoint.toNat : Int) - slave.minPulse.toNat))

def deltapulse (pair : SimmetricPWM12Pair) (pulse : UInt16) : Int :=
  (constrainPulse pulse pair.pulseMin pair.pulseMax).toNat - pair.pulseMidpoint.toInt

-- The pulses that write_pulse hands to the two devices.
def primaryPulse (pair : SimmetricPWM12Pair) (pulse : UInt16) : UInt16 :=
  UInt16.ofInt (pair.pulseMidpoint.toInt + pair.deltapulse pulse)

def slavePulse (pair : SimmetricPWM12Pair) (pulse : UInt16) : UInt16 :=
  UInt16.ofInt (pair.pulseMidpoint.toInt - pair.deltapulse pulse)

def writePulse (pair : SimmetricPWM12Pair) (devices : PWM12Device × PWM12Device) (pulse : UInt16) :
    PWM12Device × PWM12Device :=
  (devices.1.writePulse (pair.primaryPulse pulse), devices.2.writePulse (pair.slavePulse pulse))

-- The midpoint lies inside both ranges of 12-bit pulses.
structure Fits (primary slave : PWM12Device) (pulseMidpoint : UInt16) : Prop where
  primaryOrdered : primary.minPulse ≤ primary.maxPulse
  primaryTop : primary.maxPulse ≤ MAX_12BIT_PWM_VALUE
  slaveOrdered : slave.minPulse ≤ slave.maxPulse
  slaveTop : slave.maxPulse ≤ MAX_12BIT_PWM_VALUE
  primaryInside : primary.minPulse ≤ pulseMidpoint ∧ pulseMidpoint ≤ primary.maxPulse
  slaveInside : slave.minPulse ≤ pulseMidpoint ∧ pulseMidpoint ≤ slave.maxPulse

structure Mirrored (primary slave : PWM12Device) (pulseMidpoint pulse : UInt16) (devices : PWM12Device × PWM12Device) :
    Prop where
  primaryLimits : primary.minPulse ≤ devices.1.pulselen ∧ devices.1.pulselen ≤ primary.maxPulse
  slaveLimits : slave.minPulse ≤ devices.2.pulselen ∧ devices.2.pulselen ≤ slave.maxPulse
  unclamped : devices.1.pulselen = (init primary slave pulseMidpoint).primaryPulse pulse ∧
    devices.2.pulselen = (init primary slave pulseMidpoint).slavePulse pulse
  mirrored : devices.1.pulselen.toNat + devices.2.pulselen.toNat = 2 * pulseMidpoint.toNat

theorem of_int_exact (value : Int) (nonneg : 0 ≤ value) (small : value < 2 ^ 16) :
    ((UInt16.ofInt value).toNat : Int) = value := by
  rw [UInt16.ofInt, UInt16.toNat_ofNat', Int.emod_eq_of_lt nonneg small, Nat.mod_eq_of_lt (by omega)]
  exact Int.toNat_of_nonneg nonneg

theorem to_int16_exact (value : UInt16) (small : value.toNat < 2 ^ 15) : value.toInt16.toInt = value.toNat := by
  rw [Int16.toInt, UInt16.toBitVec_toInt16]
  exact BitVec.toInt_eq_toNat_of_lt (by simpa using by omega)

theorem limits_exact (primary slave : PWM12Device) (pulseMidpoint : UInt16) (fits : Fits primary slave pulseMidpoint) :
    ((init primary slave pulseMidpoint).pulseMin.toNat : Int) = pulseMidpoint.toNat -
        min ((pulseMidpoint.toNat : Int) - primary.minPulse.toNat) ((slave.maxPulse.toNat : Int) - pulseMidpoint.toNat) ∧
      ((init primary slave pulseMidpoint).pulseMax.toNat : Int) = pulseMidpoint.toNat +
        min ((primary.maxPulse.toNat : Int) - pulseMidpoint.toNat) ((pulseMidpoint.toNat : Int) - slave.minPulse.toNat) := by
  obtain ⟨_, primaryTop, _, slaveTop, primaryInside, slaveInside⟩ := fits
  simp only [UInt16.le_iff_toNat_le] at primaryTop slaveTop primaryInside slaveInside
  have top : MAX_12BIT_PWM_VALUE.toNat = 4095 := rfl
  apply And.intro
  · exact of_int_exact _ (by omega) (by omega)
  · exact of_int_exact _ (by omega) (by omega)

theorem midpoint_exact (primary slave : PWM12Device) (pulseMidpoint : UInt16) (fits : Fits primary slave pulseMidpoint) :
    (init primary slave pulseMidpoint).pulseMidpoint.toInt = pulseMidpoint.toNat := by
  have inside := UInt16.le_iff_toNat_le.mp fits.primaryInside.2
  have top := UInt16.le_iff_toNat_le.mp fits.primaryTop
  have width : MAX_12BIT_PWM_VALUE.toNat = 4095 := rfl
  exact to_int16_exact pulseMidpoint (by omega)

-- The command is cut to the range in which the mirrored pulse is in range too.
theorem deltapulse_bounds (primary slave : PWM12Device) (pulseMidpoint pulse : UInt16)
    (fits : Fits primary slave pulseMidpoint) :
    let delta := (init primary slave pulseMidpoint).deltapulse pulse
    ((primary.minPulse.toNat : Int) ≤ pulseMidpoint.toNat + delta ∧
        (pulseMidpoint.toNat : Int) + delta ≤ primary.maxPulse.toNat) ∧
      (slave.minPulse.toNat : Int) ≤ pulseMidpoint.toNat - delta ∧
        (pulseMidpoint.toNat : Int) - delta ≤ slave.maxPulse.toNat := by
  obtain ⟨atMin, atMax⟩ := limits_exact primary slave pulseMidpoint fits
  have middle := midpoint_exact primary slave pulseMidpoint fits
  have primaryInside := fits.primaryInside
  have slaveInside := fits.slaveInside
  simp only [UInt16.le_iff_toNat_le] at primaryInside slaveInside
  have ordered : (init primary slave pulseMidpoint).pulseMin ≤ (init primary slave pulseMidpoint).pulseMax := by
    rw [UInt16.le_iff_toNat_le]
    omega
  have low := UInt16.le_iff_toNat_le.mp (constrain_pulse_low pulse _ _ ordered)
  have high := UInt16.le_iff_toNat_le.mp (constrain_pulse_high pulse _ _ ordered)
  simp only [deltapulse, middle]
  omega

theorem handed_exact (primary slave : PWM12Device) (pulseMidpoint pulse : UInt16)
    (fits : Fits primary slave pulseMidpoint) :
    let pair := init primary slave pulseMidpoint
    ((pair.primaryPulse pulse).toNat : Int) = pulseMidpoint.toNat + pair.deltapulse pulse ∧
      ((pair.slavePulse pulse).toNat : Int) = pulseMidpoint.toNat - pair.deltapulse pulse := by
  have bounds := deltapulse_bounds primary slave pulseMidpoint pulse fits
  have primaryWidth := primary.maxPulse.toNat_lt
  have slaveWidth := slave.maxPulse.toNat_lt
  simp only [primaryPulse, slavePulse, midpoint_exact primary slave pulseMidpoint fits]
  apply And.intro
  · exact of_int_exact _ (by omega) (by omega)
  · exact of_int_exact _ (by omega) (by omega)

theorem handed_within (primary slave : PWM12Device) (pulseMidpoint pulse : UInt16)
    (fits : Fits primary slave pulseMidpoint) :
    let pair := init primary slave pulseMidpoint
    (primary.minPulse ≤ pair.primaryPulse pulse ∧ pair.primaryPulse pulse ≤ primary.maxPulse) ∧
      slave.minPulse ≤ pair.slavePulse pulse ∧ pair.slavePulse pulse ≤ slave.maxPulse := by
  obtain ⟨inPrimary, inSlave⟩ := deltapulse_bounds primary slave pulseMidpoint pulse fits
  obtain ⟨atPrimary, atSlave⟩ := handed_exact primary slave pulseMidpoint pulse fits
  simp only [UInt16.le_iff_toNat_le]
  omega

theorem writes_limits (pair : SimmetricPWM12Pair) (pulses : List UInt16) (devices : PWM12Device × PWM12Device) :
    let after := pulses.foldl pair.writePulse devices
    (after.1.minPulse = devices.1.minPulse ∧ after.1.maxPulse = devices.1.maxPulse) ∧
      after.2.minPulse = devices.2.minPulse ∧ after.2.maxPulse = devices.2.maxPulse := by
  induction pulses generalizing devices with
  | nil => exact ⟨⟨rfl, rfl⟩, rfl, rfl⟩
  | cons pulse rest ih => exact ih (pair.writePulse devices pulse)

theorem mirrored_servos_stay_mirrored (primary slave : PWM12Device) (pulseMidpoint : UInt16)
    (fits : Fits primary slave pulseMidpoint) (pulses : List UInt16) (pulse : UInt16) :
    Mirrored primary slave pulseMidpoint pulse
      ((pulses ++ [pulse]).foldl (init primary slave pulseMidpoint).writePulse (primary, slave)) := by
  obtain ⟨primaryLimits, slaveLimits⟩ := handed_within primary slave pulseMidpoint pulse fits
  obtain ⟨atPrimary, atSlave⟩ := handed_exact primary slave pulseMidpoint pulse fits
  obtain ⟨⟨primaryMin, primaryMax⟩, slaveMin, slaveMax⟩ :=
    writes_limits (init primary slave pulseMidpoint) pulses (primary, slave)
  rw [List.foldl_append, List.foldl_cons, List.foldl_nil]
  generalize pulses.foldl (init primary slave pulseMidpoint).writePulse (primary, slave) = devices at *
  have primaryHeld : ((init primary slave pulseMidpoint).writePulse devices pulse).1.pulselen =
      (init primary slave pulseMidpoint).primaryPulse pulse :=
    constrain_pulse_between _ _ _ (primaryMin ▸ primaryLimits.1) (primaryMax ▸ primaryLimits.2)
  have slaveHeld : ((init primary slave pulseMidpoint).writePulse devices pulse).2.pulselen =
      (init primary slave pulseMidpoint).slavePulse pulse :=
    constrain_pulse_between _ _ _ (slaveMin ▸ slaveLimits.1) (slaveMax ▸ slaveLimits.2)
  apply Mirrored.mk
  · rw [primaryHeld]
    exact primaryLimits
  · rw [slaveHeld]
    exact slaveLimits
  · exact ⟨primaryHeld, slaveHeld⟩
  · rw [primaryHeld, slaveHeld]
    omega

theorem mirrored_servos_stay_mirrored_mouth :
    Mirrored (.initLimits 9 220 325) (.initLimits 10 0 500) 280 400
      ([400].foldl (init (.initLimits 9 220 325) (.initLimits 10 0 500) 280).writePulse
        (.initLimits 9 220 325, .initLimits 10 0 500)) :=
  mirrored_servos_stay_mirrored (.initLimits 9 220 325) (.initLimits 10 0 500) 280
    ⟨by decide, by decide, by decide, by decide, by decide, by decide⟩ [] 400

end SimmetricPWM12Pair

end Animacharacter.Firmware
