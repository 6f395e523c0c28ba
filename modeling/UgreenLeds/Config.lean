import UgreenLeds.Types

/-!
# The daemon's configuration

The fields of `struct config` that the disk and network policies read.  The
ranges are those that `config_load_file` and `config_parse_options` enforce
before any policy runs, so a configuration outside them cannot be built.
-/

namespace UgreenLeds

/-- `struct config`, as `config_parse_options` accepts it. -/
structure Config where
  networkPulseMs : UInt32
  networkBrightness : UInt32
  networkRxColor : Rgb
  networkTxColor : Rgb
  diskIntervalMs : UInt32
  diskHoldMs : UInt32
  diskPulseMs : UInt32
  diskBrightness : UInt32
  diskColor : Rgb
  diskColors : Fin diskCount → Rgb
  diskColorSet : Fin diskCount → Bool
  diskInvert : Bool
  networkPulse_le : networkPulseMs ≤ 1000
  networkBrightness_le : networkBrightness ≤ 255
  diskInterval_le : diskIntervalMs ≤ 1000
  diskHold_pos : 1 ≤ diskHoldMs
  diskHold_le : diskHoldMs ≤ 10000
  diskPulse_pos : 1 ≤ diskPulseMs
  diskPulse_lt : diskPulseMs < diskIntervalMs
  diskBrightness_le : diskBrightness ≤ 255

namespace Config

/-- `config_set_defaults`. -/
def defaults : Config where
  networkPulseMs := 45
  networkBrightness := 255
  networkRxColor := ⟨0, 96, 255⟩
  networkTxColor := ⟨255, 0, 0⟩
  diskIntervalMs := 100
  diskHoldMs := 200
  diskPulseMs := 45
  diskBrightness := 255
  diskColor := ⟨255, 255, 255⟩
  diskColors := fun _ => ⟨0, 0, 0⟩
  diskColorSet := fun _ => false
  diskInvert := false
  networkPulse_le := by decide
  networkBrightness_le := by decide
  diskInterval_le := by decide
  diskHold_pos := by decide
  diskHold_le := by decide
  diskPulse_pos := by decide
  diskPulse_lt := by decide
  diskBrightness_le := by decide

/-- `config_disk_color`; the slot is an `unsigned`. -/
def diskColorOf
    (config : Config)
    (slot : UInt32) : Rgb :=
  if inRange : slot.toNat < diskCount then
    if config.diskColorSet ⟨slot.toNat, inRange⟩ then
      config.diskColors ⟨slot.toNat, inRange⟩
    else
      config.diskColor
  else
    config.diskColor

/-- `disk_hold_ms` in nanoseconds, as the disk policy computes it. -/
def diskHoldNs (config : Config) : UInt64 :=
  config.diskHoldMs.toUInt64 * 1000000

/-- A hold time of at most ten seconds does not overflow. -/
theorem diskHoldNs_toNat (config : Config) :
    config.diskHoldNs.toNat = config.diskHoldMs.toNat * 1000000 := by
  have bounded : config.diskHoldMs.toNat ≤ 10000 :=
    UInt32.le_iff_toNat_le.mp config.diskHold_le
  simp only [diskHoldNs, UInt64.toNat_mul, UInt32.toNat_toUInt64,
    UInt64.reduceToNat]
  omega

/-- Every hold time is at least a millisecond. -/
theorem diskHoldNs_pos (config : Config) :
    1000000 ≤ config.diskHoldNs.toNat := by
  have positive : 1 ≤ config.diskHoldMs.toNat :=
    UInt32.le_iff_toNat_le.mp config.diskHold_pos
  rw [diskHoldNs_toNat]
  omega

/-- Every hold time is at most ten seconds. -/
theorem diskHoldNs_le (config : Config) :
    config.diskHoldNs.toNat ≤ 10000000000 := by
  have bounded : config.diskHoldMs.toNat ≤ 10000 :=
    UInt32.le_iff_toNat_le.mp config.diskHold_le
  rw [diskHoldNs_toNat]
  omega

end Config

end UgreenLeds
