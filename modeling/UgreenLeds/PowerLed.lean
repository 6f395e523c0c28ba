import UgreenLeds.ConfigData
import UgreenLeds.LedController

/-!
# The power LED

The model of `power_led.c`: the daemon programs the power LED once, when it
starts, and never again.
-/

namespace UgreenLeds

/-- `power_led_apply`. -/
def powerLedApply
    (script : Script)
    (controller : LedController)
    (config : ConfigData) : Status × LedController :=
  match controller.setColor script ledPower config.powerColor with
  | (.error error, controller) =>
      (.error error, controller)
  | (.ok (), controller) =>
      match controller.setBrightness script ledPower
          config.powerBrightness.toUInt8 with
      | (.error error, controller) =>
          (.error error, controller)
      | (.ok (), controller) =>
          match config.powerMode with
          | .on =>
              controller.setOn script ledPower true
          | .blink =>
              controller.setBlink script ledPower
                config.powerOnMs.toUInt16 config.powerOffMs.toUInt16
                false
          | .breath =>
              controller.setBlink script ledPower
                config.powerOnMs.toUInt16 config.powerOffMs.toUInt16
                true

end UgreenLeds
