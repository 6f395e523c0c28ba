import UgreenLeds.Config
import UgreenLeds.LedController
import UgreenLeds.Scheduler
import UgreenLeds.Timerfd

/-!
# The network LED policy

The model of `network_led.c`: traffic accumulates while the LED is lit, a
one-shot timer ends each pulse, and the next pulse takes everything that is
pending.  The outcomes of the system calls are arguments and those of the I2C
transfers come from the controller's script.  The calls of the scheduler are
recorded, which the code does not do; messages on standard error are left out.
-/

namespace UgreenLeds

/-- `struct network_led`. -/
structure NetworkLed (Credit : Type) where
  scheduler : PulseScheduler Credit
  controller : LedController
  config : Config
  pendingRxBytes : UInt64
  pendingTxBytes : UInt64
  ledOn : Bool
  timer : Timerfd
  /-- The byte counts passed to the scheduler so far, oldest first. -/
  scheduled : List PulseScheduler.Call

namespace NetworkLed

section Model

variable
  {Credit : Type}
  [NatCast Credit] [Add Credit] [Sub Credit] [Div Credit]
  [LE Credit] [DecidableLE Credit]

/-- The length of a pulse that `arm_timer` sets, which is never zero. -/
def pulseTime (config : Config) : Itimerspec :=
  let tvSec := (config.networkPulseMs / 1000).toNat
  let tvNsec := (config.networkPulseMs % 1000).toNat * 1000000
  if tvSec = 0 ∧ tvNsec = 0 then
    ⟨tvSec, 1⟩
  else
    ⟨tvSec, tvNsec⟩

/-- `arm_timer`. -/
def armTimer
    (network : NetworkLed Credit)
    (settime : Option Errno) : Status × NetworkLed Credit :=
  let (status, timer) :=
    network.timer.settime settime (pulseTime network.config)
  (status, { network with timer })

/-- The state `network_led_init` has set up when its timer is open. -/
def zeroed
    (controller : LedController)
    (config : Config) : NetworkLed Credit where
  scheduler := .zero
  controller
  config
  pendingRxBytes := 0
  pendingTxBytes := 0
  ledOn := false
  timer := none
  scheduled := []

/-- `network_led_init`, once its timer is open. -/
def init
    (script : Script)
    (controller : LedController)
    (config : Config) : Status × NetworkLed Credit :=
  match controller.setBrightness script ledNetwork
      config.networkBrightness.toUInt8 with
  | (.error error, controller) =>
      (.error error, zeroed controller config)
  | (.ok (), controller) =>
      let (status, controller) :=
        controller.setOn script ledNetwork false
      (status, zeroed controller config)

/-- `network_led_add_sample`. -/
def addSample
    (network : NetworkLed Credit)
    (rxBytes txBytes : UInt64) : NetworkLed Credit :=
  { network with
    pendingRxBytes := saturatingAdd network.pendingRxBytes rxBytes
    pendingTxBytes := saturatingAdd network.pendingTxBytes txBytes }

/-- The two commands that start a pulse. -/
def startPulse
    (script : Script)
    (controller : LedController)
    (color : Rgb) : Status × LedController :=
  match controller.setColor script ledNetwork color with
  | (.error error, controller) =>
      (.error error, controller)
  | (.ok (), controller) =>
      controller.setOn script ledNetwork true

/-- The policy once `network_led_render` has taken what is pending. -/
def takePending (network : NetworkLed Credit) : NetworkLed Credit :=
  { network with
    scheduler :=
      (network.scheduler.chooseRx network.pendingRxBytes
        network.pendingTxBytes).2
    pendingRxBytes := 0
    pendingTxBytes := 0
    scheduled :=
      network.scheduled ++
        [(network.pendingRxBytes, network.pendingTxBytes)] }

/-- The colour of the direction the scheduler picks. -/
def pulseColor (network : NetworkLed Credit) : Rgb :=
  let rx :=
    (network.scheduler.chooseRx network.pendingRxBytes
      network.pendingTxBytes).1
  if rx then
    network.config.networkRxColor
  else
    network.config.networkTxColor

/-- `network_led_render`. -/
def render
    (script : Script)
    (network : NetworkLed Credit)
    (settime : Option Errno) : Status × NetworkLed Credit :=
  if network.ledOn then
    (.ok (), network)
  else if network.pendingRxBytes = 0 ∧ network.pendingTxBytes = 0 then
    (.ok (), network)
  else
    let taken := network.takePending
    match startPulse script taken.controller network.pulseColor with
    | (.error _, controller) =>
        -- The pulse is dropped, and with it what was pending.
        (.ok (),
          { taken with
            controller := controller.invalidate ledNetwork
            ledOn := false })
    | (.ok (), controller) =>
        match armTimer { taken with controller, ledOn := true }
            settime with
        | (.error error, lit) =>
            (.error error,
              { lit with
                controller :=
                  (lit.controller.setOn script ledNetwork false).2
                ledOn := false })
        | (.ok (), lit) =>
            (.ok (), lit)

/-- The end of a pulse in `network_led_handle_timer`. -/
def finishPulse
    (script : Script)
    (network : NetworkLed Credit) : NetworkLed Credit :=
  match network.controller.setOn script ledNetwork false with
  | (.error _, controller) =>
      { network with
        controller := controller.invalidate ledNetwork
        ledOn := false }
  | (.ok (), controller) =>
      { network with controller, ledOn := false }

/-- `network_led_handle_timer`. -/
def handleTimer
    (script : Script)
    (network : NetworkLed Credit)
    (read settime : Option Errno) : Status × NetworkLed Credit :=
  let finish (network : NetworkLed Credit) :=
    if !network.ledOn then
      (.ok (), network)
    else
      (network.finishPulse script).render script settime
  match network.timer.read read with
  | (.error error, timer) =>
      if error ≠ .eagain then
        (.error error, { network with timer })
      else
        finish { network with timer }
  | (.ok (), timer) =>
      finish { network with timer }

/-- `network_led_cleanup` of a policy that is initialized. -/
def cleanup
    (script : Script)
    (network : NetworkLed Credit) : NetworkLed Credit :=
  { network with
    controller := (network.controller.setOn script ledNetwork false).2
    timer := none }

end Model

end NetworkLed

end UgreenLeds
