import UgreenLeds.LedControllerDelivery

/-!
# What an LED shows when its commands go through

A picture says what some of an LED's registers hold.  A list of requests paints a
picture, each request over the ones before it.  If the bus answers the commands to
an LED, whatever it does to those of other LEDs, then the setters make the MCU
show what has been painted, no matter which commands the cache elides.
-/

namespace UgreenLeds

open ShadowedRegister

/-- What some of an LED's registers hold. -/
abbrev Picture := Shadow LedRegister.Value

/-- The commands to an LED go through, and no sleep among them fails. -/
structure Reliable (exchanges : Nat → Exchange) : Prop where
  sleeps : SleepsOnlyInterrupted exchanges
  through :
    ∀ position,
      GoesThrough (exchanges position) commandRetryCount

namespace LedController

/-- A request assigns to the register that its command writes. -/
def Request.paint
    (picture : Picture)
    (request : Request) : Picture :=
  Function.update picture request.command.register
    (some request.command.value)

/-- A list of requests assigns one after the other. -/
def paintAll
    (picture : Picture)
    (requests : List Request) : Picture :=
  requests.foldl Request.paint picture

namespace Slice

/-- The cache is coherent and the MCU's record of the LED holds a picture. -/
structure Displays
    (slice : Slice)
    (picture : Picture) : Prop where
  coherent : slice.Coherent
  holds : Holds slice.device.registers picture

/-- A coherent slice shows at least nothing. -/
theorem Coherent.displays
    {slice : Slice}
    (coherent : slice.Coherent) :
    slice.Displays fun _ => none :=
  ⟨coherent, holds_none _⟩

/-- A slice that has just been forgotten is coherent with any device. -/
theorem invalidate_displays (slice : Slice) :
    slice.invalidate.Displays fun _ => none :=
  Coherent.displays (coherent_of_zero rfl)

section Reliable

variable
  {exchanges : Nat → Exchange}
  (reliable : Reliable exchanges)
  {slice : Slice}
  {picture : Picture}

include reliable

/-- Every command to a reliable LED is acknowledged. -/
theorem acknowledged_of_reliable (slice : Slice) :
    slice.Acknowledged exchanges :=
  (acknowledged_iff reliable.sleeps slice).mpr
    (reliable.through slice.served)

/-- A request to a reliable LED succeeds and paints its picture. -/
theorem Displays.set
    (displays : slice.Displays picture)
    {request : Request}
    (fits : request.Fits) :
    ∃ after,
      slice.set exchanges request = (.ok (), after) ∧
        after.Displays (request.paint picture) := by
  have acknowledged := acknowledged_of_reliable reliable slice
  have succeeds : (slice.set exchanges request).1 = .ok () :=
    (set_ok_iff exchanges reliable.sleeps request slice).mpr
      (Or.inr acknowledged)
  refine ⟨(slice.set exchanges request).2, ?_, ?_, ?_⟩
  · rw [← succeeds]
  · exact set_coherent reliable.sleeps fits displays.coherent
  · have written :
        slice.registers.shadow request.command.register =
            some request.command.value ∨
          slice.delivery exchanges = .acknowledged :=
      Or.inr (by simp [delivery, acknowledged])
    rw [← registers_device,
      registers_set exchanges reliable.sleeps fits,
      write_device_eq displays.coherent written]
    exact displays.holds.update _ _

/-- A list of requests to a reliable LED succeeds and paints its picture. -/
theorem Displays.setAll
    (displays : slice.Displays picture)
    {requests : List Request}
    (fit : ∀ request ∈ requests, request.Fits) :
    ∃ after,
      slice.setAll exchanges requests = (.ok (), after) ∧
        after.Displays (paintAll picture requests) := by
  induction requests generalizing slice picture with
  | nil =>
      exact ⟨slice, rfl, displays⟩
  | cons request rest inductionHypothesis =>
      obtain ⟨fits, fitRest⟩ := List.forall_mem_cons.mp fit
      obtain ⟨sent, first, painted⟩ := displays.set reliable fits
      obtain ⟨after, later, shown⟩ := inductionHypothesis painted fitRest
      refine ⟨after, ?_, shown⟩
      simp only [Slice.setAll, first, later]

end Reliable

end Slice

section Controller

variable
  {script : Script}
  {controller : LedController}
  {ledId : UInt8}
  {led : LedIndex}
  (addressed : ledIndex? ledId = some led)
  (reliable : Reliable (script led))
  {picture : Picture}
  (displays : (controller.slice led).Displays picture)

include addressed reliable displays

/-- A setter that is called for a reliable LED succeeds and paints. -/
theorem set_displays
    {request : Request}
    (fits : request.Fits) :
    ∃ after,
      controller.set script ledId request = (.ok (), after) ∧
        (after.slice led).Displays (request.paint picture) := by
  obtain ⟨painted, sent, shown⟩ := displays.set reliable fits
  have sliced := set_slice script controller addressed fits
  simp only [sent, Prod.mk.injEq] at sliced
  refine ⟨(controller.set script ledId request).2, ?_, ?_⟩
  · rw [← sliced.1]
  · rw [sliced.2]
    exact shown

/-- Setters that are called for a reliable LED succeed and paint. -/
theorem setAll_displays
    {requests : List Request}
    (fit : ∀ request ∈ requests, request.Fits) :
    ∃ after,
      controller.setAll script ledId requests = (.ok (), after) ∧
        (after.slice led).Displays (paintAll picture requests) := by
  obtain ⟨painted, sent, shown⟩ := displays.setAll reliable fit
  have sliced := setAll_slice script controller addressed fit
  rw [sent, Prod.mk.injEq] at sliced
  refine ⟨(controller.setAll script ledId requests).2, ?_, ?_⟩
  · rw [← sliced.1]
  · rw [sliced.2]
    exact shown

end Controller

end LedController

end UgreenLeds
