import UgreenLeds.Types

/-!
# One-shot timers and the monotonic clock

Both LED policies own a `timerfd` that they arm for one expiry at a time.  Such
a timer is idle, or it is waiting for an expiry, or it has expired and nobody
has read it yet; the last two need no distinction here, since both make the
event loop call the timer's handler.
-/

namespace UgreenLeds

/-- A reading of `CLOCK_MONOTONIC`, which the kernel keeps in 63 bits. -/
structure MonotonicTime where
  ns : UInt64
  inRange : ns.toNat < 2 ^ 63
  deriving DecidableEq, Repr

/-- `monotonic_ns`: zero if the clock cannot be read. -/
def monotonicNs : Option MonotonicTime → UInt64
  | none =>
      0
  | some time =>
      time.ns

/-- The `it_value` of a `struct itimerspec` whose interval is zero. -/
structure Itimerspec where
  tvSec : Nat
  tvNsec : Nat
  deriving DecidableEq, Repr

/-- What an armed or expired, unread timer was armed with; `none` if idle. -/
abbrev Timerfd := Option Itimerspec

namespace Timerfd

/-- `timerfd_settime`: a zero value disarms, and a failure changes nothing. -/
def settime
    (timer : Timerfd)
    (failure : Option Errno)
    (value : Itimerspec) : Status × Timerfd :=
  match failure with
  | some error =>
      (.error error, timer)
  | none =>
      if value.tvSec = 0 ∧ value.tvNsec = 0 then
        (.ok (), none)
      else
        (.ok (), some value)

/-- `read`: a success consumes the expiry, a failure changes nothing. -/
def read
    (timer : Timerfd)
    (failure : Option Errno) : Status × Timerfd :=
  match failure with
  | some error =>
      (.error error, timer)
  | none =>
      (.ok (), none)

end Timerfd

/-- The value that lies `ns` nanoseconds after the timer's origin. -/
def Itimerspec.ofNs (ns : Nat) : Itimerspec where
  tvSec := ns / 1000000000
  tvNsec := ns % 1000000000

/-- The nanoseconds a timer value stands for. -/
def Itimerspec.toNs (value : Itimerspec) : Nat :=
  value.tvSec * 1000000000 + value.tvNsec

@[simp] theorem Itimerspec.toNs_ofNs (ns : Nat) :
    (Itimerspec.ofNs ns).toNs = ns := by
  simp only [ofNs, toNs]
  omega

/-- Arming for a positive time leaves the timer armed for that time. -/
theorem Timerfd.settime_ofNs
    (timer : Timerfd)
    {ns : Nat}
    (positive : 0 < ns) :
    timer.settime none (.ofNs ns) =
      (.ok (), some (Itimerspec.ofNs ns)) := by
  have armed :
      ¬ ((Itimerspec.ofNs ns).tvSec = 0 ∧
        (Itimerspec.ofNs ns).tvNsec = 0) := by
    simp only [Itimerspec.ofNs]
    omega
  simp only [settime, if_neg armed]

end UgreenLeds
