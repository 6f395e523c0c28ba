import UgreenLeds.BpfRuntime

/-!
# Block-device events

The model of `disk_leds_handle_uevent`: it drains the netlink socket, and if one
of the messages is a relevant event of a block device, it rescans the bays and
synchronises the BPF maps.  Which messages are waiting and how the draining ends
are arguments.
-/

namespace UgreenLeds

namespace DiskLeds

/-- The fields of a message in front of its first empty field. -/
def ueventFields (message : List UInt8) : List (List UInt8) :=
  (message.splitOn 0).takeWhile (· ≠ [])

/-- `is_block_uevent`. -/
def isBlockUevent (message : List UInt8) : Bool :=
  let fields := ueventFields message
  fields.contains (ascii "SUBSYSTEM=block") &&
    (fields.contains (ascii "ACTION=add") ||
      fields.contains (ascii "ACTION=remove") ||
      fields.contains (ascii "ACTION=change"))

/-- What a call of `disk_leds_handle_uevent` meets. -/
structure Uevents where
  /-- The messages that `recv` returns, oldest first. -/
  messages : List (List UInt8)
  /-- The error that ends the draining. -/
  recvError : Errno
  discovery : Except Errno Discovery
  maps : MapScript
  /-- How many passes a loop over a map may take. -/
  fuel : Nat

/-- `disk_leds_handle_uevent`; no status if a loop over a map does not end. -/
def handleUevent
    (script : Script)
    (disks : DiskLeds)
    (runtime : BpfRuntime)
    (uevents : Uevents) :
    Option Status × DiskLeds × BpfRuntime :=
  if uevents.recvError ≠ .eagain then
    (some (.error uevents.recvError), disks, runtime)
  else if uevents.messages.any isBlockUevent = false then
    (some (.ok ()), disks, runtime)
  else
    let rescanned := (rescan script disks uevents.discovery).2
    match rescanned.syncBpf uevents.maps uevents.fuel runtime with
    | none =>
        (none, rescanned, runtime)
    | some (status, runtime) =>
        (some status, rescanned, runtime)

end DiskLeds

end UgreenLeds
