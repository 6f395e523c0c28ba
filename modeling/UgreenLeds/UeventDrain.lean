import UgreenLeds.DiskLedRescan
import UgreenLeds.DiskUevent

/-!
# Draining the uevent socket

A message that has been received is gone from the socket, so whatever it calls
for has to be done before the call returns.  The loop remembers whether one of
the messages was relevant, but an error other than `EAGAIN` returns without
looking at what it has remembered.
-/

namespace UgreenLeds

namespace DiskLeds

/-- The loop of `disk_leds_handle_uevent` on what `recv` returns. -/
def drain
    (recvError : Errno) :
    (rescanNeeded : Bool) → List (List UInt8) → Except Errno Bool
  | rescanNeeded, [] =>
      if recvError = .eagain then .ok rescanNeeded else .error recvError
  | rescanNeeded, message :: rest =>
      drain recvError
        (if isBlockUevent message then true else rescanNeeded) rest

/-- What the loop has remembered when it ends. -/
theorem drain_eq
    (recvError : Errno)
    (rescanNeeded : Bool)
    (messages : List (List UInt8)) :
    drain recvError rescanNeeded messages =
      if recvError = .eagain then
        .ok (rescanNeeded || messages.any isBlockUevent)
      else
        .error recvError := by
  induction messages generalizing rescanNeeded with
  | nil =>
      rw [drain, List.any_nil, Bool.or_false]
  | cons message rest inductionHypothesis =>
      rw [drain, inductionHypothesis, List.any_cons]
      cases isBlockUevent message <;> cases rescanNeeded <;> rfl

section Handle

variable
  (script : Script)
  (disks : DiskLeds)
  (runtime : BpfRuntime)
  (uevents : Uevents)

/-- A rescan, and then a synchronisation of the BPF maps. -/
def rescanAndSync : Option Status × DiskLeds × BpfRuntime :=
  let rescanned := (rescan script disks uevents.discovery).2
  match rescanned.syncBpf uevents.maps uevents.fuel runtime with
  | none =>
      (none, rescanned, runtime)
  | some (status, runtime) =>
      (some status, rescanned, runtime)

/-- `disk_leds_handle_uevent` acts on what its loop returns. -/
theorem handleUevent_eq_drain :
    handleUevent script disks runtime uevents =
      match drain uevents.recvError false uevents.messages with
      | .error error =>
          (some (.error error), disks, runtime)
      | .ok false =>
          (some (.ok ()), disks, runtime)
      | .ok true =>
          rescanAndSync script disks runtime uevents := by
  rw [drain_eq, Bool.false_or, handleUevent]
  by_cases drained : uevents.recvError = .eagain
  · simp only [drained, ne_eq, not_true_eq_false, ↓reduceIte]
    cases uevents.messages.any isBlockUevent <;> rfl
  · simp only [drained, ne_eq, not_false_eq_true, ↓reduceIte]

end Handle

/--
The messages of a batch are not lost, whatever else a call meets: if one of them
is relevant the call rescans and synchronises, and if none is and the socket has
been emptied it changes nothing.
-/
structure NotLost
    (messages : List (List UInt8))
    (recvError : Errno) : Prop where
  handled :
    messages.any isBlockUevent = true →
      ∀ script disks runtime discovery maps fuel,
        let uevents : Uevents :=
          { messages, recvError, discovery, maps, fuel }
        handleUevent script disks runtime uevents =
          rescanAndSync script disks runtime uevents
  ignored :
    messages.any isBlockUevent = false →
    recvError = .eagain →
      ∀ script disks runtime discovery maps fuel,
        let uevents : Uevents :=
          { messages, recvError, discovery, maps, fuel }
        handleUevent script disks runtime uevents =
          (some (.ok ()), disks, runtime)

/-- A rescan that finds a disk in an empty bay changes the table. -/
theorem rescan_changes
    (script : Script)
    {disks : DiskLeds}
    {index : DiskIndex}
    (counted : index.val < disks.slotCount)
    (absent : (disks.slots index).present = false) :
    (rescan script disks (.ok fun _ => some 0)).2 ≠ disks := by
  intro same
  obtain ⟨present, -⟩ :=
    (rescanExact script fun _ => some 0).found index counted
  rw [same, absent] at present
  cases present

/-- A rescan and a synchronisation leave the table of the rescan. -/
theorem rescanAndSync_disks
    (script : Script)
    (disks : DiskLeds)
    (runtime : BpfRuntime)
    (uevents : Uevents) :
    (rescanAndSync script disks runtime uevents).2.1 =
      (rescan script disks uevents.discovery).2 := by
  simp only [rescanAndSync]
  split <;> rfl

/-- The maps of a kernel in which no call fails. -/
def quietMaps : MapScript where
  first := fun _ => 0
  updateFails := fun _ => none
  deleteFails := fun _ => none
  stores := fun _ => []
  deleteFails_ne := fun _ => (Option.some_ne_none _).symm

/-- The table `disk_leds_init` has set up, before its first scan. -/
def emptyChassis : DiskLeds :=
  zeroed (.initial fun _ => ⟨0, 0, ⟨0, 0, 0⟩, 0, 0⟩) Config.defaults []

/-- A relevant message is lost if the draining ends with another error. -/
theorem not_notLost
    {messages : List (List UInt8)}
    {recvError : Errno}
    (relevant : messages.any isBlockUevent = true)
    (serious : recvError ≠ .eagain) :
    ¬ NotLost messages recvError := by
  intro notLost
  have changes :=
    @rescan_changes (fun _ _ _ => .accepted) emptyChassis ⟨0, by decide⟩
      (by decide) rfl
  have handled :=
    notLost.handled relevant (fun _ _ _ => .accepted) emptyChassis
      (.started fun _ => ∅) (.ok fun _ => some 0) quietMaps 0
  have kept := congrArg (fun result => result.2.1) handled
  simp only [rescanAndSync_disks, handleUevent, ne_eq, serious,
    not_false_eq_true, ↓reduceIte] at kept
  exact changes kept.symm

/--
The messages of a batch are not lost exactly if the socket has been emptied when
the draining ends, or if none of them is relevant.
-/
theorem notLost_iff
    (messages : List (List UInt8))
    (recvError : Errno) :
    NotLost messages recvError ↔
      (recvError = .eagain ∨ messages.any isBlockUevent = false) := by
  constructor
  · intro notLost
    by_contra neither
    rw [not_or, Bool.not_eq_false] at neither
    exact not_notLost neither.2 neither.1 notLost
  · intro drained
    constructor
    · intro relevant script disks runtime discovery maps fuel uevents
      rcases drained with rfl | irrelevant
      · rw [handleUevent_eq_drain, drain_eq, if_pos rfl, Bool.false_or,
          relevant]
      · rw [relevant] at irrelevant
        cases irrelevant
    · rintro irrelevant rfl script disks runtime discovery maps fuel
        uevents
      rw [handleUevent_eq_drain, drain_eq, if_pos rfl, Bool.false_or,
        irrelevant]

/-- A disk is added, and then the socket's buffer overflows. -/
theorem added_then_overflow_lost :
    ¬ NotLost
        [ascii "add@/block/sda" ++ [0] ++ ascii "ACTION=add" ++ [0] ++
          ascii "SUBSYSTEM=block" ++ [0]]
        .enobufs :=
  not_notLost (by decide) (by decide)

end DiskLeds

end UgreenLeds
