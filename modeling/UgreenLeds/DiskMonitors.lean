import UgreenLeds.PartialRun
import Mathlib.Logic.Function.Basic

/-!
# The disk monitors and the colours they share

The disk monitor script starts three loops that mark a failed disk and one
process that marks a disk in standby.  All of them read the colour of an LED,
decide, and write it, without a lock.  This module interleaves their steps, each
of which reads or writes one colour at most, and proves that a failure colour
persists as long as none is written between a read and a write of the standby
monitor.
-/

namespace UgreenLeds

namespace DiskIoMon

/-- The loops of the script. -/
inductive ShellMonitor where
  | zpool
  | smart
  | online
  deriving DecidableEq, Repr

/-- The colours of the configuration. -/
structure Palette (Led Color : Type) where
  /-- `color_disk_health`. -/
  health : Led → Color
  /-- `COLOR_DISK_STANDBY`. -/
  standby : Color
  /-- `COLOR_ZPOOL_FAIL`, `COLOR_SMART_FAIL` and `COLOR_DISK_UNAVAIL`. -/
  failure : ShellMonitor → Color
  /-- `normal_colors`, some of which may belong to another LED. -/
  normal : Led → Color
  normal_health : ∀ led, ∃ other, normal led = health other
  failure_ne_health : ∀ monitor led, failure monitor ≠ health led
  failure_ne_standby : ∀ monitor, failure monitor ≠ standby

/-- Where a loop of the script is. -/
structure ShellLoop (Led : Type) where
  /-- The LEDs that are left in this pass. -/
  remaining : List Led
  /-- The LED whose colour has been read, unless it was skipped. -/
  checked : Option Led
  deriving DecidableEq

/-- Where the standby monitor is with the device at hand. -/
inductive StandbyPhase (Led : Type) where
  | idle
  /-- The power mode has changed. -/
  | probed (led : Led) (isStandby : Bool)
  /-- The colour has been read and calls for another one. -/
  | writing (led : Led) (isStandby : Bool)
  deriving DecidableEq

/-- The variables of `ugreen-check-standby`. -/
structure StandbyLoop (Led : Type) where
  remaining : List Led
  phase : StandbyPhase Led
  deviceValid : Led → Bool
  deviceStandby : Led → Bool

/-- The colours of the LEDs and the four processes. -/
structure Monitors (Led Color : Type) where
  color : Led → Color
  loop : ShellMonitor → ShellLoop Led
  checkStandby : StandbyLoop Led

/-- A step of one of the processes, with what its environment answers. -/
inductive MonitorAction (Led : Type) where
  /-- A loop of the script starts another pass. -/
  | pass (monitor : ShellMonitor) (leds : List Led)
  /-- A loop of the script reads a colour. -/
  | readColor (monitor : ShellMonitor)
  /-- A loop of the script asks for a disk's state, and marks a failure. -/
  | judge (monitor : ShellMonitor) (failed : Bool)
  /-- The standby monitor starts another pass. -/
  | standbyPass
  /-- The standby monitor asks for the power mode, which may fail. -/
  | probe (isStandby : Option Bool)
  /-- The standby monitor opens a colour and reads it. -/
  | readLedColor (opened : Bool)
  /-- The standby monitor writes the colour. -/
  | writeLedColor
  deriving DecidableEq

section Step

variable
  {Led Color : Type}
  [DecidableEq Led]
  [DecidableEq Color]

/-- `is_disk_healthy_or_standby`. -/
def isDiskHealthyOrStandby
    (palette : Palette Led Color)
    (ledColor colorHealth : Color) : Bool :=
  ledColor = colorHealth || ledColor = palette.standby

/-- The state the monitors are started in. -/
def Monitors.start (palette : Palette Led Color) :
    Monitors Led Color where
  color := palette.health
  loop := fun _ => { remaining := [], checked := none }
  checkStandby :=
    { remaining := []
      phase := .idle
      deviceValid := fun _ => true
      deviceStandby := fun _ => false }

namespace Monitors

variable
  (palette : Palette Led Color)
  (state : Monitors Led Color)

/-- A loop of the script moves on. -/
def setLoop
    (monitor : ShellMonitor)
    (loop : ShellLoop Led) : Monitors Led Color :=
  { state with loop := Function.update state.loop monitor loop }

/-- The LEDs a pass goes through: all of them, or some of a pool's. -/
def IsPass
    (leds : List Led)
    (monitor : ShellMonitor)
    (items : List Led) : Prop :=
  match monitor with
  | .zpool =>
      ∀ led ∈ items, led ∈ leds
  | .smart | .online =>
      items = leds

instance
    (leds : List Led)
    (monitor : ShellMonitor)
    (items : List Led) :
    Decidable (IsPass leds monitor items) :=
  match monitor with
  | .zpool =>
      inferInstanceAs (Decidable (∀ led ∈ items, led ∈ leds))
  | .smart | .online =>
      inferInstanceAs (Decidable (items = leds))

/-- The beginning of the body of a loop: it reads the colour and may skip. -/
def shellRead (monitor : ShellMonitor) : Option (Monitors Led Color) :=
  match state.loop monitor with
  | ⟨led :: rest, none⟩ =>
      let skipped :=
        !isDiskHealthyOrStandby palette (state.color led)
          (palette.health led)
      some
        (state.setLoop monitor
          { remaining := rest
            checked := if skipped then none else some led })
  | _ =>
      none

/-- The end of the body of a loop: it writes its colour if the disk failed. -/
def shellJudge
    (monitor : ShellMonitor)
    (failed : Bool) : Option (Monitors Led Color) :=
  match (state.loop monitor).checked with
  | none =>
      none
  | some led =>
      let next :=
        state.setLoop monitor
          { state.loop monitor with checked := none }
      some
        (if failed then
          { next with
            color :=
              Function.update state.color led
                (palette.failure monitor) }
        else
          next)

/-- The standby monitor up to the comparison of the power modes. -/
def standbyProbe (isStandby : Option Bool) : Option (Monitors Led Color) :=
  let loop := state.checkStandby
  match loop.phase, loop.remaining with
  | .idle, led :: rest =>
      let checkStandby :=
        if loop.deviceValid led = false then
          { loop with remaining := rest }
        else
          match isStandby with
          | none =>
              { loop with
                remaining := rest
                deviceValid :=
                  Function.update loop.deviceValid led false }
          | some isStandby =>
              { loop with
                remaining := rest
                phase :=
                  if isStandby = loop.deviceStandby led then .idle
                  else .probed led isStandby }
      some { state with checkStandby }
  | _, _ =>
      none

/-- The standby monitor reads a colour and compares it. -/
def standbyRead (opened : Bool) : Option (Monitors Led Color) :=
  let loop := state.checkStandby
  match loop.phase with
  | .probed led isStandby =>
      let currentColor := state.color led
      let checkStandby :=
        if opened = false then
          { loop with
            phase := .idle
            deviceValid :=
              Function.update loop.deviceValid led false }
        else if loop.deviceStandby led = true ∧
              currentColor = palette.standby ∨
            loop.deviceStandby led = false ∧
              currentColor = palette.normal led then
          { loop with phase := .writing led isStandby }
        else
          { loop with
            phase := .idle
            deviceStandby :=
              Function.update loop.deviceStandby led isStandby }
      some { state with checkStandby }
  | _ =>
      none

/-- The standby monitor writes the other one of its two colours. -/
def standbyWrite : Option (Monitors Led Color) :=
  let loop := state.checkStandby
  match loop.phase with
  | .writing led isStandby =>
      let color :=
        if loop.deviceStandby led then palette.normal led
        else palette.standby
      some
        { state with
          color := Function.update state.color led color
          checkStandby :=
            { loop with
              phase := .idle
              deviceStandby :=
                Function.update loop.deviceStandby led isStandby } }
  | _ =>
      none

/-- One step of one of the four processes. -/
def step
    (palette : Palette Led Color)
    (leds : List Led)
    (state : Monitors Led Color) :
    MonitorAction Led → Option (Monitors Led Color)
  | .pass monitor items =>
      if state.loop monitor = ⟨[], none⟩ ∧ IsPass leds monitor items then
        some (state.setLoop monitor ⟨items, none⟩)
      else
        none
  | .readColor monitor =>
      state.shellRead palette monitor
  | .judge monitor failed =>
      state.shellJudge palette monitor failed
  | .standbyPass =>
      if state.checkStandby.phase = .idle ∧
          state.checkStandby.remaining = [] then
        some
          { state with
            checkStandby :=
              { state.checkStandby with remaining := leds } }
      else
        none
  | .probe isStandby =>
      state.standbyProbe isStandby
  | .readLedColor opened =>
      state.standbyRead palette opened
  | .writeLedColor =>
      state.standbyWrite palette

end Monitors

end Step

section Colors

variable
  {Led Color : Type}

/-- A colour that marks a failure. -/
def Palette.Failure
    (palette : Palette Led Color)
    (color : Color) : Prop :=
  ∃ monitor, palette.failure monitor = color

/-- Neither of the standby monitor's colours marks a failure. -/
theorem Palette.not_failure_normal
    (palette : Palette Led Color)
    (led : Led) :
    ¬ palette.Failure (palette.normal led) := by
  rintro ⟨monitor, same⟩
  obtain ⟨other, isHealth⟩ := palette.normal_health led
  exact palette.failure_ne_health monitor other (same.trans isHealth)

theorem Palette.not_failure_standby (palette : Palette Led Color) :
    ¬ palette.Failure palette.standby := by
  rintro ⟨monitor, same⟩
  exact palette.failure_ne_standby monitor same

namespace Monitors

variable
  {palette : Palette Led Color}
  {state next : Monitors Led Color}

/-- The standby monitor has read an LED's colour and is about to write it. -/
def Pending
    (state : Monitors Led Color)
    (led : Led) : Prop :=
  ∃ isStandby, state.checkStandby.phase = .writing led isStandby

/-- The step does not mark a failure on an LED with a pending write. -/
def Undisturbed
    (state : Monitors Led Color)
    (action : MonitorAction Led) : Prop :=
  ∀ monitor led,
    action = .judge monitor true →
    (state.loop monitor).checked = some led →
    ¬ state.Pending led

/-- No failure is shown where a write is pending. -/
def Safe
    (palette : Palette Led Color)
    (state : Monitors Led Color) : Prop :=
  ∀ led, state.Pending led → ¬ palette.Failure (state.color led)

/-- Nothing is pending in an idle phase. -/
theorem not_pending_of_idle
    (idle : state.checkStandby.phase = .idle)
    (led : Led) :
    ¬ state.Pending led := by
  rintro ⟨isStandby, writing⟩
  rw [idle] at writing
  cases writing

/-- An idle standby monitor is not disturbed. -/
theorem undisturbed_of_idle
    (idle : state.checkStandby.phase = .idle)
    (action : MonitorAction Led) :
    state.Undisturbed action :=
  fun _ led _ _ => not_pending_of_idle idle led

/-- The monitors are started in a safe state. -/
theorem safe_start (palette : Palette Led Color) :
    Safe palette (Monitors.start palette) :=
  fun led pending => absurd pending (not_pending_of_idle rfl led)

end Monitors

end Colors

section Persistence

variable
  {Led Color : Type}
  [DecidableEq Led]
  {palette : Palette Led Color}
  {leds : List Led}
  {state next : Monitors Led Color}
  {action : MonitorAction Led}

namespace Monitors

/-- What a step does to the colours and to the pending write. -/
inductive Effect
    (palette : Palette Led Color)
    (state next : Monitors Led Color) :
    MonitorAction Led → Prop where
  /-- No colour changes, and no write becomes pending. -/
  | silent {action : MonitorAction Led} :
      next.color = state.color →
      (∀ led, next.Pending led → state.Pending led) →
      Effect palette state next action
  /-- A loop of the script marks a failure. -/
  | marked {monitor : ShellMonitor} {led : Led} :
      (state.loop monitor).checked = some led →
      next.color =
        Function.update state.color led (palette.failure monitor) →
      next.checkStandby = state.checkStandby →
      Effect palette state next (.judge monitor true)
  /-- The standby monitor reads a colour that calls for another one. -/
  | read {led : Led} {opened : Bool} :
      ¬ palette.Failure (state.color led) →
      next.color = state.color →
      (∀ other, next.Pending other → other = led) →
      Effect palette state next (.readLedColor opened)
  /-- The standby monitor writes a colour that marks no failure. -/
  | written {led : Led} {color : Color} :
      state.Pending led →
      ¬ palette.Failure color →
      next.color = Function.update state.color led color →
      next.checkStandby.phase = .idle →
      Effect palette state next .writeLedColor

/-- The end of a loop's body marks a failure or changes no colour. -/
theorem effect_of_shellJudge
    {monitor : ShellMonitor}
    {failed : Bool}
    (taken : state.shellJudge palette monitor failed = some next) :
    Effect palette state next (.judge monitor failed) := by
  unfold shellJudge at taken
  split at taken
  · cases taken
  · rename_i led checked
    cases taken
    cases failed with
    | true =>
        exact .marked checked rfl rfl
    | false =>
        exact .silent rfl fun _ pending => pending

/-- Asking for the power mode changes no colour. -/
theorem effect_of_standbyProbe
    {isStandby : Option Bool}
    (taken : state.standbyProbe isStandby = some next) :
    Effect palette state next (.probe isStandby) := by
  unfold standbyProbe at taken
  simp only at taken
  split at taken
  · rename_i led rest idle remaining
    cases taken
    refine .silent rfl ?_
    rintro other ⟨wasStandby, writing⟩
    simp only at writing
    split at writing
    · exact ⟨wasStandby, writing⟩
    · split at writing
      · exact ⟨wasStandby, writing⟩
      · simp only at writing
        split at writing <;> cases writing
  · cases taken

/-- What the standby monitor writes marks no failure. -/
theorem effect_of_standbyWrite
    (taken : state.standbyWrite palette = some next) :
    Effect palette state next .writeLedColor := by
  unfold standbyWrite at taken
  simp only at taken
  split at taken
  · rename_i led isStandby writing
    cases taken
    refine .written ⟨isStandby, writing⟩ ?_ rfl rfl
    split
    · exact palette.not_failure_normal led
    · exact palette.not_failure_standby
  · cases taken

/-- A pending write goes through and shows no failure. -/
theorem standbyWrite_of_writing
    (palette : Palette Led Color)
    {led : Led}
    {isStandby : Bool}
    (writing : state.checkStandby.phase = .writing led isStandby) :
    ∃ last,
      state.standbyWrite palette = some last ∧
        ¬ palette.Failure (last.color led) := by
  cases wrote : state.standbyWrite palette with
  | none =>
      simp [standbyWrite, writing] at wrote
  | some last =>
      refine ⟨last, rfl, ?_⟩
      simp only [standbyWrite, writing, Option.some.injEq] at wrote
      rw [← wrote]
      simp only [Function.update_self]
      split
      · exact palette.not_failure_normal led
      · exact palette.not_failure_standby

variable
  [DecidableEq Color]

/-- The standby monitor goes on to write only where no failure is shown. -/
theorem effect_of_standbyRead
    {opened : Bool}
    (taken : state.standbyRead palette opened = some next) :
    Effect palette state next (.readLedColor opened) := by
  unfold standbyRead at taken
  simp only at taken
  split at taken
  · rename_i led isStandby probed
    split at taken
    · cases taken
      exact .silent rfl fun other pending =>
        absurd pending (not_pending_of_idle rfl other)
    · split at taken
      · rename_i matching
        cases taken
        refine
          .read (show ¬ palette.Failure (state.color led) from ?_) rfl
            ?_
        · rcases matching with ⟨-, standby⟩ | ⟨-, normal⟩
          · rw [standby]
            exact palette.not_failure_standby
          · rw [normal]
            exact palette.not_failure_normal led
        · rintro other ⟨wasStandby, writing⟩
          cases writing
          rfl
      · cases taken
        exact .silent rfl fun other pending =>
          absurd pending (not_pending_of_idle rfl other)
  · cases taken

/-- Every step has one of the four effects. -/
theorem effect_of_step
    (taken : step palette leds state action = some next) :
    Effect palette state next action := by
  cases action with
  | pass monitor items =>
      unfold step at taken
      simp only at taken
      split at taken
      · cases taken
        exact .silent rfl fun _ pending => pending
      · cases taken
  | readColor monitor =>
      unfold step shellRead at taken
      simp only at taken
      split at taken
      · cases taken
        exact .silent rfl fun _ pending => pending
      · cases taken
  | judge monitor failed =>
      exact effect_of_shellJudge taken
  | standbyPass =>
      unfold step at taken
      simp only at taken
      split at taken
      · cases taken
        exact .silent rfl fun _ pending => pending
      · cases taken
  | probe isStandby =>
      exact effect_of_standbyProbe taken
  | readLedColor opened =>
      exact effect_of_standbyRead taken
  | writeLedColor =>
      exact effect_of_standbyWrite taken

/-- An undisturbed step keeps pending writes away from failures. -/
theorem Safe.preserved
    (safe : Safe palette state)
    (undisturbed : state.Undisturbed action)
    (taken : step palette leds state action = some next) :
    Safe palette next := by
  intro led pending
  cases effect_of_step taken with
  | silent sameColor noNew =>
      rw [sameColor]
      exact safe led (noNew led pending)
  | @marked monitor marked checked newColor sameStandby =>
      have wasPending : state.Pending led := by
        unfold Pending at pending ⊢
        rwa [sameStandby] at pending
      have different : led ≠ marked := by
        rintro rfl
        exact undisturbed monitor led rfl checked wasPending
      rw [newColor, Function.update_of_ne different]
      exact safe led wasPending
  | read noFailure sameColor only =>
      rw [sameColor, only led pending]
      exact noFailure
  | written _ _ _ idle =>
      exact absurd pending (not_pending_of_idle idle led)

/-- A step from a safe state leaves no failure behind. -/
theorem Safe.failure_step
    (safe : Safe palette state)
    (taken : step palette leds state action = some next)
    {led : Led}
    (shown : palette.Failure (state.color led)) :
    palette.Failure (next.color led) := by
  cases effect_of_step taken with
  | silent sameColor _ =>
      rwa [sameColor]
  | @marked monitor marked checked newColor _ =>
      rw [newColor]
      by_cases same : led = marked
      · subst same
        rw [Function.update_self]
        exact ⟨monitor, rfl⟩
      · rwa [Function.update_of_ne same]
  | read _ sameColor _ =>
      rwa [sameColor]
  | @written target _ pending _ newColor _ =>
      have different : led ≠ target := by
        rintro rfl
        exact safe led pending shown
      rwa [newColor, Function.update_of_ne different]

/--
In a run whose steps never mark a failure between a read and a write of the
standby monitor on the same LED, an LED that shows a failure shows one for the
rest of the run.
-/
theorem failure_persists
    {earlier later : List (MonitorAction Led)}
    {reached : Monitors Led Color}
    (ran :
      PartialRun.run? (step palette leds) (Monitors.start palette)
        earlier = some reached)
    (undisturbed :
      PartialRun.Along (step palette leds) Undisturbed
        (Monitors.start palette) (earlier ++ later))
    {led : Led}
    (shown : palette.Failure (reached.color led)) :
    PartialRun.Always (step palette leds)
      (fun state => palette.Failure (state.color led)) reached later := by
  obtain ⟨before, after⟩ := undisturbed.append ran
  have safe : Safe palette reached :=
    (PartialRun.always_of_along
      (fun safe undisturbed taken => safe.preserved undisturbed taken)
      (safe_start palette) before).final ran
  have persists :
      PartialRun.Always (step palette leds)
        (fun state =>
          Safe palette state ∧ palette.Failure (state.color led))
        reached later :=
    PartialRun.always_of_along
      (fun holds undisturbed taken =>
        ⟨holds.1.preserved undisturbed taken,
          holds.1.failure_step taken holds.2⟩)
      ⟨safe, shown⟩ after
  exact persists.mono And.right

/-- A disturbed write replaces the failure it was disturbed by. -/
theorem failure_lost_of_disturbed
    {monitor : ShellMonitor}
    {led : Led}
    (checked : (state.loop monitor).checked = some led)
    (pending : state.Pending led) :
    ∃ marked last,
      step palette leds state (.judge monitor true) = some marked ∧
        palette.Failure (marked.color led) ∧
        step palette leds marked .writeLedColor = some last ∧
        ¬ palette.Failure (last.color led) := by
  obtain ⟨isStandby, writing⟩ := pending
  cases judged : state.shellJudge palette monitor true with
  | none =>
      simp [shellJudge, checked] at judged
  | some marked =>
      have shape := judged
      simp only [shellJudge, checked, ↓reduceIte,
        Option.some.injEq] at shape
      have stillWriting :
          marked.checkStandby.phase = .writing led isStandby := by
        rw [← shape]
        exact writing
      obtain ⟨last, wrote, lost⟩ :=
        standbyWrite_of_writing palette stillWriting
      refine ⟨marked, last, judged, ⟨monitor, ?_⟩, wrote, lost⟩
      rw [← shape]
      exact (Function.update_self led _ state.color).symm

/-- One LED, and numbers for the colours. -/
def examplePalette : Palette Unit Nat where
  health := fun _ => 0
  standby := 1
  failure := fun _ => 2
  normal := fun _ => 0
  normal_health := fun led => ⟨led, rfl⟩
  failure_ne_health := fun _ _ => by decide
  failure_ne_standby := fun _ => by decide

/-- A disk fails, and goes to standby after that. -/
theorem failure_persists_in_standby :
    ∃ reached,
      PartialRun.run? (step examplePalette [()]) (start examplePalette)
          [.pass .smart [()], .readColor .smart, .judge .smart true] =
        some reached ∧
        PartialRun.Always (step examplePalette [()])
          (fun state => examplePalette.Failure (state.color ()))
          reached
          [.standbyPass, .probe (some true), .readLedColor true] := by
  have ran :
      PartialRun.run? (step examplePalette [()]) (start examplePalette)
          [.pass .smart [()], .readColor .smart, .judge .smart true] =
        some _ :=
    rfl
  refine ⟨_, ran, failure_persists ran ?_ ⟨.smart, rfl⟩⟩
  refine ⟨undisturbed_of_idle rfl _, ?_⟩
  rintro _ ⟨⟩
  refine ⟨undisturbed_of_idle rfl _, ?_⟩
  rintro _ ⟨⟩
  refine ⟨undisturbed_of_idle rfl _, ?_⟩
  rintro _ ⟨⟩
  refine ⟨undisturbed_of_idle rfl _, ?_⟩
  rintro _ ⟨⟩
  refine ⟨undisturbed_of_idle rfl _, ?_⟩
  rintro _ ⟨⟩
  refine ⟨?_, fun _ _ => trivial⟩
  rintro _ _ ⟨⟩

/-- The standby monitor has read the colour when the failure is marked. -/
theorem failure_lost_to_standby :
    ¬ ∀ (palette : Palette Unit Nat) (leds : List Unit)
        (earlier later : List (MonitorAction Unit))
        (reached : Monitors Unit Nat) (led : Unit),
      PartialRun.run? (step palette leds) (start palette) earlier =
        some reached →
      palette.Failure (reached.color led) →
      PartialRun.Always (step palette leds)
        (fun state => palette.Failure (state.color led)) reached
        later := by
  intro persists
  have always :=
    persists examplePalette [()]
      [.pass .smart [()], .readColor .smart, .standbyPass,
        .probe (some true), .readLedColor true, .judge .smart true]
      [.writeLedColor] _ () rfl ⟨.smart, rfl⟩
  exact examplePalette.not_failure_standby (always.2 _ rfl)

end Monitors

end Persistence

end DiskIoMon

end UgreenLeds
