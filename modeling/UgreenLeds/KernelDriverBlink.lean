import UgreenLeds.KernelDriverColor

/-!
# Blink timings through the driver

Two delays enter through `blink_type_store` or `ugreen_led_set_blink` as 64-bit
numbers, are clamped, added and narrowed to the sixteen bits of the protocol,
and are reported by a subtraction.  Since the clamp leaves less than fifteen
bits to each of them, nothing wraps around on the way: what is reported is what
the MCU was told, and storing the report again is elided.
-/

namespace UgreenLeds

namespace KernelDriver

/-- The delay the driver uses for one it is given. -/
def clampDelay (delay : Nat) : Nat :=
  min (max delay 100) 0x7fff

section Show

/-- The last line of `blink_type_show`. -/
def blinkUsage : List UInt8 :=
  ascii
    "\nUsage: write \"blink <delay_on> <delay_off>\" to change the state.\n"

/-- `blink_type_show`. -/
def blinkTypeShow (state : LedState) : List UInt8 :=
  let delayOn : Int := state.tOn.toNat
  let delayOff : Int := (state.tCycle.toNat : Int) - state.tOn.toNat
  (if state.status = statusBlink then
      ascii "none [blink] breath\n"
    else if state.status = statusBreath then
      ascii "none blink [breath]\n"
    else
      ascii "[none] blink breath\n") ++
    (if state.status = statusBlink ∨ state.status = statusBreath then
        ascii "delay_on: " ++ decimal delayOn ++
          ascii ", delay_off: " ++ decimal delayOff ++ ascii "\n"
      else
        []) ++
    blinkUsage

/-- The report of a periodic mode and its two delays. -/
def blinkReport
    (isBlink : Bool)
    (delayOn delayOff : Nat) : List UInt8 :=
  ascii
      (if isBlink then "none [blink] breath\n"
        else "none blink [breath]\n") ++
    (ascii "delay_on: " ++ decimal delayOn ++
      ascii ", delay_off: " ++ decimal delayOff ++ ascii "\n") ++
    blinkUsage

end Show

section Text

/-- A text that `blink_type_store` accepts as a mode and two delays. -/
def DelayText
    (buf : List UInt8)
    (delayOn delayOff : UInt64)
    (isBlink : Bool) : Prop :=
  ∃ nrchars,
    scanBlinkType buf =
        some (.periodic delayOn delayOff isBlink, nrchars) ∧
      ¬ nrchars + 1 < buf.length

/-- The text a user writes for a mode and two delays. -/
def delayText
    (isBlink : Bool)
    (delayOn delayOff : UInt64) : List UInt8 :=
  ascii (if isBlink then "blink" else "breath") ++
    (32 :: (decimal delayOn.toNat ++
      (32 :: (decimal delayOff.toNat ++ [10]))))

/-- The literals of a format read the word they spell. -/
theorem sscanf_literals
    (word rest : List UInt8)
    (format : List Directive) :
    sscanf (word.map .literal ++ format) (word ++ rest) =
      sscanf format rest := by
  induction word with
  | nil =>
      rfl
  | cons first others inductionHypothesis =>
      simp only [List.map_cons, List.cons_append, sscanf, ↓reduceIte]
      exact inductionHypothesis

/-- The text contains no null byte. -/
theorem cString_delayText
    (isBlink : Bool)
    (delayOn delayOff : UInt64) :
    cString (delayText isBlink delayOn delayOff) =
      delayText isBlink delayOn delayOff := by
  have wordNotNull :
      ∀ byte ∈ ascii (if isBlink then "blink" else "breath"),
        byte ≠ 0 := by
    cases isBlink <;> simp [ascii]
  apply cString_eq_self
  intro byte member
  simp only [delayText, List.mem_append, List.mem_cons,
    List.not_mem_nil, or_false] at member
  rcases member with word | blank | digit | blank | digit | newline
  · exact wordNotNull byte word
  · rw [blank]
    decide
  · exact ne_zero_of_mem_decimal digit
  · rw [blank]
    decide
  · exact ne_zero_of_mem_decimal digit
  · rw [newline]
    decide

/-- The delays after the word are read back. -/
theorem sscanf_delays
    (word : String)
    (delayOn delayOff : UInt64) :
    sscanf (blinkFormat word)
        (ascii word ++
          (32 :: (decimal delayOn.toNat ++
            (32 :: (decimal delayOff.toNat ++ [10]))))) =
      some ([delayOn, delayOff], [10]) := by
  rw [blinkFormat, sscanf_literals, decimal_natCast, decimal_natCast,
    sscanf_spaces_decimal, sscanf_decimal _ (CString.head_stops rfl _),
    sscanf_spaces_decimal, sscanf_decimal _ (CString.head_stops rfl _),
    UInt64.ofNat_toNat, UInt64.ofNat_toNat]
  rfl

/-- What a user writes for a mode and two delays is accepted as such. -/
theorem delayText_accepted
    (isBlink : Bool)
    (delayOn delayOff : UInt64) :
    DelayText (delayText isBlink delayOn delayOff) delayOn delayOff
      isBlink := by
  have sameString := cString_delayText isBlink delayOn delayOff
  cases isBlink with
  | true =>
      have scanned := sscanf_delays "blink" delayOn delayOff
      refine
        ⟨(delayText true delayOn delayOff).length - 1, ?_, by omega⟩
      simp only [scanBlinkType, scanDelays, consumed, sameString]
      rw [delayText] at *
      simp only [↓reduceIte, scanned, List.length_singleton]
  | false =>
      have scanned := sscanf_delays "breath" delayOn delayOff
      refine
        ⟨(delayText false delayOn delayOff).length - 1, ?_, by omega⟩
      have notBlink :
          sscanf (blinkFormat "blink")
              (delayText false delayOn delayOff) =
            none :=
        rfl
      simp only [scanBlinkType, scanDelays, consumed, sameString,
        notBlink]
      rw [delayText] at *
      simp only [Bool.false_eq_true, ↓reduceIte, scanned,
        List.length_singleton]

end Text

section Store

/-- The clamp of the driver on a 64-bit delay. -/
theorem truncateDelay_toNat (delay : UInt64) :
    (truncateDelay delay).toNat = clampDelay delay.toNat := by
  simp only [truncateDelay, clampDelay, UInt64.lt_iff_toNat_lt,
    gt_iff_lt]
  split
  · rename_i short
    change delay.toNat < 100 at short
    change 100 = _
    omega
  · rename_i notShort
    change ¬ delay.toNat < 100 at notShort
    split
    · rename_i long
      change 0x7fff < delay.toNat at long
      change 0x7fff = _
      omega
    · rename_i notLong
      change ¬ 0x7fff < delay.toNat at notLong
      omega

/-- A clamped delay is at most half of what sixteen bits hold. -/
theorem clampDelay_le (delay : Nat) : clampDelay delay ≤ 0x7fff :=
  Nat.min_le_right _ _

/-- A clamped delay is clamped to itself. -/
theorem clampDelay_clampDelay (delay : Nat) :
    clampDelay (clampDelay delay) = clampDelay delay := by
  simp only [clampDelay]
  omega

/-- The on time survives being narrowed. -/
theorem tOn_toNat (delayOn : UInt64) :
    (truncateDelay delayOn).toUInt16.toNat =
      clampDelay delayOn.toNat := by
  have bound := clampDelay_le delayOn.toNat
  rw [UInt64.toNat_toUInt16, truncateDelay_toNat]
  omega

/-- The cycle survives being added and narrowed. -/
theorem tCycle_toNat (delayOn delayOff : UInt64) :
    (truncateDelay delayOn + truncateDelay delayOff).toUInt16.toNat =
      clampDelay delayOn.toNat + clampDelay delayOff.toNat := by
  have onBound := clampDelay_le delayOn.toNat
  have offBound := clampDelay_le delayOff.toNat
  rw [UInt64.toNat_toUInt16, UInt64.toNat_add, truncateDelay_toNat,
    truncateDelay_toNat]
  omega

/-- Delays that have been reported are clamped to themselves. -/
theorem truncateDelay_reported
    {delay reported : UInt64}
    (same : reported.toNat = clampDelay delay.toNat) :
    truncateDelay reported = truncateDelay delay := by
  apply UInt64.toNat_inj.mp
  rw [truncateDelay_toNat, truncateDelay_toNat, same,
    clampDelay_clampDelay]

variable
  (script : Script)
  (priv : LedArray)
  (led : LedIndex)

/-- The MCU acknowledges every command that a request transmits. -/
def RequestAcknowledged (request : Request) : Prop :=
  ∀ offset < (request.commands (priv.state led)).length,
    GoesThrough (script led (priv.bus.served led + offset))
      changeStateRetryCount

/-- The status of a periodic mode. -/
def periodicStatus (isBlink : Bool) : UInt8 :=
  if isBlink then statusBlink else statusBreath

/-- The command of a periodic mode. -/
def periodicCommand
    (isBlink : Bool)
    (tOn tCycle : UInt16) : Command :=
  if isBlink then .blink tCycle tOn else .breath tCycle tOn

/-- A call has transmitted one command and the MCU has executed it. -/
def Transmitted
    (after : LedArray)
    (command : Command) : Prop :=
  ∃ frame count,
    frame.decode? = some (led, command) ∧
      0 < count ∧
      after.bus.sent =
        priv.bus.sent ++ List.replicate count frame ∧
      after.bus.mcu led = command.execute (priv.bus.mcu led)

/-- A command is transmitted at least once, whatever comes back. -/
theorem changeAndRecord_sent
    (code p1 p2 p3 p4 : UInt8)
    (record : LedState → LedState) :
    ∃ count > 0,
      (changeAndRecord script priv led code p1 p2 p3 p4
          record).bus.sent =
        priv.bus.sent ++
          List.replicate count
            (changeStateFrame (ledByte led) code p1 p2 p3 p4) := by
  have transmitted :=
    priv.bus.command_sent script answer changeStateRetryCount led
      (changeStateFrame (ledByte led) code p1 p2 p3 p4) ()
  have first :
      (priv.bus.answersFor script answer led 0).transmitted = true := by
    simp only [Bus.answersFor, answer]
    split
    · rfl
    · split <;> rfl
  have sent :
      (changeStateRobust script priv led code p1 p2 p3 p4).2.bus.sent =
        _ :=
    transmitted
  refine ⟨_, RetryLoop.transmissions_pos first 4, Eq.trans ?_ sent⟩
  simp only [changeAndRecord]
  rcases changeStateRobust script priv led code p1 p2 p3 p4 with
    ⟨done, after⟩
  cases done <;> rfl

variable
  {script priv led}
  {tOn tCycle : UInt16}
  {isBlink : Bool}

/-- An acknowledged periodic mode is cached, and transmitted unless elided. -/
theorem setBlinkOrBreath_acknowledged
    (acknowledged :
      RequestAcknowledged script priv led
        (.periodic tOn tCycle isBlink)) :
    let after := setBlinkOrBreath script priv led tOn tCycle isBlink
    after.state led =
        { priv.state led with
          tOn, tCycle, status := periodicStatus isBlink } ∧
      (after = priv ∨
        Transmitted priv led after
          (periodicCommand isBlink tOn tCycle)) := by
  intro after
  by_cases shown :
      (priv.state led).tOn = tOn ∧
        (priv.state led).tCycle = tCycle ∧
        (priv.state led).status = periodicStatus isBlink
  · have elided : after = priv := if_pos shown
    obtain ⟨rfl, rfl, status⟩ := shown
    rw [elided]
    exact ⟨by rw [← status], Or.inl rfl⟩
  · have sent : after = changeAndRecord script priv led _ _ _ _ _ _ :=
      if_neg shown
    have goesThrough :
        GoesThrough (script led (priv.slice led).served)
          changeStateRetryCount := by
      refine acknowledged 0 ?_
      rw [Request.commands]
      exact (if_neg shown).symm ▸ Nat.zero_lt_one
    have slice :
        after.slice led =
          (priv.slice led).send (script led)
            (periodicCommand isBlink tOn tCycle) := by
      rw [sent]
      exact
        changeAndRecord_slice script priv
          (periodic_decode? tOn tCycle isBlink)
          (by cases isBlink <;> rfl)
    rw [Slice.send_of_goesThrough goesThrough] at slice
    refine ⟨?_, Or.inr ?_⟩
    · refine (congrArg Slice.state slice).trans ?_
      cases isBlink <;> rfl
    · obtain ⟨count, positive, transmitted⟩ :=
        changeAndRecord_sent script priv led
          (if isBlink then 0x04 else 0x05)
          (highByte tCycle) (lowByte tCycle)
          (highByte tOn) (lowByte tOn)
          (fun state =>
            { state with
              tOn, tCycle, status := periodicStatus isBlink })
      refine
        ⟨_, count,
          changeStateFrame_decode? led
            (periodic_decode? tOn tCycle isBlink),
          positive, ?_, congrArg Slice.device slice⟩
      rw [sent]
      exact transmitted

/-- A periodic mode that is cached is elided. -/
theorem setBlinkOrBreath_cached
    (cachedOn : (priv.state led).tOn = tOn)
    (cachedCycle : (priv.state led).tCycle = tCycle)
    (cachedStatus : (priv.state led).status = periodicStatus isBlink) :
    setBlinkOrBreath script priv led tOn tCycle isBlink = priv :=
  if_pos ⟨cachedOn, cachedCycle, cachedStatus⟩

/-- An accepted text asks for its mode and its truncated delays. -/
theorem blinkTypeStore_eq
    {buf : List UInt8}
    {delayOn delayOff : UInt64}
    (accepted : DelayText buf delayOn delayOff isBlink) :
    blinkTypeStore script priv led buf =
      (.ok buf.length,
        setBlinkOrBreath script priv led
          (truncateDelay delayOn).toUInt16
          (truncateDelay delayOn + truncateDelay delayOff).toUInt16
          isBlink) := by
  obtain ⟨nrchars, scanned, fits⟩ := accepted
  simp only [blinkTypeStore, scanned, fits, ↓reduceIte]

/-- The report of a cached periodic mode. -/
theorem blinkTypeShow_periodic
    {state : LedState}
    (status : state.status = periodicStatus isBlink)
    {delayOn delayOff : Nat}
    (on : state.tOn.toNat = delayOn)
    (cycle : state.tCycle.toNat = delayOn + delayOff) :
    blinkTypeShow state = blinkReport isBlink delayOn delayOff := by
  have off :
      (state.tCycle.toNat : Int) - state.tOn.toNat = delayOff := by
    omega
  simp only [blinkTypeShow, status, on] at off ⊢
  rw [off]
  cases isBlink <;> rfl

end Store

/--
What a periodic mode with two delays leaves behind when the MCU acknowledges
it: the mode is cached and transmitted with the clamped delays, it is reported
with them, and asking for what is reported has no effect at all.
-/
structure TimingsSurvive
    (priv : LedArray)
    (led : LedIndex)
    (delayOn delayOff : UInt64)
    (isBlink : Bool)
    (after : LedArray) : Prop where
  /-- The cached and transmitted times are the clamped delay and the sum. -/
  carried :
    ∃ tOn tCycle : UInt16,
      tOn.toNat = clampDelay delayOn.toNat ∧
        tCycle.toNat =
          clampDelay delayOn.toNat + clampDelay delayOff.toNat ∧
        after.state led =
          { priv.state led with
            tOn, tCycle, status := periodicStatus isBlink } ∧
        (after = priv ∨
          Transmitted priv led after
            (periodicCommand isBlink tOn tCycle))
  shown :
    blinkTypeShow (after.state led) =
      blinkReport isBlink (clampDelay delayOn.toNat)
        (clampDelay delayOff.toNat)
  /-- Storing what is reported sends nothing and changes nothing. -/
  storedAgain :
    ∀ script buf (reportedOn reportedOff : UInt64),
      reportedOn.toNat = clampDelay delayOn.toNat →
      reportedOff.toNat = clampDelay delayOff.toNat →
      DelayText buf reportedOn reportedOff isBlink →
      blinkTypeStore script after led buf = (.ok buf.length, after)
  setAgain :
    isBlink = true →
    ∀ script (reportedOn reportedOff : UInt64),
      reportedOn.toNat = clampDelay delayOn.toNat →
      reportedOff.toNat = clampDelay delayOff.toNat →
      setBlink script after led reportedOn reportedOff =
        (.ok (), reportedOn, reportedOff, after)

section Timings

variable
  {script : Script}
  {priv : LedArray}
  {led : LedIndex}
  {delayOn delayOff : UInt64}
  {isBlink : Bool}

/-- What `ugreen_led_set_blink` returns when a mode is cached afterwards. -/
theorem setBlink_eq
    {after : LedArray}
    (same :
      setBlinkOrBreath script priv led
          (truncateDelay delayOn).toUInt16
          (truncateDelay delayOn + truncateDelay delayOff).toUInt16
          true =
        after)
    (status : (after.state led).status = statusBlink)
    (on :
      (after.state led).tOn.toNat = clampDelay delayOn.toNat)
    (cycle :
      (after.state led).tCycle.toNat =
        clampDelay delayOn.toNat + clampDelay delayOff.toNat) :
    setBlink script priv led delayOn delayOff =
      (.ok (), truncateDelay delayOn, truncateDelay delayOff, after) := by
  have offBound := clampDelay_le delayOff.toNat
  have writtenOn :
      (after.state led).tOn.toUInt64 = truncateDelay delayOn := by
    apply UInt64.toNat_inj.mp
    rw [UInt16.toNat_toUInt64, truncateDelay_toNat, on]
  have writtenOff :
      (after.state led).tCycle.toUInt64 -
          (after.state led).tOn.toUInt64 =
        truncateDelay delayOff := by
    apply UInt64.toNat_inj.mp
    have ordered :
        (after.state led).tOn.toUInt64 ≤
          (after.state led).tCycle.toUInt64 := by
      rw [UInt64.le_iff_toNat_le, UInt16.toNat_toUInt64,
        UInt16.toNat_toUInt64, on, cycle]
      exact Nat.le_add_right _ _
    rw [UInt64.toNat_sub_of_le _ _ ordered, UInt16.toNat_toUInt64,
      UInt16.toNat_toUInt64, on, cycle, truncateDelay_toNat]
    exact Nat.add_sub_cancel_left ..
  simp only [setBlink, same, status, ↓reduceIte, writtenOff]
  rw [writtenOn]

/-- The timings survive the function both entry points call. -/
theorem timingsSurvive
    (acknowledged :
      RequestAcknowledged script priv led
        (Call.periodicRequest delayOn delayOff isBlink)) :
    TimingsSurvive priv led delayOn delayOff isBlink
      (setBlinkOrBreath script priv led
        (truncateDelay delayOn).toUInt16
        (truncateDelay delayOn + truncateDelay delayOff).toUInt16
        isBlink) := by
  obtain ⟨cached, transmitted⟩ := setBlinkOrBreath_acknowledged acknowledged
  have on := tOn_toNat delayOn
  have cycle := tCycle_toNat delayOn delayOff
  generalize
    setBlinkOrBreath script priv led (truncateDelay delayOn).toUInt16
      (truncateDelay delayOn + truncateDelay delayOff).toUInt16 isBlink =
        after at cached transmitted ⊢
  have status :
      (after.state led).status = periodicStatus isBlink := by
    rw [cached]
  have cachedOn :
      (after.state led).tOn = (truncateDelay delayOn).toUInt16 := by
    rw [cached]
  have cachedCycle :
      (after.state led).tCycle =
        (truncateDelay delayOn + truncateDelay delayOff).toUInt16 := by
    rw [cached]
  have elided :
      ∀ script (reportedOn reportedOff : UInt64),
        reportedOn.toNat = clampDelay delayOn.toNat →
        reportedOff.toNat = clampDelay delayOff.toNat →
        setBlinkOrBreath script after led
            (truncateDelay reportedOn).toUInt16
            (truncateDelay reportedOn +
              truncateDelay reportedOff).toUInt16 isBlink =
          after := by
    intro script reportedOn reportedOff sameOn sameOff
    rw [truncateDelay_reported sameOn, truncateDelay_reported sameOff]
    exact setBlinkOrBreath_cached cachedOn cachedCycle status
  refine ⟨⟨_, _, on, cycle, cached, transmitted⟩, ?_, ?_, ?_⟩
  · exact
      blinkTypeShow_periodic status (cachedOn ▸ on) (cachedCycle ▸ cycle)
  · intro script buf reportedOn reportedOff sameOn sameOff accepted
    rw [blinkTypeStore_eq accepted,
      elided script reportedOn reportedOff sameOn sameOff]
  · rintro rfl script reportedOn reportedOff sameOn sameOff
    have again := elided script reportedOn reportedOff sameOn sameOff
    have keptOn : truncateDelay reportedOn = reportedOn := by
      apply UInt64.toNat_inj.mp
      rw [truncateDelay_toNat, sameOn, clampDelay_clampDelay]
    have keptOff : truncateDelay reportedOff = reportedOff := by
      apply UInt64.toNat_inj.mp
      rw [truncateDelay_toNat, sameOff, clampDelay_clampDelay]
    have returned :=
      setBlink_eq again status
        (by rw [cachedOn, on, sameOn, clampDelay_clampDelay])
        (by
          rw [cachedCycle, cycle, sameOn, sameOff, clampDelay_clampDelay,
            clampDelay_clampDelay])
    rwa [keptOn, keptOff] at returned

end Timings

/--
In every state of the driver, two delays given to `blink_type_store` or
`ugreen_led_set_blink` survive if the MCU acknowledges the request, and the
latter returns `0` with the clamped delays written back.
-/
theorem blinkTimings_survive
    (script : Script)
    (priv : LedArray)
    (led : LedIndex)
    (delayOn delayOff : UInt64)
    (isBlink : Bool)
    (acknowledged :
      RequestAcknowledged script priv led
        (Call.periodicRequest delayOn delayOff isBlink)) :
    DelayText (delayText isBlink delayOn delayOff) delayOn delayOff
        isBlink ∧
      (∀ buf,
        DelayText buf delayOn delayOff isBlink →
        (blinkTypeStore script priv led buf).1 = .ok buf.length ∧
          TimingsSurvive priv led delayOn delayOff isBlink
            (blinkTypeStore script priv led buf).2) ∧
      (isBlink = true →
        ∃ (writtenOn writtenOff : UInt64) (after : LedArray),
          setBlink script priv led delayOn delayOff =
              (.ok (), writtenOn, writtenOff, after) ∧
            writtenOn.toNat = clampDelay delayOn.toNat ∧
            writtenOff.toNat = clampDelay delayOff.toNat ∧
            TimingsSurvive priv led delayOn delayOff true after) := by
  have survive := timingsSurvive acknowledged
  refine ⟨delayText_accepted isBlink delayOn delayOff, ?_, ?_⟩
  · intro buf accepted
    rw [blinkTypeStore_eq accepted]
    exact ⟨rfl, survive⟩
  · rintro rfl
    obtain ⟨tOn, tCycle, on, cycle, cached, -⟩ := survive.carried
    have returned :=
      @setBlink_eq script priv led delayOn delayOff _ rfl
        (by rw [cached]; rfl) (by rw [cached]; exact on)
        (by rw [cached]; exact cycle)
    exact
      ⟨_, _, _, returned, truncateDelay_toNat delayOn,
        truncateDelay_toNat delayOff, survive⟩

/-- A delay below the clamp and the largest one, after a probe. -/
theorem blinkTimings_survive_extremes :
    ∃ (writtenOn writtenOff : UInt64) (after : LedArray),
      setBlink (fun _ _ _ => .accepted)
          (probe (fun _ _ _ => .accepted) steadyReplies steadyMcu)
          ⟨0, by decide⟩ 7 0xffffffffffffffff =
        (.ok (), writtenOn, writtenOff, after) ∧
        writtenOn.toNat = 100 ∧ writtenOff.toNat = 32767 := by
  obtain ⟨-, -, written⟩ :=
    blinkTimings_survive (fun _ _ _ => .accepted)
      (probe (fun _ _ _ => .accepted) steadyReplies steadyMcu)
      ⟨0, by decide⟩ 7 0xffffffffffffffff true
      (fun _ _ => ⟨0, by decide, rfl, rfl⟩)
  obtain ⟨writtenOn, writtenOff, after, returned, on, off, -⟩ :=
    written rfl
  exact ⟨writtenOn, writtenOff, after, returned, on, off⟩

end KernelDriver

end UgreenLeds
