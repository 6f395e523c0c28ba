import UgreenLeds.CliRuns
import UgreenLeds.WireFormat

/-!
# Blink timings through the command-line tool

Both times of `-blink` and `-breath` are checked to fit sixteen bits, but their
sum is formed in sixteen bits as well.  So the frames carry the times that were
asked for exactly if the sum fits too.
-/

namespace UgreenLeds

namespace CliLeds

/-- The option of a periodic mode. -/
def periodicOption (isBlink : Bool) : Argument :=
  ascii (if isBlink then "-blink" else "-breath")

/-- A frame carries an on time and a cycle of that time and an off time. -/
def CarriesTimings
    (isBlink : Bool)
    (tOn tOff : Int)
    (frame : Frame) : Prop :=
  ∃ led cycle onTime,
    frame.decode? =
        some
          (led,
            if isBlink then .blink cycle onTime
            else .breath cycle onTime) ∧
      (onTime.toNat : Int) = tOn ∧
      (cycle.toNat : Int) = tOn + tOff ∧
      onTime ≤ cycle

/-- Two times that are accepted reach the MCU as they are. -/
structure TimingsIntact
    (isBlink : Bool)
    (textOn textOff : Argument) : Prop where
  /-- Wherever the option stands in a command line. -/
  operation :
    ∀ tOn tOff,
      parseInteger textOn 0x0000 0xffff = .ok tOn →
      parseInteger textOff 0x0000 0xffff = .ok tOff →
      ∀ rest ops,
        parseOps (periodicOption isBlink :: textOn :: textOff :: rest) =
          .ok ops →
        ∃ op later,
          ops = op :: later ∧
            ∀ led frame,
              op.frame? led = some frame →
              CarriesTimings isBlink tOn tOff frame
  /-- In every run with no other option. -/
  run :
    ∀ tOn tOff,
      parseInteger textOn 0x0000 0xffff = .ok tOn →
      parseInteger textOff 0x0000 0xffff = .ok tOff →
      ∀ transfers opened names,
        (∀ name ∈ names, name.head? ≠ some 45) →
        ∀ frame error,
          .write frame error ∈
              (main transfers opened
                (names ++
                  [periodicOption isBlink, textOn, textOff])).2 →
            CarriesTimings isBlink tOn tOff frame

/-- Times that are accepted fit the cycle together. -/
def CycleFits (textOn textOff : Argument) : Prop :=
  ∀ tOn tOff,
    parseInteger textOn 0x0000 0xffff = .ok tOn →
    parseInteger textOff 0x0000 0xffff = .ok tOff →
    tOn + tOff ≤ 65535

section Parse

/-- What `parse_integer` accepts is in its range. -/
theorem parseInteger_range
    {str : Argument}
    {low high value : Int}
    (accepted : parseInteger str low high = .ok value) :
    low ≤ value ∧ value ≤ high := by
  simp only [parseInteger] at accepted
  generalize stoi str = result at accepted
  rcases result with error | ⟨read, size⟩
  · cases accepted
  · simp only at accepted
    split at accepted
    · cases accepted
    · split at accepted
      · cases accepted
      · rename_i inRange
        cases accepted
        rw [not_or, Int.not_lt, Int.not_lt] at inRange
        exact inRange

/-- The operation that a periodic option with two times stands for. -/
theorem parseOps_periodic
    (isBlink : Bool)
    (textOn textOff : Argument)
    (rest : List Argument) :
    parseOps (periodicOption isBlink :: textOn :: textOff :: rest) =
      (parseInteger textOn 0x0000 0xffff).bind fun tOn =>
        (parseInteger textOff 0x0000 0xffff).bind fun tOff =>
          (parseOps rest).bind fun ops =>
            .ok
              (.blinkOrBreath isBlink (UInt16.ofInt tOn)
                (UInt16.ofInt tOff) :: ops) := by
  have notSwitch :
      ¬ (periodicOption isBlink = ascii "-on" ∨
        periodicOption isBlink = ascii "-off") := by
    cases isBlink <;> decide
  have isPeriodic :
      periodicOption isBlink = ascii "-blink" ∨
        periodicOption isBlink = ascii "-breath" := by
    cases isBlink <;> decide
  have sameMode :
      decide (periodicOption isBlink = ascii "-blink") = isBlink := by
    cases isBlink <;> decide
  rw [parseOps, if_neg notSwitch, if_pos isPeriodic]
  simp only [sameMode]
  rfl

variable
  {isBlink : Bool}
  {textOn textOff : Argument}
  {tOn tOff : Int}
  (acceptedOn : parseInteger textOn 0x0000 0xffff = .ok tOn)
  (acceptedOff : parseInteger textOff 0x0000 0xffff = .ok tOff)

include acceptedOn acceptedOff

/-- With accepted times, the option gives its operation. -/
theorem parseOps_accepted
    {rest : List Argument}
    {ops : List Operation}
    (parsed :
      parseOps (periodicOption isBlink :: textOn :: textOff :: rest) =
        .ok ops) :
    ∃ later,
      ops =
          .blinkOrBreath isBlink (UInt16.ofInt tOn)
            (UInt16.ofInt tOff) :: later ∧
        parseOps rest = .ok later := by
  rw [parseOps_periodic, acceptedOn, acceptedOff] at parsed
  simp only [Except.bind] at parsed
  cases others : parseOps rest with
  | error stop =>
      rw [others] at parsed
      cases parsed
  | ok later =>
      rw [others] at parsed
      cases parsed
      exact ⟨later, rfl, rfl⟩

/-- Both times fit sixteen bits. -/
theorem ofInt_toNat :
    ((UInt16.ofInt tOn).toNat : Int) = tOn ∧
      ((UInt16.ofInt tOff).toNat : Int) = tOff := by
  obtain ⟨onLow, onHigh⟩ := parseInteger_range acceptedOn
  obtain ⟨offLow, offHigh⟩ := parseInteger_range acceptedOff
  simp only [UInt16.ofInt, UInt16.toNat_ofNat']
  constructor <;> omega

end Parse

section Names

/-- A list of LED names that is parsed leaves what comes after it. -/
theorem parseLeds_names
    (transfers : Transfers)
    {names : List Argument}
    (plain : ∀ name ∈ names, name.head? ≠ some 45)
    {option : Argument}
    (isOption : option.head? = some 45)
    (rest : List Argument)
    (leds : List LedTypePair)
    (log : Log) :
    (∃ stop after,
        parseLeds transfers (names ++ option :: rest) leds log =
          (.error stop, after)) ∨
      ∃ parsed after,
        parseLeds transfers (names ++ option :: rest) leds log =
          (.ok (parsed, option :: rest), after) := by
  induction names generalizing leds log with
  | nil =>
      right
      cases option with
      | nil =>
          cases isOption
      | cons first others =>
          cases isOption
          exact ⟨leds, log, rfl⟩
  | cons name names inductionHypothesis =>
      obtain ⟨notOption, later⟩ := List.forall_mem_cons.mp plain
      cases name with
      | nil =>
          exact Or.inl ⟨.emptyFront, log, rfl⟩
      | cons first others =>
          have noDash : first ≠ 45 := by
            simpa using notOption
          simp only [List.cons_append, parseLeds, noDash, ↓reduceIte]
          split
          · exact inductionHypothesis later _ _
          · split
            · exact Or.inl ⟨_, log, rfl⟩
            · exact inductionHypothesis later _ _

/-- A command line with one option is parsed to the operations of it. -/
theorem parse_names
    (transfers : Transfers)
    {names : List Argument}
    (plain : ∀ name ∈ names, name.head? ≠ some 45)
    {option : Argument}
    (isOption : option.head? = some 45)
    {rest : List Argument}
    {leds : List LedTypePair}
    {ops : List Operation}
    (parsed :
      (parse transfers (names ++ option :: rest) []).1 =
        .ok (leds, some ops)) :
    parseOps (option :: rest) = .ok ops := by
  rcases parseLeds_names transfers plain isOption rest [] [] with
      ⟨stop, after, stopped⟩ | ⟨found, after, left⟩
  · rw [parse_of_error transfers stopped] at parsed
    cases parsed
  · rw [parse_of_options transfers left] at parsed
    cases options : parseOps (option :: rest) with
    | error stop =>
        rw [options] at parsed
        cases parsed
    | ok others =>
        rw [options] at parsed
        cases parsed
        rfl

end Names

section Frames

/-- The frame of a periodic operation. -/
theorem decode?_periodic
    (led : LedType)
    (isBlink : Bool)
    (tOn tOff : UInt16) :
    ∃ index,
      (setBlinkOrBreath (if isBlink then 0x04 else 0x05) led tOn
          tOff).decode? =
        some
          (index,
            if isBlink then .blink (tOn + tOff) tOn
            else .breath (tOn + tOff) tOn) := by
  obtain ⟨index, addressed⟩ :
      ∃ index, ledIndex? led.toByte = some index := by
    cases led <;> exact ⟨_, rfl⟩
  refine ⟨index, ?_⟩
  rw [setBlinkOrBreath, cli_changeStatus_eq]
  refine Frame.decode?_change rfl addressed ?_
  exact KernelDriver.periodic_decode? tOn (tOn + tOff) isBlink

end Frames

section Intact

variable
  {isBlink : Bool}
  {textOn textOff : Argument}
  {tOn tOff : Int}
  (acceptedOn : parseInteger textOn 0x0000 0xffff = .ok tOn)
  (acceptedOff : parseInteger textOff 0x0000 0xffff = .ok tOff)

include acceptedOn acceptedOff

/-- The frames carry the times if the cycle fits. -/
theorem carriesTimings
    (fits : tOn + tOff ≤ 65535)
    {led : LedType}
    {frame : Frame}
    (written :
      (Operation.blinkOrBreath isBlink (UInt16.ofInt tOn)
          (UInt16.ofInt tOff)).frame? led =
        some frame) :
    CarriesTimings isBlink tOn tOff frame := by
  obtain ⟨on, off⟩ := ofInt_toNat acceptedOn acceptedOff
  obtain ⟨index, decoded⟩ :=
    decode?_periodic led isBlink (UInt16.ofInt tOn) (UInt16.ofInt tOff)
  have cycle :
      ((UInt16.ofInt tOn + UInt16.ofInt tOff).toNat : Int) =
        tOn + tOff := by
    rw [UInt16.toNat_add, Nat.mod_eq_of_lt (by omega)]
    omega
  cases written
  refine ⟨index, _, _, decoded, on, cycle, ?_⟩
  rw [UInt16.le_iff_toNat_le]
  omega

end Intact

/-- A frame carries two times only if the cycle fits. -/
theorem cycle_le_of_carriesTimings
    {isBlink : Bool}
    {tOn tOff : Int}
    {frame : Frame}
    (carries : CarriesTimings isBlink tOn tOff frame) :
    tOn + tOff ≤ 65535 := by
  obtain ⟨-, cycle, -, -, -, same, -⟩ := carries
  have inRange := cycle.toNat_lt
  omega

/-- Two times reach the MCU intact exactly if they fit the cycle together. -/
theorem timingsIntact_iff
    (isBlink : Bool)
    (textOn textOff : Argument) :
    TimingsIntact isBlink textOn textOff ↔ CycleFits textOn textOff := by
  constructor
  · intro intact tOn tOff acceptedOn acceptedOff
    have parsed :
        parseOps [periodicOption isBlink, textOn, textOff] =
          .ok
            [.blinkOrBreath isBlink (UInt16.ofInt tOn)
              (UInt16.ofInt tOff)] := by
      rw [parseOps_periodic, acceptedOn, acceptedOff]
      rfl
    obtain ⟨op, later, same, carries⟩ :=
      intact.operation tOn tOff acceptedOn acceptedOff [] _ parsed
    cases same
    exact cycle_le_of_carriesTimings (carries .power _ rfl)
  · intro fits
    constructor
    · intro tOn tOff acceptedOn acceptedOff rest ops parsed
      obtain ⟨later, rfl, -⟩ :=
        parseOps_accepted acceptedOn acceptedOff parsed
      have sum := fits tOn tOff acceptedOn acceptedOff
      exact
        ⟨_, later, rfl, fun _ _ written =>
          carriesTimings acceptedOn acceptedOff sum written⟩
    · intro tOn tOff acceptedOn acceptedOff transfers opened names plain
        frame error member
      have sum := fits tOn tOff acceptedOn acceptedOff
      obtain ⟨leds, ops, parsed, led, -, op, isOp, written⟩ :=
        main_writes transfers opened _ member
      have isOption : (periodicOption isBlink).head? = some 45 := by
        cases isBlink <;> rfl
      have options := parse_names transfers plain isOption parsed
      obtain ⟨later, rfl, none⟩ :=
        parseOps_accepted acceptedOn acceptedOff options
      cases none
      rw [List.mem_singleton] at isOp
      subst isOp
      exact carriesTimings acceptedOn acceptedOff sum written

/-- Two times of a minute add up to a cycle shorter than either of them. -/
theorem minute_wraps :
    ¬ TimingsIntact true (ascii "60000") (ascii "60000") := by
  intro intact
  obtain ⟨op, later, same, carries⟩ :=
    intact.operation 60000 60000 rfl rfl [] _ rfl
  cases same
  have sum : (60000 : Int) + 60000 ≤ 65535 :=
    cycle_le_of_carriesTimings (carries .power _ rfl)
  exact absurd sum (by decide)

end CliLeds

end UgreenLeds
