import UgreenLeds.CliRuns
import UgreenLeds.LastWrite
import UgreenLeds.WireFormat

/-!
# What a run of the command-line tool means to the LEDs

The transfers of a run drive the MCU.  It executes a frame or not, and it confirms
only a frame that it has executed.  So a run that succeeds leaves each LED that is
named with the operations performed one after the other, however often they are
repeated, and the other LEDs alone; a run that gives up has performed the first of
the pairs of an LED and an operation.
-/

namespace UgreenLeds

namespace CliLeds

/-- The MCU: its records, and whether it has executed the last modification. -/
structure McuState where
  leds : LedIndex → McuLed
  accepted : Bool

/-- What a transfer may do to the MCU. -/
inductive Transfer.Affects :
    Transfer → McuState → McuState → Prop where
  /-- A frame is executed, even if the transfer is reported as failed. -/
  | executed
      {mcu : McuState} {frame : Frame} {error : Option Errno}
      {led : LedIndex} {command : Command}
      (carries : frame.decode? = some (led, command)) :
      Affects (.write frame error) mcu
        { leds :=
            Function.update mcu.leds led (command.execute (mcu.leds led))
          accepted := true }
  /-- A frame arrives and is turned down. -/
  | refused
      {mcu : McuState} {frame : Frame} {error : Option Errno} :
      Affects (.write frame error) mcu { mcu with accepted := false }
  /-- A frame is lost. -/
  | lost {mcu : McuState} {frame : Frame} {error : Errno} :
      Affects (.write frame (some error)) mcu mcu
  /-- Register `0x80` reads `1` only after a frame that was executed. -/
  | answered
      {mcu : McuState} {register : UInt8} {reply : Option UInt8}
      (truthful :
        register = 0x80 → reply = some 1 → mcu.accepted = true) :
      Affects (.readByte register reply) mcu mcu
  | reported
      {mcu : McuState} {register : UInt8}
      {reply : Option (Vector UInt8 11)} :
      Affects (.readBlock register reply) mcu mcu

/-- What the transfers of a log may do to the MCU. -/
inductive Affects : Log → McuState → McuState → Prop where
  | nil {mcu : McuState} :
      Affects [] mcu mcu
  | cons
      {transfer : Transfer} {log : Log}
      {before between after : McuState}
      (first : transfer.Affects before between)
      (later : Affects log between after) :
      Affects (transfer :: log) before after

section Affects

variable {before after : McuState}

/-- Two logs affect the MCU one after the other. -/
theorem Affects.append
    {first second : Log}
    (affects : Affects (first ++ second) before after) :
    ∃ middle, Affects first before middle ∧ Affects second middle after := by
  induction first generalizing before with
  | nil =>
      exact ⟨before, .nil, affects⟩
  | cons transfer first inductionHypothesis =>
      cases affects with
      | cons once later =>
          obtain ⟨middle, earlier, final⟩ := inductionHypothesis later
          exact ⟨middle, .cons once earlier, final⟩

/-- Transfers that write nothing leave the LEDs as they are. -/
theorem Affects.leds_of_reads
    {log : Log}
    (reads : ∀ transfer ∈ log, transfer.isWrite = false)
    (affects : Affects log before after) :
    after.leds = before.leds := by
  induction affects with
  | nil =>
      rfl
  | cons first _ inductionHypothesis =>
      obtain ⟨isRead, others⟩ := List.forall_mem_cons.mp reads
      rw [inductionHypothesis others]
      cases first with
      | executed | refused | lost =>
          cases isRead
      | answered | reported =>
          rfl

end Affects

section Operations

/-- The LED of a type. -/
def LedType.index (led : LedType) : LedIndex :=
  ⟨led.toByte.toNat, by cases led <;> decide⟩

/-- A type is sent as the number of its LED. -/
theorem LedType.ledIndex?_toByte (led : LedType) :
    ledIndex? led.toByte = some led.index := by
  cases led <;> rfl

/-- The command of the protocol that an operation stands for. -/
def Operation.command? : Operation → Option Command
  | .onoff lit =>
      if lit = 0 then
        some (.onOff false)
      else if lit = 1 then
        some (.onOff true)
      else
        none
  | .blinkOrBreath isBlink tOn tOff =>
      some
        (if isBlink then .blink (tOn + tOff) tOn
        else .breath (tOn + tOff) tOn)
  | .rgb r g b =>
      some (.color ⟨r, g, b⟩)
  | .brightness level =>
      some (.brightness level)
  | .status =>
      none

/-- What an operation does to the record of an LED. -/
def Operation.perform
    (record : McuLed)
    (op : Operation) : McuLed :=
  match op.command? with
  | none =>
      record
  | some command =>
      command.execute record

/-- An operation is sent as the command that it stands for. -/
theorem Operation.frame?_decode?
    {op : Operation}
    {led : LedType}
    {frame : Frame}
    (sent : op.frame? led = some frame) :
    ∃ command,
      op.command? = some command ∧
        frame.decode? = some (led.index, command) := by
  have addressed := led.ledIndex?_toByte
  cases op with
  | onoff lit =>
      simp only [Operation.frame?, setOnoff] at sent
      split at sent
      · cases sent
      · rename_i small
        have fewer : lit.toNat < 2 :=
          UInt8.lt_iff_toNat_lt.mp (UInt8.not_le.mp small)
        have cases : lit = 0 ∨ lit = 1 := by
          rw [← UInt8.toNat_inj, ← UInt8.toNat_inj]
          change lit.toNat = 0 ∨ lit.toNat = 1
          omega
        cases sent
        rw [cli_changeStatus_eq]
        rcases cases with rfl | rfl
        · exact ⟨_, rfl, Frame.decode?_change rfl addressed rfl⟩
        · exact ⟨_, rfl, Frame.decode?_change rfl addressed rfl⟩
  | blinkOrBreath isBlink tOn tOff =>
      cases sent
      rw [setBlinkOrBreath, cli_changeStatus_eq]
      exact
        ⟨_, rfl,
          Frame.decode?_change rfl addressed
            (KernelDriver.periodic_decode? tOn (tOn + tOff) isBlink)⟩
  | rgb r g b =>
      cases sent
      rw [setRgb, cli_changeStatus_eq]
      exact ⟨_, rfl, Frame.decode?_change rfl addressed rfl⟩
  | brightness level =>
      cases sent
      rw [setBrightness, cli_changeStatus_eq]
      exact ⟨_, rfl, Frame.decode?_change rfl addressed rfl⟩
  | status =>
      cases sent

/-- What an operation does to the LED it is meant for. -/
def performPair
    (pair : Pair)
    (leds : LedIndex → McuLed) : LedIndex → McuLed :=
  Function.update leds pair.1.2.index
    (pair.2.perform (leds pair.1.2.index))

/-- Performing an operation twice is performing it once. -/
theorem performPair_again
    (pair : Pair)
    (leds : LedIndex → McuLed) :
    performPair pair (performPair pair leds) = performPair pair leds := by
  have again :
      ∀ record : McuLed,
        pair.2.perform (pair.2.perform record) =
          pair.2.perform record := by
    intro record
    simp only [Operation.perform]
    cases pair.2.command? with
    | none =>
        rfl
    | some command =>
        exact command.execute_idempotent record
  simp [performPair, again]

/-- A frame that is executed performs its operation. -/
theorem performPair_of_frame
    {pair : Pair}
    {frame : Frame}
    (sent : pair.2.frame? pair.1.2 = some frame)
    {led : LedIndex}
    {command : Command}
    (carries : frame.decode? = some (led, command))
    (leds : LedIndex → McuLed) :
    Function.update leds led (command.execute (leds led)) =
      performPair pair leds := by
  obtain ⟨own, stands, decoded⟩ := Operation.frame?_decode? sent
  rw [carries] at decoded
  cases decoded
  simp only [performPair, Operation.perform, stands]

/-- An operation that is never sent performs nothing. -/
theorem performPair_of_no_command
    {pair : Pair}
    (stands : pair.2.command? = none)
    (leds : LedIndex → McuLed) :
    performPair pair leds = leds := by
  simp [performPair, Operation.perform, stands]

/-- A write of an operation's frame performs the operation or nothing. -/
theorem Transfer.Affects.performed
    {pair : Pair}
    {frame : Frame}
    (sent : pair.2.frame? pair.1.2 = some frame)
    {error : Option Errno}
    {before after : McuState}
    (affects : Transfer.Affects (.write frame error) before after) :
    after.leds = before.leds ∨
      after.leds = performPair pair before.leds := by
  cases affects with
  | executed carries =>
      exact Or.inr (performPair_of_frame sent carries before.leds)
  | refused | lost =>
      exact Or.inl rfl

/-- A modification that the MCU confirms has been performed. -/
theorem Affects.confirmed
    {pair : Pair}
    {frame : Frame}
    (sent : pair.2.frame? pair.1.2 = some frame)
    {before after : McuState}
    (affects :
      Affects [.write frame none, .readByte 0x80 (some 1)] before
        after) :
    after.leds = performPair pair before.leds := by
  cases affects with
  | cons first later =>
      cases later with
      | cons second rest =>
          cases rest
          cases second with
          | answered truthful =>
              have accepted := truthful rfl rfl
              cases first with
              | executed carries =>
                  exact performPair_of_frame sent carries before.leds
              | refused =>
                  cases accepted

/-- The tries of a run drive the MCU. -/
theorem drives :
    OrderedTasks.Drives MissedTry DoneTry Affects McuState.leds
      performPair where
  nil := by
    intro before after affects
    cases affects
    rfl
  append := Affects.append
  again := performPair_again
  missed := by
    rintro pair piece before after ⟨-, missed⟩ affects
    cases sent : pair.2.frame? pair.1.2 with
    | none =>
        rw [sent] at missed
        simp only at missed
        subst missed
        cases affects
        exact Or.inl rfl
    | some frame =>
        rw [sent] at missed
        rcases missed with ⟨error, rfl⟩ | ⟨reply, -, rfl⟩
        · cases affects with
          | cons first rest =>
              cases rest
              exact first.performed sent
        · cases affects with
          | cons first later =>
              have kept :=
                later.leds_of_reads (by simp [Transfer.isWrite])
              rw [kept]
              exact first.performed sent
  done := by
    intro pair piece before after done affects
    rw [DoneTry] at done
    split at done
    · obtain ⟨frame, sent, rfl⟩ := done
      exact affects.confirmed sent
    · rename_i query
      have isQuery : pair.2 = .status := by
        cases op : pair.2 <;> simp_all [Operation.isModification]
      rw [affects.leds_of_reads done,
        performPair_of_no_command (by rw [isQuery]; rfl)]

end Operations

section Meaning

/-- What the operations do to a record, one after the other. -/
def performOps
    (ops : List Operation)
    (record : McuLed) : McuLed :=
  ops.foldl Operation.perform record

/-- Each operation settles each field of a record. -/
theorem perform_settles
    (op : Operation) :
    LastWrite.Settles McuLed.status (fun record => op.perform record) ∧
      LastWrite.Settles McuLed.brightness
        (fun record => op.perform record) ∧
      LastWrite.Settles McuLed.color (fun record => op.perform record) ∧
      LastWrite.Settles McuLed.tOn (fun record => op.perform record) ∧
      LastWrite.Settles McuLed.tCycle
        (fun record => op.perform record) := by
  simp only [Operation.perform]
  cases op.command? with
  | none =>
      exact
        ⟨Or.inr fun _ => rfl, Or.inr fun _ => rfl, Or.inr fun _ => rfl,
          Or.inr fun _ => rfl, Or.inr fun _ => rfl⟩
  | some command =>
      cases command with
      | brightness level =>
          exact
            ⟨Or.inr fun _ => rfl, Or.inl fun _ _ => rfl,
              Or.inr fun _ => rfl, Or.inr fun _ => rfl,
              Or.inr fun _ => rfl⟩
      | color rgb =>
          exact
            ⟨Or.inr fun _ => rfl, Or.inr fun _ => rfl,
              Or.inl fun _ _ => rfl, Or.inr fun _ => rfl,
              Or.inr fun _ => rfl⟩
      | onOff lit =>
          exact
            ⟨Or.inl fun _ _ => rfl, Or.inr fun _ => rfl,
              Or.inr fun _ => rfl, Or.inr fun _ => rfl,
              Or.inr fun _ => rfl⟩
      | blink cycle onTime | breath cycle onTime =>
          exact
            ⟨Or.inl fun _ _ => rfl, Or.inr fun _ => rfl,
              Or.inr fun _ => rfl, Or.inl fun _ _ => rfl,
              Or.inl fun _ _ => rfl⟩

/-- Performing the operations twice is performing them once. -/
theorem performOps_again
    (ops : List Operation)
    (record : McuLed) :
    performOps ops (performOps ops record) = performOps ops record := by
  have each := perform_settles
  have status : LastWrite.Settles McuLed.status (performOps ops) :=
    LastWrite.settles_foldl fun op _ => (each op).1
  have brightness :
      LastWrite.Settles McuLed.brightness (performOps ops) :=
    LastWrite.settles_foldl fun op _ => (each op).2.1
  have color : LastWrite.Settles McuLed.color (performOps ops) :=
    LastWrite.settles_foldl fun op _ => (each op).2.2.1
  have tOn : LastWrite.Settles McuLed.tOn (performOps ops) :=
    LastWrite.settles_foldl fun op _ => (each op).2.2.2.1
  have tCycle : LastWrite.Settles McuLed.tCycle (performOps ops) :=
    LastWrite.settles_foldl fun op _ => (each op).2.2.2.2
  have sameRecord :
      ∀ first second : McuLed,
        first.status = second.status →
        first.brightness = second.brightness →
        first.color = second.color →
        first.tOn = second.tOn →
        first.tCycle = second.tCycle →
        first = second := by
    rintro ⟨⟩ ⟨⟩ rfl rfl rfl rfl rfl
    rfl
  exact
    sameRecord _ _ (status.again record) (brightness.again record)
      (color.again record) (tOn.again record) (tCycle.again record)

/-- The operations on one LED change its record only. -/
theorem performAll_one
    (led : LedTypePair)
    (ops : List Operation)
    (leds : LedIndex → McuLed) :
    OrderedTasks.performAll performPair (ops.map fun op => (led, op))
        leds =
      Function.update leds led.2.index
        (performOps ops (leds led.2.index)) := by
  induction ops generalizing leds with
  | nil =>
      simp [OrderedTasks.performAll, performOps]
  | cons op ops inductionHypothesis =>
      refine (inductionHypothesis (performPair (led, op) leds)).trans ?_
      simp [performPair, performOps]

/-- The pairs leave each LED that is named with all operations performed. -/
theorem performAll_product
    (named : List LedTypePair)
    (ops : List Operation)
    (leds : LedIndex → McuLed)
    (index : LedIndex) :
    OrderedTasks.performAll performPair (named ×ˢ ops) leds index =
      if ∃ led ∈ named, led.2.index = index then
        performOps ops (leds index)
      else
        leds index := by
  induction named generalizing leds with
  | nil =>
      simp [OrderedTasks.performAll]
  | cons led named inductionHypothesis =>
      have split :
          OrderedTasks.performAll performPair ((led :: named) ×ˢ ops)
              leds =
            OrderedTasks.performAll performPair (named ×ˢ ops)
              (Function.update leds led.2.index
                (performOps ops (leds led.2.index))) := by
        rw [List.product_cons, ← performAll_one led ops leds]
        exact List.foldl_append
      rw [split, inductionHypothesis]
      by_cases isLed : index = led.2.index
      · subst isLed
        simp [performOps_again]
      · have other : led.2.index ≠ index := fun same => isLed same.symm
        simp only [Function.update_of_ne isLed, List.mem_cons,
          exists_eq_or_imp, other, false_or]

/-- What a run of the tool means to the LEDs. -/
structure Means
    (transfers : Transfers)
    (opened : Bool)
    (args : List Argument)
    (before after : LedIndex → McuLed) : Prop where
  /-- A run without operations leaves them alone. -/
  untouched :
    (∀ leds ops,
      (parse transfers args []).1 ≠ .ok (leds, some ops)) →
    after = before
  /-- A run that succeeds leaves each named LED with all operations performed. -/
  performed :
    (main transfers opened args).1 = .exited 0 →
    args ≠ [] →
    opened = true →
    ∀ leds ops,
      (parse transfers args []).1 = .ok (leds, some ops) →
      ∀ index,
        after index =
          if ∃ led ∈ leds, led.2.index = index then
            performOps ops (before index)
          else
            before index
  /-- A run that gives up has performed the first of the pairs. -/
  interrupted :
    (main transfers opened args).1 = .exited (-1) →
    opened = true →
    ∀ leds ops,
      (parse transfers args []).1 = .ok (leds, some ops) →
      ∃ done failed remaining,
        leds ×ˢ ops = done ++ failed :: remaining ∧
          (after = OrderedTasks.performAll performPair done before ∨
            after =
              OrderedTasks.performAll performPair (done ++ [failed])
                before)

/--
Whatever becomes of the transfers of a run of the tool, and whatever the MCU does
with those that it does not confirm, the run means to the LEDs what its arguments
say, up to the first operation that is never confirmed.
-/
theorem main_means
    (transfers : Transfers)
    (opened : Bool)
    (args : List Argument)
    {before after : McuState}
    (affects : Affects (main transfers opened args).2 before after) :
    Means transfers opened args before.leds after.leds := by
  refine ⟨?_, ?_, ?_⟩
  · intro unparsed
    obtain ⟨reads, same, noWrites⟩ :=
      main_reads transfers opened args unparsed
    rw [same, List.nil_append] at affects
    exact affects.leds_of_reads noWrites
  · rintro succeeded nonempty rfl leds ops parsed index
    obtain ⟨segments, logged, ⟨-, allPass⟩ | ⟨failed, -⟩⟩ :=
      main_ordered transfers nonempty parsed
    · obtain ⟨reads, same, noWrites⟩ := parse_reads transfers [] args
      rw [logged, same, List.nil_append] at affects
      obtain ⟨middle, parsing, running⟩ := affects.append
      have kept := parsing.leds_of_reads noWrites
      rw [drives.allPass allPass running, kept, performAll_product]
    · rw [failed] at succeeded
      cases succeeded
  · rintro failed rfl leds ops parsed
    have nonempty : args ≠ [] := by
      rintro rfl
      cases failed
    obtain ⟨segments, logged, ⟨succeeded, -⟩ | ⟨-, givesUp⟩⟩ :=
      main_ordered transfers nonempty parsed
    · rw [failed] at succeeded
      cases succeeded
    · obtain ⟨reads, same, noWrites⟩ := parse_reads transfers [] args
      rw [logged, same, List.nil_append] at affects
      obtain ⟨middle, parsing, running⟩ := affects.append
      have kept := parsing.leds_of_reads noWrites
      obtain ⟨done, last, remaining, split, reached⟩ :=
        drives.givesUp givesUp running
      rw [kept] at reached
      exact ⟨done, last, remaining, split, reached⟩

/-- The second write is lost, and its repetition goes through. -/
def droppedOnce : Transfers where
  write := fun number => if number = 2 then some .eio else none
  readByte := fun _ => some 1
  readBlock := fun _ => none

/-- `ugreen_leds_cli netdev -blink 400 600 -brightness 9` after a lost write. -/
theorem netdev_means :
    ∃ after,
      Means droppedOnce true
        [ascii "netdev", ascii "-blink", ascii "400", ascii "600",
          ascii "-brightness", ascii "9"]
        (fun _ => ⟨statusOff, 128, ⟨255, 255, 255⟩, 0, 0⟩) after ∧
      after 1 = ⟨statusBlink, 9, ⟨255, 255, 255⟩, 400, 1000⟩ := by
  have blinks :
      (setBlinkOrBreath 0x04 .netdev 400 600).decode? =
        some (1, .blink 1000 400) := by decide
  have dims :
      (setBrightness .netdev 9).decode? = some (1, .brightness 9) := by
    decide
  have logged :
      (main droppedOnce true
        [ascii "netdev", ascii "-blink", ascii "400", ascii "600",
          ascii "-brightness", ascii "9"]).2 =
        [.write (setBlinkOrBreath 0x04 .netdev 400 600) none,
          .readByte 0x80 (some 1),
          .write (setBrightness .netdev 9) (some .eio),
          .write (setBrightness .netdev 9) none,
          .readByte 0x80 (some 1)] := by decide +kernel
  obtain ⟨after, affects, blinking⟩ :
      ∃ after : McuState,
        Affects
          (main droppedOnce true
            [ascii "netdev", ascii "-blink", ascii "400", ascii "600",
              ascii "-brightness", ascii "9"]).2
          ⟨fun _ => ⟨statusOff, 128, ⟨255, 255, 255⟩, 0, 0⟩, false⟩
          after ∧
        after.leds 1 =
          ⟨statusBlink, 9, ⟨255, 255, 255⟩, 400, 1000⟩ := by
    rw [logged]
    exact
      ⟨_,
        .cons (.executed blinks)
          (.cons (.answered fun _ _ => rfl)
            (.cons .lost
              (.cons (.executed dims)
                (.cons (.answered fun _ _ => rfl) .nil)))),
        rfl⟩
  exact ⟨after.leds, main_means droppedOnce true _ affects, blinking⟩

end Meaning

end CliLeds

end UgreenLeds
