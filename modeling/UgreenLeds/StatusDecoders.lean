import UgreenLeds.KernelDriverAttributes
import UgreenLeds.WireFormat

/-!
# Two decoders of a status reply

The driver and the command-line tool decode the same eleven bytes.  Both insist
on a checksum that is right and not zero.  The tool then accepts the four modes
only, while the driver accepts every status byte except the one it reserves for
an invalid state; and the tool stores the off time in 16 unsigned bits, while
the driver reports a signed difference.  The decoders agree exactly where
neither difference shows.
-/

namespace UgreenLeds

open CliLeds (LedData OpMode opModeOf)

section Checksum

/-- The checksum of an eleven-byte reply is right, and not zero. -/
def Checked (reply : List UInt8) : Prop :=
  checksum (reply.take 9) ≠ 0 ∧
    checksum (reply.take 9) =
      (reply.getD 9 0).toNat <<< 8 ||| (reply.getD 10 0).toNat

instance (reply : List UInt8) : Decidable (Checked reply) :=
  inferInstanceAs (Decidable (_ ∧ _))

/-- The cycle a reply carries. -/
def replyCycle (reply : List UInt8) : Nat :=
  (reply.getD 5 0).toNat <<< 8 ||| (reply.getD 6 0).toNat

/-- The on time a reply carries. -/
def replyOnTime (reply : List UInt8) : Nat :=
  (reply.getD 7 0).toNat <<< 8 ||| (reply.getD 8 0).toNat

/-- The sum of nine bytes is far below the limit of an `int`. -/
theorem checksum_take_lt (reply : List UInt8) :
    checksum (reply.take 9) < 2 ^ 31 := by
  have bounded :
      ∀ bytes : List UInt8, checksum bytes ≤ bytes.length * 255 := by
    intro bytes
    induction bytes with
    | nil =>
        simp [checksum]
    | cons first rest inductionHypothesis =>
        have inRange := first.toNat_lt
        simp only [checksum, List.map_cons, List.sum_cons,
          List.length_cons] at inductionHypothesis ⊢
        omega
  have short : (reply.take 9).length ≤ 9 := List.length_take_le 9 reply
  have := bounded (reply.take 9)
  omega

variable
  {reply : List UInt8}
  (size : reply.length = 11)

include size

/-- `verify_checksum` accepts a reply exactly if it is checked. -/
theorem verifyChecksum_iff :
    CliLeds.verifyChecksum reply = true ↔ Checked reply := by
  have total :
      CliLeds.computeChecksum reply 9 =
        (checksum (reply.take 9) : Int) :=
    CliLeds.computeChecksum_eq reply (by omega) (by omega)
      (checksum_take_lt reply)
  have enough : ¬ 11 < 2 := by decide
  simp only [CliLeds.verifyChecksum, size, enough, ↓reduceIte, total,
    Checked, Bool.and_eq_true, decide_eq_true_eq, ne_eq,
    Nat.reduceSub, Nat.or_comm (reply.getD 10 0).toNat]
  norm_cast

omit size in
/-- `ugreen_led_get_state` accepts a reply exactly if it is checked. -/
theorem getState_eq :
    ∀ {reply : List UInt8},
      reply.length = 11 →
      KernelDriver.getState reply =
        if Checked reply then
          some
            { status := reply.getD 0 0
              brightness := reply.getD 1 0
              r := reply.getD 2 0
              g := reply.getD 3 0
              b := reply.getD 4 0
              tCycle := UInt16.ofNat (replyCycle reply)
              tOn := UInt16.ofNat (replyOnTime reply) }
        else
          none
  | [b0, b1, b2, b3, b4, b5, b6, b7, b8, b9, b10], _ => by
      have rejects :
          ∀ sum carried : Nat,
            (sum = 0 ∨ sum ≠ carried) ↔ ¬ (sum ≠ 0 ∧ sum = carried) := by
        intro sum carried
        rw [not_and_or, not_not]
      simp only [KernelDriver.getState, rejects, ite_not]
      rfl

end Checksum

section Decoders

/-- A status byte has a mode exactly if it is at most 3, and encodes it. -/
theorem opModeOf_eq_some
    {status : UInt8}
    {opMode : OpMode} :
    opModeOf status = some opMode ↔ opMode.toByte = status := by
  constructor
  · intro found
    simp only [opModeOf] at found
    split at found
    · cases found
      simp [OpMode.toByte, *]
    · split at found
      · cases found
        simp [OpMode.toByte, *]
      · split at found
        · cases found
          simp [OpMode.toByte, *]
        · split at found
          · cases found
            simp [OpMode.toByte, *]
          · cases found
  · rintro rfl
    cases opMode <;> rfl

theorem opModeOf_isSome_iff (status : UInt8) :
    (opModeOf status).isSome ↔ status ≤ 3 := by
  constructor
  · intro found
    obtain ⟨opMode, found⟩ := Option.isSome_iff_exists.mp found
    rw [opModeOf_eq_some] at found
    subst found
    cases opMode <;> decide
  · intro inRange
    have cases :
        status.toNat = 0 ∨ status.toNat = 1 ∨ status.toNat = 2 ∨
          status.toNat = 3 := by
      have := UInt8.le_iff_toNat_le.mp inRange
      change status.toNat ≤ 3 at this
      omega
    rcases cases with zero | one | two | three
    · rw [show status = 0 from UInt8.toNat_inj.mp zero]
      rfl
    · rw [show status = 1 from UInt8.toNat_inj.mp one]
      rfl
    · rw [show status = 2 from UInt8.toNat_inj.mp two]
      rfl
    · rw [show status = 3 from UInt8.toNat_inj.mp three]
      rfl

variable
  {reply : List UInt8}
  (size : reply.length = 11)

/-- What the tool reports of a checked reply with a mode. -/
def reported
    (reply : List UInt8)
    (opMode : OpMode) : LedData where
  isAvailable := true
  opMode
  brightness := reply.getD 1 0
  colorR := reply.getD 2 0
  colorG := reply.getD 3 0
  colorB := reply.getD 4 0
  tOn := UInt16.ofInt (replyOnTime reply)
  tOff := UInt16.ofInt (replyCycle reply - replyOnTime reply)

include size

/-- `get_status` reports the checked replies that carry a mode. -/
theorem getStatus_eq :
    CliLeds.getStatus reply =
      if Checked reply then
        ((opModeOf (reply.getD 0 0)).map (reported reply)).getD .zero
      else
        .zero := by
  by_cases checked : Checked reply
  · have verified := (verifyChecksum_iff size).mpr checked
    have accepted :
        ¬ (reply.length ≠ 0xb ∨
          ¬ CliLeds.verifyChecksum reply = true) := by
      simp [size, verified]
    rw [if_pos checked, CliLeds.getStatus, if_neg accepted]
    simp only
    cases opModeOf (reply.getD 0 0) <;> rfl
  · have refused :
        ¬ CliLeds.verifyChecksum reply = true :=
      fun verified => checked ((verifyChecksum_iff size).mp verified)
    rw [if_neg checked, CliLeds.getStatus, if_pos (Or.inr refused)]

end Decoders

/-- The off time the driver reports: `(int)(t_cycle - t_on)`. -/
def KernelDriver.reportedOff (state : KernelDriver.LedState) : Int :=
  (state.tCycle.toNat : Int) - (state.tOn.toNat : Int)

/--
Both decoders take the same view of one reply: the LED is available to the tool
exactly if the driver accepts the reply as valid, and then both report the same.
-/
structure DecodersAgree (reply : List UInt8) : Prop where
  available :
    (CliLeds.getStatus reply).isAvailable = true ↔
      ∃ state,
        KernelDriver.getState reply = some state ∧
          state.status ≠ KernelDriver.stateInvalid
  same :
    ∀ state,
      KernelDriver.getState reply = some state →
      (CliLeds.getStatus reply).isAvailable = true →
      let data := CliLeds.getStatus reply
      data.opMode.toByte = state.status ∧
        data.brightness = state.brightness ∧
        data.colorR = state.r ∧ data.colorG = state.g ∧
        data.colorB = state.b ∧
        data.tOn = state.tOn ∧
        (data.tOff.toNat : Int) = KernelDriver.reportedOff state

/--
What the decoders rely on in a checked reply: its status is the reserved one, or
a mode whose on time does not exceed its cycle.
-/
def Conventional (reply : List UInt8) : Prop :=
  reply.getD 0 0 = KernelDriver.stateInvalid ∨
    (reply.getD 0 0 ≤ 3 ∧ replyOnTime reply ≤ replyCycle reply)

section Agreement

/-- Two bytes make a 16-bit number. -/
theorem joinBytes_lt (high low : UInt8) :
    (high.toNat <<< 8 ||| low.toNat) < 65536 := by
  have highRange := high.toNat_lt
  have lowRange := low.toNat_lt
  apply Nat.or_lt_two_pow (n := 16)
  · rw [Nat.shiftLeft_eq]
    omega
  · omega

/-- The tool's off time is the driver's unless the difference is negative. -/
theorem off_eq_iff
    {onTime cycle : Nat}
    (onRange : onTime < 65536)
    (cycleRange : cycle < 65536) :
    ((UInt16.ofInt (cycle - onTime : Int)).toNat : Int) =
        (cycle : Int) - (onTime : Int) ↔
      onTime ≤ cycle := by
  simp only [UInt16.ofInt, UInt16.toNat_ofNat']
  omega

variable
  {reply : List UInt8}
  (size : reply.length = 11)

include size

/-- Both decoders refuse a reply that is not checked. -/
theorem decodersAgree_of_unchecked
    (unchecked : ¬ Checked reply) :
    DecodersAgree reply := by
  have noState : KernelDriver.getState reply = none := by
    rw [getState_eq size, if_neg unchecked]
  have noData : CliLeds.getStatus reply = .zero := by
    rw [getStatus_eq size, if_neg unchecked]
  constructor
  · simp [noState, noData, LedData.zero]
  · intro state decoded
    rw [noState] at decoded
    cases decoded

/-- On a reply without a mode only the reserved status is refused by both. -/
theorem decodersAgree_of_no_mode
    (checked : Checked reply)
    (noMode : opModeOf (reply.getD 0 0) = none) :
    DecodersAgree reply ↔
      reply.getD 0 0 = KernelDriver.stateInvalid := by
  have noData : CliLeds.getStatus reply = .zero := by
    rw [getStatus_eq size, if_pos checked, noMode]
    rfl
  have decoded := getState_eq size
  rw [if_pos checked] at decoded
  constructor
  · intro agree
    by_contra valid
    have available := agree.available.mpr ⟨_, decoded, valid⟩
    rw [noData] at available
    cases available
  · intro reserved
    constructor
    · rw [noData]
      constructor
      · intro available
        cases available
      · rintro ⟨state, accepted, valid⟩
        rw [decoded] at accepted
        cases accepted
        exact (valid reserved).elim
    · intro state _ available
      rw [noData] at available
      cases available

/-- On a reply with a mode the decoders can only differ in the off time. -/
theorem decodersAgree_of_mode
    (checked : Checked reply)
    {opMode : OpMode}
    (mode : opModeOf (reply.getD 0 0) = some opMode) :
    DecodersAgree reply ↔ replyOnTime reply ≤ replyCycle reply := by
  have data : CliLeds.getStatus reply = reported reply opMode := by
    rw [getStatus_eq size, if_pos checked, mode]
    rfl
  have decoded := getState_eq size
  rw [if_pos checked] at decoded
  have cycleRange : replyCycle reply < 65536 := joinBytes_lt _ _
  have onRange : replyOnTime reply < 65536 := joinBytes_lt _ _
  have status : opMode.toByte = reply.getD 0 0 :=
    opModeOf_eq_some.mp mode
  have valid : reply.getD 0 0 ≠ KernelDriver.stateInvalid := by
    rw [← status]
    cases opMode <;> decide
  have offTimes := off_eq_iff onRange cycleRange
  have cycleKept :
      (UInt16.ofNat (replyCycle reply)).toNat = replyCycle reply :=
    UInt16.toNat_ofNat_of_lt' cycleRange
  have onKept :
      (UInt16.ofNat (replyOnTime reply)).toNat = replyOnTime reply :=
    UInt16.toNat_ofNat_of_lt' onRange
  constructor
  · intro agree
    have available :
        (CliLeds.getStatus reply).isAvailable = true := by
      rw [data]
      rfl
    obtain ⟨-, -, -, -, -, -, off⟩ := agree.same _ decoded available
    rw [data, KernelDriver.reportedOff, cycleKept, onKept] at off
    exact offTimes.mp off
  · intro ordered
    constructor
    · rw [data]
      exact iff_of_true rfl ⟨_, decoded, valid⟩
    · intro state accepted _
      rw [decoded] at accepted
      cases accepted
      rw [data]
      refine ⟨status, rfl, rfl, rfl, rfl, ?_, ?_⟩
      · apply UInt16.toNat_inj.mp
        simp only [reported, UInt16.ofInt, UInt16.toNat_ofNat']
        omega
      · rw [KernelDriver.reportedOff, cycleKept, onKept]
        exact offTimes.mpr ordered

/--
For every eleven-byte reply, the two decoders agree exactly if the reply is not
checked or is conventional.
-/
theorem decodersAgree_iff :
    DecodersAgree reply ↔ (Checked reply → Conventional reply) := by
  by_cases checked : Checked reply
  · cases mode : opModeOf (reply.getD 0 0) with
    | none =>
        have tooLarge : ¬ reply.getD 0 0 ≤ 3 := by
          rw [← opModeOf_isSome_iff, mode]
          simp
        rw [decodersAgree_of_no_mode size checked mode]
        simp only [checked, Conventional, tooLarge, false_and,
          or_false, forall_const]
    | some opMode =>
        have isMode : reply.getD 0 0 ≤ 3 := by
          rw [← opModeOf_isSome_iff, mode]
          rfl
        have notReserved :
            reply.getD 0 0 ≠ KernelDriver.stateInvalid := by
          intro reserved
          rw [reserved] at isMode
          exact absurd isMode (by decide)
        rw [decodersAgree_of_mode size checked mode]
        simp only [checked, Conventional, isMode, notReserved,
          true_and, false_or, forall_const]
  · exact
      iff_of_true (decodersAgree_of_unchecked size checked)
        (fun isChecked => (checked isChecked).elim)

end Agreement

/-- They agree on a power LED that is lit for 400 of every 1000 ms. -/
theorem decodersAgree_blinking :
    DecodersAgree
      [0x02, 0xb4, 0xff, 0x00, 0xff, 0x03, 0xe8, 0x01, 0x90, 0x04,
        0x30] :=
  (decodersAgree_iff rfl).mpr
    (fun _ => Or.inr ⟨by decide, by decide⟩)

/-- The driver accepts the status byte 5, the tool does not. -/
theorem decoders_disagree :
    ¬ ∀ reply : List UInt8,
      reply.length = 11 → DecodersAgree reply := by
  intro claim
  have agree :=
    claim [5, 128, 255, 255, 255, 0, 0, 0, 0, 3, 130] rfl
  have available := agree.available.mpr ⟨_, rfl, by decide⟩
  exact absurd available (by decide)

end UgreenLeds
