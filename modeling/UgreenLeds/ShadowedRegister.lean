import Mathlib.Logic.Function.Basic

/-!
# Shadow copies of write-only registers

A client that can only write a device's registers keeps a shadow of the values
it believes are there and elides a write the shadow already shows.  A write is
acknowledged, or it is lost: then the device may or may not have executed it.

The shadow is coherent when every value it shows is the device's.  What a lost
write does to the shadow decides whether coherence survives.  A client that
discards the written register's shadow stays coherent whatever happens; a
client that retains it stays coherent exactly when the device did not execute
the lost write, or the shadow showed nothing.
-/

namespace ShadowedRegister

variable {Register : Type*}
variable {Value : Register → Type*}

/-- The values a client believes to be in the registers. -/
abbrev Shadow (Value : Register → Type*) :=
  ∀ register, Option (Value register)

/-- A device's registers together with its client's shadow of them. -/
@[ext] structure Registers (Value : Register → Type*) where
  device : ∀ register, Value register
  shadow : Shadow Value

/-- The fate of one transmitted write. -/
inductive Delivery where
  | acknowledged
  | lost (executed : Bool)
  deriving DecidableEq, Repr

/-- Every value the shadow shows is the value of the device. -/
def Coherent (registers : Registers Value) : Prop :=
  ∀ register value,
    registers.shadow register = some value →
    registers.device register = value

/-- A loss policy that shows nothing new, and nothing about `register`. -/
structure Discards
    (onLoss : Shadow Value → Shadow Value)
    (register : Register) : Prop where
  forgets :
    ∀ shadow, onLoss shadow register = none
  weakens :
    ∀ shadow other value,
      onLoss shadow other = some value →
      shadow other = some value

/-- Forgetting every register discards in particular the written one. -/
theorem discards_all
    (register : Register) :
    Discards (fun _ _ => none : Shadow Value → Shadow Value) register where
  forgets := fun _ => rfl
  weakens := fun _ _ _ shown => by cases shown

/-- A shadow that shows nothing is coherent with every device. -/
theorem coherent_of_blank
    {registers : Registers Value}
    (blank : ∀ other, registers.shadow other = none) :
    Coherent registers := by
  intro other shown isShown
  rw [blank other] at isShown
  cases isShown

/-- Showing less keeps a shadow coherent. -/
theorem Coherent.weaken
    {stronger weaker : Registers Value}
    (coherent : Coherent stronger)
    (sameDevice : weaker.device = stronger.device)
    (showsLess :
      ∀ register value,
        weaker.shadow register = some value →
        stronger.shadow register = some value) :
    Coherent weaker := by
  intro register value shown
  rw [sameDevice]
  exact coherent register value (showsLess register value shown)

section Write

variable [DecidableEq Register]
variable [∀ register, DecidableEq (Value register)]

/-- Write one register; `onLoss` is what a lost write leaves of the shadow. -/
def write
    (onLoss : Shadow Value → Shadow Value)
    (register : Register)
    (value : Value register)
    (delivery : Delivery)
    (registers : Registers Value) : Registers Value :=
  if registers.shadow register = some value then
    registers
  else
    match delivery with
    | .acknowledged =>
        { device := Function.update registers.device register value
          shadow :=
            Function.update registers.shadow register (some value) }
    | .lost executed =>
        { device :=
            if executed then
              Function.update registers.device register value
            else
              registers.device
          shadow := onLoss registers.shadow }

variable
  {onLoss : Shadow Value → Shadow Value}
  {register : Register}
  {value : Value register}
  {delivery : Delivery}
  {registers : Registers Value}

/-- A write to a discarding client keeps the shadow coherent. -/
theorem write_coherent
    (discards : Discards onLoss register)
    (coherent : Coherent registers) :
    Coherent (write onLoss register value delivery registers) := by
  unfold write
  split
  · exact coherent
  · cases delivery with
    | acknowledged =>
        intro other shown isShown
        by_cases same : other = register
        · subst same
          simpa using isShown
        · simp only [Function.update_of_ne same] at isShown ⊢
          exact coherent other shown isShown
    | lost executed =>
        intro other shown isShown
        change onLoss registers.shadow other = some shown at isShown
        have different : other ≠ register := by
          intro same
          subst same
          rw [discards.forgets] at isShown
          cases isShown
        have before := discards.weakens _ _ _ isShown
        cases executed with
        | false =>
            exact coherent other shown before
        | true =>
            simp only [↓reduceIte, Function.update_of_ne different]
            exact coherent other shown before

/-- A write that is elided or acknowledged leaves its value in the device. -/
theorem write_device
    (coherent : Coherent registers)
    (succeeds :
      registers.shadow register = some value ∨
        delivery = .acknowledged) :
    (write onLoss register value delivery registers).device register =
      value := by
  unfold write
  split
  · rename_i shown
    exact coherent register value shown
  · rename_i notShown
    rcases succeeds with shown | acknowledged
    · exact (notShown shown).elim
    · subst acknowledged
      simp

/--
A client that keeps its shadow after a loss stays coherent exactly when the
write was elided or acknowledged, the device did not execute it, or the shadow
showed nothing about the register.
-/
theorem write_retaining_coherent_iff
    (coherent : Coherent registers) :
    Coherent (write id register value delivery registers) ↔
      registers.shadow register = some value ∨
        delivery ≠ .lost true ∨
        registers.shadow register = none := by
  by_cases shown : registers.shadow register = some value
  · simp [write, shown, coherent]
  · simp only [shown, false_or]
    cases delivery with
    | acknowledged =>
        simp only [ne_eq, reduceCtorEq, not_false_eq_true, true_or, iff_true]
        have discarding :
            Coherent
              (write (fun _ _ => none) register value
                .acknowledged registers) :=
          write_coherent (discards_all register) coherent
        simpa [write, shown] using discarding
    | lost executed =>
        cases executed with
        | false =>
            simpa [write, shown] using coherent
        | true =>
            simp only [write, shown, ↓reduceIte, ne_eq,
              not_true_eq_false, false_or]
            constructor
            · intro stillCoherent
              cases believed : registers.shadow register with
              | none =>
                  rfl
              | some other =>
                  have same :=
                    stillCoherent register other (by simpa using believed)
                  simp only [Function.update_self] at same
                  exact (shown (same ▸ believed)).elim
            · intro unknown other shownValue isShown
              change registers.shadow other = some shownValue at isShown
              have different : other ≠ register := by
                intro same
                subst same
                rw [unknown] at isShown
                cases isShown
              simp only [Function.update_of_ne different]
              exact coherent other shownValue isShown

/-- A write that is elided or acknowledged assigns to one register. -/
theorem write_device_eq
    (coherent : Coherent registers)
    (succeeds :
      registers.shadow register = some value ∨
        delivery = .acknowledged) :
    (write onLoss register value delivery registers).device =
      Function.update registers.device register value := by
  by_cases shown : registers.shadow register = some value
  · have same := coherent register value shown
    simp only [write, if_pos shown]
    rw [← same, Function.update_eq_self]
  · simp [write, shown, succeeds.resolve_left shown]

end Write

section Pictures

/-- The registers of a device hold what a partial assignment says. -/
def Holds
    (device : ∀ register, Value register)
    (picture : Shadow Value) : Prop :=
  ∀ register value,
    picture register = some value →
    device register = value

variable
  {device : ∀ register, Value register}
  {picture : Shadow Value}

/-- Nothing is said by the empty assignment. -/
theorem holds_none (device : ∀ register, Value register) :
    Holds device fun _ => none := by
  intro register value said
  cases said

/-- A device that is assigned to holds the assignment. -/
theorem Holds.update
    [DecidableEq Register]
    (holds : Holds device picture)
    (register : Register)
    (value : Value register) :
    Holds (Function.update device register value)
      (Function.update picture register (some value)) := by
  intro other said isSaid
  by_cases same : other = register
  · subst same
    simpa using isSaid
  · simp only [Function.update_of_ne same] at isSaid ⊢
    exact holds other said isSaid

/-- A device holds every part of what it holds. -/
theorem Holds.weaken
    (holds : Holds device picture)
    {part : Shadow Value}
    (shows :
      ∀ register value,
        part register = some value →
        picture register = some value) :
    Holds device part :=
  fun register value said => holds register value (shows register value said)

end Pictures

end ShadowedRegister
