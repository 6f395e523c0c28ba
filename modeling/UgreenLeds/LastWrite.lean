import UgreenLeds.PartialRun

/-!
# The last occurrence decides

A run over a list of items assigns to a register: an item that occurs for the
register leaves it with the value the item denotes, and any other item leaves it
alone.  At the end the register has the value of the last occurrence, or the
value it started with.  An occurrence may denote nothing, but then the run does
not get past it.

The states, items and values are parameters.
-/

namespace LastWrite

variable {State Item Value : Type*}

/--
The value of a register after some items, each of which occurs for it or not;
`otherwise` is the value without any occurrence.
-/
def Decided
    (occurs : Item → Option (Option Value))
    (items : List Item)
    (otherwise value : Value) : Prop :=
  match (items.filterMap occurs).getLast? with
  | none =>
      value = otherwise
  | some denoted =>
      denoted = some value

/-- One item assigns to the register, or leaves it alone. -/
def Assigns
    (occurs : Item → Option (Option Value))
    (item : Item)
    (before after : Value) : Prop :=
  match occurs item with
  | none =>
      after = before
  | some denoted =>
      denoted = some after

/-- One more item decides the register if it occurs for it. -/
theorem Decided.concat
    {occurs : Item → Option (Option Value)}
    {items : List Item}
    {item : Item}
    {otherwise before after : Value}
    (decided : Decided occurs items otherwise before)
    (assigns : Assigns occurs item before after) :
    Decided occurs (items ++ [item]) otherwise after := by
  unfold Decided Assigns at *
  rw [List.filterMap_append]
  cases occurrence : occurs item with
  | none =>
      rw [occurrence] at assigns
      subst assigns
      simpa [occurrence] using decided
  | some denoted =>
      rw [occurrence] at assigns
      simpa [occurrence] using assigns

/-- The last occurrence in a run decides what the run leaves in a register. -/
theorem decided_of_run
    {step : State → Item → Option State}
    (read : State → Value)
    (occurs : Item → Option (Option Value))
    (assigns :
      ∀ {state item next},
        step state item = some next →
        Assigns occurs item (read state) (read next))
    {initial final : State}
    {items : List Item}
    (ran : PartialRun.run? step initial items = some final) :
    Decided occurs items (read initial) (read final) := by
  refine
    PartialRun.invariant_of_trace
      (fun past state => Decided occurs past (read initial) (read state))
      ?_ ?_ ran
  · intro past state item next decided taken
    exact decided.concat (assigns taken)
  · exact rfl

section Settles

variable {Field : Type*}

/-- A step leaves a field with a fixed value, or leaves it alone. -/
def Settles
    (field : State → Field)
    (step : State → State) : Prop :=
  (∀ first second, field (step first) = field (step second)) ∨
    ∀ state, field (step state) = field state

/-- Two steps settle a field together if both settle it. -/
theorem Settles.comp
    {field : State → Field}
    {first second : State → State}
    (later : Settles field second)
    (earlier : Settles field first) :
    Settles field (second ∘ first) := by
  rcases later with fixed | kept
  · exact Or.inl fun one other => fixed (first one) (first other)
  · rcases earlier with fixed | alone
    · refine Or.inl fun one other => ?_
      simp only [Function.comp_apply, kept, fixed one other]
    · refine Or.inr fun state => ?_
      simp only [Function.comp_apply, kept, alone]

/-- A run of steps settles a field if every step does. -/
theorem settles_foldl
    {field : State → Field}
    {step : State → Item → State}
    {items : List Item}
    (each :
      ∀ item ∈ items, Settles field fun state => step state item) :
    Settles field fun state => items.foldl step state := by
  induction items with
  | nil =>
      exact Or.inr fun _ => rfl
  | cons item rest inductionHypothesis =>
      obtain ⟨first, others⟩ := List.forall_mem_cons.mp each
      exact (inductionHypothesis others).comp first

/-- A step that settles a field does not change it a second time. -/
theorem Settles.again
    {field : State → Field}
    {step : State → State}
    (settles : Settles field step)
    (state : State) :
    field (step (step state)) = field (step state) := by
  rcases settles with fixed | kept
  · exact fixed (step state) state
  · exact kept (step state)

end Settles

end LastWrite
