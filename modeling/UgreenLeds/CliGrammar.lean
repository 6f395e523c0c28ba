import UgreenLeds.CliArguments
import UgreenLeds.Numerals

/-!
# The grammar of the options

The options of the command-line tool as its help text documents them: a name, and
for each operand an integer between zero and a bound.  Beside the lists of options
that denote operations there are those at which the parser neither completes nor
shows the help: an operand that `std::stoi` does not convert, after nothing but
well-formed ones and with no operand missing.
-/

namespace UgreenLeds

namespace CliLeds

open CString (Numeral)

section Grammar

/-- The options. -/
inductive OptionName where
  | on
  | off
  | blink
  | breath
  | color
  | brightness
  | status
  deriving DecidableEq, Repr

namespace OptionName

/-- How an option is written. -/
def text : OptionName → Argument
  | .on => ascii "-on"
  | .off => ascii "-off"
  | .blink => ascii "-blink"
  | .breath => ascii "-breath"
  | .color => ascii "-color"
  | .brightness => ascii "-brightness"
  | .status => ascii "-status"

/-- The bounds of the operands of an option. -/
def bounds : OptionName → List Int
  | .on => []
  | .off => []
  | .blink => [65535, 65535]
  | .breath => [65535, 65535]
  | .color => [255, 255, 255]
  | .brightness => [255]
  | .status => []

/-- The operation that an option stands for with its operands. -/
def operation? : OptionName → List Int → Option Operation
  | .on, [] =>
      some (.onoff 1)
  | .off, [] =>
      some (.onoff 0)
  | .blink, [tOn, tOff] =>
      some (.blinkOrBreath true (UInt16.ofInt tOn) (UInt16.ofInt tOff))
  | .breath, [tOn, tOff] =>
      some (.blinkOrBreath false (UInt16.ofInt tOn) (UInt16.ofInt tOff))
  | .color, [r, g, b] =>
      some (.rgb (UInt8.ofInt r) (UInt8.ofInt g) (UInt8.ofInt b))
  | .brightness, [level] =>
      some (.brightness (UInt8.ofInt level))
  | .status, [] =>
      some .status
  | _, _ =>
      none

end OptionName

/-- The whole argument is a numeral for an integer. -/
def IsInteger
    (text : Argument)
    (value : Int) : Prop :=
  ∃ numeral : Numeral,
    CString.Reads text numeral [] ∧ numeral.value = value

/-- Each operand is an integer between zero and its bound. -/
inductive Operands :
    List Int → List Argument → List Int → Prop where
  | nil :
      Operands [] [] []
  | cons
      {bound value : Int}
      {text : Argument}
      {bounds values : List Int}
      {texts : List Argument} :
      IsInteger text value →
      0 ≤ value →
      value ≤ bound →
      Operands bounds texts values →
      Operands (bound :: bounds) (text :: texts) (value :: values)

/-- A list of options with their operands denotes a list of operations. -/
inductive Options : List Argument → List Operation → Prop where
  | nil :
      Options [] []
  | cons
      {name : OptionName}
      {texts args : List Argument}
      {values : List Int}
      {op : Operation}
      {ops : List Operation} :
      Operands name.bounds texts values →
      name.operation? values = some op →
      Options args ops →
      Options (name.text :: (texts ++ args)) (op :: ops)

/-- `std::stoi` finds no numeral, or one outside the range of an `int`. -/
def Unconvertible (text : Argument) : Prop :=
  (∀ numeral rest, ¬ CString.Reads text numeral rest) ∨
    ∃ numeral rest,
      CString.Reads text numeral rest ∧
        (numeral.value < -2 ^ 31 ∨ 2 ^ 31 ≤ numeral.value)

/-- No operand is missing, and the first that is wrong is unconvertible. -/
inductive BadOperands : List Int → List Argument → Prop where
  | here
      {bound : Int}
      {text : Argument}
      {bounds : List Int}
      {args : List Argument} :
      Unconvertible text →
      bounds.length ≤ args.length →
      BadOperands (bound :: bounds) (text :: args)
  | later
      {bound value : Int}
      {text : Argument}
      {bounds : List Int}
      {args : List Argument} :
      IsInteger text value →
      0 ≤ value →
      value ≤ bound →
      BadOperands bounds args →
      BadOperands (bound :: bounds) (text :: args)

/-- The first thing that is wrong with the options is an unconvertible operand. -/
inductive BadOptions : List Argument → Prop where
  | here
      {name : OptionName}
      {args : List Argument} :
      BadOperands name.bounds args →
      BadOptions (name.text :: args)
  | later
      {name : OptionName}
      {texts args : List Argument}
      {values : List Int} :
      Operands name.bounds texts values →
      BadOptions args →
      BadOptions (name.text :: (texts ++ args))

end Grammar

section Integers

variable
  {text : Argument}
  {bound value : Int}

/-- `std::stoi` in terms of the numeral at the start of the text. -/
theorem stoi_eq (text : Argument) :
    stoi text =
      match CString.numeral? text with
      | none =>
          .error .invalidArgument
      | some (numeral, rest) =>
          if numeral.value < -2147483648 ∨
              2147483647 < numeral.value then
            .error .outOfRange
          else
            .ok (numeral.value, text.length - rest.length) := by
  unfold stoi CString.numeral?
  simp only [CString.splitSign_eq]
  generalize CString.Sign.split (text.dropWhile CString.isSpace) =
    signed
  rcases signed with ⟨sign, digits⟩
  by_cases empty : digits.takeWhile CString.isDigit = []
  · simp only
    rw [if_pos empty, dif_neg (not_not_intro empty)]
  · simp only
    rw [if_neg empty, dif_pos empty]
    cases sign with
    | absent =>
        rfl
    | plus =>
        rfl
    | minus =>
        rfl

/-- All of a text is read exactly if nothing is left. -/
theorem size_eq_length_iff
    {numeral : Numeral}
    {rest : List UInt8}
    (reads : CString.Reads text numeral rest) :
    text.length - rest.length = text.length ↔ rest = [] := by
  obtain ⟨⟨blanks, -, rfl⟩, -⟩ := reads
  rw [← List.length_eq_zero_iff]
  simp only [List.length_append]
  omega

/-- What `parse_integer` does with a text, case by case. -/
theorem parseInteger_eq
    (text : Argument)
    (low high : Int) :
    parseInteger text low high =
      match CString.numeral? text with
      | none =>
          .error .uncaught
      | some (numeral, rest) =>
          if numeral.value < -2147483648 ∨
              2147483647 < numeral.value then
            .error .uncaught
          else if rest ≠ [] ∨ numeral.value < low ∨
              high < numeral.value then
            .error .help
          else
            .ok numeral.value := by
  unfold parseInteger
  rw [stoi_eq]
  cases found : CString.numeral? text with
  | none =>
      rfl
  | some reading =>
      obtain ⟨numeral, rest⟩ := reading
      have size :=
        size_eq_length_iff (CString.reads_of_numeral?_eq found)
      by_cases outside :
          numeral.value < -2147483648 ∨ 2147483647 < numeral.value
      · simp only [outside, ↓reduceIte]
      · simp only [outside, ↓reduceIte, ne_eq, size]
        by_cases ended : rest = []
        · simp [ended]
        · simp [ended]

/-- An integer in the range of its operand is accepted. -/
theorem parseInteger_of_isInteger
    (small : bound < 2 ^ 31)
    (isInteger : IsInteger text value)
    (natural : 0 ≤ value)
    (atMost : value ≤ bound) :
    parseInteger text 0 bound = .ok value := by
  obtain ⟨numeral, reads, rfl⟩ := isInteger
  rw [parseInteger_eq, reads.numeral?_eq]
  simp only
  rw [if_neg (by omega), if_neg]
  simp only [ne_eq, not_true_eq_false, false_or]
  omega

/-- An unconvertible operand ends the program by an exception. -/
theorem parseInteger_of_unconvertible
    (unconvertible : Unconvertible text) :
    parseInteger text 0 bound = .error .uncaught := by
  rw [parseInteger_eq]
  rcases unconvertible with none | ⟨numeral, rest, reads, outside⟩
  · rw [CString.numeral?_eq_none.mpr none]
  · rw [reads.numeral?_eq]
    simp only
    rw [if_pos (by omega)]

/-- The three ways in which `parse_integer` ends. -/
theorem parseInteger_cases
    (text : Argument)
    (bound : Int) :
    (∃ value,
      parseInteger text 0 bound = .ok value ∧
        IsInteger text value ∧ 0 ≤ value ∧ value ≤ bound) ∨
      (parseInteger text 0 bound = .error .uncaught ∧
        Unconvertible text) ∨
      parseInteger text 0 bound = .error .help := by
  rw [parseInteger_eq]
  cases found : CString.numeral? text with
  | none =>
      exact Or.inr
        (Or.inl ⟨rfl, Or.inl (CString.numeral?_eq_none.mp found)⟩)
  | some reading =>
      obtain ⟨numeral, rest⟩ := reading
      have reads := CString.reads_of_numeral?_eq found
      simp only
      split
      · rename_i outside
        exact Or.inr
          (Or.inl
            ⟨rfl, Or.inr ⟨numeral, rest, reads, by omega⟩⟩)
      · split
        · exact Or.inr (Or.inr rfl)
        · rename_i accepted
          obtain ⟨rfl, inRange⟩ :
              rest = [] ∧
                ¬ (numeral.value < 0 ∨ bound < numeral.value) := by
            simpa using accepted
          exact Or.inl
            ⟨_, rfl, ⟨numeral, reads, rfl⟩, by omega, by omega⟩

end Integers

section Operands

/-- A step that succeeds hands on its value. -/
theorem ok_bind
    {Value Next : Type}
    (value : Value)
    (next : Value → Except Stop Next) :
    (Except.ok value >>= next) = next value :=
  rfl

/-- The operands of an option one after the other, with what is left. -/
def parseOperands :
    List Int → List Argument →
      Except Stop (List Int × List Argument)
  | [], args =>
      .ok ([], args)
  | _ :: _, [] =>
      .error .help
  | bound :: bounds, text :: args => do
      let value ← parseInteger text 0 bound
      let (values, rest) ← parseOperands bounds args
      return (value :: values, rest)

/-- Operands as documented are accepted. -/
theorem Operands.parseOperands_eq
    {bounds values : List Int}
    {texts : List Argument}
    (operands : Operands bounds texts values)
    (small : ∀ bound ∈ bounds, bound < 2 ^ 31)
    (args : List Argument) :
    parseOperands bounds (texts ++ args) = .ok (values, args) := by
  induction operands with
  | nil =>
      rfl
  | cons isInteger natural atMost _ inductionHypothesis =>
      obtain ⟨first, later⟩ := List.forall_mem_cons.mp small
      rw [List.cons_append, parseOperands,
        parseInteger_of_isInteger first isInteger natural atMost,
        inductionHypothesis later]
      rfl

/-- There are as many operands as bounds. -/
theorem Operands.length_eq
    {bounds values : List Int}
    {texts : List Argument}
    (operands : Operands bounds texts values) :
    texts.length = bounds.length ∧ values.length = bounds.length := by
  induction operands with
  | nil =>
      exact ⟨rfl, rfl⟩
  | cons _ _ _ _ inductionHypothesis =>
      simpa using inductionHypothesis

/-- Bad operands end the program by an exception, and none is missing. -/
theorem BadOperands.parseOperands_eq
    {bounds : List Int}
    {args : List Argument}
    (bad : BadOperands bounds args)
    (small : ∀ bound ∈ bounds, bound < 2 ^ 31) :
    parseOperands bounds args = .error .uncaught ∧
      bounds.length ≤ args.length := by
  induction bad with
  | here unconvertible enough =>
      rw [parseOperands, parseInteger_of_unconvertible unconvertible]
      exact ⟨rfl, by simpa using enough⟩
  | later isInteger natural atMost _ inductionHypothesis =>
      obtain ⟨first, later⟩ := List.forall_mem_cons.mp small
      obtain ⟨uncaught, enough⟩ := inductionHypothesis later
      rw [parseOperands,
        parseInteger_of_isInteger first isInteger natural atMost,
        uncaught]
      exact ⟨rfl, by simpa using enough⟩

/-- The three ways in which parsing the operands ends. -/
theorem parseOperands_cases
    (bounds : List Int)
    {args : List Argument}
    (enough : bounds.length ≤ args.length) :
    (∃ texts rest values,
      args = texts ++ rest ∧
        Operands bounds texts values ∧
        parseOperands bounds args = .ok (values, rest)) ∨
      (parseOperands bounds args = .error .uncaught ∧
        BadOperands bounds args) ∨
      parseOperands bounds args = .error .help := by
  induction bounds generalizing args with
  | nil =>
      exact Or.inl ⟨[], args, [], rfl, .nil, rfl⟩
  | cons bound bounds inductionHypothesis =>
      cases args with
      | nil =>
          exact Or.inr (Or.inr rfl)
      | cons text args =>
          have fewer : bounds.length ≤ args.length := by
            simpa using enough
          rw [parseOperands]
          rcases parseInteger_cases text bound with
            ⟨value, parsed, isInteger, natural, atMost⟩ |
              ⟨uncaught, unconvertible⟩ | help
          · rw [parsed]
            rcases inductionHypothesis fewer with
              ⟨texts, rest, values, rfl, operands, others⟩ |
                ⟨uncaught, bad⟩ | help
            · rw [others]
              exact Or.inl
                ⟨text :: texts, rest, value :: values, rfl,
                  .cons isInteger natural atMost operands, rfl⟩
            · rw [uncaught]
              exact Or.inr
                (Or.inl ⟨rfl, .later isInteger natural atMost bad⟩)
            · rw [help]
              exact Or.inr (Or.inr rfl)
          · rw [uncaught]
            exact Or.inr (Or.inl ⟨rfl, .here unconvertible fewer⟩)
          · rw [help]
            exact Or.inr (Or.inr rfl)

end Operands

section Options

namespace OptionName

/-- The bounds fit an `int`. -/
theorem bounds_small (name : OptionName) :
    ∀ bound ∈ name.bounds, bound < 2 ^ 31 := by
  cases name <;> simp [bounds]

/-- With as many operands as it has bounds, an option has an operation. -/
theorem exists_operation
    (name : OptionName)
    {values : List Int}
    (enough : values.length = name.bounds.length) :
    ∃ op, name.operation? values = some op := by
  cases name with
  | on | off | status =>
      rw [List.length_eq_zero_iff.mp enough]
      exact ⟨_, rfl⟩
  | blink | breath =>
      obtain ⟨tOn, tOff, rfl⟩ := List.length_eq_two.mp enough
      exact ⟨_, rfl⟩
  | color =>
      obtain ⟨r, g, b, rfl⟩ := List.length_eq_three.mp enough
      exact ⟨_, rfl⟩
  | brightness =>
      obtain ⟨level, rfl⟩ := List.length_eq_one_iff.mp enough
      exact ⟨_, rfl⟩

end OptionName

/-- The loop of `main` at an option, in terms of the documented operands. -/
theorem parseOps_text
    (name : OptionName)
    (args : List Argument) :
    parseOps (name.text :: args) =
      if args.length < name.bounds.length then
        .error .help
      else do
        let (values, rest) ← parseOperands name.bounds args
        let ops ← parseOps rest
        return (name.operation? values).toList ++ ops := by
  cases name with
  | on | off =>
      conv_lhs => unfold parseOps
      rw [if_pos (by decide)]
      rfl
  | status =>
      conv_lhs => unfold parseOps
      rw [if_neg (by decide), if_neg (by decide), if_neg (by decide),
        if_neg (by decide), if_pos (by decide)]
      rfl
  | brightness =>
      match args with
      | [] =>
          rfl
      | first :: args =>
          conv_lhs => unfold parseOps
          rw [if_neg (by decide), if_neg (by decide), if_neg (by decide),
            if_pos (by decide), if_neg (by simp [OptionName.bounds])]
          simp only [OptionName.bounds, parseOperands, bind_assoc]
          rfl
  | blink | breath =>
      match args with
      | [] | [_] =>
          rfl
      | first :: second :: args =>
          conv_lhs => unfold parseOps
          rw [if_neg (by decide), if_pos (by decide),
            if_neg (by simp [OptionName.bounds])]
          simp only [OptionName.bounds, parseOperands, bind_assoc]
          rfl
  | color =>
      match args with
      | [] | [_] | [_, _] =>
          rfl
      | first :: second :: third :: args =>
          conv_lhs => unfold parseOps
          rw [if_neg (by decide), if_neg (by decide), if_pos (by decide),
            if_neg (by simp [OptionName.bounds])]
          simp only [OptionName.bounds, parseOperands, bind_assoc]
          rfl

/-- The loop of `main` at anything but an option. -/
theorem parseOps_unknown
    {option : Argument}
    (unknown : ∀ name : OptionName, option ≠ name.text)
    (args : List Argument) :
    parseOps (option :: args) = .error .help := by
  have noSwitch : ¬ (option = ascii "-on" ∨ option = ascii "-off") :=
    not_or.mpr ⟨unknown .on, unknown .off⟩
  have noMode : ¬ (option = ascii "-blink" ∨ option = ascii "-breath") :=
    not_or.mpr ⟨unknown .blink, unknown .breath⟩
  have noColor : option ≠ ascii "-color" := unknown .color
  have noBrightness : option ≠ ascii "-brightness" :=
    unknown .brightness
  have noStatus : option ≠ ascii "-status" := unknown .status
  conv_lhs => unfold parseOps
  rw [if_neg noSwitch, if_neg noMode, if_neg noColor,
    if_neg noBrightness, if_neg noStatus]

variable
  {args : List Argument}

/-- Options as documented are parsed to what they denote. -/
theorem Options.parseOps_eq
    {ops : List Operation}
    (options : Options args ops) :
    parseOps args = .ok ops := by
  induction options with
  | nil =>
      rfl
  | @cons name texts args values op ops operands denotes _
      inductionHypothesis =>
      have enough : ¬ (texts ++ args).length < name.bounds.length := by
        rw [List.length_append, operands.length_eq.1]
        omega
      rw [parseOps_text, if_neg enough,
        operands.parseOperands_eq name.bounds_small args]
      simp only [ok_bind, inductionHypothesis, denotes]
      rfl

/-- Options with a bad operand end the program by an exception. -/
theorem BadOptions.parseOps_eq
    (bad : BadOptions args) :
    parseOps args = .error .uncaught := by
  induction bad with
  | @here name args operands =>
      obtain ⟨uncaught, enough⟩ :=
        operands.parseOperands_eq name.bounds_small
      rw [parseOps_text, if_neg (not_lt.mpr enough), uncaught]
      rfl
  | @later name texts args values operands _ inductionHypothesis =>
      have enough : ¬ (texts ++ args).length < name.bounds.length := by
        rw [List.length_append, operands.length_eq.1]
        omega
      rw [parseOps_text, if_neg enough,
        operands.parseOperands_eq name.bounds_small args]
      simp only [ok_bind, inductionHypothesis]
      rfl

/-- The three ways in which parsing the options ends. -/
theorem parseOps_cases (args : List Argument) :
    (∃ ops, parseOps args = .ok ops ∧ Options args ops) ∨
      (parseOps args = .error .uncaught ∧ BadOptions args) ∨
      parseOps args = .error .help := by
  induction measure : args.length using Nat.strong_induction_on
    generalizing args with
  | h length inductionHypothesis =>
      cases args with
      | nil =>
          exact Or.inl ⟨[], rfl, .nil⟩
      | cons option args =>
          by_cases known : ∃ name : OptionName, option = name.text
          · obtain ⟨name, rfl⟩ := known
            rw [parseOps_text]
            split
            · exact Or.inr (Or.inr rfl)
            · rename_i enough
              rcases parseOperands_cases name.bounds
                  (not_lt.mp enough) with
                ⟨texts, rest, values, rfl, operands, parsed⟩ |
                  ⟨uncaught, bad⟩ | help
              · have shorter : rest.length < length := by
                  rw [← measure, List.length_cons, List.length_append]
                  omega
                rw [parsed]
                rcases inductionHypothesis _ shorter rest rfl with
                  ⟨ops, others, options⟩ | ⟨uncaught, bad⟩ | help
                · obtain ⟨op, denotes⟩ :=
                    name.exists_operation operands.length_eq.2
                  refine Or.inl
                    ⟨op :: ops, ?_, .cons operands denotes options⟩
                  simp only [ok_bind, others, denotes]
                  rfl
                · refine Or.inr (Or.inl ⟨?_, .later operands bad⟩)
                  simp only [ok_bind, uncaught]
                  rfl
                · refine Or.inr (Or.inr ?_)
                  simp only [ok_bind, help]
                  rfl
              · rw [uncaught]
                exact Or.inr (Or.inl ⟨rfl, .here bad⟩)
              · rw [help]
                exact Or.inr (Or.inr rfl)
          · exact Or.inr
              (Or.inr (parseOps_unknown (not_exists.mp known) args))

end Options

end CliLeds

end UgreenLeds
