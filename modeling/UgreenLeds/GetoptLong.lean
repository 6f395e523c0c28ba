import Mathlib.Data.List.Basic
import Mathlib.Data.UInt

/-!
# `getopt_long`

The documented behaviour of `getopt_long` over a fixed set of short and long
options: clusters of short options, arguments in the same or the next word,
`--name=value`, unambiguous abbreviations, a terminating `--`, and operands that
may stand between options because they are moved behind them.  A scan ends at
the first word it cannot make sense of.
-/

namespace GetoptLong

/-- A word of the command line. -/
abbrev Word := List UInt8

/-- A long option: its name, whether it takes an argument, its value. -/
structure Long (Value : Type*) where
  name : Word
  hasArgument : Bool
  value : Value

/-- The options a program declares. -/
structure Spec (Value : Type*) where
  short : UInt8 → Option (Bool × Value)
  long : List (Long Value)

/-- What a scan returns, call by call, and how it ends. -/
structure Scan (Value : Type*) where
  options : List (Value × Option Word)
  /-- The operands left at the end, or nothing if a word was rejected. -/
  operands? : Option (List Word)

namespace Scan

variable {Value : Type*}

/-- A scan that ends with a rejected word. -/
def rejected : Scan Value :=
  ⟨[], none⟩

/-- A scan that first returns one more option. -/
def withOption
    (value : Value)
    (argument : Option Word)
    (scan : Scan Value) : Scan Value :=
  { scan with options := (value, argument) :: scan.options }

/-- A scan that meets an operand first. -/
def withOperand
    (word : Word)
    (scan : Scan Value) : Scan Value :=
  { scan with operands? := scan.operands?.map (word :: ·) }

end Scan

variable {Value : Type*}

/-- What the letters of one word amount to. -/
inductive Cluster (Value : Type*) where
  /-- Every letter was an option without argument. -/
  | complete : Cluster Value
  /-- The word ends with an option whose argument is the next word. -/
  | awaiting : Value → Cluster Value
  /-- The rest of the word is the argument of an option. -/
  | attached : Value → Word → Cluster Value
  /-- Some letter is no option. -/
  | rejected : Cluster Value

/-- Read a word of short options: those without argument, and how it ends. -/
def cluster
    (spec : Spec Value) :
    List UInt8 → List Value × Cluster Value
  | [] =>
      ([], .complete)
  | letter :: rest =>
      match spec.short letter with
      | none =>
          ([], .rejected)
      | some (true, value) =>
          if rest = [] then
            ([], .awaiting value)
          else
            ([], .attached value rest)
      | some (false, value) =>
          let (values, ending) := cluster spec rest
          (value :: values, ending)

/-- The long option a name denotes: an exact match or a unique abbreviation. -/
def resolve
    (spec : Spec Value)
    (name : Word) : Option (Long Value) :=
  match spec.long.find? (·.name = name) with
  | some long =>
      some long
  | none =>
      match spec.long.filter (name.isPrefixOf ·.name) with
      | [long] =>
          some long
      | _ =>
          none

/-- A long option's name and the value attached to it. -/
def splitLong (text : Word) : Word × Option Word :=
  match text.dropWhile (· ≠ 61) with
  | [] =>
      (text, none)
  | _ :: value =>
      (text.takeWhile (· ≠ 61), some value)

/-- The kind of a word that is not the argument of an option. -/
inductive Kind where
  | operand
  | terminator
  | long (text : Word)
  | short (letters : List UInt8)
  deriving DecidableEq, Repr

/-- Tell the kinds of words apart; a lone `-` is an operand. -/
def kind : Word → Kind
  | [45, 45] =>
      .terminator
  | 45 :: 45 :: text =>
      .long text
  | 45 :: letter :: letters =>
      .short (letter :: letters)
  | _ =>
      .operand

/-- Scan the words after the program's name. -/
def scan
    (spec : Spec Value) :
    List Word → Scan Value
  | [] =>
      ⟨[], some []⟩
  | word :: words =>
      match kind word with
      | .operand =>
          (scan spec words).withOperand word
      | .terminator =>
          ⟨[], some words⟩
      | .long text =>
          match resolve spec (splitLong text).1 with
          | none =>
              .rejected
          | some long =>
              match long.hasArgument, (splitLong text).2 with
              | true, some argument =>
                  (scan spec words).withOption long.value
                    (some argument)
              | true, none =>
                  match words with
                  | [] =>
                      .rejected
                  | argument :: words =>
                      (scan spec words).withOption long.value
                        (some argument)
              | false, some _ =>
                  .rejected
              | false, none =>
                  (scan spec words).withOption long.value none
      | .short letters =>
          let (values, ending) := cluster spec letters
          let rest :=
            match ending with
            | .complete =>
                scan spec words
            | .awaiting value =>
                match words with
                | [] =>
                    .rejected
                | argument :: words =>
                    (scan spec words).withOption value (some argument)
            | .attached value argument =>
                (scan spec words).withOption value (some argument)
            | .rejected =>
                .rejected
          values.foldr (fun value => Scan.withOption value none) rest

section Segments

/-- A word, with the argument it takes from the next word. -/
abbrev Segment := Word × Option Word

/-- The words of a segment. -/
def Segment.words (segment : Segment) : List Word :=
  segment.1 :: segment.2.toList

/-- Whether the next word is the argument of a word's last option. -/
def awaitsArgument
    (spec : Spec Value)
    (word : Word) : Bool :=
  match kind word with
  | .operand | .terminator =>
      false
  | .long text =>
      match resolve spec (splitLong text).1 with
      | none =>
          false
      | some long =>
          long.hasArgument && (splitLong text).2.isNone
  | .short letters =>
      match (cluster spec letters).2 with
      | .awaiting _ =>
          true
      | _ =>
          false

/-- The words in front of the terminator, each with its argument. -/
def segments
    (spec : Spec Value) :
    List Word → List Segment
  | [] =>
      []
  | word :: words =>
      if kind word = .terminator then
        []
      else if awaitsArgument spec word then
        match words with
        | [] =>
            [(word, none)]
        | argument :: words =>
            (word, some argument) :: segments spec words
      else
        (word, none) :: segments spec words

/-- The options a segment amounts to. -/
def segmentOptions
    (spec : Spec Value)
    (segment : Segment) : List (Value × Option Word) :=
  match kind segment.1 with
  | .operand | .terminator =>
      []
  | .long text =>
      match resolve spec (splitLong text).1 with
      | none =>
          []
      | some long =>
          [(long.value, (splitLong text).2.or segment.2)]
  | .short letters =>
      let (values, ending) := cluster spec letters
      values.map (·, none) ++
        match ending with
        | .awaiting value =>
            [(value, segment.2)]
        | .attached value argument =>
            [(value, some argument)]
        | _ =>
            []

variable
  {spec : Spec Value}
  {word argument : Word}
  {words : List Word}

/-- A scan that first returns some more options. -/
def Scan.withOptions
    (options : List (Value × Option Word))
    (scan : Scan Value) : Scan Value :=
  { scan with options := options ++ scan.options }

/-- Options without an argument are returned one after the other. -/
theorem foldr_withOption
    (values : List Value)
    (scan : Scan Value) :
    values.foldr (fun value => Scan.withOption value none) scan =
      scan.withOptions (values.map (·, none)) := by
  induction values with
  | nil =>
      rfl
  | cons first rest inductionHypothesis =>
      rw [List.foldr_cons, inductionHypothesis]
      rfl

/-- A word that awaits an argument takes the next one. -/
theorem scan_of_awaits
    (awaits : awaitsArgument spec word = true) :
    scan spec (word :: argument :: words) =
      (scan spec words).withOptions
        (segmentOptions spec (word, some argument)) := by
  unfold awaitsArgument at awaits
  rw [scan, segmentOptions]
  cases isKind : kind word with
  | operand | terminator =>
      simp [isKind] at awaits
  | long text =>
      simp only [isKind] at awaits
      cases found : resolve spec (splitLong text).1 with
      | none =>
          simp [found] at awaits
      | some long =>
          simp only [found, Bool.and_eq_true,
            Option.isNone_iff_eq_none] at awaits
          simp only [found, awaits]
          rfl
  | short letters =>
      simp only [isKind] at awaits ⊢
      generalize cluster spec letters = result at awaits ⊢
      obtain ⟨values, ending⟩ := result
      cases ending with
      | awaiting value =>
          simp only [foldr_withOption]
          simp [Scan.withOptions, Scan.withOption]
      | complete | attached | rejected =>
          simp at awaits

/-- A word that awaits an argument does not end an accepted command line. -/
theorem scan_of_awaits_nil
    (awaits : awaitsArgument spec word = true) :
    (scan spec [word]).operands? = none := by
  unfold awaitsArgument at awaits
  rw [scan]
  cases isKind : kind word with
  | operand | terminator =>
      simp [isKind] at awaits
  | long text =>
      simp only [isKind] at awaits
      cases found : resolve spec (splitLong text).1 with
      | none =>
          simp [found] at awaits
      | some long =>
          simp only [found, Bool.and_eq_true,
            Option.isNone_iff_eq_none] at awaits
          simp only [found, awaits]
          rfl
  | short letters =>
      simp only [isKind] at awaits ⊢
      generalize cluster spec letters = result at awaits ⊢
      obtain ⟨values, ending⟩ := result
      cases ending with
      | awaiting value =>
          simp only [foldr_withOption]
          rfl
      | complete | attached | rejected =>
          simp at awaits

/-- Any other word of an accepted command line stands for itself. -/
theorem scan_of_not_awaits
    (option : kind word ≠ .terminator)
    (complete : awaitsArgument spec word = false)
    (accepted : (scan spec (word :: words)).operands? = some []) :
    scan spec (word :: words) =
      (scan spec words).withOptions
        (segmentOptions spec (word, none)) := by
  unfold awaitsArgument at complete
  rw [scan] at accepted ⊢
  rw [segmentOptions]
  cases isKind : kind word with
  | operand =>
      simp [isKind, Scan.withOperand] at accepted
  | terminator =>
      exact absurd isKind option
  | long text =>
      simp only [isKind] at complete accepted
      cases found : resolve spec (splitLong text).1 with
      | none =>
          simp [found, Scan.rejected] at accepted
      | some long =>
          simp only [found] at complete accepted ⊢
          generalize (splitLong text).2 = attached at *
          generalize long.hasArgument = hasArgument at *
          cases hasArgument with
          | true =>
              cases attached with
              | none =>
                  simp at complete
              | some argument =>
                  rfl
          | false =>
              cases attached with
              | none =>
                  rfl
              | some argument =>
                  simp [Scan.rejected] at accepted
  | short letters =>
      simp only [isKind] at complete accepted ⊢
      generalize cluster spec letters = result at complete accepted ⊢
      obtain ⟨values, ending⟩ := result
      simp only [foldr_withOption] at accepted ⊢
      cases ending with
      | complete =>
          simp [Scan.withOptions]
      | awaiting value =>
          simp at complete
      | attached value argument =>
          simp [Scan.withOptions, Scan.withOption]
      | rejected =>
          simp [Scan.withOptions, Scan.rejected] at accepted

/-- The first segment has an argument exactly if its word awaits one. -/
theorem awaits_of_segments_cons
    (accepted : (scan spec words).operands? = some [])
    {segment : Segment}
    {after : List Segment}
    (divided : segments spec words = segment :: after) :
    awaitsArgument spec segment.1 = segment.2.isSome := by
  cases words with
  | nil =>
      cases divided
  | cons word words =>
      unfold segments at divided
      split at divided
      · cases divided
      · split at divided
        · rename_i awaits
          cases words with
          | nil =>
              rw [scan_of_awaits_nil awaits] at accepted
              cases accepted
          | cons argument words =>
              cases divided
              exact awaits
        · rename_i complete
          rw [Bool.not_eq_true] at complete
          cases divided
          exact complete

/-- Without segments there is at most a terminator. -/
theorem words_of_segments_nil
    (accepted : (scan spec words).operands? = some [])
    (noSegment : segments spec words = []) :
    words = [] ∨ ∃ word, words = [word] ∧ kind word = .terminator := by
  cases words with
  | nil =>
      exact Or.inl rfl
  | cons word words =>
      unfold segments at noSegment
      split at noSegment
      · rename_i terminator
        rw [scan, terminator] at accepted
        cases accepted
        exact Or.inr ⟨word, rfl, terminator⟩
      · split at noSegment
        · split at noSegment <;> cases noSegment
        · cases noSegment

/--
A command line without operands can be cut after any of its segments: what
precedes the cut has been returned, and the rest is scanned like a command line.
-/
theorem scan_cut
    (accepted : (scan spec words).operands? = some [])
    {before after : List Segment}
    (divided : segments spec words = before ++ after) :
    ∃ rest,
      words = before.flatMap Segment.words ++ rest ∧
        segments spec rest = after ∧
        scan spec words =
          (scan spec rest).withOptions
            (before.flatMap (segmentOptions spec)) := by
  induction before generalizing words with
  | nil =>
      exact ⟨words, rfl, divided, rfl⟩
  | cons segment before inductionHypothesis =>
      cases words with
      | nil =>
          cases divided
      | cons word words =>
          unfold segments at divided
          split at divided
          · cases divided
          · rename_i option
            split at divided
            · rename_i awaits
              cases words with
              | nil =>
                  rw [scan_of_awaits_nil awaits] at accepted
                  cases accepted
              | cons argument words =>
                  rw [scan_of_awaits awaits] at accepted ⊢
                  simp only [List.cons_append, List.cons.injEq]
                    at divided
                  obtain ⟨rfl, divided⟩ := divided
                  obtain ⟨rest, rfl, cut, scanned⟩ :=
                    inductionHypothesis accepted divided
                  refine ⟨rest, rfl, cut, ?_⟩
                  rw [scanned, List.flatMap_cons]
                  simp [Scan.withOptions]
            · rename_i complete
              rw [Bool.not_eq_true] at complete
              have scanned :=
                scan_of_not_awaits option complete accepted
              rw [scanned] at accepted ⊢
              simp only [List.cons_append, List.cons.injEq] at divided
              obtain ⟨rfl, divided⟩ := divided
              obtain ⟨rest, rfl, cut, scannedRest⟩ :=
                inductionHypothesis accepted divided
              refine ⟨rest, rfl, cut, ?_⟩
              rw [scannedRest, List.flatMap_cons]
              simp [Scan.withOptions]

end Segments

end GetoptLong
