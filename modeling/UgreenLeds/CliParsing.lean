import UgreenLeds.CliGrammar
import UgreenLeds.CliMain

/-!
# Well-formed and malformed command lines

A command line is a list of LED names, perhaps followed by options.  A well-formed
one should be parsed to what it denotes, and a malformed one should end with the
help.  This is so except at an empty argument among the LED names, whose first
character the parser looks at, and at an operand that `std::stoi` does not
convert.
-/

namespace UgreenLeds

namespace CliLeds

section Grammar

/-- An argument names LEDs. -/
def IsLedName (name : Argument) : Prop :=
  name = ascii "all" ∨ ∃ led, (name, led) ∈ ledNameMap

/-- A transfer reports an LED as available. -/
def reports (led : LedType) : Transfer → Bool
  | .readBlock register reply =>
      register = 0x81 + led.toByte &&
        (getStatus ((reply.map Vector.toList).getD [])).isAvailable
  | _ =>
      false

/-- The LEDs of the table that some reads report as available. -/
def reportedLeds (reads : Log) : List LedTypePair :=
  ledNameMap.filter fun led => reads.any (reports led.2)

/--
A list of names denotes the LEDs of the table with these names, and for `all`
those that the device reports as available when it is asked for each of them.
-/
inductive Names :
    List Argument → Log → List LedTypePair → Log → Prop where
  | nil
      {log : Log} :
      Names [] log [] log
  | name
      {name : Argument}
      {led : LedType}
      {names : List Argument}
      {log after : Log}
      {leds : List LedTypePair} :
      (name, led) ∈ ledNameMap →
      Names names log leds after →
      Names (name :: names) log ((name, led) :: leds) after
  | all
      {names : List Argument}
      {log reads after : Log}
      {leds : List LedTypePair} :
      (∀ led ∈ ledNameMap,
        ∃ reply,
          Transfer.readBlock (0x81 + led.2.toByte) reply ∈ reads) →
      Names names (log ++ reads) leds after →
      Names (ascii "all" :: names) log (reportedLeds reads ++ leds) after

/-- What an argument list denotes, with the transfers that this takes. -/
inductive CommandLine :
    List Argument → List LedTypePair → Option (List Operation) →
      Log → Prop where
  | names
      {names : List Argument}
      {leds : List LedTypePair}
      {log : Log} :
      Names names [] leds log →
      CommandLine names leds none log
  | options
      {names options : List Argument}
      {leds : List LedTypePair}
      {ops : List Operation}
      {log : Log} :
      Names names [] leds log →
      Options options ops →
      options ≠ [] →
      CommandLine (names ++ options) leds (some ops) log

/-- An argument list follows the grammar, whatever the device reports. -/
def WellFormed (args : List Argument) : Prop :=
  ∃ names options ops,
    args = names ++ options ∧
      (∀ name ∈ names, IsLedName name) ∧
      Options options ops

/-- Every well-formed argument list is parsed, and every other one rejected. -/
structure ParsesCleanly (args : List Argument) : Prop where
  denoted :
    ∀ transfers leds ops? log,
      parse transfers args [] = (.ok (leds, ops?), log) →
      CommandLine args leds ops? log
  completes :
    WellFormed args →
    ∀ transfers, ∃ result, (parse transfers args []).1 = .ok result
  rejects :
    ¬ WellFormed args →
    ∀ transfers, (main transfers true args).1 = .stopped .help

/-- After nothing but well-formed arguments, something crashes the parser. -/
inductive Crashing : List Argument → Prop where
  | emptyName
      {names rest : List Argument} :
      (∀ name ∈ names, IsLedName name) →
      Crashing (names ++ [] :: rest)
  | operand
      {names options : List Argument} :
      (∀ name ∈ names, IsLedName name) →
      BadOptions options →
      Crashing (names ++ options)

end Grammar

section Device

variable
  (transfers : Transfers)
  {led : LedType}

/-- Every LED has a register of its own. -/
theorem register_injective
    {led other : LedType}
    (same : 0x81 + led.toByte = 0x81 + other.toByte) :
    led = other := by
  cases led <;> cases other <;> first | rfl | exact absurd same (by decide)

/-- Reads of other registers report nothing about an LED. -/
theorem any_reports_of_ne
    {reads : Log}
    (others :
      ∀ transfer ∈ reads,
        ∃ other reply,
          other ≠ led ∧
            transfer = .readBlock (0x81 + other.toByte) reply) :
    reads.any (reports led) = false := by
  rw [List.any_eq_false]
  intro transfer member
  obtain ⟨other, reply, different, rfl⟩ := others transfer member
  have register : 0x81 + other.toByte ≠ 0x81 + led.toByte :=
    fun same => different (register_injective same)
  simp [reports, register]

/-- A read of the status reports what it gives. -/
theorem readStatus_reports
    (led : LedType)
    (log : Log) :
    ∃ reply,
      (readStatus transfers led log).2 =
          log ++ [.readBlock (0x81 + led.toByte) reply] ∧
        (readStatus transfers led log).1.isAvailable =
          reports led (.readBlock (0x81 + led.toByte) reply) :=
  ⟨_, rfl, by simp [readStatus, reports]⟩

/-- The retries read the status until it is available. -/
theorem retryStatus_reports
    (led : LedType)
    (retries : Nat)
    (data : LedData)
    (log : Log) :
    ∃ reads,
      (retryStatus transfers led retries data log).2 = log ++ reads ∧
        (∀ transfer ∈ reads,
          ∃ reply,
            transfer = .readBlock (0x81 + led.toByte) reply) ∧
        (retryStatus transfers led retries data log).1.isAvailable =
          (data.isAvailable || reads.any (reports led)) := by
  induction retries generalizing data log with
  | zero =>
      exact ⟨[], by simp [retryStatus], by simp, by simp [retryStatus]⟩
  | succ retries inductionHypothesis =>
      unfold retryStatus
      by_cases available : data.isAvailable
      · rw [if_pos available]
        exact ⟨[], by simp, by simp, by simp⟩
      · rw [if_neg available]
        obtain ⟨reply, logged, reported⟩ :=
          readStatus_reports transfers led log
        generalize readStatus transfers led log = result
          at logged reported ⊢
        obtain ⟨next, after⟩ := result
        simp only at logged reported
        subst logged
        obtain ⟨reads, logged, ours, others⟩ :=
          inductionHypothesis next
            (log ++ [.readBlock (0x81 + led.toByte) reply])
        refine
          ⟨.readBlock (0x81 + led.toByte) reply :: reads, ?_, ?_, ?_⟩
        · rw [logged, List.append_assoc]
          rfl
        · exact List.forall_mem_cons.mpr ⟨⟨reply, rfl⟩, ours⟩
        · rw [others, reported, List.any_cons]
          simp [available]

/-- An LED is available if one of the reads of its status says so. -/
theorem getStatusRobust_reports
    (led : LedType)
    (log : Log) :
    ∃ reads,
      (getStatusRobust transfers led log).2 = log ++ reads ∧
        (∀ transfer ∈ reads,
          ∃ reply,
            transfer = .readBlock (0x81 + led.toByte) reply) ∧
        reads ≠ [] ∧
        (getStatusRobust transfers led log).1.isAvailable =
          reads.any (reports led) := by
  unfold getStatusRobust
  obtain ⟨reply, logged, reported⟩ :=
    readStatus_reports transfers led log
  generalize readStatus transfers led log = result at logged reported ⊢
  obtain ⟨data, after⟩ := result
  simp only at logged reported
  subst logged
  obtain ⟨reads, logged, ours, others⟩ :=
    retryStatus_reports transfers led (maxRetryCount - 1) data
      (log ++ [.readBlock (0x81 + led.toByte) reply])
  refine
    ⟨.readBlock (0x81 + led.toByte) reply :: reads, ?_, ?_,
      List.cons_ne_nil _ _, ?_⟩
  · rw [logged, List.append_assoc]
    rfl
  · exact List.forall_mem_cons.mpr ⟨⟨reply, rfl⟩, ours⟩
  · rw [others, reported, List.any_cons]

/-- The LEDs that are selected are those the reads report as available. -/
theorem availableLeds_reports
    {leds : List LedTypePair}
    (distinct : (leds.map Prod.snd).Nodup)
    (log : Log) :
    ∃ reads,
      availableLeds transfers leds log =
          (leds.filter fun led => reads.any (reports led.2),
            log ++ reads) ∧
        (∀ transfer ∈ reads,
          ∃ led ∈ leds,
            ∃ reply,
              transfer = .readBlock (0x81 + led.2.toByte) reply) ∧
        ∀ led ∈ leds,
          ∃ reply,
            Transfer.readBlock (0x81 + led.2.toByte) reply ∈ reads := by
  induction leds generalizing log with
  | nil =>
      exact ⟨[], by simp [availableLeds], by simp, by simp⟩
  | cons led rest inductionHypothesis =>
      rw [List.map_cons, List.nodup_cons] at distinct
      obtain ⟨new, distinct⟩ := distinct
      obtain ⟨first, firstLogged, firstOurs, some, available⟩ :=
        getStatusRobust_reports transfers led.2 log
      obtain ⟨later, laterEq, laterOurs, laterAll⟩ :=
        inductionHypothesis distinct (log ++ first)
      have different :
          ∀ other ∈ rest, other.2 ≠ led.2 := by
        intro other member same
        exact new (same ▸ List.mem_map_of_mem member)
      have firstSilent :
          ∀ other ∈ rest, first.any (reports other.2) = false := by
        intro other member
        apply any_reports_of_ne
        intro transfer read
        obtain ⟨reply, rfl⟩ := firstOurs transfer read
        exact ⟨led.2, reply, (different other member).symm, rfl⟩
      have laterSilent : later.any (reports led.2) = false := by
        apply any_reports_of_ne
        intro transfer read
        obtain ⟨other, member, reply, rfl⟩ := laterOurs transfer read
        exact ⟨other.2, reply, different other member, rfl⟩
      refine ⟨first ++ later, ?_, ?_, ?_⟩
      · have others :
            (rest.filter fun other =>
                (first ++ later).any (reports other.2)) =
              rest.filter fun other => later.any (reports other.2) := by
          apply List.filter_congr
          intro other member
          rw [List.any_append, firstSilent other member,
            Bool.false_or]
        simp only [availableLeds, firstLogged, laterEq, available,
          List.filter_cons, others]
        rw [List.any_append, laterSilent, Bool.or_false,
          List.append_assoc]
      · intro transfer read
        rcases List.mem_append.mp read with isFirst | isLater
        · exact ⟨led, List.mem_cons_self, firstOurs transfer isFirst⟩
        · obtain ⟨other, member, asked⟩ := laterOurs transfer isLater
          exact ⟨other, List.mem_cons_of_mem _ member, asked⟩
      · intro other member
        rcases List.mem_cons.mp member with rfl | isLater
        · obtain ⟨transfer, read⟩ := List.exists_mem_of_ne_nil _ some
          obtain ⟨reply, rfl⟩ := firstOurs transfer read
          exact ⟨reply, List.mem_append_left _ read⟩
        · obtain ⟨reply, read⟩ := laterAll other isLater
          exact ⟨reply, List.mem_append_right _ read⟩

end Device

section Names

variable
  (transfers : Transfers)
  {name : Argument}

/-- A name of the table is found. -/
theorem getLedType_of_mem
    {led : LedType}
    (known : (name, led) ∈ ledNameMap) :
    getLedType name = .ok led := by
  have found :
      (ledNameMap.all fun entry =>
        decide (getLedType entry.1 = .ok entry.2)) = true := by
    decide
  simpa using List.all_eq_true.mp found (name, led) known

/-- A name outside the table is reported. -/
theorem getLedType_of_not_mem
    (unknown : ∀ led, (name, led) ∉ ledNameMap) :
    getLedType name = .error .help := by
  have none :
      (ledNameMap.find? fun entry => entry.1 = name) = none := by
    rw [List.find?_eq_none]
    rintro ⟨other, led⟩ member same
    simp only [decide_eq_true_eq] at same
    subst same
    exact unknown led member
  unfold getLedType
  rw [none]

/-- The name of an LED starts with something other than a dash. -/
theorem IsLedName.exists_cons
    (known : IsLedName name) :
    ∃ first rest, name = first :: rest ∧ first ≠ 45 := by
  have plain :
      ∀ other : Argument,
        (other.head?.any fun first => first ≠ 45) = true →
        ∃ first rest, other = first :: rest ∧ first ≠ 45 := by
    intro other computed
    cases other with
    | nil =>
        cases computed
    | cons first rest =>
        exact ⟨first, rest, rfl, by simpa using computed⟩
  rcases known with rfl | ⟨led, member⟩
  · exact plain _ (by decide)
  · have all :
        (ledNameMap.all fun entry =>
          entry.1.head?.any fun first => first ≠ 45) = true := by
      decide
    exact plain _ (List.all_eq_true.mp all (name, led) member)

/-- `all` is not the name of a single LED. -/
theorem all_not_mem
    (led : LedType) :
    (ascii "all", led) ∉ ledNameMap := by
  cases led <;> decide

/-- LED names are read up to what follows them. -/
theorem parseLeds_append
    {names : List Argument}
    (known : ∀ name ∈ names, IsLedName name)
    (tail : List Argument)
    (leds : List LedTypePair)
    (log : Log) :
    ∃ more after,
      Names names log more after ∧
        parseLeds transfers (names ++ tail) leds log =
          parseLeds transfers tail (leds ++ more) after := by
  induction names generalizing leds log with
  | nil =>
      exact ⟨[], log, .nil, by simp⟩
  | cons name names inductionHypothesis =>
      obtain ⟨isName, others⟩ := List.forall_mem_cons.mp known
      obtain ⟨first, rest, rfl, noDash⟩ := isName.exists_cons
      rw [List.cons_append, parseLeds, if_neg noDash]
      rcases isName with isAll | ⟨led, member⟩
      · have distinct : (ledNameMap.map Prod.snd).Nodup := by
          decide
        obtain ⟨reads, selected, -, asked⟩ :=
          availableLeds_reports transfers distinct log
        rw [if_pos isAll, selected]
        simp only
        obtain ⟨more, after, names, parsed⟩ :=
          inductionHypothesis others (leds ++ reportedLeds reads)
            (log ++ reads)
        refine ⟨reportedLeds reads ++ more, after, ?_, ?_⟩
        · rw [isAll]
          exact .all asked names
        · rw [← List.append_assoc]
          exact parsed
      · have notAll : first :: rest ≠ ascii "all" := by
          intro isAll
          rw [isAll] at member
          exact all_not_mem led member
        rw [if_neg notAll, getLedType_of_mem member]
        simp only
        obtain ⟨more, after, names, parsed⟩ :=
          inductionHypothesis others (leds ++ [(first :: rest, led)]) log
        refine
          ⟨(first :: rest, led) :: more, after, .name member names, ?_⟩
        rw [parsed, List.append_assoc]
        rfl

/-- What comes after the LED names at the start of an argument list. -/
theorem exists_names (args : List Argument) :
    ∃ names tail,
      args = names ++ tail ∧
        (∀ name ∈ names, IsLedName name) ∧
        ∀ first ∈ tail.head?, ¬ IsLedName first := by
  induction args with
  | nil =>
      exact ⟨[], [], rfl, by simp, by simp⟩
  | cons first args inductionHypothesis =>
      by_cases isName : IsLedName first
      · obtain ⟨names, tail, rfl, known, stops⟩ := inductionHypothesis
        exact
          ⟨first :: names, tail, rfl,
            List.forall_mem_cons.mpr ⟨isName, known⟩, stops⟩
      · exact ⟨[], first :: args, rfl, by simp, by simpa using isName⟩

end Names

section Outcomes

variable
  (transfers : Transfers)
  {args names options : List Argument}

/-- An argument that is no option does not start the options. -/
theorem Options.head?_eq
    {ops : List Operation}
    (options : Options args ops) :
    ∀ first ∈ args.head?, first.head? = some 45 := by
  cases options with
  | nil =>
      simp
  | @cons name =>
      cases name <;> simp [OptionName.text, ascii]

/-- Bad options start with an option as well. -/
theorem BadOptions.exists_cons
    (bad : BadOptions args) :
    ∃ name rest, args = (45 :: name) :: rest := by
  cases bad with
  | @here name =>
      cases name <;> exact ⟨_, _, rfl⟩
  | @later name =>
      cases name <;> exact ⟨_, _, rfl⟩

/-- The LED names end in front of an option. -/
theorem parseLeds_option
    {option : List UInt8}
    (rest : List Argument)
    (leds : List LedTypePair)
    (log : Log) :
    parseLeds transfers ((45 :: option) :: rest) leds log =
      (.ok (leds, (45 :: option) :: rest), log) := by
  rw [parseLeds, if_pos rfl]

/-- Options are parsed behind the LEDs that the names denote. -/
theorem parse_append_option
    (known : ∀ name ∈ names, IsLedName name)
    (option : List UInt8)
    (rest : List Argument) :
    ∃ leds log,
      Names names [] leds log ∧
        parse transfers (names ++ (45 :: option) :: rest) [] =
          ((parseOps ((45 :: option) :: rest)).map fun ops =>
              (leds, some ops),
            log) := by
  obtain ⟨leds, log, denoted, parsed⟩ :=
    parseLeds_append transfers known ((45 :: option) :: rest) [] []
  rw [parseLeds_option] at parsed
  exact ⟨leds, log, denoted, parse_of_options transfers parsed⟩

/-- A well-formed argument list is parsed to what it denotes. -/
theorem WellFormed.parse_eq
    (wellFormed : WellFormed args) :
    ∃ leds ops? log,
      CommandLine args leds ops? log ∧
        parse transfers args [] = (.ok (leds, ops?), log) := by
  obtain ⟨names, options, ops, rfl, known, denotes⟩ := wellFormed
  cases options with
  | nil =>
      obtain ⟨leds, log, denoted, parsed⟩ :=
        parseLeds_append transfers known [] [] []
      rw [List.append_nil] at parsed ⊢
      exact
        ⟨leds, none, log, .names denoted,
          parse_of_names transfers parsed⟩
  | cons option rest =>
      have dash := denotes.head?_eq option rfl
      cases option with
      | nil =>
          cases dash
      | cons first option =>
          cases dash
          obtain ⟨leds, log, denoted, parsed⟩ :=
            parse_append_option transfers known option rest
          rw [denotes.parseOps_eq] at parsed
          exact
            ⟨leds, some ops, log,
              .options denoted denotes (List.cons_ne_nil _ _), parsed⟩

/-- A crashing argument list neither completes nor shows the help. -/
theorem Crashing.parse_eq
    (crashing : Crashing args) :
    ∃ stop,
      stop ≠ .help ∧ (parse transfers args []).1 = .error stop := by
  cases crashing with
  | @emptyName names rest known =>
      obtain ⟨leds, log, -, parsed⟩ :=
        parseLeds_append transfers known ([] :: rest) [] []
      refine ⟨.emptyFront, by decide, ?_⟩
      rw [parse_of_error transfers parsed]
  | @operand names options known bad =>
      have uncaught := bad.parseOps_eq
      obtain ⟨name, rest, rfl⟩ := bad.exists_cons
      obtain ⟨leds, log, -, parsed⟩ :=
        parse_append_option transfers known name rest
      refine ⟨.uncaught, by decide, ?_⟩
      rw [parsed, uncaught]
      rfl

/-- The ways in which parsing an argument list ends. -/
inductive Outcome (args : List Argument) : Prop where
  | completed
      {leds : List LedTypePair}
      {ops? : Option (List Operation)}
      {log : Log} :
      WellFormed args →
      CommandLine args leds ops? log →
      parse transfers args [] = (.ok (leds, ops?), log) →
      Outcome args
  | crashed
      {stop : Stop} :
      Crashing args →
      stop ≠ .help →
      (parse transfers args []).1 = .error stop →
      Outcome args
  | rejected :
      (parse transfers args []).1 = .error .help →
      Outcome args

/-- Well-formed arguments are parsed. -/
theorem WellFormed.outcome
    (wellFormed : WellFormed args) :
    Outcome transfers args := by
  obtain ⟨leds, ops?, log, denoted, parsed⟩ :=
    wellFormed.parse_eq transfers
  exact .completed wellFormed denoted parsed

/-- Crashing arguments stop the program. -/
theorem Crashing.outcome
    (crashing : Crashing args) :
    Outcome transfers args := by
  obtain ⟨stop, noHelp, stopped⟩ := crashing.parse_eq transfers
  exact .crashed crashing noHelp stopped

/-- An argument that is neither an LED name nor an option shows the help. -/
theorem parse_of_unknown
    (known : ∀ name ∈ names, IsLedName name)
    {first : UInt8}
    {name : List UInt8}
    (noDash : first ≠ 45)
    (unknown : ¬ IsLedName (first :: name))
    (rest : List Argument) :
    (parse transfers (names ++ (first :: name) :: rest) []).1 =
      .error .help := by
  obtain ⟨notAll, notLed⟩ := not_or.mp unknown
  obtain ⟨leds, log, -, parsed⟩ :=
    parseLeds_append transfers known ((first :: name) :: rest) [] []
  rw [parseLeds, if_neg noDash, if_neg notAll,
    getLedType_of_not_mem (not_exists.mp notLed)] at parsed
  rw [parse_of_error transfers parsed]

/-- Parsing an argument list ends in one of these ways. -/
theorem parse_outcome (args : List Argument) :
    Outcome transfers args := by
  obtain ⟨names, tail, rfl, known, stops⟩ := exists_names args
  cases tail with
  | nil =>
      have wellFormed : WellFormed (names ++ []) :=
        ⟨names, [], [], rfl, known, .nil⟩
      exact wellFormed.outcome transfers
  | cons option rest =>
      cases option with
      | nil =>
          exact Crashing.outcome transfers (.emptyName known)
      | cons first option =>
          by_cases dash : first = 45
          · subst dash
            rcases parseOps_cases ((45 :: option) :: rest) with
              ⟨ops, -, options⟩ | ⟨-, bad⟩ | help
            · have wellFormed :
                  WellFormed (names ++ (45 :: option) :: rest) :=
                ⟨names, _, ops, rfl, known, options⟩
              exact wellFormed.outcome transfers
            · exact Crashing.outcome transfers (.operand known bad)
            · obtain ⟨leds, log, -, parsed⟩ :=
                parse_append_option transfers known option rest
              refine .rejected ?_
              rw [parsed, help]
              rfl
          · exact
              .rejected
                (parse_of_unknown transfers known dash
                  (stops (first :: option) rfl) rest)

/-- `main` stops where parsing stops. -/
theorem main_of_parse_error
    {stop : Stop}
    (stopped : (parse transfers args []).1 = .error stop) :
    (main transfers true args).1 = .stopped stop := by
  unfold main
  cases args with
  | nil =>
      cases stopped
  | cons first rest =>
      rw [if_neg (List.cons_ne_nil _ _), if_neg (by decide)]
      generalize parse transfers (first :: rest) [] = result at stopped ⊢
      obtain ⟨ended, log⟩ := result
      simp only at stopped
      subst stopped
      rfl

end Outcomes

/-- A device that accepts all writes and answers no reads. -/
def silent : Transfers where
  write := fun _ => none
  readByte := fun _ => none
  readBlock := fun _ => none

/-- What stops without the help is not parsed cleanly. -/
theorem not_parsesCleanly
    {args : List Argument}
    {stop : Stop}
    (noHelp : stop ≠ .help)
    (stopped : (parse silent args []).1 = .error stop) :
    ¬ ParsesCleanly args := by
  intro clean
  by_cases wellFormed : WellFormed args
  · obtain ⟨result, completed⟩ := clean.completes wellFormed silent
    rw [stopped] at completed
    cases completed
  · have help := clean.rejects wellFormed silent
    rw [main_of_parse_error silent stopped] at help
    exact noHelp (Exit.stopped.inj help)

/--
A command line is parsed to what it denotes or ends with the help, unless it has
an empty argument behind LED names only or an operand that cannot be converted
behind well-formed arguments only.
-/
theorem parsesCleanly_iff
    {args : List Argument} :
    ParsesCleanly args ↔ ¬ Crashing args := by
  constructor
  · intro clean crashing
    obtain ⟨stop, noHelp, stopped⟩ := crashing.parse_eq silent
    exact not_parsesCleanly noHelp stopped clean
  · intro sound
    refine ⟨?_, ?_, ?_⟩
    · intro transfers leds ops? log completed
      cases parse_outcome transfers args with
      | completed _ denoted same =>
          rw [completed] at same
          cases same
          exact denoted
      | crashed crashing =>
          exact absurd crashing sound
      | rejected help =>
          rw [completed] at help
          cases help
    · intro wellFormed transfers
      obtain ⟨leds, ops?, log, -, parsed⟩ :=
        wellFormed.parse_eq transfers
      exact ⟨(leds, ops?), congrArg Prod.fst parsed⟩
    · intro malformed transfers
      cases parse_outcome transfers args with
      | completed wellFormed =>
          exact absurd wellFormed malformed
      | crashed crashing =>
          exact absurd crashing sound
      | rejected help =>
          exact main_of_parse_error transfers help

/-- A word for a brightness and an empty argument crash the parser. -/
theorem parsesCleanly_crashes :
    ¬ ParsesCleanly
        [ascii "disk1", ascii "-brightness", ascii "high"] ∧
      ¬ ParsesCleanly [ascii "disk1", []] := by
  have known : ∀ name ∈ [ascii "disk1"], IsLedName name := by
    intro name member
    rw [List.mem_singleton.mp member]
    exact Or.inr ⟨.disk1, by decide⟩
  have unconvertible : Unconvertible (ascii "high") :=
    Or.inl (CString.numeral?_eq_none.mp rfl)
  have bad : BadOptions [ascii "-brightness", ascii "high"] :=
    @BadOptions.here .brightness _ (.here unconvertible le_rfl)
  constructor
  · obtain ⟨stop, noHelp, stopped⟩ :=
      (Crashing.operand known bad).parse_eq silent
    exact not_parsesCleanly noHelp stopped
  · obtain ⟨stop, noHelp, stopped⟩ :=
      (@Crashing.emptyName _ [] known).parse_eq silent
    exact not_parsesCleanly noHelp stopped

end CliLeds

end UgreenLeds
