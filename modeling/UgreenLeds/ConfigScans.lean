import UgreenLeds.ConfigPrecedence

/-!
# Two scans of the command line

The file that is loaded is found by comparing words with `--config`, the file
that is reported is the one `getopt_long` sees.  The two scans are in step at a
segment unless an option's argument looks like a configuration option, or a
configuration option is abbreviated.  This module proves that they agree if they
are in step from the start, or again from some configuration option on.
-/

namespace UgreenLeds

open GetoptLong (Word Segment segments segmentOptions awaitsArgument)

/-- A word that `find_config_path` takes for a configuration option. -/
def ConfigLike (word : Word) : Prop :=
  word = ascii "--config" ∨ ascii "--config=" <+: word

instance (word : Word) : Decidable (ConfigLike word) :=
  inferInstanceAs (Decidable (_ ∨ _))

/-- `getopt_long` sees a configuration option. -/
def SeesConfig (args : List Word) : Prop :=
  ∃ optarg,
    (ConfigOption.config, optarg) ∈
      (GetoptLong.scan configSpec args).options

/--
Either a configuration option that is written out, or neither a configuration
option nor an argument that looks like one.
-/
def ReadAlike (segment : Segment) : Prop :=
  ConfigLike segment.1 ∨
    (∀ item ∈ segmentOptions configSpec segment,
      item.1 ≠ ConfigOption.config) ∧
      ∀ argument ∈ segment.2, ¬ ConfigLike argument

/--
From the start, or from some configuration option on that does not follow the
word `--config`, every segment is read alike.
-/
def FinallyReadAlike (args : List Word) : Prop :=
  ∃ before after,
    segments configSpec args = before ++ after ∧
      (∀ segment ∈ after, ReadAlike segment) ∧
      (before = [] ∨
        (before.flatMap Segment.words).getLast? ≠
            some (ascii "--config") ∧
          ∃ segment ∈ after.head?, ConfigLike segment.1)

/-- The paths of the configuration options among some options. -/
def configArguments
    (options : List (ConfigOption × Option Word)) : List Word :=
  options.filterMap fun item =>
    if item.1 = .config then some (item.2.getD []) else none

section PlainScan

variable
  {word path : Word}
  {explicitConfig : Bool}

/-- A configuration option that is written out, in two words or in one. -/
theorem configLike_iff :
    ConfigLike word ↔
      word = ascii "--config" ∨
        ∃ path, word = ascii "--config=" ++ path := by
  unfold ConfigLike
  apply or_congr_right
  constructor
  · rintro ⟨path, shape⟩
    exact ⟨path, shape.symm⟩
  · rintro ⟨path, rfl⟩
    exact List.prefix_append _ path

/-- Any other word is passed over. -/
theorem findConfigPathFrom_of_not_configLike
    (other : ¬ ConfigLike word)
    (rest : List Word) :
    findConfigPathFrom path explicitConfig (word :: rest) =
      findConfigPathFrom path explicitConfig rest := by
  unfold ConfigLike at other
  rw [not_or, ← List.isPrefixOf_iff_prefix] at other
  rw [findConfigPathFrom.eq_def]
  simp only
  rw [if_neg other.1, if_neg other.2]

/-- An attached path replaces the one found so far. -/
theorem findConfigPathFrom_attached
    (found : Word)
    (rest : List Word) :
    findConfigPathFrom path explicitConfig
        ((ascii "--config=" ++ found) :: rest) =
      findConfigPathFrom found true rest := by
  have longer : ascii "--config=" ++ found ≠ ascii "--config" := by
    intro same
    have lengths := congrArg List.length same
    simp [ascii] at lengths
  have begins :
      (ascii "--config=").isPrefixOf (ascii "--config=" ++ found) =
        true :=
    List.isPrefixOf_iff_prefix.mpr (List.prefix_append _ _)
  rw [findConfigPathFrom.eq_def]
  simp only
  rw [if_neg longer, if_pos begins]
  rfl

/-- The next word replaces the path found so far. -/
theorem findConfigPathFrom_separate
    (found : Word)
    (rest : List Word) :
    findConfigPathFrom path explicitConfig
        (ascii "--config" :: found :: rest) =
      findConfigPathFrom found true rest := by
  rw [findConfigPathFrom.eq_def]
  simp only
  rw [if_pos trivial]

/-- A scan that is not waiting for a path goes on independently. -/
theorem findConfigPathFrom_append
    {words : List Word}
    (ended : words.getLast? ≠ some (ascii "--config")) :
    ∃ found explicitFound,
      ∀ rest,
        findConfigPathFrom path explicitConfig (words ++ rest) =
          findConfigPathFrom found explicitFound rest := by
  induction words using List.twoStepInduction
    generalizing path explicitConfig with
  | nil =>
      exact ⟨path, explicitConfig, fun _ => rfl⟩
  | singleton word =>
      by_cases configLike : ConfigLike word
      · rcases configLike_iff.mp configLike with rfl | ⟨found, rfl⟩
        · exact absurd rfl ended
        · exact ⟨found, true, findConfigPathFrom_attached found⟩
      · exact
          ⟨path, explicitConfig,
            findConfigPathFrom_of_not_configLike configLike⟩
  | cons_cons first second words skip step =>
      have endedTail :
          (second :: words).getLast? ≠ some (ascii "--config") := by
        rwa [List.getLast?_cons_cons] at ended
      by_cases configLike : ConfigLike first
      · rcases configLike_iff.mp configLike with rfl | ⟨found, rfl⟩
        · have endedRest :
              words.getLast? ≠ some (ascii "--config") := by
            cases words with
            | nil =>
                simp
            | cons third words =>
                rwa [List.getLast?_cons_cons] at endedTail
          obtain ⟨last, explicitLast, goesOn⟩ :=
            @skip second true endedRest
          refine ⟨last, explicitLast, fun rest => ?_⟩
          exact
            (findConfigPathFrom_separate second _).trans (goesOn rest)
        · obtain ⟨last, explicitLast, goesOn⟩ :=
            @step second found true endedTail
          refine ⟨last, explicitLast, fun rest => ?_⟩
          exact
            (findConfigPathFrom_attached found _).trans (goesOn rest)
      · obtain ⟨last, explicitLast, goesOn⟩ :=
          @step second path explicitConfig endedTail
        refine ⟨last, explicitLast, fun rest => ?_⟩
        exact
          (findConfigPathFrom_of_not_configLike configLike _).trans
            (goesOn rest)

end PlainScan

section BothScans

variable
  {path : Word}
  {explicitConfig : Bool}
  {words : List Word}

/-- A terminator does not look like a configuration option. -/
theorem not_configLike_of_terminator
    {word : Word}
    (terminator : GetoptLong.kind word = .terminator) :
    ¬ ConfigLike word := by
  intro configLike
  rcases configLike_iff.mp configLike with rfl | ⟨found, rfl⟩
  · cases terminator
  · cases terminator

/-- Both scans read a segment that is read alike, and go on alike. -/
theorem findConfigPathFrom_segment
    {segment : Segment}
    (alike : ReadAlike segment)
    (shape :
      awaitsArgument configSpec segment.1 = segment.2.isSome)
    (rest : List Word) :
    findConfigPathFrom path explicitConfig
        (segment.words ++ rest) =
      findConfigPathFrom
        ((configArguments
          (segmentOptions configSpec segment)).getLastD path)
        (explicitConfig ||
          !(configArguments
            (segmentOptions configSpec segment)).isEmpty)
        rest := by
  obtain ⟨word, argument?⟩ := segment
  by_cases configLike : ConfigLike word
  · rcases configLike_iff.mp configLike with rfl | ⟨found, rfl⟩
    · cases argument? with
      | none =>
          cases shape
      | some found =>
          rw [Bool.or_comm]
          exact findConfigPathFrom_separate found rest
    · cases argument? with
      | some argument =>
          cases shape
      | none =>
          rw [Bool.or_comm]
          exact findConfigPathFrom_attached found rest
  · obtain ⟨noConfig, noArgument⟩ := alike.resolve_left configLike
    have noPath :
        configArguments (segmentOptions configSpec (word, argument?)) =
          [] := by
      unfold configArguments
      rw [List.filterMap_eq_nil_iff]
      intro item member
      rw [if_neg (noConfig item member)]
    rw [noPath, List.isEmpty_nil, Bool.not_true, Bool.or_false]
    cases argument? with
    | none =>
        exact findConfigPathFrom_of_not_configLike configLike rest
    | some argument =>
        exact
          (findConfigPathFrom_of_not_configLike configLike _).trans
            (findConfigPathFrom_of_not_configLike
              (noArgument argument rfl) rest)

/-- The options of a cut command line are those of its parts. -/
theorem configArguments_withOptions
    (options : List (ConfigOption × Option Word))
    (scan : GetoptLong.Scan ConfigOption) :
    configArguments (scan.withOptions options).options =
      configArguments options ++ configArguments scan.options :=
  List.filterMap_append

/-- Segments that are read alike lead both scans to the same path. -/
theorem findConfigPathFrom_alike
    (accepted :
      (GetoptLong.scan configSpec words).operands? = some [])
    (alike : ∀ segment ∈ segments configSpec words, ReadAlike segment) :
    findConfigPathFrom path explicitConfig words =
      some
        ((configArguments
            (GetoptLong.scan configSpec words).options).getLastD path,
          explicitConfig ||
            !(configArguments
              (GetoptLong.scan configSpec words).options).isEmpty) := by
  generalize divided : segments configSpec words = after at alike
  induction after generalizing words path explicitConfig with
  | nil =>
      rcases GetoptLong.words_of_segments_nil accepted divided with
        rfl | ⟨word, rfl, terminator⟩
      · simp [findConfigPathFrom, GetoptLong.scan, configArguments]
      · rw [findConfigPathFrom_of_not_configLike
          (not_configLike_of_terminator terminator)]
        simp [findConfigPathFrom, GetoptLong.scan, terminator,
          configArguments]
  | cons segment after inductionHypothesis =>
      have shape :=
        GetoptLong.awaits_of_segments_cons accepted divided
      have firstSegment :
          segments configSpec words = [segment] ++ after :=
        divided
      obtain ⟨rest, rfl, cut, scanned⟩ :=
        GetoptLong.scan_cut accepted firstSegment
      have acceptedRest :
          (GetoptLong.scan configSpec rest).operands? = some [] := by
        rw [scanned] at accepted
        exact accepted
      rw [List.flatMap_singleton] at scanned ⊢
      rw [List.flatMap_singleton] at scanned
      rw [findConfigPathFrom_segment
          (alike segment List.mem_cons_self) shape,
        inductionHypothesis acceptedRest cut
          (fun other member =>
            alike other (List.mem_cons_of_mem segment member)),
        scanned, configArguments_withOptions]
      generalize configArguments (segmentOptions configSpec segment) =
        first
      generalize configArguments
        (GetoptLong.scan configSpec rest).options = later
      simp only [Option.some.injEq, Prod.mk.injEq,
        List.getLastD_eq_getLast?, List.getLast?_append]
      constructor
      · cases later.getLast? <;> rfl
      · cases first <;> cases later <;> simp

/-- A segment that is written out is a configuration option. -/
theorem configArguments_ne_nil_of_configLike
    {segment : Segment}
    (configLike : ConfigLike segment.1) :
    configArguments (segmentOptions configSpec segment) ≠ [] := by
  obtain ⟨word, argument?⟩ := segment
  rcases configLike_iff.mp configLike with rfl | ⟨found, rfl⟩
  · exact List.cons_ne_nil _ _
  · exact List.cons_ne_nil _ _

/-- In step at the end, the plain scan finds what `getopt_long` sees. -/
theorem findConfigPath_of_finallyReadAlike
    (accepted :
      (GetoptLong.scan configSpec words).operands? = some [])
    (alike : FinallyReadAlike words) :
    findConfigPath words =
      some
        ((configArguments
            (GetoptLong.scan configSpec words).options).getLastD
              ConfigData.defaultConfigPath,
          !(configArguments
            (GetoptLong.scan configSpec words).options).isEmpty) := by
  obtain ⟨before, after, divided, alikeAfter, start⟩ := alike
  rcases start with rfl | ⟨ended, segment, first, configLike⟩
  · rw [List.nil_append] at divided
    rw [← divided] at alikeAfter
    exact findConfigPathFrom_alike accepted alikeAfter
  · obtain ⟨rest, rfl, cut, scanned⟩ :=
      GetoptLong.scan_cut accepted divided
    have acceptedRest :
        (GetoptLong.scan configSpec rest).operands? = some [] := by
      rw [scanned] at accepted
      exact accepted
    have seen :
        configArguments (GetoptLong.scan configSpec rest).options ≠
          [] := by
      obtain ⟨others, rfl⟩ := List.head?_eq_some_iff.mp first
      have firstSegment :
          segments configSpec rest = [segment] ++ others :=
        cut
      obtain ⟨later, -, -, scannedRest⟩ :=
        GetoptLong.scan_cut acceptedRest firstSegment
      rw [scannedRest, configArguments_withOptions,
        List.flatMap_singleton]
      exact List.append_ne_nil_of_left_ne_nil
        (configArguments_ne_nil_of_configLike configLike) _
    obtain ⟨found, explicitFound, goesOn⟩ :=
      @findConfigPathFrom_append ConfigData.defaultConfigPath false
        _ ended
    rw [← cut] at alikeAfter
    rw [findConfigPath, goesOn,
      findConfigPathFrom_alike acceptedRest alikeAfter, scanned,
      configArguments_withOptions]
    generalize configArguments
      (GetoptLong.scan configSpec rest).options = later at seen
    generalize configArguments
      (before.flatMap (segmentOptions configSpec)) = earlier
    have last := List.getLast?_eq_some_getLast seen
    have nonempty : later.isEmpty = false :=
      List.isEmpty_eq_false_iff.mpr seen
    have stillNonempty : (earlier ++ later).isEmpty = false :=
      List.isEmpty_eq_false_iff.mpr
        (List.append_ne_nil_of_right_ne_nil earlier seen)
    simp [List.getLastD_eq_getLast?, List.getLast?_append, last,
      nonempty, stillNonempty]

/-- Once found, a path stays an explicit one. -/
theorem explicit_of_findConfigPathFrom
    {found : Word}
    {explicitFound : Bool}
    (scanned :
      findConfigPathFrom path true words =
        some (found, explicitFound)) :
    explicitFound = true := by
  induction words using List.twoStepInduction generalizing path with
  | nil =>
      cases scanned
      rfl
  | singleton word =>
      by_cases configLike : ConfigLike word
      · rcases configLike_iff.mp configLike with rfl | ⟨_, rfl⟩
        · cases scanned
        · rw [findConfigPathFrom_attached] at scanned
          cases scanned
          rfl
      · rw [findConfigPathFrom_of_not_configLike configLike] at scanned
        cases scanned
        rfl
  | cons_cons first second words skip step =>
      by_cases configLike : ConfigLike first
      · rcases configLike_iff.mp configLike with rfl | ⟨_, rfl⟩
        · rw [findConfigPathFrom_separate] at scanned
          exact skip scanned
        · rw [findConfigPathFrom_attached] at scanned
          exact step second scanned
      · rw [findConfigPathFrom_of_not_configLike configLike] at scanned
        exact step second scanned

/-- A path that is not explicit was not found in any word. -/
theorem not_configLike_of_not_explicit
    {found : Word}
    (scanned :
      findConfigPathFrom path false words = some (found, false)) :
    ∀ word ∈ words, ¬ ConfigLike word := by
  induction words with
  | nil =>
      simp
  | cons first words inductionHypothesis =>
      by_cases configLike : ConfigLike first
      · exfalso
        rcases configLike_iff.mp configLike with rfl | ⟨_, rfl⟩
        · cases words with
          | nil =>
              cases scanned
          | cons second words =>
              rw [findConfigPathFrom_separate] at scanned
              cases explicit_of_findConfigPathFrom scanned
        · rw [findConfigPathFrom_attached] at scanned
          cases explicit_of_findConfigPathFrom scanned
      · rw [findConfigPathFrom_of_not_configLike configLike] at scanned
        intro word member
        rcases List.mem_cons.mp member with rfl | later
        · exact configLike
        · exact inductionHypothesis scanned word later

/-- Without a configuration option and without a word that looks like one. -/
theorem finallyReadAlike_of_not_configLike
    (accepted :
      (GetoptLong.scan configSpec words).operands? = some [])
    (unseen : ¬ SeesConfig words)
    (unlike : ∀ word ∈ words, ¬ ConfigLike word) :
    FinallyReadAlike words := by
  refine ⟨[], segments configSpec words, rfl, ?_, Or.inl rfl⟩
  intro segment member
  have whole :
      segments configSpec words = segments configSpec words ++ [] :=
    (List.append_nil _).symm
  obtain ⟨rest, shape, -, scanned⟩ :=
    GetoptLong.scan_cut accepted whole
  refine Or.inr ⟨?_, ?_⟩
  · rintro ⟨option, optarg⟩ occurs rfl
    refine unseen ⟨optarg, ?_⟩
    rw [scanned]
    exact List.mem_append_left _
      (List.mem_flatMap.mpr ⟨segment, member, occurs⟩)
  · intro argument taken
    apply unlike
    rw [shape]
    refine List.mem_append_left _
      (List.mem_flatMap.mpr ⟨segment, member, ?_⟩)
    exact List.mem_cons_of_mem _ (Option.mem_toList.mpr taken)

end BothScans

section ReportedPath

variable
  {config : ConfigData}

/-- No key of the file changes the path that is reported. -/
theorem applyKey_configPath
    (config : ConfigData)
    (value : List UInt8)
    (key : FileKey) :
    (applyKey config value key).2.configPath = config.configPath := by
  have stored :
      ∀ {Value : Type} (parsed : Except Errno Value)
        (store : Value → ConfigData),
        (∀ value, (store value).configPath = config.configPath) →
        (storeParsed config parsed store).2.configPath =
          config.configPath := by
    intro Value parsed store kept
    cases parsed with
    | error error =>
        rfl
    | ok value =>
        exact kept value
  have copied :
      (copyInterface value config).2.configPath = config.configPath := by
    simp only [copyInterface]
    split <;> rfl
  cases key with
  | netdevInterface =>
      simp only [applyKey]
      split
      · rfl
      · exact copied
  | diskSerial =>
      rfl
  | blinkTypePower =>
      simp only [applyKey, parsePowerMode]
      split
      · split <;> rfl
      · split
        · rfl
        · split
          · rfl
          · split <;> rfl
      · rfl
  | _ =>
      exact stored _ _ fun _ => rfl

/-- Loading a file does not change the path that is reported. -/
theorem configLoadFile_configPath
    (file : Except Errno FileContents)
    (config : ConfigData) :
    (configLoadFile file config).2.configPath = config.configPath := by
  have kept :
      ∀ lines config,
        (loadLines config lines).2.configPath =
          config.configPath := by
    intro lines
    induction lines with
    | nil =>
        intro config
        rfl
    | cons line lines inductionHypothesis =>
        intro config
        rw [loadLines]
        cases setting? line with
        | none =>
            exact inductionHypothesis config
        | some setting =>
            have keptByKey :=
              applyKey_configPath config setting.2 setting.1
            simp only
            generalize applyKey config setting.2 setting.1 =
              result at keptByKey ⊢
            rcases result with ⟨error | done, changed⟩
            · exact keptByKey
            · exact (inductionHypothesis changed).trans keptByKey
  cases file with
  | error error =>
      rfl
  | ok contents =>
      have keptByLines := kept (getlines contents.bytes) config
      simp only [configLoadFile]
      generalize loadLines config (getlines contents.bytes) =
        result at keptByLines ⊢
      rcases result with ⟨error | done, loaded⟩
      · exact keptByLines
      · cases contents.readError <;> exact keptByLines

/-- An accepted command line has no operands. -/
theorem operands_of_applyOptions
    {operands? : Option (List Word)}
    {options : List (ConfigOption × Option Word)}
    {final : ConfigData}
    (parsed : applyOptions operands? config options = .parsed final) :
    operands? = some [] := by
  induction options generalizing config with
  | nil =>
      unfold applyOptions at parsed
      cases operands? with
      | none =>
          cases parsed
      | some operands =>
          simp only [finalChecks] at parsed
          split at parsed
          · cases parsed
          · rename_i checked
            rw [not_or, ne_eq, not_not] at checked
            rw [checked.1]
  | cons first rest inductionHypothesis =>
      obtain ⟨option, optarg⟩ := first
      unfold applyOptions at parsed
      split at parsed
      · cases parsed
      · cases parsed
      · exact inductionHypothesis parsed

/-- An option reports its argument if it is a configuration option. -/
theorem optionStep_configPath
    {next : ConfigData}
    {item : ConfigOption × Option Word}
    (taken : optionStep config item = some next) :
    next.configPath =
      if item.1 = .config then item.2.getD [] else
        config.configPath := by
  obtain ⟨option, optarg⟩ := item
  unfold optionStep at taken
  split at taken
  · rename_i changed applied
    cases taken
    cases option with
    | interface =>
        obtain ⟨-, rfl⟩ := copyInterface_ok (Option.some.inj applied)
        rfl
    | help =>
        cases applied
    | interval | pulse | rxColor | txColor | brightness
    | diskInterval | diskHold | diskPulse =>
        obtain ⟨value, -, rfl⟩ :=
          storeParsed_ok (Option.some.inj applied)
        rfl
    | _ =>
        cases applied
        rfl
  · cases taken

/-- The path that is reported is that of the last configuration option. -/
theorem configPath_of_run
    {options : List (ConfigOption × Option Word)}
    {final : ConfigData}
    (ran : PartialRun.run? optionStep config options = some final) :
    final.configPath =
      (configArguments options).getLastD config.configPath := by
  induction options generalizing config with
  | nil =>
      cases ran
      rfl
  | cons item rest inductionHypothesis =>
      obtain ⟨next, taken, later⟩ :=
        PartialRun.run?_cons_eq_some.mp ran
      rw [inductionHypothesis later, optionStep_configPath taken]
      unfold configArguments
      rw [List.filterMap_cons]
      by_cases isConfig : item.1 = .config
      · rw [if_pos isConfig, if_pos isConfig, List.getLastD_cons]
      · rw [if_neg isConfig, if_neg isConfig]

/-- `getopt_long` sees a configuration option if there is a path to report. -/
theorem seesConfig_iff {args : List Word} :
    SeesConfig args ↔
      configArguments (GetoptLong.scan configSpec args).options ≠
        [] := by
  unfold SeesConfig configArguments
  rw [ne_eq, List.filterMap_eq_nil_iff]
  constructor
  · rintro ⟨optarg, member⟩ none
    simpa using none _ member
  · intro some
    by_contra unseen
    apply some
    rintro ⟨option, optarg⟩ member
    rw [if_neg]
    rintro rfl
    exact unseen ⟨optarg, member⟩

end ReportedPath

/--
The file that was loaded is the one that is reported, and a missing file was an
error exactly if `getopt_long` saw a configuration option.
-/
def ScansAgree
    (args : List Word)
    (config : ConfigData) : Prop :=
  ∃ path explicitConfig,
    findConfigPath args = some (path, explicitConfig) ∧
      path = config.configPath ∧
      (explicitConfig = true ↔ SeesConfig args)

/-- The path that is reported comes from `getopt_long`, or else from the scan. -/
theorem reported_of_parsed
    {files : Word → Except Errno FileContents}
    {args : List Word}
    {config : ConfigData}
    (parsed : configParseOptions files args = .parsed config) :
    ∃ path explicitConfig,
      findConfigPath args = some (path, explicitConfig) ∧
        (GetoptLong.scan configSpec args).operands? = some [] ∧
        config.configPath =
          (configArguments
            (GetoptLong.scan configSpec args).options).getLastD path := by
  unfold configParseOptions at parsed
  cases found : findConfigPath args with
  | none =>
      rw [found] at parsed
      cases parsed
  | some location =>
      obtain ⟨path, explicitConfig⟩ := location
      simp only [found] at parsed
      have kept :
          (configLoadFile (files path)
            { ConfigData.defaults with
              configPath := path }).2.configPath = path :=
        configLoadFile_configPath _ _
      refine ⟨path, explicitConfig, rfl, ?_⟩
      rw [← kept]
      split at parsed
      · exact
          ⟨operands_of_applyOptions parsed,
            configPath_of_run (run_optionStep_of_applyOptions parsed)⟩
      · split at parsed
        · cases parsed
        · exact
            ⟨operands_of_applyOptions parsed,
              configPath_of_run (run_optionStep_of_applyOptions parsed)⟩

/--
The two scans agree on every command line whose segments they read alike, from
the start or again from some configuration option on; and if `getopt_long` sees
no configuration option, they agree on no other.
-/
theorem scansAgree_of_finallyReadAlike
    {files : Word → Except Errno FileContents}
    {args : List Word}
    {config : ConfigData}
    (parsed : configParseOptions files args = .parsed config) :
    (FinallyReadAlike args → ScansAgree args config) ∧
      (¬ SeesConfig args →
        ScansAgree args config →
        FinallyReadAlike args) := by
  obtain ⟨path, explicitConfig, found, accepted, final⟩ :=
    reported_of_parsed parsed
  constructor
  · intro alike
    have inStep := findConfigPath_of_finallyReadAlike accepted alike
    rw [inStep] at found
    cases found
    refine ⟨_, _, inStep, ?_, ?_⟩
    · rw [final]
      generalize configArguments
        (GetoptLong.scan configSpec args).options = paths
      simp only [List.getLastD_eq_getLast?]
      cases paths.getLast? <;> rfl
    · rw [seesConfig_iff]
      simp
  · rintro unseen ⟨loaded, explicitFound, scanned, -, sees⟩
    have notExplicit : explicitFound = false := by
      simpa [unseen] using sees
    subst notExplicit
    exact
      finallyReadAlike_of_not_configLike accepted unseen
        (not_configLike_of_not_explicit scanned)

/-- A configuration option after an argument that looks like one. -/
theorem scansAgree_after_object :
    ScansAgree
      [ascii "-o", ascii "--config=a", ascii "--config", ascii "b"]
      { ConfigData.defaults with
        bpfObject := ascii "--config=a"
        configPath := ascii "b" } :=
  (@scansAgree_of_finallyReadAlike (fun _ => .ok ⟨[], none⟩) _ _
    rfl).1
    ⟨[(ascii "-o", some (ascii "--config=a"))],
      [(ascii "--config", some (ascii "b"))], rfl,
      List.forall_mem_singleton.mpr (Or.inl (Or.inl rfl)),
      Or.inr ⟨by decide, _, rfl, Or.inl rfl⟩⟩

/-- An abbreviated option is reported, but another file is loaded. -/
theorem abbreviated_config_not_loaded :
    ¬ ∀ files args config,
      configParseOptions files args = .parsed config →
      ScansAgree args config := by
  intro agree
  obtain ⟨path, explicitConfig, found, same, -⟩ :=
    agree (fun _ => .ok ⟨[], none⟩) [ascii "--conf=leds.conf"] _ rfl
  cases found
  exact absurd same (by decide)

end UgreenLeds
