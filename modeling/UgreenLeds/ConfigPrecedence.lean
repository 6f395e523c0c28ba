import UgreenLeds.ConfigSettings
import UgreenLeds.LastWrite

/-!
# Precedence of the settings

An accepted file is a run over its lines, an accepted command line one over its
options, and each step assigns to the settings it occurs for and to no other.
So every setting ends with its last option, or else its last line, or else its
default; and lines that name no setting might as well not be there.
-/

namespace UgreenLeds

open GetoptLong (Word)

section Runs

variable
  {config next : ConfigData}

/-- One line of the loop of `config_load_file`, as a partial step. -/
def lineStep
    (config : ConfigData)
    (line : List UInt8) : Option ConfigData :=
  match setting? line with
  | none =>
      some config
  | some (fileKey, value) =>
      match applyKey config value fileKey with
      | (.ok (), changed) =>
          some changed
      | (.error _, _) =>
          none

/-- One option of the loop of `config_parse_options`, as a partial step. -/
def optionStep
    (config : ConfigData)
    (item : ConfigOption × Option Word) : Option ConfigData :=
  match applyOption config (item.2.getD []) item.1 with
  | some (.ok (), changed) =>
      some changed
  | _ =>
      none

/-- An accepted file is a run over its lines. -/
theorem run_lineStep_of_loadLines
    {lines : List (List UInt8)}
    {loaded : ConfigData}
    (accepted : loadLines config lines = (.ok (), loaded)) :
    PartialRun.run? lineStep config lines = some loaded := by
  induction lines generalizing config with
  | nil =>
      cases accepted
      rfl
  | cons line rest inductionHypothesis =>
      rw [PartialRun.run?_cons_eq_some]
      unfold loadLines at accepted
      unfold lineStep
      cases found : setting? line with
      | none =>
          rw [found] at accepted
          exact ⟨config, rfl, inductionHypothesis accepted⟩
      | some setting =>
          simp only [found] at accepted
          simp only
          generalize applyKey config setting.2 setting.1 =
            result at accepted ⊢
          rcases result with ⟨error | done, changed⟩
          · cases accepted
          · exact ⟨changed, rfl, inductionHypothesis accepted⟩

/-- An accepted command line is a run over its options. -/
theorem run_optionStep_of_applyOptions
    {operands? : Option (List Word)}
    {options : List (ConfigOption × Option Word)}
    {final : ConfigData}
    (parsed : applyOptions operands? config options = .parsed final) :
    PartialRun.run? optionStep config options = some final := by
  induction options generalizing config with
  | nil =>
      unfold applyOptions at parsed
      cases operands? with
      | none =>
          cases parsed
      | some operands =>
          simp only [finalChecks] at parsed
          split at parsed
          · cases parsed
          · cases parsed
            rfl
  | cons first rest inductionHypothesis =>
      rw [PartialRun.run?_cons_eq_some]
      obtain ⟨option, optarg⟩ := first
      unfold applyOptions at parsed
      unfold optionStep
      cases applied : applyOption config (optarg.getD []) option with
      | none =>
          rw [applied] at parsed
          cases parsed
      | some result =>
          rw [applied] at parsed
          rcases result with ⟨error | done, changed⟩
          · cases parsed
          · exact ⟨changed, rfl, inductionHypothesis parsed⟩

/-- A line assigns to the settings that it occurs for. -/
theorem lineStep_assigns
    (setting : Setting)
    {line : List UInt8}
    (taken : lineStep config line = some next) :
    LastWrite.Assigns setting.occursInLine line
      (setting.read config) (setting.read next) := by
  unfold LastWrite.Assigns Setting.occursInLine
  unfold lineStep setting? at taken
  cases assigned : assignment? line with
  | none =>
      rw [assigned] at taken
      cases taken
      rfl
  | some assignment =>
      obtain ⟨name, value⟩ := assignment
      simp only [assigned] at taken
      simp only
      cases found : fileKey? name with
      | none =>
          rw [found] at taken
          cases taken
          rw [if_neg]
          intro names
          rw [fileKey?_of_names names] at found
          cases found
      | some key =>
          simp only [found] at taken
          split at taken
          · rename_i changed applied
            cases taken
            by_cases same : setting.fileKey = key
            · subst key
              rw [if_pos (names_of_fileKey? found)]
              exact denoted_of_applyKey setting applied
            · rw [if_neg]
              · exact read_applyKey_of_ne same applied
              · intro names
                rw [fileKey?_of_names names] at found
                exact same (Option.some.inj found)
          · cases taken

/-- An option assigns to the settings that it occurs for. -/
theorem optionStep_assigns
    (setting : Setting)
    {item : ConfigOption × Option Word}
    (taken : optionStep config item = some next) :
    LastWrite.Assigns setting.occursInOption item
      (setting.read config) (setting.read next) := by
  obtain ⟨option, optarg⟩ := item
  unfold LastWrite.Assigns
  unfold optionStep at taken
  split at taken
  · rename_i changed applied
    cases taken
    cases occurrence : setting.occursInOption (option, optarg) with
    | none =>
        exact read_applyOption_of_none occurrence applied
    | some denoted =>
        by_cases enabled : setting = .networkEnabled
        · subst setting
          exact networkEnabled_of_applyOption occurrence applied
        · rw [occursInOption_of_ne enabled] at occurrence
          split at occurrence
          · rename_i names
            cases occurrence
            exact denoted_of_applyOption names applied
          · cases occurrence
  · cases taken

end Runs

section IgnoredLines

/-- A line the file might as well do without. -/
def Ignored (line : List UInt8) : Prop :=
  let text := trim (CString.content line)
  text = [] ∨ text.head? = some 35 ∨ ascii "declare " <+: text ∨
    61 ∉ text ∨
    ∀ fileKey : FileKey,
      ¬ fileKey.Names (trim (text.takeWhile (· ≠ 61)))

/-- A key is found unless it carries no known name. -/
theorem fileKey?_eq_none_iff {key : List UInt8} :
    fileKey? key = none ↔ ∀ fileKey : FileKey, ¬ fileKey.Names key := by
  simp only [Option.eq_none_iff_forall_ne_some, ne_eq,
    fileKey?_eq_some_iff]

/-- Splitting fails for want of the byte. -/
theorem splitAtFirst?_eq_none_iff
    {byte : UInt8}
    {text : List UInt8} :
    CString.splitAtFirst? byte text = none ↔ byte ∉ text := by
  unfold CString.splitAtFirst?
  cases dropped : text.dropWhile (· ≠ byte) with
  | nil =>
      rw [List.dropWhile_eq_nil_iff] at dropped
      simp only [true_iff]
      intro member
      simpa using dropped byte member
  | cons first rest =>
      have differs :
          ¬ ∀ other ∈ text, decide (other ≠ byte) = true := by
        rw [← List.dropWhile_eq_nil_iff, dropped]
        simp
      simpa using differs

/-- The lines that name no setting are the ignored ones. -/
theorem setting?_eq_none_iff {line : List UInt8} :
    setting? line = none ↔ Ignored line := by
  unfold setting? assignment? Ignored
  simp only
  generalize trim (CString.content line) = text
  by_cases skipped :
      text = [] ∨ text.head? = some 35 ∨
        (ascii "declare ").isPrefixOf text
  · rw [if_pos skipped]
    rw [List.isPrefixOf_iff_prefix] at skipped
    tauto
  · rw [if_neg skipped]
    rw [List.isPrefixOf_iff_prefix] at skipped
    cases divided : CString.splitAtFirst? 61 text with
    | none =>
        have absent := splitAtFirst?_eq_none_iff.mp divided
        tauto
    | some parts =>
        obtain ⟨key, value⟩ := parts
        have present : ¬ 61 ∉ text := by
          rw [← splitAtFirst?_eq_none_iff, divided]
          simp
        have keyIs : text.takeWhile (· ≠ 61) = key := by
          unfold CString.splitAtFirst? at divided
          split at divided
          · cases divided
          · cases divided
            rfl
        rw [keyIs, ← fileKey?_eq_none_iff]
        simp only
        cases fileKey? (trim key) <;> tauto

instance (line : List UInt8) : Decidable (Ignored line) :=
  decidable_of_iff (setting? line = none) setting?_eq_none_iff

/-- A line without its newline. -/
def chomp (line : List UInt8) : List UInt8 :=
  if line.getLast? = some 10 then line.dropLast else line

/-- The lines of a file that are not ignored, without their newlines. -/
def significantLines (bytes : List UInt8) : List (List UInt8) :=
  ((getlines bytes).map chomp).filter fun line => ¬ Ignored line

/-- White space at the end of a text makes no difference. -/
theorem trim_concat
    (text : List UInt8)
    {byte : UInt8}
    (space : CString.isSpace byte = true) :
    trim (text ++ [byte]) = trim text := by
  unfold trim
  rw [List.dropWhile_append]
  split
  · rename_i blank
    rw [List.isEmpty_iff] at blank
    rw [List.dropWhile_cons_of_pos space, blank]
    rfl
  · rw [List.rdropWhile_concat_pos _ _ _ space]

/-- The newline of a line makes no difference to what it assigns. -/
theorem setting?_chomp (line : List UInt8) :
    setting? (chomp line) = setting? line := by
  unfold chomp
  split
  · rename_i newline
    have divided : line = line.dropLast ++ [10] :=
      (List.dropLast_append_getLast? 10 newline).symm
    have sameText :
        trim (CString.content line) =
          trim (CString.content line.dropLast) := by
      rw [divided, List.dropLast_concat]
      generalize line.dropLast = text
      unfold CString.content
      rw [List.takeWhile_append]
      split
      · rename_i whole
        rw [(List.takeWhile_prefix _).eq_of_length whole]
        exact trim_concat text rfl
      · rfl
    unfold setting? assignment?
    rw [sameText]
  · rfl

/-- Only the significant lines are loaded. -/
theorem loadLines_significant
    (config : ConfigData)
    (lines : List (List UInt8)) :
    loadLines config lines =
      loadLines config
        ((lines.map chomp).filter fun line => ¬ Ignored line) := by
  induction lines generalizing config with
  | nil =>
      rfl
  | cons line rest inductionHypothesis =>
      rw [List.map_cons]
      by_cases ignored : Ignored (chomp line)
      · rw [List.filter_cons_of_neg (by simpa using ignored)]
        rw [← setting?_eq_none_iff, setting?_chomp] at ignored
        rw [loadLines, ignored]
        exact inductionHypothesis config
      · rw [List.filter_cons_of_pos (by simpa using ignored)]
        rw [loadLines, loadLines, setting?_chomp]
        cases setting? line with
        | none =>
            exact inductionHypothesis config
        | some setting =>
            simp only
            generalize applyKey config setting.2 setting.1 = result
            rcases result with ⟨error | done, changed⟩
            · rfl
            · exact inductionHypothesis changed

/-- Files with the same significant lines load alike. -/
theorem configLoadFile_congr
    {contents other : FileContents}
    (sameLines :
      significantLines other.bytes = significantLines contents.bytes)
    (sameEnd : other.readError = contents.readError)
    (config : ConfigData) :
    configLoadFile (.ok other) config =
      configLoadFile (.ok contents) config := by
  have sameLoad :
      loadLines config (getlines other.bytes) =
        loadLines config (getlines contents.bytes) := by
    rw [loadLines_significant config (getlines other.bytes),
      loadLines_significant config (getlines contents.bytes)]
    exact congrArg (loadLines config) sameLines
  simp only [configLoadFile, sameLoad, sameEnd]

/-- There is a line wherever there is a byte. -/
theorem getlines_cons_ne_nil
    (byte : UInt8)
    (rest : List UInt8) :
    getlines (byte :: rest) ≠ [] := by
  unfold getlines
  split
  · simp
  · split <;> simp

/-- A text that ends with a newline does not run into the next one. -/
theorem getlines_append
    {text : List UInt8}
    (ended : text.getLastD 10 = 10)
    (rest : List UInt8) :
    getlines (text ++ rest) = getlines text ++ getlines rest := by
  induction text with
  | nil =>
      rfl
  | cons byte text inductionHypothesis =>
      rw [List.cons_append, getlines, getlines]
      by_cases newline : byte = 10
      · rw [if_pos newline, if_pos newline]
        rw [List.getLastD_cons, newline] at ended
        rw [inductionHypothesis ended]
        rfl
      · rw [if_neg newline, if_neg newline]
        cases text with
        | nil =>
            exact absurd ended newline
        | cons second text =>
            rw [inductionHypothesis ended]
            have nonempty := getlines_cons_ne_nil second text
            cases lines : getlines (second :: text) with
            | nil =>
                exact absurd lines nonempty
            | cons line lines =>
                rfl

/-- A newline ends a line. -/
theorem getlines_line
    {line : List UInt8}
    (oneLine : 10 ∉ line) :
    getlines (line ++ [10]) = [line ++ [10]] := by
  induction line with
  | nil =>
      rfl
  | cons byte line inductionHypothesis =>
      rw [List.mem_cons, not_or] at oneLine
      rw [List.cons_append, getlines, if_neg (Ne.symm oneLine.1),
        inductionHypothesis oneLine.2]

/-- A text without a newline is its own last line. -/
theorem getlines_last
    {line : List UInt8}
    (oneLine : 10 ∉ line)
    (nonempty : line ≠ []) :
    getlines line = [line] := by
  induction line with
  | nil =>
      exact absurd rfl nonempty
  | cons byte line inductionHypothesis =>
      rw [List.mem_cons, not_or] at oneLine
      rw [getlines, if_neg (Ne.symm oneLine.1)]
      cases line with
      | nil =>
          rfl
      | cons second line =>
          rw [inductionHypothesis oneLine.2 (List.cons_ne_nil _ _)]

/--
One file has an ignored line at the start of a line, or at its end, of the other.
-/
inductive InsertsIgnored :
    List UInt8 → List UInt8 → Prop where
  | between
      {before line after : List UInt8}
      (ended : before.getLastD 10 = 10)
      (oneLine : 10 ∉ line)
      (ignored : Ignored line) :
      InsertsIgnored (before ++ after) (before ++ (line ++ [10]) ++ after)
  | last
      {before line : List UInt8}
      (ended : before.getLastD 10 = 10)
      (oneLine : 10 ∉ line)
      (ignored : Ignored line) :
      InsertsIgnored before (before ++ line)

/-- Inserting an ignored line keeps the significant lines. -/
theorem InsertsIgnored.sameLines
    {shorter longer : List UInt8}
    (inserts : InsertsIgnored shorter longer) :
    significantLines longer = significantLines shorter := by
  cases inserts with
  | @between before line after ended oneLine ignored =>
      have chomped : chomp (line ++ [10]) = line := by
        unfold chomp
        rw [List.getLast?_concat, if_pos rfl, List.dropLast_concat]
      have lineEnded : (line ++ [10]).getLastD 10 = 10 := by
        simp
      unfold significantLines
      rw [List.append_assoc, getlines_append ended,
        getlines_append lineEnded, getlines_line oneLine,
        getlines_append ended]
      simp [chomped, ignored]
  | @last before line ended oneLine ignored =>
      by_cases isEmpty : line = []
      · rw [isEmpty, List.append_nil]
      · have chomped : chomp line = line := by
          unfold chomp
          rw [if_neg]
          intro newline
          exact oneLine (List.mem_of_getLast? newline)
        unfold significantLines
        rw [getlines_append ended, getlines_last oneLine isEmpty]
        simp [chomped, ignored]

end IgnoredLines

section Precedence

/-- The defaults and the path of the file that is loaded over them. -/
def ConfigData.located (path : Word) : ConfigData :=
  { ConfigData.defaults with configPath := path }

/-- The settings of an accepted file are decided by their last lines. -/
theorem decided_of_configLoadFile
    {contents : FileContents}
    {config : ConfigData}
    (accepted : (configLoadFile (.ok contents) config).1 = .ok ())
    (setting : Setting) :
    LastWrite.Decided setting.occursInLine (getlines contents.bytes)
      (setting.read config)
      (setting.read (configLoadFile (.ok contents) config).2) := by
  unfold configLoadFile at accepted ⊢
  simp only at accepted ⊢
  cases loading : loadLines config (getlines contents.bytes) with
  | mk status loaded =>
      rw [loading] at accepted
      cases status with
      | error error =>
          cases accepted
      | ok done =>
          have decided :=
            LastWrite.decided_of_run (setting.read ·)
              setting.occursInLine (lineStep_assigns setting)
              (run_lineStep_of_loadLines loading)
          cases contents.readError <;> exact decided

/-- What is parsed after an accepted file is decided by the options. -/
theorem applyOptions_of_parsed
    {files : Word → Except Errno FileContents}
    {args : List Word}
    {path : Word}
    {explicitConfig : Bool}
    (found : findConfigPath args = some (path, explicitConfig))
    (accepted :
      (configLoadFile (files path) (.located path)).1 = .ok ()) :
    configParseOptions files args =
      applyOptions (GetoptLong.scan configSpec args).operands?
        (configLoadFile (files path) (.located path)).2
        (GetoptLong.scan configSpec args).options := by
  unfold ConfigData.located at accepted ⊢
  unfold configParseOptions
  simp only [found, accepted]

/-- The path that is loaded is no setting of the file. -/
theorem read_located
    (setting : Setting)
    (path : Word) :
    setting.read (.located path) = setting.read .defaults := by
  cases setting <;> rfl

/--
After an accepted file and an accepted command line, every setting has the value
of its last option, or else that of its last line, or else its default; and any
other file with the same significant lines gives the same configuration, such as
one that has an ignored line more or less anywhere.
-/
theorem configParseOptions_precedence
    {files : Word → Except Errno FileContents}
    {args : List Word}
    {path : Word}
    {explicitConfig : Bool}
    {contents : FileContents}
    {config : ConfigData}
    (found : findConfigPath args = some (path, explicitConfig))
    (opened : files path = .ok contents)
    (accepted :
      (configLoadFile (files path) (.located path)).1 = .ok ())
    (parsed : configParseOptions files args = .parsed config) :
    (∀ setting : Setting,
      ∃ fromFile,
        LastWrite.Decided setting.occursInLine
          (getlines contents.bytes) (setting.read .defaults) fromFile ∧
        LastWrite.Decided setting.occursInOption
          (GetoptLong.scan configSpec args).options fromFile
          (setting.read config)) ∧
      (∀ other : FileContents,
        other.readError = contents.readError →
        significantLines other.bytes =
          significantLines contents.bytes →
        configParseOptions
            (Function.update files path (.ok other)) args =
          .parsed config) ∧
      ∀ other : FileContents,
        other.readError = contents.readError →
        InsertsIgnored contents.bytes other.bytes ∨
          InsertsIgnored other.bytes contents.bytes →
        configParseOptions
            (Function.update files path (.ok other)) args =
          .parsed config := by
  have unchanged :
      ∀ other : FileContents,
        other.readError = contents.readError →
        significantLines other.bytes =
          significantLines contents.bytes →
        configParseOptions
            (Function.update files path (.ok other)) args =
          .parsed config := by
    intro other sameEnd sameLines
    have sameLoad :
        configLoadFile (Function.update files path (.ok other) path)
            (.located path) =
          configLoadFile (files path) (.located path) := by
      rw [Function.update_self, opened]
      exact configLoadFile_congr sameLines sameEnd _
    rw [applyOptions_of_parsed found (by rw [sameLoad, accepted]),
      sameLoad, ← applyOptions_of_parsed found accepted, parsed]
  refine ⟨?_, unchanged, ?_⟩
  · intro setting
    have fromOptions :=
      (applyOptions_of_parsed found accepted).symm.trans parsed
    rw [opened] at accepted fromOptions
    have fromFile := decided_of_configLoadFile accepted setting
    rw [read_located] at fromFile
    exact
      ⟨_, fromFile,
        LastWrite.decided_of_run (setting.read ·)
          setting.occursInOption (optionStep_assigns setting)
          (run_optionStep_of_applyOptions fromOptions)⟩
  · intro other sameEnd inserted
    refine unchanged other sameEnd ?_
    rcases inserted with more | less
    · exact more.sameLines
    · exact less.sameLines.symm

/-- A line and an option, each after an earlier one for the same setting. -/
theorem configParseOptions_precedence_repeated :
    ∃ fromFile,
      LastWrite.Decided Setting.diskHold.occursInLine
        (getlines
          (ascii "DISK_EBPF_HOLD_MS=300\n# hold\nDISK_EBPF_HOLD_MS=400"))
        (200 : UInt32) fromFile ∧
      LastWrite.Decided Setting.diskHold.occursInOption
        (GetoptLong.scan configSpec
          [ascii "--disk-hold-ms=50", ascii "--disk-hold",
            ascii "60"]).options
        fromFile (60 : UInt32) :=
  (@configParseOptions_precedence
    (fun _ =>
      .ok
        ⟨ascii "DISK_EBPF_HOLD_MS=300\n# hold\nDISK_EBPF_HOLD_MS=400",
          none⟩)
    [ascii "--disk-hold-ms=50", ascii "--disk-hold", ascii "60"]
    ConfigData.defaultConfigPath false _
    { ConfigData.defaults with diskHoldMs := 60 }
    rfl rfl rfl rfl).1 .diskHold

end Precedence

end UgreenLeds
