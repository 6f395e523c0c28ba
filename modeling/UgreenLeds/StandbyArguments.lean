import UgreenLeds.ShellWords
import UgreenLeds.Types
import Mathlib.Data.List.Perm.Basic
import Mathlib.Data.List.Nodup

/-!
# The arguments of the standby monitor

The disk monitor script passes the health colours of its disks in the order of
its LED table, and the pairs of block device and LED in the order in which the
shell enumerates the keys of an associative array.  The standby monitor pairs
them up again by index.  This module models both ends and derives exactly when
every LED is paired with its own colour.
-/

namespace UgreenLeds

open ShellWords (words echo Tidy)

/-- A text of the script or of a file. -/
abbrev Text := List UInt8

namespace DiskIoMon

section Script

/-- `led_map`. -/
def ledMap : List Text :=
  ["disk1", "disk2", "disk3", "disk4", "disk5", "disk6", "disk7",
    "disk8"].map ascii

/-- The health colours of the configuration. -/
structure HealthColors where
  /-- `COLOR_DISK_HEALTH`. -/
  diskHealth : Text
  /-- `COLOR_DISK_HEALTH_PER_DISK`. -/
  perDisk : Text → Option Text

/--
The associative array `devices`.  The script ends early if it is empty, and its
keys are entries of `led_map`; their order is up to the shell.
-/
structure Devices where
  /-- The order of `"${!devices[@]}"`. -/
  keys : List Text
  device : Text → Text
  nonempty : keys ≠ []
  nodup : keys.Nodup
  subset : ∀ led ∈ keys, led ∈ ledMap

variable
  (colors : HealthColors)
  (devices : Devices)

/-- `color_disk_health`, which splits the colour into words and prints them. -/
def colorDiskHealth (disk : Text) : Text :=
  echo (words ((colors.perDisk disk).getD colors.diskHealth))

/-- The expansion `${text%,}`. -/
def withoutFinalComma (text : Text) : Text :=
  if text.getLast? = some 44 then text.dropLast else text

/-- `disk_health_parameters`. -/
def diskHealthParameters : Text :=
  let diskHealthColors :=
    ledMap.foldl
      (fun text led =>
        if led ∈ devices.keys then
          text ++ colorDiskHealth colors led ++ [44]
        else
          text)
      []
  echo (words (withoutFinalComma diskHealthColors))

/-- The words of `diskiomon_parameters`; device and LED names are words. -/
def diskiomonParameters : List Text :=
  devices.keys.flatMap fun led => [devices.device led, led]

/-- The arguments of `ugreen-check-standby`. -/
def standbyArguments
    (standbyCheckInterval colorDiskStandby : Text) : List Text :=
  standbyCheckInterval :: colorDiskStandby ::
    diskHealthParameters colors devices :: diskiomonParameters devices

end Script

section Monitor

/-- What `main` of `check-standby.cpp` has set up before its loop. -/
structure CheckStandby where
  standbyColor : Text
  normalColors : List Text
  blockDevicePaths : List Text
  ledDeviceColorPaths : List Text

/-- The path of a block device. -/
def blockDevicePath (blockDevice : Text) : Text :=
  ascii "/dev/" ++ blockDevice

/-- The path of an LED's colour. -/
def ledDeviceColorPath (ledDevice : Text) : Text :=
  ascii "/sys/class/leds/" ++ ledDevice ++ ascii "/color"

/-- The arguments two by two. -/
def devicePairs : List Text → List (Text × Text)
  | blockDevice :: ledDevice :: rest =>
      (blockDevice, ledDevice) :: devicePairs rest
  | _ =>
      []

/-- `main` up to its loop, without the interval; it may print its usage. -/
def checkStandbyMain : List Text → Option CheckStandby
  | _ :: standbyColor :: normalColors :: rest =>
      if rest.length < 2 ∨ rest.length % 2 ≠ 0 then
        none
      else
        some
          { standbyColor
            normalColors := normalColors.splitOn 44
            blockDevicePaths :=
              (devicePairs rest).map fun pair => blockDevicePath pair.1
            ledDeviceColorPaths :=
              (devicePairs rest).map fun pair =>
                ledDeviceColorPath pair.2 }
  | _ =>
      none

/-- There is one colour for each LED, and it is that LED's own. -/
def OwnColors
    (colors : HealthColors)
    (checker : CheckStandby) : Prop :=
  checker.normalColors.length = checker.ledDeviceColorPaths.length ∧
    ∀ (index : Nat) (led : Text),
      checker.ledDeviceColorPaths[index]? =
        some (ledDeviceColorPath led) →
      checker.normalColors[index]? = some (colorDiskHealth colors led)

end Monitor

section List

variable
  {texts : List Text}

/-- Appending texts with their commas and cutting off the last one joins them. -/
theorem withoutFinalComma_flatMap (texts : List Text) :
    withoutFinalComma (texts.flatMap (· ++ [44])) =
      [44].intercalate texts := by
  have terminated :
      ∀ texts : List Text,
        texts ≠ [] →
        texts.flatMap (· ++ [44]) =
          [44].intercalate texts ++ [44] := by
    intro texts nonempty
    induction texts with
    | nil =>
        exact absurd rfl nonempty
    | cons first rest inductionHypothesis =>
        cases rest with
        | nil =>
            simp
        | cons second rest =>
            rw [List.flatMap_cons, inductionHypothesis (by simp)]
            simp
  cases texts with
  | nil =>
      rfl
  | cons first rest =>
      rw [terminated _ (by simp), withoutFinalComma,
        List.getLast?_concat, if_pos rfl, List.dropLast_concat]

/-- Splitting joined texts splits each of them. -/
theorem splitOn_joined
    (nonempty : texts ≠ []) :
    ([44].intercalate texts).splitOn 44 =
      texts.flatMap (·.splitOn 44) := by
  induction texts with
  | nil =>
      exact absurd rfl nonempty
  | cons first rest inductionHypothesis =>
      cases rest with
      | nil =>
          simp
      | cons second rest =>
          rw [List.flatMap_cons, ← inductionHypothesis (by simp)]
          rw [show [44].intercalate (first :: second :: rest) =
              first ++ 44 :: [44].intercalate (second :: rest) by simp,
            List.splitOn_append_cons_self]

/-- A text with a comma is split into several. -/
theorem two_le_length_splitOn
    {text : Text}
    (comma : 44 ∈ text) :
    2 ≤ (text.splitOn 44).length := by
  obtain ⟨first, second, rfl⟩ := List.append_of_mem comma
  rw [List.splitOn_append_cons_self, List.length_append]
  have firstPart :=
    List.length_pos_of_ne_nil (List.splitOn_ne_nil 44 first)
  have secondPart :=
    List.length_pos_of_ne_nil (List.splitOn_ne_nil 44 second)
  omega

/-- Splitting gives at least one part for every text. -/
theorem length_le_length_flatMap_splitOn (texts : List Text) :
    texts.length ≤ (texts.flatMap (·.splitOn 44)).length := by
  induction texts with
  | nil =>
      exact Nat.zero_le _
  | cons first rest inductionHypothesis =>
      have firstPart :=
        List.length_pos_of_ne_nil (List.splitOn_ne_nil 44 first)
      rw [List.flatMap_cons, List.length_append, List.length_cons]
      omega

/-- Splitting gives no more parts than texts only if there is no comma. -/
theorem no_comma_of_length
    (sameLength :
      (texts.flatMap (·.splitOn 44)).length = texts.length) :
    ∀ text ∈ texts, 44 ∉ text := by
  induction texts with
  | nil =>
      simp
  | cons first rest inductionHypothesis =>
      rw [List.flatMap_cons, List.length_append, List.length_cons]
        at sameLength
      have atLeast := length_le_length_flatMap_splitOn rest
      have firstPart :=
        List.length_pos_of_ne_nil (List.splitOn_ne_nil 44 first)
      intro text member
      rcases List.mem_cons.mp member with rfl | later
      · intro comma
        have several := two_le_length_splitOn comma
        omega
      · exact inductionHypothesis (by omega) text later

end List

section Alignment

variable
  (colors : HealthColors)
  (devices : Devices)

/-- The LEDs of the populated bays in the order of `led_map`. -/
def populated : List Text :=
  ledMap.filter (· ∈ devices.keys)

/-- `led_map` and the keys name the same populated bays. -/
theorem populated_perm :
    (populated devices).Perm devices.keys := by
  have distinct : ledMap.Nodup := by
    decide
  refine
    (List.perm_ext_iff_of_nodup (distinct.filter _) devices.nodup).mpr
      ?_
  intro led
  rw [List.mem_filter, decide_eq_true_iff]
  exact ⟨And.right, fun isKey => ⟨devices.subset led isKey, isKey⟩⟩

/-- The list of colours is their texts with commas between them. -/
theorem diskHealthParameters_eq :
    diskHealthParameters colors devices =
      [44].intercalate
        ((populated devices).map (colorDiskHealth colors)) := by
  have accumulated :
      ∀ (leds : List Text) (text : Text),
        leds.foldl
            (fun text led =>
              if led ∈ devices.keys then
                text ++ colorDiskHealth colors led ++ [44]
              else
                text)
            text =
          text ++
            ((leds.filter (· ∈ devices.keys)).map
              (colorDiskHealth colors)).flatMap (· ++ [44]) := by
    intro leds
    induction leds with
    | nil =>
        simp
    | cons led rest inductionHypothesis =>
        intro text
        rw [List.foldl_cons, inductionHypothesis]
        by_cases isKey : led ∈ devices.keys
        · simp [isKey]
        · simp [isKey]
  have tidy :
      ∀ text ∈ (populated devices).map (colorDiskHealth colors),
        Tidy text := by
    intro text member
    obtain ⟨led, -, rfl⟩ := List.mem_map.mp member
    exact
      ShellWords.tidy_echo fun _ => ShellWords.isWord_of_mem_words
  unfold diskHealthParameters
  simp only
  rw [accumulated, List.nil_append, withoutFinalComma_flatMap]
  exact ShellWords.echo_words (ShellWords.tidy_intercalate rfl tidy)

/-- The arguments are paired up the way they were printed. -/
theorem devicePairs_diskiomonParameters :
    devicePairs (diskiomonParameters devices) =
      devices.keys.map fun led => (devices.device led, led) := by
  unfold diskiomonParameters
  induction devices.keys with
  | nil =>
      rfl
  | cons led rest inductionHypothesis =>
      rw [List.flatMap_cons, List.map_cons, ← inductionHypothesis]
      rfl

/-- There are two arguments for each LED. -/
theorem length_diskiomonParameters :
    (diskiomonParameters devices).length = 2 * devices.keys.length := by
  unfold diskiomonParameters
  induction devices.keys with
  | nil =>
      rfl
  | cons led rest inductionHypothesis =>
      rw [List.flatMap_cons, List.length_append, inductionHypothesis,
        List.length_cons]
      simp only [List.length_cons, List.length_nil]
      omega

/-- Different LEDs have different colour files. -/
theorem ledDeviceColorPath_injective :
    Function.Injective ledDeviceColorPath := by
  intro first second same
  unfold ledDeviceColorPath at same
  exact List.append_cancel_left (List.append_cancel_right same)

/-- Colours that are not each LED's own differ from the LEDs' colours. -/
theorem ownColors_iff
    {checker : CheckStandby}
    {leds : List Text}
    (paths :
      checker.ledDeviceColorPaths = leds.map ledDeviceColorPath) :
    OwnColors colors checker ↔
      checker.normalColors = leds.map (colorDiskHealth colors) := by
  unfold OwnColors
  rw [paths, List.length_map]
  constructor
  · rintro ⟨sameLength, own⟩
    apply List.ext_getElem?
    intro index
    rw [List.getElem?_map]
    cases found : leds[index]? with
    | none =>
        rw [List.getElem?_eq_none_iff] at found
        rw [Option.map_none, List.getElem?_eq_none_iff, sameLength]
        exact found
    | some led =>
        apply own
        rw [List.getElem?_map, found]
        rfl
  · intro same
    rw [same, List.length_map]
    refine ⟨rfl, ?_⟩
    intro index led found
    rw [List.getElem?_map, Option.map_eq_some_iff] at found
    obtain ⟨other, isThere, samePath⟩ := found
    rw [List.getElem?_map, isThere,
      ledDeviceColorPath_injective samePath]
    rfl

/-- Splitting the list of colours gives them back unless one has a comma. -/
theorem splitOn_diskHealthParameters_iff
    (expected : List Text)
    (sameLength : expected.length = (populated devices).length) :
    (diskHealthParameters colors devices).splitOn 44 = expected ↔
      (∀ led ∈ populated devices, 44 ∉ colorDiskHealth colors led) ∧
        (populated devices).map (colorDiskHealth colors) =
          expected := by
  have nonempty :
      (populated devices).map (colorDiskHealth colors) ≠ [] := by
    rw [ne_eq, List.map_eq_nil_iff]
    intro empty
    have permuted := populated_perm devices
    rw [empty] at permuted
    exact devices.nonempty permuted.symm.eq_nil
  rw [diskHealthParameters_eq]
  constructor
  · intro same
    have noComma :
        ∀ text ∈ (populated devices).map (colorDiskHealth colors),
          44 ∉ text := by
      apply no_comma_of_length
      rw [← splitOn_joined nonempty, same, List.length_map, sameLength]
    rw [List.splitOn_intercalate 44 noComma nonempty] at same
    exact ⟨fun led member => noComma _ (List.mem_map_of_mem member), same⟩
  · rintro ⟨noComma, same⟩
    rw [List.splitOn_intercalate 44 _ nonempty, same]
    intro text member
    obtain ⟨led, isLed, rfl⟩ := List.mem_map.mp member
    exact noComma led isLed

/--
The standby monitor accepts its arguments, and it has every LED's own colour
exactly if no such colour contains a comma and the colours follow each other in
the order of the keys the way they do in the order of `led_map`.
-/
theorem checkStandbyMain_ownColors_iff
    (standbyCheckInterval colorDiskStandby : Text) :
    ∃ checker,
      checkStandbyMain
          (standbyArguments colors devices standbyCheckInterval
            colorDiskStandby) =
        some checker ∧
        (OwnColors colors checker ↔
          (∀ led ∈ devices.keys, 44 ∉ colorDiskHealth colors led) ∧
            (populated devices).map (colorDiskHealth colors) =
              devices.keys.map (colorDiskHealth colors)) := by
  have length := length_diskiomonParameters devices
  have positive := List.length_pos_of_ne_nil devices.nonempty
  refine
    ⟨{ standbyColor := colorDiskStandby
       normalColors :=
        (diskHealthParameters colors devices).splitOn 44
       blockDevicePaths :=
        (devicePairs (diskiomonParameters devices)).map
          fun pair => blockDevicePath pair.1
       ledDeviceColorPaths :=
        (devicePairs (diskiomonParameters devices)).map
          fun pair => ledDeviceColorPath pair.2 },
      if_neg (by omega), ?_⟩
  have paths :
      ((devicePairs (diskiomonParameters devices)).map
          fun pair => ledDeviceColorPath pair.2) =
        devices.keys.map ledDeviceColorPath := by
    simp only [devicePairs_diskiomonParameters, List.map_map,
      Function.comp_def]
  have sameLength :
      (devices.keys.map (colorDiskHealth colors)).length =
        (populated devices).length := by
    rw [List.length_map, (populated_perm devices).length_eq]
  refine (ownColors_iff colors paths).trans ?_
  rw [splitOn_diskHealthParameters_iff colors devices _ sameLength]
  simp only [(populated_perm devices).mem_iff]

/-- Two populated bays with different colours, enumerated in reverse. -/
theorem reversed_bays_swap_colors :
    ¬ ∀ colors devices standbyCheckInterval colorDiskStandby checker,
      checkStandbyMain
          (standbyArguments colors devices standbyCheckInterval
            colorDiskStandby) =
        some checker →
      OwnColors colors checker := by
  intro own
  obtain ⟨-, second⟩ :=
    own
      { diskHealth := ascii "255 255 255"
        perDisk := fun led =>
          if led = ascii "disk2" then some (ascii "0 255 0") else none }
      { keys := [ascii "disk2", ascii "disk1"]
        device := fun led =>
          if led = ascii "disk1" then ascii "sda" else ascii "sdb"
        nonempty := by decide
        nodup := by decide
        subset := by decide }
      (ascii "1") (ascii "0 0 255") _ rfl
  exact absurd (second 0 (ascii "disk2") rfl) (by decide)

end Alignment

end DiskIoMon

end UgreenLeds
