import UgreenLeds.ConfigFile
import UgreenLeds.Decimals
import UgreenLeds.DiskLedCallbacks
import UgreenLeds.DiskLayout
import UgreenLeds.DiskSerials
import UgreenLeds.FirstWins

/-!
# The scan of sysfs

The model of `read_line`, `parse_dev`, `device_slot` and `discover` of
`disk_led.c`.  What opening the files of a device and resolving its links result
in is part of the directory entry; the paths always fit their buffers.  The names
of the devices, which are only printed, are left out.
-/

namespace UgreenLeds

section Model

/-- `fgets`: the start of a file up to its first newline, if there is any. -/
def fgets
    (length : Nat)
    (contents : FileContents) : Option (List UInt8) :=
  let field := contents.bytes.take (length - 1)
  let line := field.takeWhile (· ≠ 10)
  if line.length < field.length then
    some (line ++ [10])
  else if field.length = length - 1 then
    some field
  else if field = [] ∨ contents.readError.isSome then
    none
  else
    some field

/-- `read_line`. -/
def readLine
    (length : Nat)
    (file : Except Errno FileContents) : Except Errno (List UInt8) :=
  match file with
  | .error error =>
      .error error
  | .ok contents =>
      match fgets length contents with
      | none =>
          .error (contents.readError.getD .eio)
      | some buffer =>
          .ok
            ((CString.content buffer).takeWhile
              fun byte => byte ≠ 13 ∧ byte ≠ 10)

/-- `KERNEL_MINOR_BITS`. -/
def kernelMinorBits : UInt32 := 20

/-- The format of `parse_dev`. -/
def devFormat : List CString.Directive :=
  [.unsigned, .literal 58, .unsigned, .char]

/-- What `parse_dev` stores. -/
structure DevNumber where
  dev : UInt32
  major : UInt32
  minor : UInt32
  deriving DecidableEq, Repr

/-- `parse_dev`. -/
def parseDev (file : Except Errno FileContents) : Except Errno DevNumber :=
  match readLine 64 file with
  | .error _ =>
      .error .enoent
  | .ok value =>
      match CString.sscanf devFormat value with
      | [.unsigned major, .unsigned minor] =>
          if major ≥ 1 <<< (32 - kernelMinorBits) ∨
              minor ≥ 1 <<< kernelMinorBits then
            .error .einval
          else
            .ok ⟨(major <<< kernelMinorBits) ||| minor, major, minor⟩
      | _ =>
          .error .einval

/-- An entry of `/sys/class/block`. -/
structure BlockEntry where
  /-- `d_name`. -/
  name : List UInt8
  /-- The entry has a file `partition`. -/
  isPartition : Bool
  /-- The file `dev`. -/
  devFile : Except Errno FileContents
  /-- Where the link `device` leads. -/
  deviceLink : Option (List UInt8)
  /-- Where the entry itself leads. -/
  blockLink : Option (List UInt8)

/-- What `discover` reads of the configuration and the system. -/
structure DiscoverySettings where
  mapping : DiskMappingMethod
  diskSerials : Fin diskCount → List UInt8
  productName : List UInt8
  /-- The record of udev for a device number. -/
  udevRecord : UInt32 → UInt32 → Except Errno FileContents

/-- `slot_count`. -/
def DiscoverySettings.slotCount (settings : DiscoverySettings) : Nat :=
  diskLayoutSlotCount settings.productName

/-- `device_slot`. -/
def deviceSlot
    (settings : DiscoverySettings)
    (entry : BlockEntry)
    (major minor : UInt32) : Int :=
  if settings.mapping = .serial then
    serialSlot settings.slotCount settings.diskSerials
      (settings.udevRecord major minor)
  else
    match entry.deviceLink with
    | none =>
        -1
    | some resolved =>
        if settings.mapping = .hctl then
          diskLayoutHctlSlot settings.productName settings.slotCount
            resolved
        else
          match entry.blockLink with
          | none =>
              -1
          | some resolved =>
              diskLayoutAtaSlot settings.productName settings.slotCount
                resolved

/-- A slot that the chassis has. -/
def slotIndex?
    (settings : DiscoverySettings)
    (slot : Int) : Option DiskIndex :=
  if inside : 0 ≤ slot ∧ slot.toNat < settings.slotCount then
    some
      ⟨slot.toNat,
        inside.2.trans_le (diskLayoutSlotCount_le settings.productName)⟩
  else
    none

/-- One pass through the loop of `discover`. -/
def discoverEntry
    (settings : DiscoverySettings)
    (found : Discovery)
    (entry : BlockEntry) : Discovery :=
  if entry.name.head? = some 46 then
    found
  else if entry.isPartition then
    found
  else
    match parseDev entry.devFile with
    | .error _ =>
        found
    | .ok ⟨dev, major, minor⟩ =>
        match slotIndex? settings (deviceSlot settings entry major minor) with
        | none =>
            found
        | some index =>
            match found index with
            | some _ =>
                found
            | none =>
                Function.update found index (some dev)

/-- `discover`. -/
def discover
    (settings : DiscoverySettings)
    (directory : Except Errno (List BlockEntry)) :
    Except Errno Discovery :=
  match directory with
  | .error error =>
      .error error
  | .ok entries =>
      .ok (entries.foldl (discoverEntry settings) fun _ => none)

end Model

section Lines

/-- A line that fits the buffer is read without its end. -/
theorem readLine_of_line
    {length : Nat}
    {text : List UInt8}
    (fits : text.length < length - 1)
    (inside : ∀ byte ∈ text, byte ≠ 0 ∧ byte ≠ 13 ∧ byte ≠ 10)
    (rest : List UInt8)
    (readError : Option Errno) :
    readLine length (.ok ⟨text ++ 10 :: rest, readError⟩) =
      .ok text := by
  have field :
      (text ++ 10 :: rest).take (length - 1) =
        text ++ 10 :: rest.take (length - 1 - text.length - 1) := by
    obtain ⟨room, more⟩ :
        ∃ room, length - 1 - text.length = room + 1 :=
      ⟨length - 1 - text.length - 1, by omega⟩
    rw [List.take_append, List.take_of_length_le fits.le, more,
      List.take_succ_cons, Nat.add_sub_cancel]
  have noNewline :
      ∀ byte ∈ text, decide (byte ≠ 10) = true := by
    intro byte member
    simpa using (inside byte member).2.2
  have noNull : ∀ byte ∈ text, decide (byte ≠ 0) = true := by
    intro byte member
    simpa using (inside byte member).1
  have noEnd :
      ∀ byte ∈ text, decide (byte ≠ 13 ∧ byte ≠ 10) = true := by
    intro byte member
    simpa using (inside byte member).2
  have line :
      ∀ later : List UInt8,
        (text ++ 10 :: later).takeWhile (fun byte => decide (byte ≠ 10)) =
          text := by
    intro later
    rw [List.takeWhile_append_of_pos noNewline]
    simp
  have read :
      fgets length ⟨text ++ 10 :: rest, readError⟩ =
        some (text ++ [10]) := by
    simp only [fgets, field, line]
    rw [if_pos (by simp)]
  have content : CString.content (text ++ [10]) = text ++ [10] := by
    rw [CString.content, List.takeWhile_append_of_pos noNull]
    rfl
  simp only [readLine, read, content]
  rw [List.takeWhile_append_of_pos noEnd]
  simp

end Lines

section Numbers

/-- How the kernel writes a device number. -/
def devText (major minor : Nat) : List UInt8 :=
  CString.decimal major ++ 58 :: (CString.decimal minor ++ [10])

/-- `MKDEV`. -/
def mkdev (major minor : Nat) : UInt32 :=
  UInt32.ofNat (major * 2 ^ 20 + minor)

/-- A decimal numeral has no more digits than its bound. -/
theorem length_decimal_le
    {number digits : Nat}
    (positive : 0 < digits)
    (bounded : number < 10 ^ digits) :
    (CString.decimal number).length ≤ digits := by
  rw [CString.decimal, List.length_map]
  exact (Nat.length_toDigits_le_iff (by omega) positive).mpr bounded

/-- The two parts of a number do not overlap. -/
theorem shifted_or
    {major minor : Nat}
    (majorBound : major < 2 ^ 12)
    (minorBound : minor < 2 ^ 20) :
    (UInt32.ofNat major <<< kernelMinorBits) ||| UInt32.ofNat minor =
      mkdev major minor := by
  apply UInt32.toNat_inj.mp
  have shift : kernelMinorBits.toNat % 32 = 20 := rfl
  have size : UInt32.size = 2 ^ 32 := rfl
  have small : major <<< 20 < 2 ^ 32 := by
    rw [Nat.shiftLeft_eq]
    omega
  rw [UInt32.toNat_or, UInt32.toNat_shiftLeft, shift,
    UInt32.toNat_ofNat_of_lt' (by omega),
    UInt32.toNat_ofNat_of_lt' (by omega), mkdev,
    UInt32.toNat_ofNat_of_lt' (by omega), Nat.mod_eq_of_lt small,
    ← Nat.shiftLeft_add_eq_or_of_lt minorBound, Nat.shiftLeft_eq]

/-- A device number is read as the kernel has written it. -/
theorem parseDev_devText
    {major minor : Nat}
    (majorBound : major < 2 ^ 12)
    (minorBound : minor < 2 ^ 20)
    (readError : Option Errno) :
    parseDev (.ok ⟨devText major minor, readError⟩) =
      .ok
        ⟨mkdev major minor, UInt32.ofNat major, UInt32.ofNat minor⟩ := by
  have size : UInt32.size = 2 ^ 32 := rfl
  have majorShort :=
    length_decimal_le (show 0 < 4 by omega)
      (show major < 10 ^ 4 by omega)
  have minorShort :=
    length_decimal_le (show 0 < 7 by omega)
      (show minor < 10 ^ 7 by omega)
  have digits :
      ∀ number : Nat, ∀ byte ∈ CString.decimal number,
        byte ≠ 0 ∧ byte ≠ 13 ∧ byte ≠ 10 := by
    intro number byte member
    have digit := CString.isDigit_of_mem_decimal member
    refine ⟨?_, ?_, ?_⟩ <;>
      · rintro rfl
        cases digit
  have read :
      readLine 64 (.ok ⟨devText major minor, readError⟩) =
        .ok
          (CString.decimal major ++ 58 :: CString.decimal minor) := by
    have split :
        devText major minor =
          (CString.decimal major ++ 58 :: CString.decimal minor) ++
            10 :: [] := by
      simp [devText]
    rw [split]
    apply readLine_of_line
    · rw [List.length_append, List.length_cons]
      omega
    · intro byte member
      rcases List.mem_append.mp member with inMajor | later
      · exact digits major byte inMajor
      · rcases List.mem_cons.mp later with rfl | inMinor
        · decide
        · exact digits minor byte inMinor
  have scanned :
      CString.sscanf devFormat
          (CString.decimal major ++ 58 :: CString.decimal minor) =
        [.unsigned (UInt32.ofNat major),
          .unsigned (UInt32.ofNat minor)] := by
    have first :=
      (CString.reads_decimal major
        (CString.head_stops (show CString.isDigit 58 = false from rfl)
          (CString.decimal minor))).numeral?_eq
    have second :=
      (CString.reads_decimal minor
        (show ∀ byte ∈ ([] : List UInt8).head?,
          CString.isDigit byte = false by simp)).numeral?_eq
    rw [List.append_nil] at second
    have colonRead :
        CString.sscanf [.literal 58, .unsigned, .char]
            (58 :: CString.decimal minor) =
          CString.sscanf [.unsigned, .char] (CString.decimal minor) :=
      rfl
    rw [devFormat, CString.sscanf_unsigned, first]
    simp only [colonRead]
    rw [CString.sscanf_unsigned, second]
    simp only [CString.Numeral.stored_ofNat
        (show major < 2 ^ 32 by omega),
      CString.Numeral.stored_ofNat (show minor < 2 ^ 32 by omega)]
    rfl
  have inRange :
      ¬ (UInt32.ofNat major ≥ 1 <<< (32 - kernelMinorBits) ∨
        UInt32.ofNat minor ≥ 1 <<< kernelMinorBits) := by
    have majorLimit :
        ((1 : UInt32) <<< (32 - kernelMinorBits)).toNat = 2 ^ 12 := rfl
    have minorLimit :
        ((1 : UInt32) <<< kernelMinorBits).toNat = 2 ^ 20 := rfl
    rw [ge_iff_le, ge_iff_le, UInt32.le_iff_toNat_le,
      UInt32.le_iff_toNat_le, majorLimit, minorLimit,
      UInt32.toNat_ofNat_of_lt' (by omega),
      UInt32.toNat_ofNat_of_lt' (by omega)]
    omega
  simp only [parseDev, read, scanned, if_neg inRange,
    shifted_or majorBound minorBound]

/-- The kernel's numbers of two devices differ. -/
theorem mkdev_inj
    {major minor major' minor' : Nat}
    (majorBound : major < 2 ^ 12)
    (minorBound : minor < 2 ^ 20)
    (majorBound' : major' < 2 ^ 12)
    (minorBound' : minor' < 2 ^ 20)
    (same : mkdev major minor = mkdev major' minor') :
    major = major' ∧ minor = minor' := by
  have size : UInt32.size = 2 ^ 32 := rfl
  have numbers := congrArg UInt32.toNat same
  rw [mkdev, mkdev, UInt32.toNat_ofNat_of_lt' (by omega),
    UInt32.toNat_ofNat_of_lt' (by omega)] at numbers
  omega

end Numbers

section Sysfs

/-- A disk, as the kernel knows it. -/
structure BlockDevice where
  name : List UInt8
  visible : name.head? ≠ some 46
  major : Fin (2 ^ 12)
  minor : Fin (2 ^ 20)
  deviceLink : Option (List UInt8)
  blockLink : Option (List UInt8)

namespace BlockDevice

/-- The number of a disk. -/
def number (device : BlockDevice) : UInt32 :=
  mkdev device.major.val device.minor.val

/-- The entry of a disk. -/
def entry (device : BlockDevice) : BlockEntry where
  name := device.name
  isPartition := false
  devFile := .ok ⟨devText device.major.val device.minor.val, none⟩
  deviceLink := device.deviceLink
  blockLink := device.blockLink

/-- The bay in which the settings look for a disk. -/
def bay?
    (settings : DiscoverySettings)
    (device : BlockDevice) : Option DiskIndex :=
  slotIndex? settings
    (deviceSlot settings device.entry (UInt32.ofNat device.major.val)
      (UInt32.ofNat device.minor.val))

end BlockDevice

/-- What the directory lists. -/
inductive BlockNode where
  | disk (device : BlockDevice)
  /-- The directory itself, its parent, or a partition. -/
  | other
      (entry : BlockEntry)
      (ignored : entry.name.head? = some 46 ∨ entry.isPartition = true)

namespace BlockNode

/-- The entry of a node. -/
def entry : BlockNode → BlockEntry
  | disk device =>
      device.entry
  | other entry _ =>
      entry

/-- The disk of a node. -/
def device? : BlockNode → Option BlockDevice
  | disk device =>
      some device
  | other _ _ =>
      none

end BlockNode

/-- The block devices of a system, whose disks have different numbers. -/
structure Sysfs where
  nodes : List BlockNode
  distinct :
    ((nodes.filterMap BlockNode.device?).map
      fun device => (device.major, device.minor)).Nodup

namespace Sysfs

/-- The disks. -/
def disks (sysfs : Sysfs) : List BlockDevice :=
  sysfs.nodes.filterMap BlockNode.device?

/-- The directory `/sys/class/block`. -/
def entries (sysfs : Sysfs) : List BlockEntry :=
  sysfs.nodes.map BlockNode.entry

/-- The disk in a bay: the first that the settings look for there. -/
def occupant
    (settings : DiscoverySettings)
    (sysfs : Sysfs)
    (index : DiskIndex) : Option BlockDevice :=
  sysfs.disks.find? fun device => device.bay? settings = some index

variable
  {settings : DiscoverySettings}
  {sysfs : Sysfs}

/-- A disk that is in a bay is listed. -/
theorem occupant_mem
    {index : DiskIndex}
    {device : BlockDevice}
    (found : sysfs.occupant settings index = some device) :
    device ∈ sysfs.disks ∧ device.bay? settings = some index :=
  ⟨List.mem_of_find?_eq_some found,
    by simpa using List.find?_some found⟩

/-- Disks with the same number are the same disk. -/
theorem number_inj
    {first second : BlockDevice}
    (firstListed : first ∈ sysfs.disks)
    (secondListed : second ∈ sysfs.disks)
    (same : first.number = second.number) :
    first = second := by
  obtain ⟨sameMajor, sameMinor⟩ :=
    mkdev_inj first.major.isLt first.minor.isLt second.major.isLt
      second.minor.isLt same
  refine
    List.inj_on_of_nodup_map sysfs.distinct firstListed secondListed ?_
  exact Prod.ext (Fin.ext sameMajor) (Fin.ext sameMinor)

/-- Disks in different bays have different numbers. -/
theorem occupant_inj
    {first second : DiskIndex}
    {one other : BlockDevice}
    (inFirst : sysfs.occupant settings first = some one)
    (inSecond : sysfs.occupant settings second = some other)
    (same : one.number = other.number) :
    first = second := by
  obtain ⟨oneListed, oneBay⟩ := occupant_mem inFirst
  obtain ⟨otherListed, otherBay⟩ := occupant_mem inSecond
  have isSame := number_inj oneListed otherListed same
  subst isSame
  exact Option.some.inj (oneBay.symm.trans otherBay)

end Sysfs

/-- Where a node is stored, and what. -/
def BlockNode.place
    (settings : DiscoverySettings)
    (node : BlockNode) : Option (DiskIndex × UInt32) :=
  match node with
  | .disk device =>
      (device.bay? settings).map fun index => (index, device.number)
  | .other _ _ =>
      none

/-- A pass of the loop skips what is no disk. -/
theorem discoverEntry_of_ignored
    (settings : DiscoverySettings)
    (found : Discovery)
    {entry : BlockEntry}
    (ignored : entry.name.head? = some 46 ∨ entry.isPartition = true) :
    discoverEntry settings found entry = found := by
  unfold discoverEntry
  rcases ignored with hidden | partition
  · rw [if_pos hidden]
  · rw [if_pos partition, ite_self]

/-- A pass of the loop fills the bay of its disk. -/
theorem discoverEntry_eq
    (settings : DiscoverySettings)
    (found : Discovery)
    (node : BlockNode) :
    discoverEntry settings found node.entry =
      FirstWins.fill (BlockNode.place settings) found node := by
  cases node with
  | disk device =>
      have read :=
        parseDev_devText device.major.isLt device.minor.isLt none
      simp only [discoverEntry, BlockNode.entry, BlockDevice.entry,
        device.visible, ↓reduceIte, Bool.false_eq_true, read,
        FirstWins.fill, BlockNode.place]
      change (match device.bay? settings with | none => _ | some _ => _) = _
      cases device.bay? settings with
      | none =>
          rfl
      | some index =>
          simp only [Option.map_some]
          cases found index <;> rfl
  | other entry ignored =>
      exact discoverEntry_of_ignored settings found ignored

/-- The scan finds in each bay the disk that is there. -/
theorem discover_eq
    (settings : DiscoverySettings)
    (sysfs : Sysfs) :
    discover settings (.ok sysfs.entries) =
      .ok fun index =>
        (sysfs.occupant settings index).map BlockDevice.number := by
  simp only [discover, Sysfs.entries, List.foldl_map,
    discoverEntry_eq settings]
  congr 1
  funext index
  rw [FirstWins.foldl_fill, Option.none_or, Sysfs.occupant, Sysfs.disks]
  induction sysfs.nodes with
  | nil =>
      rfl
  | cons node rest inductionHypothesis =>
      rw [List.findSome?_cons, inductionHypothesis]
      cases node with
      | disk device =>
          simp only [List.filterMap_cons, BlockNode.device?,
            FirstWins.valueAt, BlockNode.place]
          cases bay : device.bay? settings with
          | none =>
              simp [bay]
          | some other =>
              by_cases same : other = index
              · simp [bay, same]
              · simp [bay, same]
      | other entry ignored =>
          simp [BlockNode.device?, FirstWins.valueAt, BlockNode.place]

end Sysfs

end UgreenLeds
