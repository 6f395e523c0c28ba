import UgreenLeds.Decimals
import UgreenLeds.KernelDriverAttributes
import Mathlib.Data.List.TakeWhile

/-!
# The colour attribute as a register

A register would give back what was last stored.  The colour attribute stores
black as a switch-off that leaves the cached colour alone, elides every other
colour the cache already shows, and never switches an LED back on.  Assuming
the MCU acknowledges what a store transmits, this module computes what the
store leaves behind and derives the exact condition under which the attribute
behaves as a register.
-/

namespace UgreenLeds

namespace KernelDriver

section Text

/-- A natural number is printed as its canonical numeral. -/
theorem decimal_natCast (number : Nat) :
    decimal number = CString.decimal number := by
  have printed : toString (number : Int) = number.repr := by
    cases number <;> rfl
  rw [decimal, printed, ascii, Nat.toList_repr]
  rfl

/-- Digits are read as their value modulo `2 ^ 64`. -/
theorem strntoull_eq
    {digits : List UInt8}
    (allDigits : ∀ byte ∈ digits, CString.isDigit byte = true) :
    strntoull digits = UInt64.ofNat (CString.digitsValue digits) := by
  -- A longer prefix has been read when the induction goes on.
  suffices reads :
      ∀ value : Nat,
        digits.foldl
            (fun value digit => value * 10 + (digit - 48).toUInt64)
            (UInt64.ofNat value) =
          UInt64.ofNat
            (digits.foldl
              (fun value digit => value * 10 + (digit.toNat - 48))
              value) from
    reads 0
  induction digits with
  | nil =>
      exact fun _ => rfl
  | cons first rest inductionHypothesis =>
      intro value
      obtain ⟨isDigit, others⟩ := List.forall_mem_cons.mp allDigits
      have above : 48 ≤ first := by
        simp only [CString.isDigit, Bool.and_eq_true,
          decide_eq_true_eq] at isDigit
        exact isDigit.1
      have digit :
          (first - 48).toUInt64 = UInt64.ofNat (first.toNat - 48) := by
        apply UInt64.toNat_inj.mp
        have small := first.toNat_lt
        rw [UInt8.toNat_toUInt64, UInt8.toNat_sub_of_le _ _ above,
          UInt64.toNat_ofNat']
        change first.toNat - 48 = (first.toNat - 48) % 2 ^ 64
        omega
      rw [List.foldl_cons, List.foldl_cons, digit,
        ← inductionHypothesis others, UInt64.ofNat_add,
        UInt64.ofNat_mul]
      rfl

/-- Nothing in front of a numeral is white space for the driver. -/
theorem skipSpaces_decimal
    (number : Nat)
    (rest : List UInt8) :
    skipSpaces (CString.decimal number ++ rest) =
      CString.decimal number ++ rest := by
  cases digits : CString.decimal number with
  | nil =>
      exact absurd digits (CString.decimal_ne_nil number)
  | cons first others =>
      have member : first ∈ CString.decimal number :=
        digits ▸ List.mem_cons_self
      have digit := CString.isDigit_of_mem_decimal member
      have visible := CString.isSpace_of_isDigit digit
      have noBreak : first ≠ 160 := by
        rintro rfl
        cases digit
      have notSpace : isSpace first = false := by
        simpa [isSpace, CString.isSpace, noBreak] using visible
      simp [skipSpaces, notSpace]

/-- A conversion reads a number back, up to the first byte that is no digit. -/
theorem sscanf_decimal
    (number : Nat)
    {rest : List UInt8}
    (stops : ∀ byte ∈ rest.head?, isDigit byte = false)
    (format : List Directive) :
    sscanf (.unsigned :: format) (CString.decimal number ++ rest) =
      (sscanf format rest).map
        fun scanned => (UInt64.ofNat number :: scanned.1, scanned.2) := by
  have allDigits :
      ∀ byte ∈ CString.decimal number, isDigit byte = true :=
    fun _ member => CString.isDigit_of_mem_decimal member
  obtain ⟨taken, dropped⟩ :=
    CString.takeWhile_append_of_stops allDigits stops
  have read :
      strntoull (CString.decimal number) = UInt64.ofNat number := by
    rw [strntoull_eq allDigits, CString.digitsValue_decimal]
  simp only [sscanf, skipSpaces_decimal, taken, dropped, read,
    CString.decimal_ne_nil, ↓reduceIte]
  cases sscanf format rest <;> rfl

/-- Between two numbers the format skips the blank that is printed there. -/
theorem sscanf_spaces_decimal
    (number : Nat)
    (rest : List UInt8)
    (format : List Directive) :
    sscanf (.spaces :: format) (32 :: (CString.decimal number ++ rest)) =
      sscanf format (CString.decimal number ++ rest) := by
  have skipped :
      skipSpaces (32 :: (CString.decimal number ++ rest)) =
        CString.decimal number ++ rest :=
    skipSpaces_decimal number rest
  rw [sscanf, skipped]

/-- A number is printed without a null byte. -/
theorem ne_zero_of_mem_decimal
    {number : Nat}
    {byte : UInt8}
    (member : byte ∈ decimal number) :
    byte ≠ 0 := by
  rintro rfl
  rw [decimal_natCast] at member
  have digit := CString.isDigit_of_mem_decimal member
  cases digit

/-- A text without null bytes is its own C string. -/
theorem cString_eq_self
    {text : List UInt8}
    (noNull : ∀ byte ∈ text, byte ≠ 0) :
    cString text = text := by
  apply List.takeWhile_eq_self_iff.mpr
  intro byte member
  simpa using noNull byte member

/-- What `color_show` prints contains no null byte. -/
theorem cString_rgbText (rgb : Rgb) :
    cString (rgbText rgb) = rgbText rgb := by
  have blankNotNull : ∀ byte ∈ ascii " ", byte ≠ 0 := by
    simp [ascii]
  have newlineNotNull : ∀ byte ∈ ascii "\n", byte ≠ 0 := by
    simp [ascii]
  apply cString_eq_self
  intro byte member
  simp only [rgbText, List.mem_append] at member
  rcases member with
      ((((red | blank) | green) | blank) | blue) | newline
  · exact ne_zero_of_mem_decimal red
  · exact blankNotNull byte blank
  · exact ne_zero_of_mem_decimal green
  · exact blankNotNull byte blank
  · exact ne_zero_of_mem_decimal blue
  · exact newlineNotNull byte newline

/-- `color_store` reads back the colour `color_show` prints. -/
theorem scanColor_rgbText (rgb : Rgb) :
    scanColor (rgbText rgb) =
      some (rgb, (rgbText rgb).length - 1) := by
  have shape :
      rgbText rgb =
        CString.decimal rgb.r.toNat ++
          (32 :: (CString.decimal rgb.g.toNat ++
            (32 :: (CString.decimal rgb.b.toNat ++ [10])))) := by
    simp [rgbText, ascii, decimal_natCast]
  have scanned :
      sscanf colorFormat (rgbText rgb) =
        some
          ([UInt64.ofNat rgb.r.toNat, UInt64.ofNat rgb.g.toNat,
            UInt64.ofNat rgb.b.toNat], [10]) := by
    rw [shape, colorFormat, sscanf_decimal _ (CString.head_stops rfl _),
      sscanf_spaces_decimal, sscanf_decimal _ (CString.head_stops rfl _),
      sscanf_spaces_decimal, sscanf_decimal _ (CString.head_stops rfl _)]
    rfl
  have readBack :
      ∀ byte : UInt8, (UInt64.ofNat byte.toNat).toUInt8 = byte := by
    intro byte
    simp
  simp only [scanColor, cString_rgbText, scanned, consumed, readBack,
    List.length_singleton]

/-- Different colours are printed differently. -/
theorem rgbText_injective
    {first second : Rgb}
    (same : rgbText first = rgbText second) :
    first = second := by
  have read := scanColor_rgbText first
  rw [same, scanColor_rgbText] at read
  exact (congrArg Prod.fst (Option.some.inj read)).symm

end Text

/-- The MCU's record shows no light. -/
def Dark (device : McuLed) : Prop :=
  device.status = statusOff ∨ device.brightness = 0 ∨
    device.color = black

instance (device : McuLed) : Decidable (Dark device) :=
  inferInstanceAs (Decidable (_ ∨ _ ∨ _))

/--
`brightness_get` reports `LED_OFF` if the cached state is that of a dark LED.
-/
theorem getBrightness_eq_zero_iff (state : LedState) :
    getBrightness state = 0 ↔ Dark state.view := by
  have isBlack :
      state.view.color = black ↔
        state.r = 0 ∧ state.g = 0 ∧ state.b = 0 := by
    simp [LedState.view, black]
  rw [Dark, isBlack, getBrightness]
  split
  · simp [*]
  · split <;> simp_all [LedState.view]

section Store

/-- A text that `color_store` accepts as a colour. -/
def ColorText (buf : List UInt8) (rgb : Rgb) : Prop :=
  ∃ nrchars,
    scanColor buf = some (rgb, nrchars) ∧ ¬ nrchars + 1 < buf.length

/-- What `color_show` prints, `color_store` accepts. -/
theorem colorText_rgbText (rgb : Rgb) :
    ColorText (rgbText rgb) rgb := by
  refine ⟨_, scanColor_rgbText rgb, ?_⟩
  omega

/-- The MCU acknowledges every command that storing a colour transmits. -/
def Acknowledged
    (script : Script)
    (priv : LedArray)
    (led : LedIndex)
    (rgb : Rgb) : Prop :=
  ∀ offset < ((Request.color rgb).commands (priv.state led)).length,
    GoesThrough (script led (priv.bus.served led + offset))
      changeStateRetryCount

/-- What an acknowledged store of a colour leaves in an LED's slice. -/
def Slice.colored
    (slice : Slice)
    (rgb : Rgb) : Slice :=
  if rgb = black then
    if slice.state.status = statusOff then
      slice
    else
      { state := { slice.state with status := statusOff }
        device := { slice.device with status := statusOff }
        served := slice.served + 1 }
  else if slice.state.color = rgb then
    slice
  else
    { state :=
        { slice.state with r := rgb.r, g := rgb.g, b := rgb.b }
      device := { slice.device with color := rgb }
      served := slice.served + 1 }

/-- The commands of a request for black depend on the status alone. -/
theorem Request.commands_black (state : LedState) :
    (Request.color black).commands state =
      if state.status = statusOff then [] else [.onOff false] := by
  rw [commands, if_pos ⟨rfl, rfl, rfl⟩]

/-- An acknowledged command is recorded and executed. -/
theorem Slice.send_of_goesThrough
    {exchanges : Nat → Exchange}
    {slice : Slice}
    (goesThrough :
      GoesThrough (exchanges slice.served) changeStateRetryCount)
    (command : Command) :
    slice.send exchanges command =
      { state := slice.state.record command
        device := command.execute slice.device
        served := slice.served + 1 } := by
  have acknowledged :=
    (acknowledges_iff exchanges slice.served).mpr goesThrough
  have executed := executes_of_acknowledges exchanges acknowledged
  rw [send, if_pos acknowledged, if_pos executed]

variable
  {script : Script}
  {priv : LedArray}
  {led : LedIndex}
  {buf : List UInt8}
  {rgb : Rgb}

/-- An acknowledged store has exactly the effect of `Slice.colored`. -/
theorem colorStore_slice
    (accepted : ColorText buf rgb)
    (acknowledged : Acknowledged script priv led rgb) :
    (colorStore script priv led buf).2.slice led =
      (priv.slice led).colored rgb := by
  obtain ⟨nrchars, scanned, fits⟩ := accepted
  simp only [colorStore, scanned, fits, ↓reduceIte, setColor_slice,
    Slice.perform, Slice.colored]
  by_cases isBlack : rgb = black
  · subst isBlack
    simp only [Acknowledged, Request.commands_black] at acknowledged
    rw [if_pos rfl, Request.commands_black]
    by_cases off : (priv.slice led).state.status = statusOff
    · rw [if_pos off, if_pos off]
      rfl
    · have goesThrough :=
        acknowledged 0 (by
          rw [if_neg (show ¬ (priv.state led).status = statusOff
            from off)]
          exact Nat.zero_lt_one)
      rw [if_neg off, if_neg off, List.foldl_cons,
        Slice.send_of_goesThrough goesThrough]
      rfl
  · simp only [Acknowledged, Request.commands_color isBlack]
      at acknowledged
    rw [if_neg isBlack, Request.commands_color isBlack]
    by_cases shown : (priv.slice led).state.color = rgb
    · rw [if_pos shown, if_pos shown]
      rfl
    · have goesThrough :=
        acknowledged 0 (by
          rw [if_neg (show ¬ (priv.state led).color = rgb from shown)]
          exact Nat.zero_lt_one)
      rw [if_neg shown, if_neg shown, List.foldl_cons,
        Slice.send_of_goesThrough goesThrough]
      rfl

/-- Under a script that answers everything, every store is acknowledged. -/
theorem acknowledged_accepted
    (priv : LedArray)
    (led : LedIndex)
    (rgb : Rgb) :
    Acknowledged (fun _ _ _ => .accepted) priv led rgb :=
  fun _ _ => ⟨0, by decide, rfl, rfl⟩

end Store

section Faithful

/--
Storing a colour behaves like writing a register, whenever the MCU
acknowledges the commands: the colour is shown afterwards, the LED is dark if it
is black and carries it otherwise, and a store of black in front changes neither.
-/
structure FaithfulStore
    (priv : LedArray)
    (led : LedIndex)
    (buf : List UInt8)
    (rgb : Rgb) : Prop where
  shows :
    ∀ script,
      Acknowledged script priv led rgb →
      colorShow ((colorStore script priv led buf).2.state led) =
        rgbText rgb
  lights :
    ∀ script,
      Acknowledged script priv led rgb →
      let device := (colorStore script priv led buf).2.bus.mcu led
      if rgb = black then Dark device else device.color = rgb
  afterBlack :
    ∀ script blackBuf,
      ColorText blackBuf black →
      Acknowledged script priv led black →
      let blackened := (colorStore script priv led blackBuf).2
      Acknowledged script blackened led rgb →
      Acknowledged script priv led rgb →
      let after := (colorStore script blackened led buf).2
      let direct := (colorStore script priv led buf).2
      colorShow (after.state led) = rgbText rgb ∧
        (Dark (after.bus.mcu led) ↔ Dark (direct.bus.mcu led))

/--
The cached state lets a store of a colour behave like writing a register.  For
black the cached colour is already black and an LED cached as off is dark; for
any other colour, a cached colour is the one the LED carries and the LED is off
anyway.
-/
def TracksColor
    (slice : Slice)
    (rgb : Rgb) : Prop :=
  if rgb = black then
    slice.state.color = black ∧
      (slice.state.status = statusOff → Dark slice.device)
  else
    (slice.state.color = rgb → slice.device.color = rgb) ∧
      (slice.state.status = statusOff ∨
        slice.device.status = statusOff ∨
        slice.device.brightness = 0)

/-- `color_show` prints a colour exactly if it is the cached one. -/
theorem colorShow_eq_iff
    {state : LedState}
    {rgb : Rgb} :
    colorShow state = rgbText rgb ↔ state.color = rgb := by
  constructor
  · exact rgbText_injective
  · rintro rfl
    rfl

variable
  {slice : Slice}
  {rgb : Rgb}

/-- A store of black leaves the cached colour as it was. -/
theorem Slice.colored_black_color :
    (slice.colored black).state.color = slice.state.color := by
  rw [colored, if_pos rfl]
  split <;> rfl

/-- A store of black darkens the LED unless it is cached as off. -/
theorem Slice.dark_colored_black :
    Dark (slice.colored black).device ↔
      (slice.state.status = statusOff → Dark slice.device) := by
  rw [colored, if_pos rfl]
  split
  · rename_i off
    simp [off]
  · rename_i lit
    simp [lit, Dark]

/-- A second store of black changes nothing. -/
theorem Slice.colored_black_black :
    (slice.colored black).colored black = slice.colored black := by
  by_cases off : slice.state.status = statusOff
  · simp [colored, off]
  · simp [colored, off]

/-- A store of another colour is always shown. -/
theorem Slice.colored_color
    (notBlack : rgb ≠ black) :
    (slice.colored rgb).state.color = rgb := by
  rw [colored, if_neg notBlack]
  split
  · assumption
  · rfl

/-- The LED carries the colour unless the store was elided wrongly. -/
theorem Slice.colored_device_color
    (notBlack : rgb ≠ black) :
    (slice.colored rgb).device.color = rgb ↔
      (slice.state.color = rgb → slice.device.color = rgb) := by
  rw [colored, if_neg notBlack]
  split
  · rename_i shown
    simp [shown]
  · rename_i changes
    simp [changes]

/-- A store of another colour neither switches nor dims the LED. -/
theorem Slice.colored_device_frame
    (notBlack : rgb ≠ black) :
    (slice.colored rgb).device.status = slice.device.status ∧
      (slice.colored rgb).device.brightness =
        slice.device.brightness := by
  rw [colored, if_neg notBlack]
  split <;> exact ⟨rfl, rfl⟩

/-- An LED that carries another colour is dark if it is off or dimmed out. -/
theorem Slice.dark_colored
    (notBlack : rgb ≠ black)
    (carried : (slice.colored rgb).device.color = rgb) :
    Dark (slice.colored rgb).device ↔
      slice.device.status = statusOff ∨
        slice.device.brightness = 0 := by
  obtain ⟨sameStatus, sameBrightness⟩ :=
    slice.colored_device_frame notBlack
  simp [Dark, sameStatus, sameBrightness, carried, notBlack]

/-- The LED carries the colour no matter whether black was stored before. -/
theorem Slice.colored_after_black_color
    (notBlack : rgb ≠ black) :
    ((slice.colored black).colored rgb).device.color = rgb ↔
      (slice.colored rgb).device.color = rgb := by
  rw [colored_device_color notBlack, colored_device_color notBlack,
    colored_black_color]
  have sameColor :
      (slice.colored black).device.color = slice.device.color := by
    rw [colored, if_pos rfl]
    split <;> rfl
  rw [sameColor]

/-- A store of black in front of another colour leaves the LED off. -/
theorem Slice.dark_after_black
    (notBlack : rgb ≠ black)
    (carried : (slice.colored rgb).device.color = rgb) :
    (Dark ((slice.colored black).colored rgb).device ↔
        Dark (slice.colored rgb).device) ↔
      slice.state.status = statusOff ∨
        slice.device.status = statusOff ∨
        slice.device.brightness = 0 := by
  have carriedAfter :=
    (slice.colored_after_black_color notBlack).mpr carried
  rw [dark_colored notBlack carriedAfter, dark_colored notBlack carried]
  by_cases off : slice.state.status = statusOff
  · simp [colored, off]
  · have switched :
        (slice.colored black).device.status = statusOff := by
      simp [colored, off]
    simp [switched, off]

/-- The slice-level meaning of `FaithfulStore`. -/
structure Slice.Faithful
    (slice : Slice)
    (rgb : Rgb) : Prop where
  shows : (slice.colored rgb).state.color = rgb
  lights :
    if rgb = black then
      Dark (slice.colored rgb).device
    else
      (slice.colored rgb).device.color = rgb
  afterBlack :
    ((slice.colored black).colored rgb).state.color = rgb ∧
      (Dark ((slice.colored black).colored rgb).device ↔
        Dark (slice.colored rgb).device)

/-- Whether stores are faithful can be read off the slice alone. -/
theorem faithfulStore_iff_slice
    {priv : LedArray}
    {led : LedIndex}
    {buf : List UInt8}
    (accepted : ColorText buf rgb) :
    FaithfulStore priv led buf rgb ↔ (priv.slice led).Faithful rgb := by
  constructor
  · intro faithful
    have everAcknowledged :=
      fun priv rgb => acknowledged_accepted priv led rgb
    have direct := colorStore_slice accepted (everAcknowledged priv rgb)
    have first :=
      colorStore_slice (colorText_rgbText black)
        (everAcknowledged priv black)
    have second :=
      colorStore_slice accepted
        (everAcknowledged
          (colorStore (fun _ _ _ => .accepted) priv led
            (rgbText black)).2 rgb)
    have shown := faithful.shows _ (everAcknowledged priv rgb)
    have lit := faithful.lights _ (everAcknowledged priv rgb)
    have later :=
      faithful.afterBlack _ (rgbText black) (colorText_rgbText black)
        (everAcknowledged priv black) (everAcknowledged _ rgb)
        (everAcknowledged priv rgb)
    rw [first] at second
    refine ⟨?_, ?_, ?_⟩
    · rw [← direct]
      exact colorShow_eq_iff.mp shown
    · rw [← direct]
      exact lit
    · rw [← direct, ← second]
      exact ⟨colorShow_eq_iff.mp later.1, later.2⟩
  · intro faithful
    refine ⟨?_, ?_, ?_⟩
    · intro script acknowledged
      have shown := faithful.shows
      rw [← colorStore_slice accepted acknowledged] at shown
      exact colorShow_eq_iff.mpr shown
    · intro script acknowledged
      have lit := faithful.lights
      rw [← colorStore_slice accepted acknowledged] at lit
      exact lit
    · intro script blackBuf blackAccepted acknowledgedBlack blackened
        acknowledgedAfter acknowledged after direct
      have later := faithful.afterBlack
      rw [← colorStore_slice blackAccepted acknowledgedBlack,
        ← colorStore_slice accepted acknowledgedAfter,
        ← colorStore_slice accepted acknowledged] at later
      exact ⟨colorShow_eq_iff.mpr later.1, later.2⟩

/-- A store of black is a register write under its own condition. -/
theorem Slice.faithful_black_iff :
    slice.Faithful black ↔ TracksColor slice black := by
  rw [TracksColor, if_pos rfl]
  constructor
  · rintro ⟨shows, lights, -⟩
    rw [if_pos rfl] at lights
    exact
      ⟨colored_black_color.symm.trans shows,
        dark_colored_black.mp lights⟩
  · rintro ⟨cached, dark⟩
    have shows : (slice.colored black).state.color = black :=
      colored_black_color.trans cached
    refine ⟨shows, ?_, ?_⟩
    · rw [if_pos rfl]
      exact dark_colored_black.mpr dark
    · rw [colored_black_black]
      exact ⟨shows, Iff.rfl⟩

/-- A store of another colour is a register write under its condition. -/
theorem Slice.faithful_color_iff
    (notBlack : rgb ≠ black) :
    slice.Faithful rgb ↔ TracksColor slice rgb := by
  rw [TracksColor, if_neg notBlack]
  constructor
  · rintro ⟨-, lights, -, same⟩
    rw [if_neg notBlack] at lights
    exact
      ⟨(colored_device_color notBlack).mp lights,
        (dark_after_black notBlack lights).mp same⟩
  · rintro ⟨follows, isOff⟩
    have carried := (colored_device_color notBlack).mpr follows
    refine ⟨colored_color notBlack, ?_, colored_color notBlack, ?_⟩
    · rw [if_neg notBlack]
      exact carried
    · exact (dark_after_black notBlack carried).mpr isOff

/-- Storing a colour is a register write exactly under `TracksColor`. -/
theorem faithfulStore_iff
    {priv : LedArray}
    {led : LedIndex}
    {buf : List UInt8}
    (accepted : ColorText buf rgb) :
    FaithfulStore priv led buf rgb ↔
      TracksColor (priv.slice led) rgb := by
  rw [faithfulStore_iff_slice accepted]
  by_cases isBlack : rgb = black
  · subst isBlack
    exact Slice.faithful_black_iff
  · exact Slice.faithful_color_iff isBlack

end Faithful

/--
In every state of every run, and for every registered LED and every text that
is accepted as a colour, storing it behaves like writing a register exactly if
the state tracks that colour.
-/
theorem colorStore_register_iff
    (script : Script)
    (replies : LedIndex → Nat → Except Errno (List UInt8))
    (mcu : LedIndex → McuLed)
    (calls : List Call) :
    PartialRun.Always
      (step script (registered (probe script replies mcu)))
      (fun priv =>
        ∀ led,
          registered (probe script replies mcu) led = true →
          ∀ buf rgb,
            ColorText buf rgb →
            (FaithfulStore priv led buf rgb ↔
              TracksColor (priv.slice led) rgb))
      (probe script replies mcu) calls :=
  PartialRun.always_of_forall
    (fun _ _ _ _ _ accepted => faithfulStore_iff accepted) _ _

/-- Black stored in the freshly probed driver is shown as white. -/
theorem black_shown_as_white :
    ¬ ∀ (script : Script)
        (replies : LedIndex → Nat → Except Errno (List UInt8))
        (mcu : LedIndex → McuLed)
        (calls : List Call),
      PartialRun.Always
        (step script (registered (probe script replies mcu)))
        (fun priv =>
          ∀ led,
            registered (probe script replies mcu) led = true →
            ∀ buf rgb,
              ColorText buf rgb →
              FaithfulStore priv led buf rgb)
        (probe script replies mcu) calls := by
  intro claim
  have visited :=
    claim (fun _ _ _ => .accepted) steadyReplies steadyMcu []
  have shown :=
    (visited ⟨0, by decide⟩ rfl (rgbText black) black
      (colorText_rgbText black)).shows (fun _ _ _ => .accepted)
      (acknowledged_accepted _ _ _)
  rw [colorShow_eq_iff] at shown
  exact absurd shown (by decide)

end KernelDriver

end UgreenLeds
