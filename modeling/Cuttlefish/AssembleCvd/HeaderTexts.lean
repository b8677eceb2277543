import Cuttlefish.AssembleCvd.PagedParts
import Cuttlefish.Foundation.LittleEndian

/-! # Texts in the headers of boot images

`KernelCommandLine` and `Name` of `boot_image.cc` and `vendor_boot_image.cc` read arrays of a
header as C strings. Here the headers are memory, so that a string without a null byte goes on
behind its array. -/

namespace Cuttlefish.AssembleCvd.HeaderTexts

open Io LittleEndian

structure Field where
  start : Nat
  size : Nat

namespace Field

variable (field : Field) (memory : Bytes)

def bytes : Bytes := memory.readAt field.start field.size

/-- The array up to its first null byte or its full width. -/
def text : Bytes := (field.bytes memory).takeWhile (· ≠ 0)

def read : Result Bytes := cString (memory.drop field.start)

/-- A null byte is in the array or right behind it. -/
def Terminated : Prop :=
  0 ∈ field.bytes memory ∨ memory[field.start + field.size]? = some 0

instance : Decidable (field.Terminated memory) := inferInstanceAs (Decidable (_ ∨ _))

end Field

/-! ## Boot images -/

/-- Where `bootimg.h` has the fields of boot image headers. -/
structure BootimgLayout where
  bootMagic : Bytes
  magic : Field
  headerVersion : Nat
  sizeof : Nat → Nat
  cmdlineV0 : Field
  extraCmdlineV0 : Field
  cmdlineV3 : Field

structure BootimgLayout.Laws (layout : BootimgLayout) : Prop where
  v2_largest : ∀ version ≤ 4, layout.sizeof version ≤ layout.sizeof 2
  cmdlineV0 : ∀ version ≤ 2,
    layout.cmdlineV0.start + layout.cmdlineV0.size ≤ layout.sizeof version
  extraCmdlineV0 : ∀ version ≤ 2,
    layout.extraCmdlineV0.start + layout.extraCmdlineV0.size ≤ layout.sizeof version
  cmdlineV3 : ∀ version, 3 ≤ version → version ≤ 4 →
    layout.cmdlineV3.start + layout.cmdlineV3.size ≤ layout.sizeof version

/-- A variant with a header of the version. -/
structure BootHeader where
  version : Nat
  header : Bytes
  behind : Bytes

namespace BootHeader

def read (layout : BootimgLayout) (behind : Bytes) (reader : OpenReader) : Result BootHeader := do
  let v2 ← pReadExact (OpenReader.reader.pread reader) (layout.sizeof 2) 0
  cfExpect (layout.magic.bytes v2 = layout.bootMagic) "memcmp(v2.magic, BOOT_MAGIC)"
  let version := (wordAt v2 layout.headerVersion).toNat
  cfExpect (version ≤ 4) "Unknown header version"
  return ⟨version, v2.take (layout.sizeof version), behind⟩

variable (layout : BootimgLayout) (boot : BootHeader)

def memory : Bytes := boot.header ++ boot.behind

def kernelCommandLine : Result Bytes :=
  if boot.version ≤ 2 then do
    let cmdline ← layout.cmdlineV0.read boot.memory
    let extraCmdline ← layout.extraCmdlineV0.read boot.memory
    return cmdline ++ extraCmdline
  else layout.cmdlineV3.read boot.memory

def commandLineText : Bytes :=
  if boot.version ≤ 2 then
    layout.cmdlineV0.text boot.header ++ layout.extraCmdlineV0.text boot.header
  else layout.cmdlineV3.text boot.header

def CommandLineTerminated : Prop :=
  if boot.version ≤ 2 then
    layout.cmdlineV0.Terminated boot.memory ∧ layout.extraCmdlineV0.Terminated boot.memory
  else layout.cmdlineV3.Terminated boot.memory

instance : Decidable (boot.CommandLineTerminated layout) :=
  inferInstanceAs (Decidable (if boot.version ≤ 2 then
      layout.cmdlineV0.Terminated boot.memory ∧ layout.extraCmdlineV0.Terminated boot.memory
    else layout.cmdlineV3.Terminated boot.memory))

end BootHeader

/-! ## Vendor boot images -/

structure VendorBootimgLayout where
  vendorBootMagic : Bytes
  magic : Field
  headerVersion : Nat
  sizeof : Nat → Nat
  cmdline : Field
  name : Field

structure VendorBootimgLayout.Laws (layout : VendorBootimgLayout) : Prop where
  v4_largest : ∀ version, 3 ≤ version → version ≤ 4 → layout.sizeof version ≤ layout.sizeof 4
  cmdline : ∀ version, 3 ≤ version → version ≤ 4 →
    layout.cmdline.start + layout.cmdline.size ≤ layout.sizeof version
  name : ∀ version, 3 ≤ version → version ≤ 4 →
    layout.name.start + layout.name.size ≤ layout.sizeof version

structure VendorBootHeader where
  version : Nat
  header : Bytes
  behind : Bytes

namespace VendorBootHeader

def read (layout : VendorBootimgLayout) (behind : Bytes) (reader : OpenReader) :
    Result VendorBootHeader := do
  let v4 ← pReadExact (OpenReader.reader.pread reader) (layout.sizeof 4) 0
  cfExpect (layout.magic.bytes v4 = layout.vendorBootMagic) "memcmp(v4.magic, VENDOR_BOOT_MAGIC)"
  let version := (wordAt v4 layout.headerVersion).toNat
  cfExpect (version = 3 || version = 4) "Unknown header version"
  return ⟨version, v4.take (layout.sizeof version), behind⟩

variable (layout : VendorBootimgLayout) (vendorBoot : VendorBootHeader)

def memory : Bytes := vendorBoot.header ++ vendorBoot.behind

def kernelCommandLine : Result Bytes := layout.cmdline.read vendorBoot.memory

def name : Result Bytes := layout.name.read vendorBoot.memory

end VendorBootHeader

/-! ## Texts that end -/

theorem readAt_of_inside {header behind : Bytes} {field : Field}
    (inside : field.start + field.size ≤ header.length) :
    field.bytes (header ++ behind) = field.bytes header := by
  rw [Field.bytes, Field.bytes, Bytes.readAt, Bytes.readAt,
    List.drop_append_of_le_length (by omega), List.take_append_of_le_length]
  rw [List.length_drop]
  omega

theorem takeWhile_append_of_mem {front rest : Bytes} (null : 0 ∈ front) :
    (front ++ rest).takeWhile (· ≠ 0) = front.takeWhile (· ≠ 0) := by
  induction front with
  | nil => cases null
  | cons byte front induction =>
      by_cases isNull : byte = 0
      · simp [isNull]
      · have later : 0 ∈ front := (List.mem_cons.mp null).resolve_left (Ne.symm isNull)
        rw [List.cons_append, List.takeWhile_cons_of_pos (by simpa using isNull),
          List.takeWhile_cons_of_pos (by simpa using isNull), induction later]

theorem takeWhile_of_notMem {bytes : Bytes} (noNull : 0 ∉ bytes) :
    bytes.takeWhile (· ≠ 0) = bytes :=
  List.takeWhile_eq_self_iff.mpr fun _ isByte =>
    decide_eq_true fun null => noNull (null ▸ isByte)

theorem Field.read_cases (field : Field) (memory : Bytes) :
    (∃ more, field.read memory = .ok (field.text memory ++ more) ∧
        (more = [] ↔ field.Terminated memory)) ∨
      (∃ message, field.read memory = .error (.abort message)) ∧ ¬ field.Terminated memory := by
  have whole : memory.drop field.start =
      field.bytes memory ++ memory.drop (field.start + field.size) := by
    rw [Field.bytes, Bytes.readAt, ← List.drop_drop, List.take_append_drop]
  have right : memory[field.start + field.size]? =
      (memory.drop (field.start + field.size)).head? := by
    rw [List.head?_drop]
  rw [Field.read, Field.Terminated, Field.text, whole, right, cString]
  generalize field.bytes memory = bytes
  generalize memory.drop (field.start + field.size) = rest
  by_cases inside : 0 ∈ bytes
  · refine .inl ⟨[], ?_, iff_of_true rfl (.inl inside)⟩
    rw [if_pos (List.mem_append_left _ inside), takeWhile_append_of_mem inside, List.append_nil]
  · rw [takeWhile_of_notMem inside]
    by_cases behind : 0 ∈ rest
    · refine .inl ⟨rest.takeWhile (· ≠ 0), ?_, ?_⟩
      · rw [if_pos (List.mem_append_right _ behind), List.takeWhile_append_of_pos]
        exact fun byte isByte => decide_eq_true fun null => inside (null ▸ isByte)
      · cases rest with
        | nil => cases behind
        | cons byte rest =>
            rw [or_iff_right inside, List.head?_cons]
            by_cases isNull : byte = 0
            · simp [isNull]
            · simp [isNull]
    · refine .inr ⟨⟨_, if_neg (by simp [inside, behind])⟩, ?_⟩
      rintro (isInside | isRight)
      · exact inside isInside
      · exact behind (List.mem_of_mem_head? isRight)

theorem Field.read_eq_iff (field : Field) (memory : Bytes) :
    field.read memory = .ok (field.text memory) ↔ field.Terminated memory := by
  rcases field.read_cases memory with ⟨more, isRead, isMore⟩ | ⟨⟨message, isRead⟩, notTerminated⟩
  · rw [isRead, ← isMore, Except.ok.injEq, List.append_right_eq_self]
  · rw [isRead]
    exact iff_of_false (fun same => by cases same) notTerminated

theorem Field.read_both_iff (first second : Field) (memory : Bytes) :
    (do
        let front ← first.read memory
        let back ← second.read memory
        return front ++ back) = .ok (first.text memory ++ second.text memory) ↔
      first.Terminated memory ∧ second.Terminated memory := by
  rcases first.read_cases memory with ⟨more, isFirst, isMore⟩ | ⟨⟨message, isFirst⟩, notFirst⟩
  · rcases second.read_cases memory with ⟨rest, isSecond, isRest⟩ | ⟨⟨message, isSecond⟩, notSecond⟩
    · rw [isFirst, isSecond, ← isMore, ← isRest]
      change Except.ok (first.text memory ++ more ++ (second.text memory ++ rest)) = _ ↔ _
      rw [Except.ok.injEq]
      constructor
      · intro same
        have lengths := congrArg List.length same
        simp only [List.length_append] at lengths
        constructor
        · exact List.eq_nil_of_length_eq_zero (by omega)
        · exact List.eq_nil_of_length_eq_zero (by omega)
      · rintro ⟨rfl, rfl⟩
        rw [List.append_nil, List.append_nil]
    · rw [isFirst, isSecond]
      exact iff_of_false (fun same => by cases same) fun both => notSecond both.2
  · rw [isFirst]
    exact iff_of_false (fun same => by cases same) fun both => notFirst both.1

/-! ## Headers that were read -/

theorem length_pReadExact {pread : PRead} {size offset : Nat} {bytes : Bytes}
    (isRead : pReadExact pread size offset = .ok bytes) : size ≤ bytes.length := by
  induction size using Nat.strongRecOn generalizing offset bytes with
  | ind size induction =>
      rw [pReadExact] at isRead
      split at isRead
      next none_ => omega
      next =>
        split at isRead
        · cases isRead
        · split at isRead
          · cases isRead
          next some_ =>
            split at isRead
            · cases isRead
            next rest isRest =>
              cases isRead
              have positive := List.length_pos_iff.mpr some_
              have restLength := induction _ (by omega) isRest
              rw [List.length_append]
              omega

theorem BootHeader.length_header {layout : BootimgLayout} (laws : layout.Laws) {behind : Bytes}
    {reader : OpenReader} {boot : BootHeader} (isRead : read layout behind reader = .ok boot) :
    boot.version ≤ 4 ∧ boot.header.length = layout.sizeof boot.version := by
  rcases Result.bind_eq_ok.mp isRead with ⟨v2, isV2, isRead⟩
  rcases Result.bind_eq_ok.mp isRead with ⟨_, -, isRead⟩
  rcases Result.bind_eq_ok.mp isRead with ⟨_, isVersion, isRead⟩
  cases isRead
  have known : (wordAt v2 layout.headerVersion).toNat ≤ 4 := by
    simpa [cfExpect_eq_ok] using isVersion
  refine ⟨known, ?_⟩
  have long := Nat.le_trans (laws.v2_largest _ known) (length_pReadExact isV2)
  rw [List.length_take, Nat.min_eq_left long]

theorem VendorBootHeader.length_header {layout : VendorBootimgLayout} (laws : layout.Laws)
    {behind : Bytes} {reader : OpenReader} {vendorBoot : VendorBootHeader}
    (isRead : read layout behind reader = .ok vendorBoot) :
    3 ≤ vendorBoot.version ∧ vendorBoot.version ≤ 4 ∧
      vendorBoot.header.length = layout.sizeof vendorBoot.version := by
  rcases Result.bind_eq_ok.mp isRead with ⟨v4, isV4, isRead⟩
  rcases Result.bind_eq_ok.mp isRead with ⟨_, -, isRead⟩
  rcases Result.bind_eq_ok.mp isRead with ⟨_, isVersion, isRead⟩
  cases isRead
  have known : (wordAt v4 layout.headerVersion).toNat = 3 ∨
      (wordAt v4 layout.headerVersion).toNat = 4 := by
    simpa [cfExpect_eq_ok] using isVersion
  have atLeast : 3 ≤ (wordAt v4 layout.headerVersion).toNat := by omega
  have atMost : (wordAt v4 layout.headerVersion).toNat ≤ 4 := by omega
  refine ⟨atLeast, atMost, ?_⟩
  have long := Nat.le_trans (laws.v4_largest _ atLeast atMost) (length_pReadExact isV4)
  rw [List.length_take, Nat.min_eq_left long]

theorem Field.text_memory {header behind : Bytes} {field : Field}
    (inside : field.start + field.size ≤ header.length) :
    field.text (header ++ behind) = field.text header := by
  rw [Field.text, Field.text, readAt_of_inside inside]

theorem BootHeader.kernelCommandLine_iff {layout : BootimgLayout} (laws : layout.Laws)
    {behind : Bytes} {reader : OpenReader} {boot : BootHeader}
    (isRead : read layout behind reader = .ok boot) :
    boot.kernelCommandLine layout = .ok (boot.commandLineText layout) ↔
      boot.CommandLineTerminated layout := by
  rcases length_header laws isRead with ⟨known, isLength⟩
  rw [kernelCommandLine, commandLineText, CommandLineTerminated]
  by_cases old : boot.version ≤ 2
  · have cmdline := laws.cmdlineV0 boot.version old
    have extraCmdline := laws.extraCmdlineV0 boot.version old
    rw [← isLength] at cmdline extraCmdline
    have sameCmdline : layout.cmdlineV0.text boot.memory = layout.cmdlineV0.text boot.header :=
      Field.text_memory cmdline
    have sameExtra : layout.extraCmdlineV0.text boot.memory =
        layout.extraCmdlineV0.text boot.header := Field.text_memory extraCmdline
    rw [if_pos old, if_pos old, if_pos old, ← sameCmdline, ← sameExtra]
    exact Field.read_both_iff _ _ _
  · have cmdline := laws.cmdlineV3 boot.version (Nat.lt_of_not_le old) known
    rw [← isLength] at cmdline
    have sameCmdline : layout.cmdlineV3.text boot.memory = layout.cmdlineV3.text boot.header :=
      Field.text_memory cmdline
    rw [if_neg old, if_neg old, if_neg old, ← sameCmdline]
    exact Field.read_eq_iff _ _

theorem VendorBootHeader.texts_iff {layout : VendorBootimgLayout} (laws : layout.Laws)
    {behind : Bytes} {reader : OpenReader} {vendorBoot : VendorBootHeader}
    (isRead : read layout behind reader = .ok vendorBoot) :
    (vendorBoot.kernelCommandLine layout = .ok (layout.cmdline.text vendorBoot.header) ∧
        vendorBoot.name layout = .ok (layout.name.text vendorBoot.header)) ↔
      layout.cmdline.Terminated vendorBoot.memory ∧ layout.name.Terminated vendorBoot.memory := by
  rcases length_header laws isRead with ⟨atLeast, atMost, isLength⟩
  have cmdline := laws.cmdline vendorBoot.version atLeast atMost
  have name := laws.name vendorBoot.version atLeast atMost
  rw [← isLength] at cmdline name
  have sameCmdline : layout.cmdline.text vendorBoot.memory =
      layout.cmdline.text vendorBoot.header := Field.text_memory cmdline
  have sameName : layout.name.text vendorBoot.memory = layout.name.text vendorBoot.header :=
    Field.text_memory name
  rw [← sameCmdline, ← sameName]
  exact and_congr (Field.read_eq_iff _ _) (Field.read_eq_iff _ _)

/-- The texts of accepted headers are what their arrays hold exactly if they end in the arrays or
right behind them. -/
theorem header_texts_iff {bootLayout : BootimgLayout} (bootLaws : bootLayout.Laws)
    {vendorLayout : VendorBootimgLayout} (vendorLaws : vendorLayout.Laws) {behind : Bytes}
    {bootReader vendorReader : OpenReader} {boot : BootHeader} {vendorBoot : VendorBootHeader}
    (isBoot : BootHeader.read bootLayout behind bootReader = .ok boot)
    (isVendorBoot : VendorBootHeader.read vendorLayout behind vendorReader = .ok vendorBoot) :
    (boot.kernelCommandLine bootLayout = .ok (boot.commandLineText bootLayout) ↔
        boot.CommandLineTerminated bootLayout) ∧
      ((vendorBoot.kernelCommandLine vendorLayout =
            .ok (vendorLayout.cmdline.text vendorBoot.header) ∧
          vendorBoot.name vendorLayout = .ok (vendorLayout.name.text vendorBoot.header)) ↔
        vendorLayout.cmdline.Terminated vendorBoot.memory ∧
          vendorLayout.name.Terminated vendorBoot.memory) :=
  ⟨BootHeader.kernelCommandLine_iff bootLaws isBoot,
    VendorBootHeader.texts_iff vendorLaws isVendorBoot⟩

/-! ## The layouts of `bootimg.h` -/

def bootimgLayout : BootimgLayout where
  bootMagic := "ANDROID!".toUTF8.data.toList
  magic := ⟨0, 8⟩
  headerVersion := 40
  sizeof
    | 0 => 1632
    | 1 => 1648
    | 2 => 1660
    | 3 => 1580
    | _ => 1584
  cmdlineV0 := ⟨64, 512⟩
  extraCmdlineV0 := ⟨608, 1024⟩
  cmdlineV3 := ⟨44, 1536⟩

theorem bootimgLayout_laws : bootimgLayout.Laws where
  v2_largest := by decide
  cmdlineV0 := by decide
  extraCmdlineV0 := by decide
  cmdlineV3 version atLeast atMost := by
    obtain rfl | rfl : version = 3 ∨ version = 4 := by omega
    · decide
    · decide

def vendorBootimgLayout : VendorBootimgLayout where
  vendorBootMagic := "VNDRBOOT".toUTF8.data.toList
  magic := ⟨0, 8⟩
  headerVersion := 8
  sizeof version := if version = 3 then 2112 else 2128
  cmdline := ⟨28, 2048⟩
  name := ⟨2080, 16⟩

theorem vendorBootimgLayout_laws : vendorBootimgLayout.Laws where
  v4_largest version atLeast atMost := by
    obtain rfl | rfl : version = 3 ∨ version = 4 := by omega
    · decide
    · decide
  cmdline version atLeast atMost := by
    obtain rfl | rfl : version = 3 ∨ version = 4 := by omega
    · decide
    · decide
  name version atLeast atMost := by
    obtain rfl | rfl : version = 3 ∨ version = 4 := by omega
    · decide
    · decide

theorem BootHeader.read_ofData (layout : BootimgLayout) (behind content : Bytes)
    (long : layout.sizeof 2 ≤ content.length)
    (isMagic : layout.magic.bytes (content.readAt 0 (layout.sizeof 2)) = layout.bootMagic)
    (known : (wordAt (content.readAt 0 (layout.sizeof 2)) layout.headerVersion).toNat ≤ 4) :
    read layout behind (.inMemory (.ofData content)) =
      .ok ⟨(wordAt (content.readAt 0 (layout.sizeof 2)) layout.headerVersion).toNat,
        (content.readAt 0 (layout.sizeof 2)).take
          (layout.sizeof (wordAt (content.readAt 0 (layout.sizeof 2)) layout.headerVersion).toNat),
        behind⟩ := by
  have inside : 0 + layout.sizeof 2 ≤ content.length := by rwa [Nat.zero_add]
  rw [read, pReadExact_eq (OpenReader.preads (contains_data content)) inside]
  simp only [bind, Except.bind, isMagic, known, decide_true, cfExpect_true]
  rfl

theorem VendorBootHeader.read_ofData (layout : VendorBootimgLayout) (behind content : Bytes)
    (long : layout.sizeof 4 ≤ content.length)
    (isMagic : layout.magic.bytes (content.readAt 0 (layout.sizeof 4)) = layout.vendorBootMagic)
    (known : (wordAt (content.readAt 0 (layout.sizeof 4)) layout.headerVersion).toNat = 4) :
    read layout behind (.inMemory (.ofData content)) =
      .ok ⟨4, (content.readAt 0 (layout.sizeof 4)).take (layout.sizeof 4), behind⟩ := by
  have inside : 0 + layout.sizeof 4 ≤ content.length := by rwa [Nat.zero_add]
  rw [read, pReadExact_eq (OpenReader.preads (contains_data content)) inside]
  simp only [bind, Except.bind, isMagic, known, decide_true, cfExpect_true, Bool.or_true]
  rfl

def bootSample : Bytes :=
  bootimgLayout.bootMagic ++ Bytes.zeros 32 ++ encode 4 4 ++ [97] ++ Bytes.zeros 1615

def vendorBootSample : Bytes :=
  vendorBootimgLayout.vendorBootMagic ++ encode 4 4 ++ Bytes.zeros 2068 ++ List.replicate 16 98 ++
    Bytes.zeros 32

theorem header_texts_sample :
    ∃ boot vendorBoot,
      BootHeader.read bootimgLayout [] (.inMemory (.ofData bootSample)) = .ok boot ∧
      VendorBootHeader.read vendorBootimgLayout [] (.inMemory (.ofData vendorBootSample)) =
        .ok vendorBoot ∧
      boot.kernelCommandLine bootimgLayout = .ok (boot.commandLineText bootimgLayout) ∧
      vendorBoot.name vendorBootimgLayout =
        .ok (vendorBootimgLayout.name.text vendorBoot.header) := by
  have isBoot := BootHeader.read_ofData bootimgLayout [] bootSample (by decide +kernel)
    (by decide +kernel) (by decide +kernel)
  have isVendorBoot := VendorBootHeader.read_ofData vendorBootimgLayout [] vendorBootSample
    (by decide +kernel) (by decide +kernel) (by decide +kernel)
  have texts := header_texts_iff bootimgLayout_laws vendorBootimgLayout_laws isBoot isVendorBoot
  exact ⟨_, _, isBoot, isVendorBoot, texts.1.mpr (by decide +kernel),
    (texts.2.mpr (by decide +kernel)).2⟩

def fullSample : Bytes :=
  bootimgLayout.bootMagic ++ Bytes.zeros 56 ++ List.replicate 512 97 ++ [98] ++ Bytes.zeros 1083

/-- The first byte of the next field appears in the command line. -/
theorem next_field_in_command_line :
    ¬ ∀ (layout : BootimgLayout) (behind : Bytes) (reader : OpenReader) (boot : BootHeader),
      layout.Laws → BootHeader.read layout behind reader = .ok boot →
        boot.kernelCommandLine layout = .ok (boot.commandLineText layout) := by
  intro always
  have isBoot := BootHeader.read_ofData bootimgLayout [] fullSample (by decide +kernel)
    (by decide +kernel) (by decide +kernel)
  have isText := always bootimgLayout [] _ _ bootimgLayout_laws isBoot
  revert isText
  decide +kernel

end Cuttlefish.AssembleCvd.HeaderTexts
