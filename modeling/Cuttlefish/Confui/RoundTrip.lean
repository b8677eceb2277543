import Cuttlefish.Confui.Message

/-! # Messages are read back

A packet is read back whole, whatever its items are. A message is read back if the command is
and its fields are. -/

namespace Cuttlefish.Confui

/-! ## Printed numbers -/

theorem text_bytes {text_ : Text} (ascii_ : ∀ char ∈ text_, char.toNat < 128) :
    text (bytes text_) = text_ := by
  rw [text, bytes, List.map_map]
  refine (List.map_congr_left fun char member => ?_).trans (List.map_id text_)
  have small := ascii_ char member
  have inByte : (UInt8.ofNat char.toNat).toNat = char.toNat := by
    rw [UInt8.toNat_ofNat']
    exact Nat.mod_eq_of_lt (Nat.lt_trans small (by decide))
  simp only [Function.comp_apply, inByte, Char.ofNat_toNat, id]

theorem toNat_of_isDigit {char : Char} (digit : Decimal.isDigit char = true) :
    48 ≤ char.toNat ∧ char.toNat ≤ 57 := by
  simpa [Decimal.isDigit] using digit

theorem digits_print (value : Nat) :
    ∀ char ∈ Decimal.print (value : Int), Decimal.isDigit char = true :=
  fun _ member => Decimal.isDigit_of_mem_toDigits member

theorem text_print (value : Nat) :
    text (bytes (Decimal.print (value : Int))) = Decimal.print (value : Int) :=
  text_bytes fun char member => by
    have range := toNat_of_isDigit (digits_print value char member)
    omega

theorem isOnlyDigits_print (value : Nat) :
    isOnlyDigits (bytes (Decimal.print (value : Int))) = true := by
  rw [isOnlyDigits, text_print, List.all_eq_true]
  exact digits_print value

theorem stoi_print {value : Nat} (fits : value ≤ 2147483647) :
    stoi (bytes (Decimal.print (value : Int))) = .ok (value : Int) := by
  have inInt : Decimal.FitsInt (value : Int) := ⟨by omega, by omega⟩
  rw [stoi, text_print, Decimal.stoi_print inInt]

theorem notMem_print {separator : UInt8} (notDigit : separator.toNat < 48 ∨ 57 < separator.toNat)
    (value : Nat) : separator ∉ bytes (Decimal.print (value : Int)) := by
  intro member
  rcases List.mem_map.mp member with ⟨char, isChar, same⟩
  have range := toNat_of_isDigit (digits_print value char isChar)
  have isByte : separator.toNat = char.toNat := by
    rw [← same, UInt8.toNat_ofNat']
    exact Nat.mod_eq_of_lt (by omega)
  omega

theorem printLength_eq {length : Nat} (fits : length ≤ 2147483647) :
    printLength length = bytes (Decimal.print (length : Int)) := by
  have same : Decimal.toInt (length : Int) = length := by
    rw [Decimal.toInt]
    exact Int.bmod_eq_of_le (by omega) (by omega)
  rw [printLength, same]

/-! ## Packets -/

theorem splitOn_token {separator : UInt8} {token : Bytes} (clean : separator ∉ token)
    (rest : Bytes) :
    (token ++ [separator] ++ rest).splitOn separator = token :: rest.splitOn separator := by
  rw [List.append_assoc]
  exact List.splitOn_append_cons_self_of_not_mem clean rest

theorem splitOn_sizeHeader {args : List Bytes} (fits : ∀ arg ∈ args, arg.length ≤ 2147483647)
    (data : Bytes) :
    (sizeHeader args ++ data).splitOn colon =
      args.map (fun arg => printLength arg.length) ++ data.splitOn colon := by
  induction args with
  | nil => rfl
  | cons arg args induction =>
      have clean : colon ∉ printLength arg.length := by
        rw [printLength_eq (fits arg List.mem_cons_self)]
        exact notMem_print (by decide) _
      have rest := induction fun other member => fits other (List.mem_cons_of_mem arg member)
      have split : sizeHeader (arg :: args) ++ data =
          printLength arg.length ++ [colon] ++ (sizeHeader args ++ data) := by
        simp [sizeHeader]
      rw [split, splitOn_token clean, rest]
      rfl

theorem readLengths_printed {args : List Bytes} (fits : ∀ arg ∈ args, arg.length ≤ 2147483647)
    (tokens : List Bytes) :
    readLengths args.length (args.map (fun arg => printLength arg.length) ++ tokens) =
      .ok (some (args.map fun arg => (arg.length : Int))) := by
  induction args with
  | nil => rfl
  | cons arg args induction =>
      have rest := induction fun other member => fits other (List.mem_cons_of_mem arg member)
      have argFits := fits arg List.mem_cons_self
      simp only [List.length_cons, List.map_cons, List.cons_append, readLengths,
        printLength_eq argFits, isOnlyDigits_print, Bool.true_eq_false, if_false,
        stoi_print argFits, rest]
      rfl

theorem foldlM_intAdd {lengths : List Nat} {start : Nat}
    (fits : start + lengths.sum ≤ 2147483647) :
    (lengths.map fun length : Nat => (length : Int)).foldlM intAdd (start : Int) =
      .ok ((start + lengths.sum : Nat) : Int) := by
  induction lengths generalizing start with
  | nil => rfl
  | cons length lengths induction =>
      rw [List.sum_cons] at fits
      have inInt : Decimal.FitsInt ((start : Int) + length) := ⟨by omega, by omega⟩
      have added : intAdd (start : Int) (length : Int) = .ok ((start + length : Nat) : Int) := by
        rw [intAdd, if_pos inInt]
        rfl
      rw [List.map_cons, List.foldlM_cons, added]
      show (lengths.map fun length : Nat => (length : Int)).foldlM intAdd
        ((start + length : Nat) : Int) = _
      rw [induction (by omega), List.sum_cons, Nat.add_assoc]

theorem splitData_flatten (args : List Bytes) :
    splitData args.flatten (args.map fun arg => (arg.length : Int)) = .ok args := by
  induction args with
  | nil => rfl
  | cons arg args induction =>
      have enough : ¬ ((arg ++ args.flatten).length : Int) < arg.length := by
        rw [List.length_append]
        omega
      simp only [List.flatten_cons, List.map_cons, splitData, enough, if_false, Int.toNat_natCast,
        List.drop_left, List.take_left, induction]
      rfl

theorem length_sizeHeader (args : List Bytes) :
    (sizeHeader args).length = (args.map fun arg => (printLength arg.length).length + 1).sum := by
  simp [sizeHeader, List.length_flatMap]

theorem length_le_sizeHeader (args : List Bytes) : args.length ≤ (sizeHeader args).length := by
  induction args with
  | nil => exact Nat.le_refl _
  | cons arg args induction =>
      rw [length_sizeHeader] at induction
      rw [length_sizeHeader, List.map_cons, List.sum_cons, List.length_cons]
      omega

theorem length_flatten_args (args : List Bytes) :
    args.flatten.length = (args.map List.length).sum := List.length_flatten

theorem parseRawData_payload {cmdStr sessionId : Bytes} (cmdClean : colon ∉ cmdStr)
    (sessionClean : colon ∉ sessionId) (args : List Bytes)
    (short : (payload cmdStr sessionId args).length < kMaxPayloadLength) :
    parseRawData (payload cmdStr sessionId args) = .ok (some ⟨sessionId, cmdStr, args⟩) := by
  rw [kMaxPayloadLength] at short
  have total : (payload cmdStr sessionId args).length =
      sessionId.length + cmdStr.length + (bytes (Decimal.print args.length)).length + 3 +
        (sizeHeader args).length + (args.map List.length).sum := by
    simp only [payload, List.length_append, List.length_singleton, length_flatten_args]
    omega
  have argsFit : ∀ arg ∈ args, arg.length ≤ 2147483647 := by
    intro arg member
    have one := (List.sublist_flatten_of_mem member).length_le
    rw [length_flatten_args] at one
    omega
  have countFits : args.length ≤ 2147483640 := by
    have many := length_le_sizeHeader args
    omega
  have countClean : colon ∉ bytes (Decimal.print args.length) := notMem_print (by decide) _
  have tokens : (payload cmdStr sessionId args).splitOn colon =
      sessionId :: cmdStr :: bytes (Decimal.print args.length) ::
        (args.map (fun arg => printLength arg.length) ++ args.flatten.splitOn colon) := by
    rw [← splitOn_sizeHeader argsFit, ← splitOn_token countClean, ← splitOn_token cmdClean,
      ← splitOn_token sessionClean]
    simp only [payload, List.append_assoc]
  have needed : intAdd (args.length : Int) 2 = .ok ((args.length : Int) + 2) :=
    if_pos ⟨by omega, by omega⟩
  have enough : ¬ ((3 + (args.map (fun arg => printLength arg.length) ++
      args.flatten.splitOn colon).length : Nat) : Int) < (args.length : Int) + 2 := by
    rw [List.length_append, List.length_map]
    omega
  have header : (((args.map (fun arg => printLength arg.length) ++
      args.flatten.splitOn colon).take args.length).map fun token => token.length + 1).sum =
      (sizeHeader args).length := by
    rw [List.take_left' (List.length_map _), List.map_map, length_sizeHeader]
    rfl
  rw [parseRawData]
  rw [tokens]
  have countInt : args.length ≤ 2147483647 := by omega
  have sum : (args.map fun arg => (arg.length : Int)) =
      (args.map List.length).map fun length : Nat => (length : Int) := by
    rw [List.map_map]
    rfl
  have expected : (args.map fun arg => (arg.length : Int)).foldlM intAdd
      ((sessionId.length + cmdStr.length + (bytes (Decimal.print args.length)).length + 3 +
        (sizeHeader args).length : Nat) : Int) =
      .ok ((payload cmdStr sessionId args).length : Int) := by
    rw [sum, foldlM_intAdd (by omega), total]
  have data : (payload cmdStr sessionId args).drop (sessionId.length + cmdStr.length +
      (bytes (Decimal.print args.length)).length + 3 + (sizeHeader args).length) =
      args.flatten := by
    refine List.drop_left' ?_
    simp only [List.length_append, List.length_singleton]
    omega
  dsimp only
  rw [if_neg (by rw [isOnlyDigits_print]; decide), stoi_print countInt, ok_bind, needed, ok_bind,
    if_neg (by simpa using enough), Int.toNat_natCast, readLengths_printed argsFit, ok_bind]
  dsimp only
  rw [header, expected, ok_bind, if_neg (fun different => different rfl), data,
    splitData_flatten, ok_bind]
  rfl

theorem readRawData_writePayload {cmdStr sessionId : Bytes} {args : List Bytes}
    (short : (payload cmdStr sessionId args).length < kMaxPayloadLength) (rest : Bytes) :
    readRawData (writePayload cmdStr sessionId args ++ rest) =
      some (payload cmdStr sessionId args) := by
  rw [kMaxPayloadLength] at short
  have positive : 0 < (payload cmdStr sessionId args).length := by
    simp only [payload, List.length_append, List.length_singleton]
    omega
  have small : (payload cmdStr sessionId args).length % 4294967296 =
      (payload cmdStr sessionId args).length := Nat.mod_eq_of_lt (by omega)
  have header : (LittleEndian.encode 4 (payload cmdStr sessionId args).length).length = 4 :=
    LittleEndian.length_encode 4 _
  have decoded : LittleEndian.decode (LittleEndian.encode 4 (payload cmdStr sessionId args).length) =
      (payload cmdStr sessionId args).length :=
    LittleEndian.decode_encode (Nat.lt_trans short (by decide))
  rw [writePayload, small, List.append_assoc, readRawData,
    if_neg (by simp only [List.length_append, header]; omega), List.take_left' header,
    List.drop_left' header, decoded]
  dsimp only
  rw [if_neg (by omega), if_neg (by unfold kMaxPayloadLength; omega),
    if_neg (by rw [List.length_append]; omega), List.take_left]

/-! ## Options -/

theorem toInt_small {value : Nat} (small : value < 2147483648) :
    Decimal.toInt (value : Int) = value :=
  Int.bmod_eq_of_le (by omega) (by omega)

theorem toInt_large {value : Nat} (large : 2147483648 ≤ value) (bound : value < 4294967296) :
    Decimal.toInt (value : Int) = Int.negSucc (4294967295 - value) := by
  rw [Decimal.toInt, Int.bmod_def]
  omega

theorem comma_notMem_uiOption (uiOpt : UiOption) : comma ∉ uiOptionToString uiOpt := by
  by_cases small : uiOpt.toNat < 2147483648
  · rw [uiOptionToString, toInt_small small]
    exact notMem_print (by decide) _
  · rw [uiOptionToString, toInt_large (by omega) uiOpt.toNat_lt]
    intro member
    rw [Decimal.print, bytes, List.map_cons] at member
    rcases List.mem_cons.mp member with sign | digit
    · exact absurd sign (by decide)
    · exact notMem_print (by decide) (4294967295 - uiOpt.toNat + 1) digit

theorem uiOptionToString_ne_nil (uiOpt : UiOption) : uiOptionToString uiOpt ≠ [] := by
  intro empty
  have noDigits := List.map_eq_nil_iff.mp empty
  cases value : Decimal.toInt (uiOpt.toNat : Int) with
  | ofNat number =>
      rw [value] at noDigits
      exact Nat.toDigits_ne_nil noDigits
  | negSucc number =>
      rw [value] at noDigits
      cases noDigits

theorem toUiOption_small {uiOpt : UiOption} (small : uiOpt.toNat < 2147483648) :
    toUiOption (uiOptionToString uiOpt) = .ok (some uiOpt) := by
  have same : ((uiOpt.toNat : Int) % 4294967296).toNat = uiOpt.toNat := by omega
  rw [uiOptionToString, toInt_small small, toUiOption, if_neg (by rw [isOnlyDigits_print]; decide),
    stoi_print (by omega), ok_bind, same, UInt32.ofNat_toNat]
  rfl

theorem toUiOption_large {uiOpt : UiOption} (large : 2147483648 ≤ uiOpt.toNat) :
    toUiOption (uiOptionToString uiOpt) = .ok none := by
  have sign : isOnlyDigits (uiOptionToString uiOpt) = false := by
    rw [uiOptionToString, toInt_large large uiOpt.toNat_lt, Decimal.print, isOnlyDigits, bytes,
      text, List.map_cons, List.map_cons, List.all_cons]
    exact Bool.and_eq_false_iff.mpr (.inl (by decide))
  rw [toUiOption, if_pos sign]

theorem toUiOptions_small {uiOpts : List UiOption}
    (small : ∀ uiOpt ∈ uiOpts, uiOpt.toNat < 2147483648) :
    toUiOptions (uiOpts.map uiOptionToString) = .ok (some uiOpts) := by
  induction uiOpts with
  | nil => rfl
  | cons uiOpt uiOpts induction =>
      rw [List.forall_mem_cons] at small
      rw [List.map_cons, toUiOptions, toUiOption_small small.1, ok_bind]
      rw [induction small.2]
      rfl

theorem toUiOptions_large {uiOpts : List UiOption}
    (large : ¬ ∀ uiOpt ∈ uiOpts, uiOpt.toNat < 2147483648) :
    toUiOptions (uiOpts.map uiOptionToString) = .ok none := by
  induction uiOpts with
  | nil => exact absurd (fun _ isNone => absurd isNone List.not_mem_nil) large
  | cons uiOpt uiOpts induction =>
      by_cases small : uiOpt.toNat < 2147483648
      · have later : ¬ ∀ uiOpt ∈ uiOpts, uiOpt.toNat < 2147483648 := fun all =>
          large (List.forall_mem_cons.mpr ⟨small, all⟩)
        rw [List.map_cons, toUiOptions, toUiOption_small small, ok_bind]
        rw [induction later]
        rfl
      · rw [List.map_cons, toUiOptions, toUiOption_large (by omega), ok_bind]
        rfl

theorem uiOptionTokens_sent (promptText extraData locale : Bytes) (uiOpts : List UiOption) :
    uiOptionTokens [promptText, extraData, locale, uiOptsToString uiOpts] =
      uiOpts.map uiOptionToString := by
  cases uiOpts with
  | nil => rfl
  | cons uiOpt uiOpts =>
      have clean : ∀ token ∈ (uiOpt :: uiOpts).map uiOptionToString, comma ∉ token := by
        intro token member
        rcases List.mem_map.mp member with ⟨other, -, isToken⟩
        exact isToken ▸ comma_notMem_uiOption other
      have tokens : (uiOptsToString (uiOpt :: uiOpts)).splitOn comma =
          (uiOpt :: uiOpts).map uiOptionToString :=
        List.splitOn_intercalate comma clean (by simp)
      have nonempty : (uiOptsToString (uiOpt :: uiOpts)).isEmpty = false := by
        rw [List.isEmpty_eq_false_iff]
        intro empty
        rw [empty] at tokens
        exact uiOptionToString_ne_nil uiOpt (List.cons.inj tokens).1.symm
      rw [uiOptionTokens, nonempty]
      exact tokens

/-! ## Messages -/

namespace ConfUiMessage

/-- A message that is not lost on the way: not a touch, and its options are not negative. -/
def Survives : ConfUiMessage → Prop
  | userTouch .. => False
  | start _ _ _ _ uiOpts => ∀ uiOpt ∈ uiOpts, uiOpt.toNat < 2147483648
  | _ => True

end ConfUiMessage

theorem colon_notMem_cmd (cmd : ConfUiCmd) : colon ∉ cmd.toString := by
  cases cmd <;> decide

theorem recvConfUiMsg_sendOver {message : ConfUiMessage} (sessionClean : colon ∉ message.sessionId)
    (short : message.sent.length < kMaxPayloadLength) (rest : Bytes) :
    recvConfUiMsg (message.sendOver ++ rest) =
      toConfUiMessage ⟨message.sessionId, message.type_.toString, message.args⟩ := by
  have cmdClean := colon_notMem_cmd message.type_
  rw [recvConfUiMsg, readPayload, ConfUiMessage.sendOver, readRawData_writePayload short]
  dsimp only
  rw [parseRawData_payload cmdClean sessionClean message.args short, ok_bind]

/-- The receiver gets the message that was sent, if and only if it survives. -/
theorem message_round_trip_iff {message : ConfUiMessage} (sessionClean : colon ∉ message.sessionId)
    (short : message.sent.length < kMaxPayloadLength) (rest : Bytes) :
    recvConfUiMsg (message.sendOver ++ rest) = .ok (some message) ↔ message.Survives := by
  rw [recvConfUiMsg_sendOver sessionClean short]
  cases message with
  | start sessionId promptText extraData locale uiOpts =>
      show toStart ⟨sessionId, ConfUiCmd.start.toString,
        [promptText, extraData, locale, uiOptsToString uiOpts]⟩ = _ ↔ _
      simp only [toStart, uiOptionTokens_sent]
      by_cases survives : ∀ uiOpt ∈ uiOpts, uiOpt.toNat < 2147483648
      · rw [toUiOptions_small survives]
        exact iff_of_true rfl survives
      · rw [toUiOptions_large survives]
        apply iff_of_false _ survives
        intro isStart
        cases isStart
  | ack sessionId isSuccess statusMessage => cases isSuccess <;> exact iff_of_true rfl trivial
  | cliResponse sessionId response sign message => exact iff_of_true rfl trivial
  | userSelection sessionId response => exact iff_of_true rfl trivial
  | userTouch sessionId x y => exact iff_of_false nofun id
  | abort sessionId => exact iff_of_true rfl trivial
  | stop sessionId => exact iff_of_true rfl trivial

def samplePrompt : ConfUiMessage :=
  .start (ascii "session") [58, 0, 255] [] (ascii "en") [0, 1]

theorem message_round_trip_iff_prompt :
    recvConfUiMsg (samplePrompt.sendOver ++ []) = .ok (some samplePrompt) ↔
      samplePrompt.Survives :=
  message_round_trip_iff (by decide) (by decide +kernel) []

/-- The table has no text for a touch: it is sent as an unknown command. -/
theorem touch_lost :
    colon ∉ ascii "session" ∧
      (ConfUiMessage.userTouch (ascii "session") 1 2).sent.length < kMaxPayloadLength ∧
      recvConfUiMsg (ConfUiMessage.userTouch (ascii "session") 1 2).sendOver = .ok none := by
  decide +kernel

end Cuttlefish.Confui
