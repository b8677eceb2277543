import Cuttlefish.Confui.Message

/-! # What the receiver survives

The streams for which `RecvConfUiMsg` returns. -/

namespace Cuttlefish.Confui

def intMax : Nat := 2147483647

def tokenValue (token : Bytes) : Nat := Decimal.digitsValue (text token)

def FitsToken (token : Bytes) : Prop := token ≠ [] ∧ tokenValue token ≤ intMax

instance (token : Bytes) : Decidable (FitsToken token) := inferInstanceAs (Decidable (_ ∧ _))

/-- Up to the first token that is not only digits, all of the first tokens are there and fit. -/
def TokensSafe (count : Nat) (tokens : List Bytes) : Prop :=
  ∀ index < count, (∀ earlier ∈ tokens.take index, isOnlyDigits earlier = true) →
    ∃ token, tokens[index]? = some token ∧ (isOnlyDigits token = true → FitsToken token)

theorem stoi_digits {token : Bytes} (digits : isOnlyDigits token = true) :
    stoi token = if FitsToken token then .ok (tokenValue token : Int) else .error .exception := by
  have all : ∀ char ∈ text token, Decimal.isDigit char = true := List.all_eq_true.mp digits
  by_cases empty : token = []
  · rw [if_neg fun both : FitsToken token => both.1 empty, stoi, empty]
    rfl
  have nonempty : text token ≠ [] := by simpa [text] using empty
  have scanned : Decimal.scan (text token) = some (tokenValue token : Int) :=
    Decimal.scan_of_isDigit all nonempty
  by_cases fits : tokenValue token ≤ intMax
  · have isFits : FitsToken token := ⟨empty, fits⟩
    rw [intMax] at fits
    have long : Decimal.strtol (text token) = some (tokenValue token : Int) := by
      rw [Decimal.strtol, scanned]
      exact if_pos ⟨by omega, by omega⟩
    have read : Decimal.stoi (text token) = some (tokenValue token : Int) := by
      rw [Decimal.stoi, long]
      exact if_pos ⟨by omega, by omega⟩
    rw [if_pos isFits, stoi, read]
  · have read : Decimal.stoi (text token) = none := by
      rw [← Option.not_isSome_iff_eq_none, Decimal.isSome_stoi]
      rintro ⟨value, isValue, inInt⟩
      rw [scanned] at isValue
      cases isValue
      rw [Decimal.FitsInt] at inInt
      rw [intMax] at fits
      omega
    rw [if_neg fun both : FitsToken token => fits both.2, stoi, read]

theorem TokensSafe.head {count : Nat} {tokens : List Bytes} (safe : TokensSafe (count + 1) tokens) :
    ∃ token rest, tokens = token :: rest ∧ (isOnlyDigits token = true → FitsToken token) := by
  rcases safe 0 (Nat.succ_pos _) nofun with ⟨token, isToken, fits⟩
  cases tokens with
  | nil => cases isToken
  | cons first rest =>
      cases isToken
      exact ⟨_, rest, rfl, fits⟩

theorem tokensSafe_succ {count : Nat} {token : Bytes} {tokens : List Bytes}
    (digits : isOnlyDigits token = true) :
    TokensSafe (count + 1) (token :: tokens) ↔ FitsToken token ∧ TokensSafe count tokens := by
  constructor
  · intro safe
    rcases safe.head with ⟨first, rest, same, fits⟩
    have isFirst := (List.cons.inj same).1
    refine ⟨isFirst ▸ fits (isFirst ▸ digits), fun index bound earlier => ?_⟩
    refine safe (index + 1) (Nat.succ_lt_succ bound) fun other member => ?_
    rw [List.take_succ_cons, List.mem_cons] at member
    rcases member with same | member
    · exact same ▸ digits
    · exact earlier other member
  · rintro ⟨fits, safe⟩ index bound earlier
    cases index with
    | zero => exact ⟨token, rfl, fun _ => fits⟩
    | succ index =>
        refine safe index (Nat.lt_of_succ_lt_succ bound) fun other member => ?_
        exact earlier other (List.mem_cons_of_mem token member)

theorem readLengths_spec (count : Nat) (tokens : List Bytes) :
    (TokensSafe count tokens ∧
        readLengths count tokens =
          .ok (if ∀ token ∈ tokens.take count, isOnlyDigits token = true then
            some ((tokens.take count).map fun token => (tokenValue token : Int)) else none)) ∨
      (¬ TokensSafe count tokens ∧ ∃ fault, readLengths count tokens = .error fault) := by
  induction count generalizing tokens with
  | zero => exact .inl ⟨nofun, rfl⟩
  | succ count induction =>
      cases tokens with
      | nil =>
          refine .inr ⟨fun safe => ?_, _, rfl⟩
          rcases safe.head with ⟨token, rest, same, -⟩
          cases same
      | cons token tokens =>
          by_cases digits : isOnlyDigits token = true
          · have all : (∀ other ∈ (token :: tokens).take (count + 1), isOnlyDigits other = true) ↔
                ∀ other ∈ tokens.take count, isOnlyDigits other = true := by
              rw [List.take_succ_cons, List.forall_mem_cons]
              exact and_iff_right digits
            rw [tokensSafe_succ digits]
            simp only [readLengths, digits, Bool.true_eq_false, if_false, stoi_digits digits]
            by_cases fits : FitsToken token
            · simp only [fits, if_true, true_and, ok_bind]
              rcases induction tokens with ⟨safe, read⟩ | ⟨unsafe_, fault, failed⟩
              · refine .inl ⟨safe, ?_⟩
                rw [read, ok_bind]
                by_cases rest : ∀ other ∈ tokens.take count, isOnlyDigits other = true
                · rw [if_pos rest, if_pos (all.mpr rest)]
                  rfl
                · rw [if_neg rest, if_neg fun both => rest (all.mp both)]
                  rfl
              · exact .inr ⟨unsafe_, fault, by rw [failed]; rfl⟩
            · exact .inr ⟨fun both => fits both.1, .exception, by rw [if_neg fits]; rfl⟩
          · have notDigits : isOnlyDigits token = false := by simpa using digits
            refine .inl ⟨?_, ?_⟩
            · intro index bound earlier
              cases index with
              | zero => exact ⟨token, rfl, fun isDigits => absurd isDigits digits⟩
              | succ index => exact absurd (earlier token (by simp)) digits
            · have notAll : ¬ ∀ other ∈ (token :: tokens).take (count + 1),
                  isOnlyDigits other = true := fun all => digits (all token (by simp))
              rw [if_neg notAll, readLengths, if_pos notDigits]

/-! ## Packets -/

/-- The tokens in front of the items, and what has to be true of the count and the lengths: the
count is an `int`, not too large for the addition of two; if it is at most the number of tokens
behind it plus one, the tokens it counts are safe, and the whole length is an `int`. -/
structure CountSafe (sessionId cmdType count : Bytes) (rest : List Bytes) : Prop where
  fits : count ≠ []
  needed : tokenValue count + 2 ≤ intMax
  tokens : tokenValue count ≤ rest.length + 1 → TokensSafe (tokenValue count) rest
  total : tokenValue count ≤ rest.length + 1 →
    (∀ token ∈ rest.take (tokenValue count), isOnlyDigits token = true) →
    sessionId.length + cmdType.length + count.length + 3 +
        ((rest.take (tokenValue count)).map fun token => token.length + 1).sum +
        ((rest.take (tokenValue count)).map tokenValue).sum ≤ intMax

/-- There are three tokens, and the third is no number or a safe count. -/
def PacketSafe (data : Bytes) : Prop :=
  ∃ sessionId cmdType count rest,
    data.splitOn colon = sessionId :: cmdType :: count :: rest ∧
      (isOnlyDigits count = true → CountSafe sessionId cmdType count rest)

theorem foldlM_intAdd_spec (lengths : List Nat) {start : Nat} (inInt : start ≤ intMax) :
    (lengths.map fun length : Nat => (length : Int)).foldlM intAdd (start : Int) =
      if start + lengths.sum ≤ intMax then .ok ((start + lengths.sum : Nat) : Int)
      else .error .overflow := by
  induction lengths generalizing start with
  | nil => exact (if_pos inInt).symm
  | cons length lengths induction =>
      rw [List.map_cons, List.foldlM_cons, List.sum_cons, ← Nat.add_assoc]
      by_cases fits : start + length ≤ intMax
      · have added : intAdd (start : Int) (length : Int) = .ok ((start + length : Nat) : Int) := by
          rw [intMax] at fits
          exact if_pos ⟨by omega, by omega⟩
        rw [added, ok_bind, induction fits]
      · have added : intAdd (start : Int) (length : Int) = .error .overflow := by
          rw [intMax] at fits
          exact if_neg fun both => by
            rw [Decimal.FitsInt] at both
            omega
        rw [added, if_neg (by omega)]
        rfl

theorem splitData_of_sum {data : Bytes} {lengths : List Nat} (exact_ : data.length = lengths.sum) :
    ∃ items, splitData data (lengths.map fun length : Nat => (length : Int)) = .ok items := by
  induction lengths generalizing data with
  | nil => exact ⟨[], rfl⟩
  | cons length lengths induction =>
      rw [List.sum_cons] at exact_
      have rest : (data.drop length).length = lengths.sum := by
        rw [List.length_drop]
        omega
      rcases induction rest with ⟨items, split⟩
      have enough : ¬ (data.length : Int) < (length : Int) := by omega
      refine ⟨data.take length :: items, ?_⟩
      simp only [List.map_cons, splitData, enough, if_false, Int.toNat_natCast, split, ok_bind]
      rfl

theorem length_splitOn (data : Bytes) :
    ((data.splitOn colon).map fun token => token.length + 1).sum = data.length + 1 := by
  induction data with
  | nil => rfl
  | cons byte data induction =>
      rw [List.splitOn_cons_eq_if_modifyHead]
      split
      · rw [List.map_cons, List.sum_cons, induction, List.length_cons, List.length_nil]
        omega
      · cases tokens : data.splitOn colon with
        | nil => exact absurd tokens (List.splitOn_ne_nil _ _)
        | cons token rest =>
            rw [tokens, List.map_cons, List.sum_cons] at induction
            rw [List.modifyHead_cons, List.map_cons, List.sum_cons, List.length_cons,
              List.length_cons]
            omega

theorem packetSafe_iff {data sessionId cmdType count : Bytes} {rest : List Bytes}
    (tokens : data.splitOn colon = sessionId :: cmdType :: count :: rest)
    (digits : isOnlyDigits count = true) :
    PacketSafe data ↔ CountSafe sessionId cmdType count rest := by
  constructor
  · rintro ⟨_, _, _, _, same, safe⟩
    rw [tokens] at same
    cases same
    exact safe digits
  · exact fun safe => ⟨sessionId, cmdType, count, rest, tokens, fun _ => safe⟩

theorem parseCounted_spec {data : Bytes} (sessionId cmdType count : Bytes) (rest : List Bytes)
    {pos : Nat} (inInt : pos ≤ intMax) :
    (∃ result, (do
        let expectedTotalLength ← ((rest.take (tokenValue count)).map
          fun token => (tokenValue token : Int)).foldlM intAdd (pos : Int)
        if expectedTotalLength ≠ data.length then return none
        else
          let items ← splitData (data.drop pos)
            ((rest.take (tokenValue count)).map fun token => (tokenValue token : Int))
          return some (⟨sessionId, cmdType, items⟩ : ParsedPacket)) =
        (.ok result : Except Fault (Option ParsedPacket))) ↔
      pos + ((rest.take (tokenValue count)).map tokenValue).sum ≤ intMax := by
  have values : ((rest.take (tokenValue count)).map fun token => (tokenValue token : Int)) =
      ((rest.take (tokenValue count)).map tokenValue).map fun length : Nat => (length : Int) := by
    rw [List.map_map]
    rfl
  rw [values, foldlM_intAdd_spec _ inInt]
  generalize ((rest.take (tokenValue count)).map tokenValue) = lengths
  by_cases fits : pos + lengths.sum ≤ intMax
  · rw [if_pos fits, ok_bind]
    refine iff_of_true ?_ fits
    by_cases whole : ((pos + lengths.sum : Nat) : Int) ≠ data.length
    · rw [if_pos whole]
      exact ⟨_, rfl⟩
    · have same : data.length = pos + lengths.sum := by omega
      have rest : (data.drop pos).length = lengths.sum := by
        rw [List.length_drop]
        omega
      rcases splitData_of_sum rest with ⟨items, split⟩
      rw [if_neg whole, split]
      exact ⟨_, rfl⟩
  · rw [if_neg fits]
    exact iff_of_false nofun fits

theorem parseRawData_spec {data : Bytes} (short : data.length < kMaxPayloadLength) :
    (∃ result, parseRawData data = .ok result) ↔ PacketSafe data := by
  have lengths := length_splitOn data
  unfold kMaxPayloadLength at short
  match tokens : data.splitOn colon with
  | [] | [_] | [_, _] =>
      rw [parseRawData, PacketSafe, tokens]
      exact iff_of_false nofun nofun
  | sessionId :: cmdType :: count :: rest =>
      by_cases digits : isOnlyDigits count = true
      · rw [packetSafe_iff tokens digits, parseRawData, tokens]
        dsimp only
        rw [if_neg (by rw [digits]; decide), stoi_digits digits]
        by_cases fits : FitsToken count
        · rw [if_pos fits, ok_bind]
          have positions : sessionId.length + cmdType.length + count.length + 3 +
              ((rest.take (tokenValue count)).map fun token => token.length + 1).sum ≤ intMax := by
            have parts : ((rest.take (tokenValue count)).map fun token => token.length + 1).sum +
                ((rest.drop (tokenValue count)).map fun token => token.length + 1).sum =
                (rest.map fun token => token.length + 1).sum := by
              rw [← List.sum_append, ← List.map_append, List.take_append_drop]
            have whole : sessionId.length + 1 + (cmdType.length + 1 + (count.length + 1 +
                (rest.map fun token => token.length + 1).sum)) = data.length + 1 := by
              rw [tokens] at lengths
              simpa only [List.map_cons, List.sum_cons] using lengths
            unfold intMax
            omega
          by_cases needed : tokenValue count + 2 ≤ intMax
          · have added : intAdd (tokenValue count : Int) 2 = .ok ((tokenValue count : Int) + 2) := by
              unfold intMax at needed
              exact if_pos ⟨by omega, by omega⟩
            rw [added, ok_bind]
            by_cases many : tokenValue count ≤ rest.length + 1
            · rw [if_neg (by omega), Int.toNat_natCast]
              rcases readLengths_spec (tokenValue count) rest with
                ⟨safe, read⟩ | ⟨unsafe_, fault, failed⟩
              · rw [read, ok_bind]
                by_cases all : ∀ token ∈ rest.take (tokenValue count), isOnlyDigits token = true
                · rw [if_pos all]
                  dsimp only
                  rw [parseCounted_spec sessionId cmdType count rest positions]
                  exact ⟨fun total => ⟨fits.1, needed, fun _ => safe, fun _ _ => total⟩,
                    fun safe => safe.total many all⟩
                · rw [if_neg all]
                  exact iff_of_true ⟨_, rfl⟩
                    ⟨fits.1, needed, fun _ => safe, fun _ others => absurd others all⟩
              · rw [failed]
                exact iff_of_false nofun fun safe => unsafe_ (safe.tokens many)
            · rw [if_pos (by omega)]
              exact iff_of_true ⟨_, rfl⟩
                ⟨fits.1, needed, fun few => absurd few many, fun few => absurd few many⟩
          · have failed : intAdd (tokenValue count : Int) 2 = .error .overflow := by
              unfold intMax at needed
              exact if_neg fun both => by
                unfold Decimal.FitsInt at both
                omega
            rw [failed]
            exact iff_of_false nofun fun safe => needed safe.needed
        · rw [if_neg fits]
          refine iff_of_false nofun fun safe => fits ⟨safe.fits, ?_⟩
          exact Nat.le_trans (Nat.le_add_right _ 2) safe.needed
      · have notDigits : isOnlyDigits count = false := by simpa using digits
        rw [parseRawData, tokens]
        dsimp only
        rw [if_pos notDigits]
        exact iff_of_true ⟨_, rfl⟩ ⟨_, _, _, _, tokens, fun isDigits => absurd isDigits digits⟩

/-! ## Messages -/

/-- The numbers in the items of a packet that are read are `int`s. -/
def MessageSafe (packet : ParsedPacket) : Prop :=
  match toCmd packet.type_, packet.additionalInfo with
  | .start, _ :: _ :: _ :: _ =>
      TokensSafe (uiOptionTokens packet.additionalInfo).length
        (uiOptionTokens packet.additionalInfo)
  | .userTouchEvent, x :: y :: _ =>
      Decimal.StartsWithInt (text x) ∧ Decimal.StartsWithInt (text y)
  | _, _ => True

theorem stoi_isOk (token : Bytes) :
    (∃ value, stoi token = .ok value) ↔ Decimal.StartsWithInt (text token) := by
  rw [← Decimal.isSome_stoi, stoi]
  cases Decimal.stoi (text token) with
  | none => exact iff_of_false nofun nofun
  | some value => exact iff_of_true ⟨value, rfl⟩ rfl

theorem toUiOptions_spec (tokens : List Bytes) :
    (∃ result, toUiOptions tokens = .ok result) ↔ TokensSafe tokens.length tokens := by
  induction tokens with
  | nil => exact iff_of_true ⟨_, rfl⟩ nofun
  | cons token tokens induction =>
      rw [List.length_cons, toUiOptions, toUiOption]
      by_cases digits : isOnlyDigits token = true
      · rw [tokensSafe_succ digits, ← induction, if_neg (by rw [digits]; decide),
          stoi_digits digits]
        by_cases fits : FitsToken token
        · rw [if_pos fits, ok_bind]
          refine Iff.trans ?_ (and_iff_right fits).symm
          show (∃ result, (toUiOptions tokens >>= fun uiOpts => _) = .ok result) ↔ _
          cases toUiOptions tokens with
          | error fault => exact iff_of_false nofun nofun
          | ok uiOpts => exact iff_of_true ⟨_, rfl⟩ ⟨_, rfl⟩
        · rw [if_neg fits]
          exact iff_of_false nofun fun both => fits both.1
      · have notDigits : isOnlyDigits token = false := by simpa using digits
        rw [if_pos notDigits]
        refine iff_of_true ⟨_, rfl⟩ fun index bound earlier => ?_
        cases index with
        | zero => exact ⟨token, rfl, fun isDigits => absurd isDigits digits⟩
        | succ index => exact absurd (earlier token (by simp)) digits

theorem toUserTouch_spec (packet : ParsedPacket) (x y : Bytes) (rest : List Bytes)
    (items : packet.additionalInfo = x :: y :: rest) :
    (∃ result, toUserTouch packet = .ok result) ↔
      Decimal.StartsWithInt (text x) ∧ Decimal.StartsWithInt (text y) := by
  rw [toUserTouch, items, ← stoi_isOk, ← stoi_isOk]
  dsimp only
  cases stoi x with
  | error fault => exact iff_of_false nofun fun both => nomatch both.1
  | ok xValue =>
      cases stoi y with
      | error fault => exact iff_of_false nofun fun both => nomatch both.2
      | ok yValue => exact iff_of_true ⟨_, rfl⟩ ⟨⟨_, rfl⟩, ⟨_, rfl⟩⟩

theorem toStart_spec (packet : ParsedPacket) (promptText extraData locale : Bytes)
    (rest : List Bytes) (items : packet.additionalInfo = promptText :: extraData :: locale :: rest) :
    (∃ result, toStart packet = .ok result) ↔
      TokensSafe (uiOptionTokens packet.additionalInfo).length
        (uiOptionTokens packet.additionalInfo) := by
  rw [← toUiOptions_spec, toStart]
  split
  · cases toUiOptions (uiOptionTokens packet.additionalInfo) with
    | error fault => exact iff_of_false nofun nofun
    | ok uiOpts => exact iff_of_true ⟨_, rfl⟩ ⟨_, rfl⟩
  · rename_i other
    exact absurd items (other promptText extraData locale rest)

theorem toConfUiMessage_spec (packet : ParsedPacket) :
    (∃ result, toConfUiMessage packet = .ok result) ↔ MessageSafe packet := by
  rw [toConfUiMessage, MessageSafe]
  cases toCmd packet.type_ with
  | start =>
      match items : packet.additionalInfo with
      | promptText :: extraData :: locale :: rest =>
          have safe := toStart_spec packet promptText extraData locale rest items
          rw [items] at safe
          exact safe
      | [] | [_] | [_, _] =>
          refine iff_of_true ⟨none, ?_⟩ trivial
          simp only [toStart, items]
  | userTouchEvent =>
      match items : packet.additionalInfo with
      | x :: y :: rest => exact toUserTouch_spec packet x y rest items
      | [] | [_] =>
          refine iff_of_true ⟨none, ?_⟩ trivial
          simp only [toUserTouch, items]
  | cliAck =>
      refine iff_of_true ?_ trivial
      simp only [toAck]
      split <;> exact ⟨_, rfl⟩
  | cliRespond =>
      refine iff_of_true ?_ trivial
      simp only [toCliResponse]
      split <;> exact ⟨_, rfl⟩
  | userInputEvent =>
      refine iff_of_true ?_ trivial
      simp only [toUserSelection]
      split <;> exact ⟨_, rfl⟩
  | abort => exact iff_of_true ⟨_, rfl⟩ trivial
  | stop => exact iff_of_true ⟨_, rfl⟩ trivial
  | unknown => exact iff_of_true ⟨_, rfl⟩ trivial

theorem length_readRawData {stream data : Bytes} (read : readRawData stream = some data) :
    data.length < kMaxPayloadLength := by
  rw [readRawData] at read
  split at read
  · cases read
  dsimp only at read
  split at read
  · cases read
    decide
  split at read
  · cases read
  · rename_i small
    split at read
    · cases read
    · cases read
      exact Nat.lt_of_le_of_lt (List.length_take_le _ _) (Nat.lt_of_not_le small)

/-- `RecvConfUiMsg` returns if and only if the packet that is read, if one is, is safe, and the
message in it. -/
theorem receiver_returns_iff (stream : Bytes) :
    (∃ result, recvConfUiMsg stream = .ok result) ↔
      ∀ data, readRawData stream = some data →
        PacketSafe data ∧ ∀ packet, parseRawData data = .ok (some packet) → MessageSafe packet := by
  rw [recvConfUiMsg, readPayload]
  cases read : readRawData stream with
  | none => exact iff_of_true ⟨_, rfl⟩ nofun
  | some data =>
      have parsed := parseRawData_spec (length_readRawData read)
      simp only [Option.some.injEq, forall_eq', ← parsed]
      cases parse : parseRawData data with
      | error fault => exact iff_of_false nofun fun both => nomatch both.1
      | ok result =>
          cases result with
          | none => exact iff_of_true ⟨_, rfl⟩ ⟨⟨_, rfl⟩, nofun⟩
          | some packet =>
              have message := toConfUiMessage_spec packet
              rw [ok_bind]
              dsimp only
              rw [message]
              constructor
              · intro safe
                refine ⟨⟨_, rfl⟩, fun other same => ?_⟩
                cases same
                exact safe
              · exact fun both => both.2 packet rfl

/-- A packet of length zero has one token. -/
theorem empty_packet_aborts : recvConfUiMsg [0, 0, 0, 0] = .error .checkFailed := by
  decide +kernel

end Cuttlefish.Confui
