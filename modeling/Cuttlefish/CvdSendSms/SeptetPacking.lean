import Mathlib.Data.List.Basic
import Mathlib.Data.Nat.Digits.Defs
import Mathlib.Tactic.Ring
import Cuttlefish.CvdSendSms.SenderAddress

/-! # The user data of a short message

The characters of a message are the numbers of 7 bits in the octets that
`PDUFormatBuilder` prints. -/

namespace Cuttlefish.CvdSendSms

open ModemSimulator

/-! ## Unpacking -/

def septets : (count value : Nat) → List Nat
  | 0, _ => []
  | count + 1, value => value % 128 :: septets count (value / 128)

def octetsOf : Text → List Nat
  | high :: low :: rest => (PduParser.hex2ToByte [high, low]).toNat :: octetsOf rest
  | _ => []

def unpack (count : Nat) (encoded : Text) : List Nat :=
  septets count (Nat.ofDigits 256 (octetsOf encoded))

theorem septets_ofDigits (codes : List Nat) (small : ∀ code ∈ codes, code < 128) :
    septets codes.length (Nat.ofDigits 128 codes) = codes := by
  induction codes with
  | nil => rfl
  | cons code rest induction =>
      have less := small code List.mem_cons_self
      have first : Nat.ofDigits 128 (code :: rest) % 128 = code := by
        rw [Nat.ofDigits_cons]
        omega
      have behind : Nat.ofDigits 128 (code :: rest) / 128 = Nat.ofDigits 128 rest := by
        rw [Nat.ofDigits_cons]
        omega
      rw [List.length_cons, septets, first, behind,
        induction fun other member => small other (List.mem_cons_of_mem code member)]

theorem octetsOf_printed (octets : List (BitVec 8)) :
    octetsOf (octets.flatMap fun octet => decimalToHexString octet.toNat) =
      octets.map BitVec.toNat := by
  induction octets with
  | nil => rfl
  | cons octet rest induction =>
      have value := hex2ToByte_decimalToHexString octet.isLt
      rcases List.length_eq_two.mp (length_decimalToHexString octet.isLt) with ⟨high, low, printed⟩
      rw [printed] at value
      rw [List.flatMap_cons, printed, List.map_cons, ← induction]
      change (PduParser.hex2ToByte [high, low]).toNat :: octetsOf _ = _
      rw [value, Int.toNat_natCast]
      rfl

/-! ## One character -/

theorem toNat_shiftLeft_or (code : BitVec 8) {last : BitVec 8} {bits : Nat} (le : bits ≤ 7)
    (free : last.toNat < 2 ^ (8 - bits)) :
    (code <<< (8 - bits) ||| last).toNat =
      last.toNat + 2 ^ (8 - bits) * (code.toNat % 2 ^ bits) := by
  have whole : 2 ^ 8 = 2 ^ bits * 2 ^ (8 - bits) := by
    rw [← Nat.pow_add, Nat.add_sub_cancel' (by omega)]
  have cut : code.toNat <<< (8 - bits) % 2 ^ 8 = (code.toNat % 2 ^ bits) <<< (8 - bits) := by
    rw [Nat.shiftLeft_eq, Nat.shiftLeft_eq, whole, Nat.mul_mod_mul_right]
  rw [BitVec.toNat_or, BitVec.toNat_shiftLeft, cut, ← Nat.shiftLeft_add_eq_or_of_lt free,
    Nat.shiftLeft_eq, Nat.mul_comm, Nat.add_comm]

/-- What has been written for these codes: together the octets are the number whose
digits in base 128 are the codes, and above what the last octet holds there are as many
bits free as the next code is to put there. -/
structure Packed (state : Octets) (codes : List Nat) : Prop where
  bits : state.bitsToWriteInPrevOctet = codes.length % 8
  index : state.index = codes.length - codes.length / 8
  split : ∃ written spare, state.octets = written ++ List.replicate spare 0 ∧
    written.length = state.index ∧
    Nat.ofDigits 256 (written.map BitVec.toNat) = Nat.ofDigits 128 codes ∧
    ∀ front last, written = front ++ [last] → last.toNat < 2 ^ (8 - state.bitsToWriteInPrevOctet)

theorem packed_initial (size : Nat) : Packed ⟨List.replicate size 0, 0, 0⟩ [] where
  bits := rfl
  index := rfl
  split := by
    refine ⟨[], size, rfl, rfl, rfl, ?_⟩
    intro front last isLast
    simp at isLast

theorem modify_middle {α : Type} (front : List α) (last : α) (rest : List α) (change : α → α) :
    (front ++ last :: rest).modify front.length change = front ++ change last :: rest := by
  induction front with
  | nil => rfl
  | cons first front induction => simpa using induction

theorem Packed.write_first {state : Octets} (packed : Packed state []) {code : BitVec 8}
    (small : code.toNat < 128) (room : state.index < state.octets.length) :
    Packed (state.write false code) [code.toNat] := by
  have bits : state.bitsToWriteInPrevOctet = 0 := packed.bits
  have index : state.index = 0 := packed.index
  rcases packed.split with ⟨written, spare, octets, length, -, -⟩
  rw [index] at length
  rw [List.length_eq_zero_iff.mp length, List.nil_append] at octets
  rw [index, octets, List.length_replicate] at room
  rcases Nat.exists_eq_succ_of_ne_zero (Nat.ne_of_gt room) with ⟨more, isMore⟩
  rw [isMore, List.replicate_succ] at octets
  have isWritten : state.write false code = ⟨[code] ++ List.replicate more 0, 1, 1⟩ := by
    simp [Octets.write, bits, index, octets]
  rw [isWritten]
  refine ⟨rfl, by simp, [code], more, rfl, rfl, ?_, ?_⟩
  · simp
  · intro front last isLast
    have isCode : code = last := by
      have lasts := congrArg List.getLast? isLast
      simpa using lasts
    rw [← isCode]
    exact small

theorem pow_position {length : Nat} (some : 0 < length) :
    256 ^ (length - length / 8 - 1) * 2 ^ (8 - length % 8) = 128 ^ length := by
  have eight : 256 = 2 ^ 8 := rfl
  have seven : 128 = 2 ^ 7 := rfl
  rw [eight, seven, ← Nat.pow_mul, ← Nat.pow_mul, ← Nat.pow_add]
  congr 1
  omega

theorem spread_code (before weight last code : Nat) {position bits : Nat} (le : bits ≤ 7)
    (place : weight * 2 ^ (8 - bits) = position) :
    before + weight * (last + 2 ^ (8 - bits) * (code % 2 ^ bits) + 256 * (code / 2 ^ bits)) =
      before + weight * last + position * code := by
  have whole : 256 = 2 ^ (8 - bits) * 2 ^ bits := by
    rw [← Nat.pow_add, Nat.sub_add_cancel (by omega)]
  have parts := Nat.mod_add_div code (2 ^ bits)
  calc before + weight * (last + 2 ^ (8 - bits) * (code % 2 ^ bits) + 256 * (code / 2 ^ bits))
      = before + weight * last +
          weight * 2 ^ (8 - bits) * (code % 2 ^ bits + 2 ^ bits * (code / 2 ^ bits)) := by
        rw [whole]
        ring
    _ = before + weight * last + position * code := by rw [parts, place]

structure LastOctet (state : Octets) (codes : List Nat) (front : List (BitVec 8))
    (last : BitVec 8) (spare : Nat) : Prop where
  octets : state.octets = (front ++ [last]) ++ List.replicate spare 0
  index : state.index = front.length + 1
  value : Nat.ofDigits 256 (front.map BitVec.toNat) + 256 ^ front.length * last.toNat =
    Nat.ofDigits 128 codes
  free : last.toNat < 2 ^ (8 - codes.length % 8)

theorem Packed.lastOctet {state : Octets} {codes : List Nat} (packed : Packed state codes)
    (some : codes ≠ []) : ∃ front last spare, LastOctet state codes front last spare := by
  have positive : 0 < codes.length := List.length_pos_iff.mpr some
  rcases packed with ⟨bits, index, written, spare, octets, length, value, free⟩
  rcases List.eq_nil_or_concat written with isNil | ⟨front, last, isWritten⟩
  · rw [isNil, List.length_nil, index] at length
    omega
  · rw [List.concat_eq_append] at isWritten
    have isFree := free front last isWritten
    subst isWritten
    refine ⟨front, last, spare, octets, ?_, ?_, ?_⟩
    · rw [← length, List.length_append]
      rfl
    · rw [← value, List.map_append, Nat.ofDigits_append, List.length_map, List.map_singleton,
        Nat.ofDigits_singleton]
    · rw [← bits]
      exact isFree

section

variable {state : Octets} {codes : List Nat} {front : List (BitVec 8)} {last code : BitVec 8}
  {spare : Nat}

theorem LastOctet.modify (isLast : LastOctet state codes front last spare) (code : BitVec 8) :
    state.octets.modify (state.index - 1)
        (fun octet => code <<< (8 - codes.length % 8) ||| octet) =
      (front ++ [code <<< (8 - codes.length % 8) ||| last]) ++ List.replicate spare 0 := by
  rw [isLast.octets, isLast.index, List.append_assoc, List.append_assoc]
  exact modify_middle _ _ _ _

theorem LastOctet.ofDigits (packed : Packed state codes) (some : codes ≠ [])
    (isLast : LastOctet state codes front last spare) (code : BitVec 8) :
    Nat.ofDigits 256 (front.map BitVec.toNat) + 256 ^ front.length *
        ((code <<< (8 - codes.length % 8) ||| last).toNat +
          256 * (code.toNat / 2 ^ (codes.length % 8))) =
      Nat.ofDigits 128 (codes ++ [code.toNat]) := by
  have le : codes.length % 8 ≤ 7 := by omega
  have lengthFront : front.length = codes.length - codes.length / 8 - 1 := by
    rw [← packed.index, isLast.index]
    rfl
  have place : 256 ^ front.length * 2 ^ (8 - codes.length % 8) = 128 ^ codes.length := by
    rw [lengthFront, pow_position (List.length_pos_iff.mpr some)]
  rw [toNat_shiftLeft_or code le isLast.free, spread_code _ _ _ _ le place, isLast.value,
    Nat.ofDigits_append, Nat.ofDigits_singleton]

theorem Packed.write_new_octet (packed : Packed state codes) (some : codes ≠ [])
    (small : code.toNat < 128) (more : codes.length % 8 < 7)
    (room : state.index < state.octets.length) :
    Packed (state.write true code) (codes ++ [code.toNat]) := by
  rcases packed.lastOctet some with ⟨front, last, spare, isLast⟩
  have value := isLast.ofDigits packed some code
  have size : (codes ++ [code.toNat]).length = codes.length + 1 := List.length_append
  have position := packed.index
  rw [isLast.octets, isLast.index, List.length_append, List.length_append, List.length_replicate,
    List.length_singleton] at room
  rcases Nat.exists_eq_succ_of_ne_zero (by omega : spare ≠ 0) with ⟨left, isLeft⟩
  have shifted : (code >>> (codes.length % 8)).toNat = code.toNat / 2 ^ (codes.length % 8) := by
    rw [BitVec.toNat_ushiftRight, Nat.shiftRight_eq_div_pow]
  have placed : ((front ++ [code <<< (8 - codes.length % 8) ||| last]) ++
      List.replicate spare 0).set state.index (code >>> (codes.length % 8)) =
      (front ++ [code <<< (8 - codes.length % 8) ||| last, code >>> (codes.length % 8)]) ++
        List.replicate left 0 := by
    rw [isLast.index, isLeft, List.replicate_succ]
    simp
  have isNext : state.write true code =
      ⟨(front ++ [code <<< (8 - codes.length % 8) ||| last, code >>> (codes.length % 8)]) ++
        List.replicate left 0, state.index + 1, codes.length % 8 + 1⟩ := by
    simp only [Octets.write, packed.bits, if_pos more, isLast.modify, if_true, placed]
  rw [isNext]
  refine ⟨?_, ?_, _, left, rfl, ?_, ?_, ?_⟩
  · rw [size]
    dsimp only
    omega
  · rw [size]
    dsimp only
    omega
  · rw [List.length_append, isLast.index]
    rfl
  · rw [← value, List.map_append, Nat.ofDigits_append, List.length_map, List.map_cons,
      List.map_singleton, Nat.ofDigits_cons, Nat.ofDigits_singleton, shifted]
  · intro others newest isNewest
    have isShifted : code >>> (codes.length % 8) = newest := by
      have lasts := congrArg List.getLast? isNewest
      simpa using lasts
    have whole : 2 ^ (codes.length % 8) * 2 ^ (8 - (codes.length % 8 + 1)) = 128 := by
      rw [← Nat.pow_add, (by omega : codes.length % 8 + (8 - (codes.length % 8 + 1)) = 7)]
    rw [← isShifted, shifted]
    apply Nat.div_lt_of_lt_mul
    rw [whole]
    exact small

theorem Packed.write_last_octet (packed : Packed state codes) (some : codes ≠ [])
    (small : code.toNat < 128) (full : codes.length % 8 = 7) :
    Packed (state.write true code) (codes ++ [code.toNat]) := by
  rcases packed.lastOctet some with ⟨front, last, spare, isLast⟩
  have value := isLast.ofDigits packed some code
  have size : (codes ++ [code.toNat]).length = codes.length + 1 := List.length_append
  have position := packed.index
  have noMore : ¬ codes.length % 8 < 7 := by omega
  have nothing : code.toNat / 2 ^ (codes.length % 8) = 0 := by
    rw [full]
    exact Nat.div_eq_of_lt small
  have isNext : state.write true code =
      ⟨(front ++ [code <<< (8 - codes.length % 8) ||| last]) ++ List.replicate spare 0,
        state.index, 0⟩ := by
    simp only [Octets.write, packed.bits, if_neg noMore, isLast.modify, if_true]
  rw [isNext]
  refine ⟨?_, ?_, _, spare, rfl, ?_, ?_, ?_⟩
  · rw [size]
    dsimp only
    omega
  · rw [size]
    dsimp only
    omega
  · rw [List.length_append, isLast.index]
    rfl
  · rw [nothing, Nat.mul_zero, Nat.add_zero] at value
    rw [← value, List.map_append, Nat.ofDigits_append, List.length_map, List.map_singleton,
      Nat.ofDigits_singleton]
  · intro others newest isNewest
    exact newest.isLt

end

/-! ## A text -/

theorem Packed.packUnits {state : Octets} {codes : List Nat} (packed : Packed state codes)
    {units : List UInt16} {rest : List (BitVec 8)} (isRest : units.map gsm7Code = rest.map some)
    (small : ∀ code ∈ rest, code.toNat < 128)
    (room : state.octets.length =
      codes.length + rest.length - (codes.length + rest.length) / 8) :
    ∃ final, CvdSendSms.packUnits state (!codes.isEmpty) units = some final ∧
      Packed final (codes ++ rest.map BitVec.toNat) := by
  induction rest generalizing state codes units with
  | nil =>
      have noUnits : units = [] := by simpa using isRest
      refine ⟨state, ?_, ?_⟩
      · rw [noUnits]
        rfl
      · rw [List.map_nil, List.append_nil]
        exact packed
  | cons code rest induction =>
      cases units with
      | nil => cases isRest
      | cons uchar units =>
          simp only [List.map_cons, List.cons.injEq] at isRest
          rcases isRest with ⟨isCode, isRest⟩
          have less := small code List.mem_cons_self
          have index := packed.index
          rw [List.length_cons] at room
          have written : Packed (state.write (!codes.isEmpty) code) (codes ++ [code.toNat]) := by
            by_cases isFirst : codes = []
            · subst isFirst
              exact packed.write_first less (by simp only [List.length_nil] at index room; omega)
            · have isNext : (!codes.isEmpty) = true := by simpa using isFirst
              rw [isNext]
              by_cases full : codes.length % 8 = 7
              · exact packed.write_last_octet isFirst less full
              · exact packed.write_new_octet isFirst less (by omega) (by omega)
          have continued : (!(codes ++ [code.toNat]).isEmpty) = true := by simp
          have sameRoom : (state.write (!codes.isEmpty) code).octets.length =
              (codes ++ [code.toNat]).length + rest.length -
                ((codes ++ [code.toNat]).length + rest.length) / 8 := by
            rw [length_write, room, List.length_append, List.length_singleton]
            omega
          rcases induction written isRest (fun other member =>
            small other (List.mem_cons_of_mem code member)) sameRoom with ⟨final, isFinal, isPacked⟩
          rw [continued] at isFinal
          refine ⟨final, ?_, ?_⟩
          · rw [CvdSendSms.packUnits, isCode]
            exact isFinal
          · rw [List.append_assoc] at isPacked
            exact isPacked

theorem gsm7BitDefaultAlphabet_units :
    gsm7BitDefaultAlphabet.length = 128 ∧
      gsm7BitDefaultAlphabet.all (fun char => char.toNat ≠ 0 ∧ char.toNat < 65536) = true := by
  decide +kernel

theorem idxOf?_of_mem {char : Char} (member : char ∈ gsm7BitDefaultAlphabet) :
    gsm7BitDefaultAlphabet.idxOf? char = some (gsm7BitDefaultAlphabet.idxOf char) := by
  cases found : gsm7BitDefaultAlphabet.idxOf? char with
  | none => exact absurd member (List.idxOf?_eq_none_iff.mp found)
  | some index => rw [List.idxOf_eq_getD_idxOf?, found, Option.getD_some]

theorem gsm7Code_of_mem {char : Char} (member : char ∈ gsm7BitDefaultAlphabet) :
    gsm7Code char.toNat.toUInt16 = some (BitVec.ofNat 8 (gsm7BitDefaultAlphabet.idxOf char)) ∧
      gsm7BitDefaultAlphabet.idxOf char < 128 ∧ char.toNat ≠ 0 ∧ char.toNat < 65536 := by
  rcases gsm7BitDefaultAlphabet_units with ⟨length, units⟩
  have unit : char.toNat ≠ 0 ∧ char.toNat < 65536 :=
    of_decide_eq_true (List.all_eq_true.mp units char member)
  have toNat : char.toNat.toUInt16.toNat = char.toNat := UInt16.toNat_ofNat_of_lt unit.2
  have notSurrogate : ¬ (0xD800 ≤ char.toNat.toUInt16 ∧ char.toNat.toUInt16 ≤ 0xDFFF) := by
    intro surrogate
    have valid : char.toNat < 0xD800 ∨ 0xDFFF < char.toNat ∧ char.toNat < 0x110000 := char.valid
    have low : 0xD800 ≤ char.toNat := toNat ▸ UInt16.le_iff_toNat_le.mp surrogate.1
    have high : char.toNat ≤ 0xDFFF := toNat ▸ UInt16.le_iff_toNat_le.mp surrogate.2
    omega
  refine ⟨?_, length ▸ List.idxOf_lt_length_of_mem member, unit⟩
  rw [gsm7Code, if_neg notSurrogate, toNat, Char.ofNat_toNat, idxOf?_of_mem member]
  rfl

theorem gsm7bitEncode_eq {userData : Text}
    (inAlphabet : ∀ char ∈ userData, char ∈ gsm7BitDefaultAlphabet) :
    ∃ final, Packed final (userData.map gsm7BitDefaultAlphabet.idxOf) ∧
      final.octets.length = userData.length - userData.length / 8 ∧
      gsm7bitEncode (latinUnits userData) =
        final.octets.flatMap fun octet => decimalToHexString octet.toNat := by
  have isCodes : (latinUnits userData).map gsm7Code =
      (userData.map fun char => BitVec.ofNat 8 (gsm7BitDefaultAlphabet.idxOf char)).map some := by
    rw [latinUnits, List.map_map, List.map_map]
    apply List.map_congr_left
    intro char member
    exact (gsm7Code_of_mem (inAlphabet char member)).1
  have value : ∀ char ∈ userData,
      (BitVec.ofNat 8 (gsm7BitDefaultAlphabet.idxOf char)).toNat =
        gsm7BitDefaultAlphabet.idxOf char := by
    intro char member
    have less := (gsm7Code_of_mem (inAlphabet char member)).2.1
    exact Nat.mod_eq_of_lt (by omega)
  have small : ∀ code ∈ userData.map fun char =>
      BitVec.ofNat 8 (gsm7BitDefaultAlphabet.idxOf char), code.toNat < 128 := by
    intro code member
    rcases List.mem_map.mp member with ⟨char, inData, isCode⟩
    rw [← isCode, value char inData]
    exact (gsm7Code_of_mem (inAlphabet char inData)).2.1
  have initial := packed_initial (userData.length - userData.length / 8)
  rcases initial.packUnits isCodes small (by simp) with ⟨final, isFinal, isPacked⟩
  rw [List.nil_append, List.map_map] at isPacked
  have places : userData.map (BitVec.toNat ∘ fun char =>
      BitVec.ofNat 8 (gsm7BitDefaultAlphabet.idxOf char)) =
      userData.map gsm7BitDefaultAlphabet.idxOf := List.map_congr_left value
  refine ⟨final, ?_, ?_, ?_⟩
  · rw [← places]
    exact isPacked
  · rw [length_packUnits isFinal]
    exact List.length_replicate
  · have units : (latinUnits userData).length = userData.length := List.length_map _
    rw [gsm7bitEncode, units]
    change CvdSendSms.packUnits _ false _ = some final at isFinal
    rw [isFinal]

theorem unpack_gsm7bitEncode {userData : Text}
    (inAlphabet : ∀ char ∈ userData, char ∈ gsm7BitDefaultAlphabet) :
    unpack userData.length (gsm7bitEncode (latinUnits userData)) =
      userData.map gsm7BitDefaultAlphabet.idxOf := by
  rcases gsm7bitEncode_eq inAlphabet with ⟨final, isPacked, -, encoded⟩
  rcases isPacked.split with ⟨written, spare, octets, -, value, -⟩
  have zeros : (List.replicate spare (0 : BitVec 8)).map BitVec.toNat = List.replicate spare 0 :=
    List.map_replicate
  have small : ∀ code ∈ userData.map gsm7BitDefaultAlphabet.idxOf, code < 128 := by
    intro code member
    rcases List.mem_map.mp member with ⟨char, inData, isCode⟩
    rw [← isCode]
    exact (gsm7Code_of_mem (inAlphabet char inData)).2.1
  have unpacked := septets_ofDigits _ small
  rw [List.length_map] at unpacked
  rw [unpack, encoded, octetsOf_printed, octets, List.map_append, zeros,
    Nat.ofDigits_append_replicate_zero, value]
  exact unpacked

theorem length_encoded {userData : Text}
    (inAlphabet : ∀ char ∈ userData, char ∈ gsm7BitDefaultAlphabet) :
    (gsm7bitEncode (latinUnits userData)).length =
      2 * (userData.length - userData.length / 8) := by
  rcases gsm7bitEncode_eq inAlphabet with ⟨final, -, length, encoded⟩
  rw [encoded, length_printOctets, length]

/-! ## A message -/

/-- Characters that take one UTF-16 unit are that unit. -/
def KeepsUnits (unicodeString : Text → List UInt16) : Prop :=
  ∀ text : Text, (∀ char ∈ text, char.toNat ≠ 0 ∧ char.toNat < 65536) →
    unicodeString text = latinUnits text

theorem userData_pduOf {number encoded : Text} {count : Nat} (short : number.length < 256)
    (fits : count < 256) :
    (PduParser.decodePDU (pduOf number count encoded)).userData =
      decimalToHexString count ++ encoded := by
  have total := @length_pduOf number encoded count short fits
  have long : ¬ (pduOf number count encoded).length < 8 := by omega
  have groups : pduOf number count encoded =
      (['0', '0', '0', '1', '0', '0'] ++ addressOf number ++ ['0', '0'] ++ ['0', '0']) ++
        (decimalToHexString count ++ encoded) := by
    simp only [pduOf, addressOf, List.append_assoc]
  have start : (['0', '0', '0', '1', '0', '0'] ++ addressOf number ++ ['0', '0'] ++
      ['0', '0']).length = (semiOctetsEncode number).length + 14 := by
    simp only [List.length_append, length_addressOf short, List.length_cons, List.length_nil]
    omega
  rw [PduParser.decodePDU, if_neg long]
  dsimp only
  rw [protocolPos_pduOf short, PduParser.fieldAt]
  have place : min ((semiOctetsEncode number).length + 10 + 4 : Int).toNat
      (pduOf number count encoded).length = (semiOctetsEncode number).length + 14 := by
    omega
  rw [place, Int.toNat_natCast, ← start]
  rw [List.take_of_length_le (by rw [List.length_drop]; omega), groups, List.drop_left]

theorem build_over_alphabet {unicodeString : Text → List UInt16}
    (keepsUnits : KeepsUnits unicodeString) {userData senderNumber : Text}
    (nonempty : userData ≠ [])
    (inAlphabet : ∀ char ∈ userData, char ∈ gsm7BitDefaultAlphabet)
    (atMost : userData.length ≤ 160) (valid : isValidE164PhoneNumber senderNumber = true) :
    build unicodeString userData senderNumber =
      pduOf (withoutPlus senderNumber) userData.length (gsm7bitEncode (latinUnits userData)) := by
  have isUnits : unicodeString userData = latinUnits userData := by
    apply keepsUnits
    intro char member
    exact (gsm7Code_of_mem (inAlphabet char member)).2.2
  have units : (latinUnits userData).length = userData.length := List.length_map _
  have accepted : build unicodeString userData senderNumber ≠ [] := by
    have someNumber : senderNumber ≠ [] := by
      intro none
      rw [none] at valid
      cases valid
    have positive := List.length_pos_iff.mpr nonempty
    have encoded : gsm7bitEncode (latinUnits userData) ≠ [] := by
      apply List.ne_nil_of_length_pos
      rw [length_encoded inAlphabet]
      omega
    have short : ¬ 160 < (latinUnits userData).length := by omega
    simp [build, nonempty, someNumber, valid, isUnits, encoded, short]
  rw [(build_eq_pduOf accepted).2.2.2, isUnits, units]

/-- What is packed is unpacked to the same characters, with their number in front, and
the parser accepts it. -/
theorem gsm7_packing_round_trip (unicodeString : Text → List UInt16)
    (keepsUnits : KeepsUnits unicodeString) (userData senderNumber : Text)
    (nonempty : userData ≠ [])
    (inAlphabet : ∀ char ∈ userData, char ∈ gsm7BitDefaultAlphabet)
    (atMost : userData.length ≤ 160) (valid : isValidE164PhoneNumber senderNumber = true) :
    let parser := PduParser.decodePDU (build unicodeString userData senderNumber)
    parser.isValidPdu = true ∧
      PduParser.hex2ToByte (parser.userData.take 2) = userData.length ∧
      (parser.userData.drop 2).length = 2 * (userData.length - userData.length / 8) ∧
      unpack userData.length (parser.userData.drop 2) =
        userData.map gsm7BitDefaultAlphabet.idxOf := by
  have short := (isValid_withoutPlus valid).2
  have fits : userData.length < 256 := by omega
  have two := length_decimalToHexString fits
  have isLength := length_encoded inAlphabet
  dsimp only
  rw [build_over_alphabet keepsUnits nonempty inAlphabet atMost valid, userData_pduOf short fits,
    List.take_left' two, List.drop_left' two, hex2ToByte_decimalToHexString fits]
  exact ⟨(decodePDU_pduOf short fits isLength).1, rfl, isLength, unpack_gsm7bitEncode inAlphabet⟩

theorem gsm7_packing_round_trip_nine :
    let parser := PduParser.decodePDU (build latinUnits
      ['c', 'v', 'd', ' ', 's', 'e', 'n', 'd', '@'] ['+', '1', '2', '3'])
    parser.isValidPdu = true ∧
      PduParser.hex2ToByte (parser.userData.take 2) = 9 ∧
      (parser.userData.drop 2).length = 2 * (9 - 9 / 8) ∧
      unpack 9 (parser.userData.drop 2) =
        ['c', 'v', 'd', ' ', 's', 'e', 'n', 'd', '@'].map gsm7BitDefaultAlphabet.idxOf := by
  have inAlphabet : ['c', 'v', 'd', ' ', 's', 'e', 'n', 'd', '@'].all (fun char =>
      char ∈ gsm7BitDefaultAlphabet) = true := by
    decide +kernel
  apply gsm7_packing_round_trip latinUnits (fun _ _ => rfl)
    ['c', 'v', 'd', ' ', 's', 'e', 'n', 'd', '@'] ['+', '1', '2', '3'] (by decide)
  · intro char member
    exact of_decide_eq_true (List.all_eq_true.mp inAlphabet char member)
  · decide
  · decide +kernel

end Cuttlefish.CvdSendSms
