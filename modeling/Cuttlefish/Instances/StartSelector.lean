import Cuttlefish.Foundation.Decimal
import Cuttlefish.Result
import Mathlib.Data.List.Nodup

/-! # The ids of new instances

`StartSelectorParser` of `cli/selector/start_selector_parser.cpp`, with the part of
`InstanceNumsCalculator` of `libs/config/instance_nums.cpp` that it uses: how many instances are
asked for on the command line, and with which ids. -/

namespace Cuttlefish.Instances.StartSelector

def toInt32 (value : UInt32) : Int :=
  if value.toNat < 2147483648 then value.toNat else (value.toNat : Int) - 4294967296

def toUInt32 (value : Int) : UInt32 := UInt32.ofNat (value % 4294967296).toNat

/-! ## `InstanceNumsCalculator` -/

structure InstanceNumsCalculator where
  setterResult : Result Unit
  baseInstanceNum : Option Int
  numInstances : Option Int
  instanceNums : List Int

namespace InstanceNumsCalculator

def empty : InstanceNumsCalculator := ⟨.ok (), none, none, []⟩

def sums (base : Int) : List Nat → Result (List Int)
  | [] => .ok []
  | i :: rest => do
      if Decimal.FitsInt (i + base) then
        let others ← sums base rest
        .ok ((i + base) :: others)
      else .error (.abort "signed integer overflow")

def calculateFromFlags (calculator : InstanceNumsCalculator) : Result (List Int) := do
  calculator.setterResult
  cfExpect (calculator.instanceNums = [] || calculator.baseInstanceNum.isNone)
    ("At least one of --instance_nums or --base_instance_num" ++
      "should be given to call CalculateFromFlags()")
  match calculator.instanceNums, calculator.baseInstanceNum with
  | [], none => .error (.err "InstanceNums and BaseInstanceNum are mutually exclusive")
  | [], some base => sums base (List.range (calculator.numInstances.getD 1).toNat)
  | nums, _ =>
      -- a negative number is converted to a `size_t`
      cfExpect (calculator.numInstances.all fun num => (nums.length : Int) = num)
        "instance_nums_.size() == *num_instances_"
      .ok nums

end InstanceNumsCalculator

/-! ## The flags -/

section Absl

-- `absl::SimpleAtoi` to an `unsigned`
variable (simpleAtoi : Text → Option UInt32)

def parsePositiveNumber (token : Text) : Result UInt32 :=
  match simpleAtoi token with
  | none => .error (.err "absl::SimpleAtoi(token, &value)")
  | some value => if 0 < value then .ok value else .error (.err "value > 0")

def tryFromCuttlefishInstance (cuttlefishInstance : Option Text) : Option UInt32 :=
  match cuttlefishInstance with
  | none => none
  | some text => if text = [] then none else (parsePositiveNumber simpleAtoi text).toOption

def parseTokens : List Text → Result (List UInt32)
  | [] => .ok []
  | token :: tokens =>
      match parsePositiveNumber simpleAtoi token with
      | .error _ => .error (.err (String.ofList token ++ " must be a natural number"))
      | .ok num => (parseTokens tokens).map (num :: ·)

def parseNumInstances : Option Text → Result (Option UInt32)
  | none => .ok none
  | some flag => (parsePositiveNumber simpleAtoi flag).map some

def countNames (numInstances : Option UInt32) : Option (List Text) → Result (Option UInt32)
  | none => .ok numInstances
  | some [] => .ok numInstances
  | some names =>
      if numInstances.all (· = UInt32.ofNat names.length) then
        .ok (some (UInt32.ofNat names.length))
      else
        .error (.err ("The number of instances requested by --num_instances " ++
          " are not the same as what is implied by " ++ " --instance_name."))

def countNums (numInstances : Option UInt32) : Option Text → Result (Option UInt32)
  | none => .ok numInstances
  | some flag =>
      match parseTokens simpleAtoi (flag.splitOn ',') with
      | .error failure => .error failure
      | .ok _ =>
          let number := numInstances.getD (UInt32.ofNat (flag.splitOn ',').length)
          if number.toNat = (flag.splitOn ',').length then .ok (some number)
          else .error (.err "All information for the number of instances must match.")

def verifyNumOfInstances (numInstancesFlag : Option Text) (instanceNames : Option (List Text))
    (instanceNumsFlag : Option Text) (defaultNInstances : UInt32) : Result UInt32 := do
  let numInstances ← parseNumInstances simpleAtoi numInstancesFlag
  let numInstances ← countNames numInstances instanceNames
  let numInstances ← countNums simpleAtoi numInstances instanceNumsFlag
  return numInstances.getD defaultNInstances

def parseInstanceNums (instanceNumsFlag : Text) : Result (List UInt32) := do
  let nums ← parseTokens simpleAtoi (instanceNumsFlag.splitOn ',')
  cfExpect (decide nums.Nodup) "--instance_nums include duplicated numbers"
  return nums

def instanceFromEnvironment (cuttlefishInstanceEnv vsocSuffix : Option UInt32)
    (numInstances : UInt32) : Option (List UInt32) :=
  match cuttlefishInstanceEnv.or vsocSuffix with
  | none => none
  | some base =>
      some ((List.range numInstances.toNat).map fun i => base + UInt32.ofNat i)

structure InstanceIdsParams where
  numInstances : Option Text
  instanceNums : Option Text
  baseInstanceNum : Option Text
  cuttlefishInstanceEnv : Option UInt32
  vsocSuffix : Option UInt32

/-- Without ids the number of instances only is known. -/
structure ParsedInstanceIdsOpt where
  instanceIds : List UInt32
  nInstances : UInt32
  deriving DecidableEq

namespace ParsedInstanceIdsOpt

def ofIds (instanceIds : List UInt32) : ParsedInstanceIdsOpt :=
  ⟨instanceIds, UInt32.ofNat instanceIds.length⟩

def ofCount (nInstances : UInt32) : ParsedInstanceIdsOpt := ⟨[], nInstances⟩

end ParsedInstanceIdsOpt

def idsFromBase (numInstances base : UInt32) : Result ParsedInstanceIdsOpt := do
  let calculator : InstanceNumsCalculator :=
    { InstanceNumsCalculator.empty with
      numInstances := some (toInt32 numInstances)
      baseInstanceNum := some (toInt32 base) }
  let instanceIds ← calculator.calculateFromFlags
  cfExpect (instanceIds ≠ [])
    ("CalculateFromFlags() must be called when --num_instances or " ++
      "--base_instance_num is given, and must not return an empty set")
  return .ofIds (instanceIds.map toUInt32)

def handleInstanceIds (instanceNames : Option (List Text)) (params : InstanceIdsParams) :
    Result ParsedInstanceIdsOpt := do
  let numInstances ← verifyNumOfInstances simpleAtoi params.numInstances instanceNames
    params.instanceNums 1
  match params.instanceNums, params.baseInstanceNum with
  | none, none =>
      match instanceFromEnvironment params.cuttlefishInstanceEnv params.vsocSuffix
          numInstances with
      | some instanceIds => return .ofIds instanceIds
      | none => return .ofCount numInstances
  | some _, some _ =>
      .error (.err "-base_instance_num and -instance_nums are mutually exclusive.")
  | some instanceNums, none => do
      let parsedNums ← parseInstanceNums simpleAtoi instanceNums
      return .ofIds parsedNums
  | none, some baseInstanceNum => do
      let base ← parsePositiveNumber simpleAtoi baseInstanceNum
      idsFromBase numInstances base

/-- What is given on the command line and in the environment. -/
structure Given where
  numInstances : Option Text
  instanceNums : Option Text
  baseInstanceNum : Option Text
  instanceNames : Option (List Text)
  cuttlefishInstance : Option Text

namespace Given

variable (given : Given)

/-- The part of `ParseOptions` behind the reading of the flags. -/
def parseOptions : Result ParsedInstanceIdsOpt :=
  handleInstanceIds simpleAtoi given.instanceNames
    { numInstances := given.numInstances
      instanceNums := given.instanceNums
      baseInstanceNum := given.baseInstanceNum
      cuttlefishInstanceEnv := tryFromCuttlefishInstance simpleAtoi given.cuttlefishInstance
      vsocSuffix := none }

/-! ## What is asked for -/

def nameCount : Nat := (given.instanceNames.getD []).length

def counts : List Nat :=
  ((given.numInstances.bind simpleAtoi).map UInt32.toNat).toList ++
    (if given.nameCount = 0 then [] else [given.nameCount]) ++
      (given.instanceNums.map fun flag => (flag.splitOn ',').length).toList

def requested : Nat := ((given.counts simpleAtoi).head?).getD 1

def base : Option UInt32 :=
  match given.baseInstanceNum with
  | some flag => simpleAtoi flag
  | none => tryFromCuttlefishInstance simpleAtoi given.cuttlefishInstance

structure RightIds (ids : List UInt32) : Prop where
  length : ids.length = given.requested simpleAtoi
  positive : ∀ id ∈ ids, 0 < id
  distinct : ids.Nodup
  listed : ∀ flag, given.instanceNums = some flag →
    ids.map some = (flag.splitOn ',').map simpleAtoi
  consecutive : given.instanceNums = none → ∃ first, given.base simpleAtoi = some first ∧
    ids.map UInt32.toNat = List.range' first.toNat (given.requested simpleAtoi)

/-- What is accepted is not contradictory, and is what is asked for. -/
structure Valid (parsed : ParsedInstanceIdsOpt) : Prop where
  agree : ∀ first ∈ given.counts simpleAtoi, ∀ second ∈ given.counts simpleAtoi, first = second
  number : parsed.nInstances.toNat = given.requested simpleAtoi
  ids : parsed.instanceIds ≠ [] → given.RightIds simpleAtoi parsed.instanceIds

end Given

end Absl

/-! ## Numbers that wrap around -/

def wrapped (first count : Nat) : List Nat :=
  (List.range count).map fun i => (first + i) % 4294967296

@[simp] theorem length_wrapped (first count : Nat) : (wrapped first count).length = count := by
  simp [wrapped]

theorem wrapped_eq_range'_iff {first count : Nat} (some : 0 < count) :
    wrapped first count = List.range' first count ↔ first + count ≤ 4294967296 := by
  rw [wrapped]
  constructor
  · intro same
    have last := congrArg (·[count - 1]?) same
    have inside : count - 1 < count := by omega
    simp only [List.getElem?_map, List.getElem?_range inside, Option.map_some,
      List.getElem?_range' inside, Nat.one_mul, Option.some.injEq] at last
    have bound := Nat.mod_lt (first + (count - 1)) (show 0 < 4294967296 by decide)
    omega
  · intro fits
    rw [List.range'_eq_map_range]
    apply List.map_congr_left
    intro i inside
    have less := List.mem_range.mp inside
    exact Nat.mod_eq_of_lt (by omega)

theorem map_add_eq_wrapped (base : UInt32) (count : Nat) :
    ((List.range count).map fun i => base + UInt32.ofNat i).map UInt32.toNat =
      wrapped base.toNat count := by
  rw [List.map_map]
  apply List.map_congr_left
  intro i _
  change (base + UInt32.ofNat i).toNat = _
  rw [UInt32.toNat_add, UInt32.toNat_ofNat']
  omega

theorem toNat_toUInt32 (base : UInt32) (i : Nat) :
    (toUInt32 (i + toInt32 base)).toNat = (base.toNat + i) % 4294967296 := by
  have bound := base.toNat_lt
  rw [toUInt32, toInt32]
  rw [UInt32.toNat_ofNat']
  split
  · omega
  · omega

theorem eq_map_of_sums {base : Int} {indices : List Nat} {nums : List Int}
    (isSums : InstanceNumsCalculator.sums base indices = .ok nums) :
    nums = indices.map fun i : Nat => (i : Int) + base := by
  induction indices generalizing nums with
  | nil => exact (Except.ok.inj isSums).symm
  | cons i indices induction =>
      rw [InstanceNumsCalculator.sums] at isSums
      split at isSums
      · rcases Result.bind_eq_ok.mp isSums with ⟨others, isOthers, isNums⟩
        rw [← Except.ok.inj isNums, induction isOthers, List.map_cons]
      · cases isSums

/-! ## What is read -/

section Read

variable {simpleAtoi : Text → Option UInt32}

theorem parsePositiveNumber_eq_ok {token : Text} {value : UInt32} :
    parsePositiveNumber simpleAtoi token = .ok value ↔
      simpleAtoi token = some value ∧ 0 < value := by
  rw [parsePositiveNumber]
  cases parsed : simpleAtoi token with
  | none => simp
  | some other =>
      by_cases positive : 0 < other
      · simp only [if_pos positive, Except.ok.injEq, Option.some.injEq]
        constructor
        · intro same
          exact ⟨same, same ▸ positive⟩
        · exact And.left
      · simp only [if_neg positive, Option.some.injEq]
        constructor
        · intro isOk
          cases isOk
        · intro both
          exact absurd (both.1 ▸ both.2) positive

theorem parseTokens_ok {tokens : List Text} {nums : List UInt32}
    (parsed : parseTokens simpleAtoi tokens = .ok nums) :
    nums.map some = tokens.map simpleAtoi ∧ ∀ num ∈ nums, 0 < num := by
  induction tokens generalizing nums with
  | nil =>
      rw [← Except.ok.inj parsed]
      exact ⟨rfl, fun num member => by cases member⟩
  | cons token tokens induction =>
      rw [parseTokens] at parsed
      cases isNum : parsePositiveNumber simpleAtoi token with
      | error failure =>
          rw [isNum] at parsed
          cases parsed
      | ok num =>
          rcases parsePositiveNumber_eq_ok.mp isNum with ⟨isValue, positive⟩
          cases isRest : parseTokens simpleAtoi tokens with
          | error failure =>
              rw [isNum, isRest] at parsed
              cases parsed
          | ok rest =>
              rw [isNum, isRest] at parsed
              rcases induction isRest with ⟨values, allPositive⟩
              rw [← Except.ok.inj parsed]
              refine ⟨by rw [List.map_cons, List.map_cons, values, isValue], ?_⟩
              intro other member
              rcases List.mem_cons.mp member with isFirst | inRest
              · exact isFirst ▸ positive
              · exact allPositive other inRest

theorem tryFromCuttlefishInstance_positive {cuttlefishInstance : Option Text} {base : UInt32}
    (isBase : tryFromCuttlefishInstance simpleAtoi cuttlefishInstance = some base) :
    0 < base := by
  unfold tryFromCuttlefishInstance at isBase
  split at isBase
  · cases isBase
  · rename_i text
    split at isBase
    · cases isBase
    · cases parsed : parsePositiveNumber simpleAtoi text with
      | error failure =>
          rw [parsed] at isBase
          cases isBase
      | ok value =>
          rw [parsed] at isBase
          have isValue : value = base := Option.some.inj isBase
          exact isValue ▸ (parsePositiveNumber_eq_ok.mp parsed).2

/-! ## The number of instances -/

def Tells : (number : Option UInt32) → (counts : List Nat) → Prop
  | none, counts => counts = []
  | some number, counts =>
      counts ≠ [] ∧ (∀ count ∈ counts, count = number.toNat) ∧ 0 < number

theorem Tells.append {before : Option UInt32} {counts : List Nat} (tells : Tells before counts)
    {number : UInt32} (positive : 0 < number)
    (same : ∀ value, before = some value → value = number) :
    Tells (some number) (counts ++ [number.toNat]) := by
  refine ⟨by simp, ?_, positive⟩
  intro count member
  rcases List.mem_append.mp member with inCounts | isNumber
  · cases before with
    | none =>
        rw [show counts = [] from tells] at inCounts
        cases inCounts
    | some value => exact same value rfl ▸ tells.2.1 count inCounts
  · exact List.mem_singleton.mp isNumber

theorem parseNumInstances_tells {flag : Option Text} {number : Option UInt32}
    (parsed : parseNumInstances simpleAtoi flag = .ok number) :
    Tells number ((flag.bind simpleAtoi).map UInt32.toNat).toList := by
  cases flag with
  | none =>
      rw [← Except.ok.inj parsed]
      rfl
  | some text =>
      rw [parseNumInstances] at parsed
      cases isValue : parsePositiveNumber simpleAtoi text with
      | error failure =>
          rw [isValue] at parsed
          cases parsed
      | ok value =>
          rw [isValue] at parsed
          rcases parsePositiveNumber_eq_ok.mp isValue with ⟨isParsed, positive⟩
          rw [← Except.ok.inj parsed, Option.bind_some, isParsed]
          have none : Tells none [] := rfl
          exact none.append positive (fun other isOther => by cases isOther)

theorem countNames_tells {before after : Option UInt32} {names : Option (List Text)}
    (countable : (names.getD []).length < 4294967296)
    (counted : countNames before names = .ok after) {counts : List Nat}
    (tells : Tells before counts) :
    Tells after (counts ++
      if (names.getD []).length = 0 then [] else [(names.getD []).length]) := by
  cases names with
  | none =>
      rw [← Except.ok.inj counted]
      simpa using tells
  | some names =>
      cases names with
      | nil =>
          rw [← Except.ok.inj counted]
          simpa using tells
      | cons name names =>
          rw [countNames] at counted
          · split at counted
            · rename_i same
              have isLength : (UInt32.ofNat (name :: names).length).toNat =
                  (name :: names).length := by
                rw [UInt32.toNat_ofNat']
                exact Nat.mod_eq_of_lt countable
              have positive : 0 < UInt32.ofNat (name :: names).length := by
                rw [UInt32.lt_iff_toNat_lt, isLength]
                exact Nat.succ_pos _
              have both := tells.append positive fun value isSome => by
                rw [isSome] at same
                simpa using same
              rw [isLength] at both
              rw [← Except.ok.inj counted, Option.getD_some, if_neg (by simp)]
              exact both
            · cases counted
          · simp

theorem countNums_tells {before after : Option UInt32} {flag : Option Text}
    (counted : countNums simpleAtoi before flag = .ok after) {counts : List Nat}
    (tells : Tells before counts) :
    Tells after (counts ++ (flag.map fun flag => (flag.splitOn ',').length).toList) := by
  cases flag with
  | none =>
      rw [← Except.ok.inj counted, Option.map_none, Option.toList_none, List.append_nil]
      exact tells
  | some text =>
      rw [countNums] at counted
      split at counted
      · cases counted
      · dsimp only at counted
        split at counted
        · rename_i same
          have some_ := List.length_pos_iff.mpr (List.splitOn_ne_nil ',' text)
          have positive : 0 < before.getD (UInt32.ofNat (text.splitOn ',').length) := by
            rw [UInt32.lt_iff_toNat_lt, same]
            exact some_
          have both := tells.append positive fun value isSome => by rw [isSome, Option.getD_some]
          rw [same] at both
          rw [← Except.ok.inj counted]
          exact both
        · cases counted

theorem verifyNumOfInstances_tells {given : Given} {number : UInt32}
    (verified : verifyNumOfInstances simpleAtoi given.numInstances given.instanceNames
      given.instanceNums 1 = .ok number)
    (countable : given.nameCount < 4294967296) :
    ∃ told, Tells told (given.counts simpleAtoi) ∧ number = told.getD 1 := by
  rcases Result.bind_eq_ok.mp verified with ⟨first, isFirst, verified⟩
  rcases Result.bind_eq_ok.mp verified with ⟨second, isSecond, verified⟩
  rcases Result.bind_eq_ok.mp verified with ⟨third, isThird, isNumber⟩
  refine ⟨third, ?_, (Except.ok.inj isNumber).symm⟩
  apply countNums_tells isThird
  apply countNames_tells countable isSecond
  exact parseNumInstances_tells isFirst

theorem Tells.requested {given : Given} {told : Option UInt32}
    (tells : Tells told (given.counts simpleAtoi)) :
    (∀ first ∈ given.counts simpleAtoi, ∀ second ∈ given.counts simpleAtoi, first = second) ∧
      (told.getD 1).toNat = given.requested simpleAtoi ∧ 0 < told.getD 1 := by
  rw [Given.requested]
  cases told with
  | none =>
      have none : given.counts simpleAtoi = [] := tells
      rw [none]
      refine ⟨?_, rfl, ?_⟩
      · intro first isFirst
        cases isFirst
      · change (0 : UInt32) < 1
        decide
  | some number =>
      rcases tells with ⟨some_, all, positive⟩
      refine ⟨fun first isFirst second isSecond => (all first isFirst).trans
        (all second isSecond).symm, ?_, positive⟩
      cases isCounts : given.counts simpleAtoi with
      | nil => exact absurd isCounts some_
      | cons count counts =>
          exact (all count (isCounts ▸ List.mem_cons_self)).symm

theorem countable_of_agree {given : Given} {number : UInt32}
    (agree : ∀ first ∈ given.counts simpleAtoi, ∀ second ∈ given.counts simpleAtoi,
      first = second)
    (isNumber : number.toNat = given.requested simpleAtoi) : given.nameCount < 4294967296 := by
  by_contra notLess
  have named : given.nameCount ≠ 0 := by omega
  have member : given.nameCount ∈ given.counts simpleAtoi := by
    apply List.mem_append_left
    apply List.mem_append_right
    rw [if_neg named]
    exact List.mem_singleton_self _
  have bound := number.toNat_lt
  cases isCounts : given.counts simpleAtoi with
  | nil =>
      rw [isCounts] at member
      cases member
  | cons count counts =>
      have isCount : count = given.nameCount :=
        agree count (isCounts ▸ List.mem_cons_self) given.nameCount member
      rw [Given.requested, isCounts] at isNumber
      have same : number.toNat = count := isNumber
      omega

theorem verifyNumOfInstances_listed {given : Given} {number : UInt32} {flag : Text}
    (verified : verifyNumOfInstances simpleAtoi given.numInstances given.instanceNames
      given.instanceNums 1 = .ok number)
    (isListed : given.instanceNums = some flag) :
    number.toNat = (flag.splitOn ',').length := by
  rcases Result.bind_eq_ok.mp verified with ⟨first, -, verified⟩
  rcases Result.bind_eq_ok.mp verified with ⟨second, -, verified⟩
  rcases Result.bind_eq_ok.mp verified with ⟨third, isThird, isNumber⟩
  rw [isListed, countNums] at isThird
  split at isThird
  · cases isThird
  · dsimp only at isThird
    split at isThird
    · rename_i same
      rw [← Except.ok.inj isNumber, ← Except.ok.inj isThird]
      exact same
    · cases isThird

/-! ## The ids -/

theorem ofNat_length {ids : List UInt32} {number : UInt32} (isLength : ids.length = number.toNat) :
    UInt32.ofNat ids.length = number := by
  rw [isLength, UInt32.ofNat_toNat]

inductive Follows (simpleAtoi : Text → Option UInt32) (given : Given) (number : UInt32)
    (ids : List UInt32) : Prop
  | listed (flag : Text) (isListed : given.instanceNums = some flag)
      (parsed : parseInstanceNums simpleAtoi flag = .ok ids)
  | consecutive (first : UInt32) (notListed : given.instanceNums = none)
      (isBase : given.base simpleAtoi = some first) (positive : 0 < first)
      (isWrapped : ids.map UInt32.toNat = wrapped first.toNat number.toNat)
  | unknown (notListed : given.instanceNums = none) (noBase : given.base simpleAtoi = none)
      (none : ids = [])

theorem idsFromBase_ok {number base : UInt32} {parsed : ParsedInstanceIdsOpt}
    (isParsed : idsFromBase number base = .ok parsed) :
    parsed.nInstances = number ∧
      parsed.instanceIds.map UInt32.toNat = wrapped base.toNat number.toNat := by
  rcases Result.bind_eq_ok.mp isParsed with ⟨nums, isNums, isParsed⟩
  rcases Result.bind_eq_ok.mp isParsed with ⟨_, isSome, isParsed⟩
  have isSums : InstanceNumsCalculator.sums (toInt32 base)
      (List.range (toInt32 number).toNat) = .ok nums := isNums
  have isMap := eq_map_of_sums isSums
  have some_ : nums ≠ [] := by simpa using cfExpect_eq_ok.mp isSome
  -- a number that is negative as an `int` gives no ids
  have isNumber : (toInt32 number).toNat = number.toNat := by
    have positive : 0 < (toInt32 number).toNat := by
      apply Nat.pos_of_ne_zero
      intro zero
      rw [zero] at isMap
      exact some_ isMap
    have bound := number.toNat_lt
    rw [toInt32] at positive ⊢
    split at positive
    · rename_i small
      rw [if_pos small, Int.toNat_natCast]
    · omega
  have isWrapped : (nums.map toUInt32).map UInt32.toNat = wrapped base.toNat number.toNat := by
    rw [isMap, isNumber, List.map_map, List.map_map]
    apply List.map_congr_left
    intro i _
    exact toNat_toUInt32 base i
  have isLength : (nums.map toUInt32).length = number.toNat := by
    have lengths := congrArg List.length isWrapped
    rwa [List.length_map, length_wrapped] at lengths
  rw [← Except.ok.inj isParsed]
  exact ⟨ofNat_length isLength, isWrapped⟩

theorem follows_of_listed {given : Given} {number : UInt32} {flag : Text}
    {parsed : ParsedInstanceIdsOpt}
    (verified : verifyNumOfInstances simpleAtoi given.numInstances given.instanceNames
      given.instanceNums 1 = .ok number)
    (isListed : given.instanceNums = some flag)
    (isParsed : (do
      let parsedNums ← parseInstanceNums simpleAtoi flag
      return ParsedInstanceIdsOpt.ofIds parsedNums) = Except.ok parsed) :
    parsed.nInstances = number ∧ Follows simpleAtoi given number parsed.instanceIds := by
  rcases Result.bind_eq_ok.mp isParsed with ⟨nums, isNums, isParsed⟩
  rcases Result.bind_eq_ok.mp isNums with ⟨tokens, isTokens, isUnique⟩
  rcases Result.bind_eq_ok.mp isUnique with ⟨_, -, isSame⟩
  have isLength : nums.length = number.toNat := by
    have lengths := congrArg List.length (parseTokens_ok isTokens).1
    rw [verifyNumOfInstances_listed verified isListed, ← Except.ok.inj isSame]
    simpa using lengths
  rw [← Except.ok.inj isParsed]
  exact ⟨ofNat_length isLength, .listed flag isListed isNums⟩

theorem follows_of_environment {given : Given} {number : UInt32}
    (notListed : given.instanceNums = none) (noBase : given.baseInstanceNum = none)
    {parsed : ParsedInstanceIdsOpt}
    (isParsed : (instanceFromEnvironment
      (tryFromCuttlefishInstance simpleAtoi given.cuttlefishInstance) none number).elim
        (.ofCount number) .ofIds = parsed) :
    parsed.nInstances = number ∧ Follows simpleAtoi given number parsed.instanceIds := by
  have isBase : given.base simpleAtoi =
      tryFromCuttlefishInstance simpleAtoi given.cuttlefishInstance := by
    rw [Given.base, noBase]
  cases isEnv : tryFromCuttlefishInstance simpleAtoi given.cuttlefishInstance with
  | none =>
      rw [isEnv] at isParsed isBase
      rw [← isParsed]
      exact ⟨rfl, .unknown notListed isBase rfl⟩
  | some base =>
      rw [isEnv] at isParsed isBase
      have positive := tryFromCuttlefishInstance_positive isEnv
      have isWrapped := map_add_eq_wrapped base number.toNat
      have isLength : ((List.range number.toNat).map
          fun i => base + UInt32.ofNat i).length = number.toNat := by simp
      rw [← isParsed]
      exact ⟨ofNat_length isLength, .consecutive base notListed isBase positive isWrapped⟩

theorem parseOptions_ok {given : Given} {parsed : ParsedInstanceIdsOpt}
    (isParsed : given.parseOptions simpleAtoi = .ok parsed) :
    verifyNumOfInstances simpleAtoi given.numInstances given.instanceNames
        given.instanceNums 1 = .ok parsed.nInstances ∧
      Follows simpleAtoi given parsed.nInstances parsed.instanceIds := by
  rcases Result.bind_eq_ok.mp isParsed with ⟨number, verified, isParsed⟩
  dsimp only at verified isParsed
  have follows : parsed.nInstances = number ∧
      Follows simpleAtoi given number parsed.instanceIds := by
    cases isListed : given.instanceNums with
    | some flag =>
        rw [isListed] at isParsed
        cases isBase : given.baseInstanceNum with
        | some text =>
            rw [isBase] at isParsed
            cases isParsed
        | none =>
            rw [isBase] at isParsed
            exact follows_of_listed verified isListed isParsed
    | none =>
        rw [isListed] at isParsed
        cases isBase : given.baseInstanceNum with
        | some text =>
            rw [isBase] at isParsed
            rcases Result.bind_eq_ok.mp isParsed with ⟨base, isNumber, isParsed⟩
            rcases parsePositiveNumber_eq_ok.mp isNumber with ⟨isValue, positive⟩
            rcases idsFromBase_ok isParsed with ⟨isCount, isWrapped⟩
            have isGiven : given.base simpleAtoi = some base := by
              rw [Given.base, isBase]
              exact isValue
            exact ⟨isCount, .consecutive base isListed isGiven positive isWrapped⟩
        | none =>
            rw [isBase] at isParsed
            apply follows_of_environment isListed isBase
            cases isEnv : instanceFromEnvironment
                (tryFromCuttlefishInstance simpleAtoi given.cuttlefishInstance) none number with
            | none =>
                rw [isEnv] at isParsed
                exact Except.ok.inj isParsed
            | some ids =>
                rw [isEnv] at isParsed
                exact Except.ok.inj isParsed
  rw [follows.1]
  exact ⟨verified, follows.2⟩

theorem rightIds_of_listed {given : Given} {number : UInt32} {ids : List UInt32} {flag : Text}
    (isListed : given.instanceNums = some flag)
    (parsed : parseInstanceNums simpleAtoi flag = .ok ids)
    (verified : verifyNumOfInstances simpleAtoi given.numInstances given.instanceNames
      given.instanceNums 1 = .ok number)
    (isNumber : number.toNat = given.requested simpleAtoi) : given.RightIds simpleAtoi ids := by
  rcases Result.bind_eq_ok.mp parsed with ⟨nums, isNums, isIds⟩
  rcases Result.bind_eq_ok.mp isIds with ⟨_, isUnique, isSame⟩
  rcases parseTokens_ok isNums with ⟨values, allPositive⟩
  rw [Except.ok.inj isSame] at values allPositive isUnique
  constructor
  · have lengths := congrArg List.length values
    rw [← isNumber, verifyNumOfInstances_listed verified isListed]
    simpa using lengths
  · exact allPositive
  · exact of_decide_eq_true (cfExpect_eq_ok.mp isUnique)
  · intro other isOther
    rw [isListed] at isOther
    rw [← Option.some.inj isOther]
    exact values
  · intro notListed
    rw [isListed] at notListed
    cases notListed

theorem rightIds_of_range' {given : Given} {first : UInt32} {ids : List UInt32}
    (notListed : given.instanceNums = none) (isBase : given.base simpleAtoi = some first)
    (positive : 0 < first)
    (isRange : ids.map UInt32.toNat = List.range' first.toNat (given.requested simpleAtoi)) :
    given.RightIds simpleAtoi ids := by
  have below := UInt32.lt_iff_toNat_lt.mp positive
  have nodup : (ids.map UInt32.toNat).Nodup := isRange ▸ List.nodup_range'
  constructor
  · have lengths := congrArg List.length isRange
    simpa using lengths
  · intro id member
    have inRange : id.toNat ∈ ids.map UInt32.toNat := List.mem_map_of_mem member
    rw [isRange, List.mem_range'_1] at inRange
    rw [UInt32.lt_iff_toNat_lt]
    omega
  · exact List.Nodup.of_map _ nodup
  · intro flag isListed
    rw [notListed] at isListed
    cases isListed
  · exact fun _ => ⟨first, isBase, isRange⟩

theorem Follows.rightIds_iff {given : Given} {number : UInt32} {ids : List UInt32}
    (follows : Follows simpleAtoi given number ids)
    (verified : verifyNumOfInstances simpleAtoi given.numInstances given.instanceNames
      given.instanceNums 1 = .ok number)
    (isNumber : number.toNat = given.requested simpleAtoi) (positive : 0 < number) :
    (ids ≠ [] → given.RightIds simpleAtoi ids) ↔
      (given.instanceNums = none → ∀ first, given.base simpleAtoi = some first →
        first.toNat + given.requested simpleAtoi ≤ 4294967296) := by
  cases follows with
  | listed flag isListed parsed =>
      apply iff_of_true
      · exact fun _ => rightIds_of_listed isListed parsed verified isNumber
      · intro notListed
        rw [isListed] at notListed
        cases notListed
  | unknown notListed noBase none =>
      apply iff_of_true
      · exact fun nonempty => absurd none nonempty
      · intro _ first isBase
        rw [noBase] at isBase
        cases isBase
  | consecutive first notListed isBase firstPositive isWrapped =>
      have count : 0 < number.toNat := UInt32.lt_iff_toNat_lt.mp positive
      rw [isNumber] at isWrapped count
      constructor
      · intro right _ other isOther
        have nonempty : ids ≠ [] := by
          intro none
          have lengths := congrArg List.length isWrapped
          rw [none, length_wrapped] at lengths
          exact absurd lengths (Nat.ne_of_lt count)
        rcases (right nonempty).consecutive notListed with ⟨base, isRight, isRange⟩
        have same : other = base := Option.some.inj (isOther.symm.trans isRight)
        have isFirst : first = base := Option.some.inj (isBase.symm.trans isRight)
        rw [same]
        rw [isWrapped, isFirst] at isRange
        exact (wrapped_eq_range'_iff count).mp isRange
      · intro fits _
        have isRange := isWrapped.trans
          ((wrapped_eq_range'_iff count).mpr (fits notListed first isBase))
        exact rightIds_of_range' notListed isBase firstPositive isRange

/-- What is accepted is what is asked for, exactly when the names can be counted and the ids that
follow a base do not wrap around. -/
theorem parseOptions_valid_iff {given : Given} {parsed : ParsedInstanceIdsOpt}
    (isParsed : given.parseOptions simpleAtoi = .ok parsed) :
    given.Valid simpleAtoi parsed ↔
      given.nameCount < 4294967296 ∧
        (given.instanceNums = none → ∀ first, given.base simpleAtoi = some first →
          first.toNat + given.requested simpleAtoi ≤ 4294967296) := by
  rcases parseOptions_ok isParsed with ⟨verified, follows⟩
  by_cases countable : given.nameCount < 4294967296
  · rcases verifyNumOfInstances_tells verified countable with ⟨told, tells, isTold⟩
    rcases tells.requested with ⟨agree, isRequested, positive⟩
    rw [← isTold] at isRequested positive
    have rightIds := follows.rightIds_iff verified isRequested positive
    constructor
    · intro valid
      exact ⟨countable, rightIds.mp valid.ids⟩
    · intro both
      exact ⟨agree, isRequested, rightIds.mpr both.2⟩
  · constructor
    · intro valid
      exact absurd (countable_of_agree valid.agree valid.number) countable
    · intro both
      exact absurd both.1 countable

end Read

def digitsAtoi (text : Text) : Option UInt32 :=
  if text ≠ [] ∧ text.all Decimal.isDigit ∧ Decimal.digitsValue text < 4294967296 then
    some (UInt32.ofNat (Decimal.digitsValue text))
  else none

/-- `--num_instances=2 --base_instance_num=3`. -/
def twoFromThree : Given where
  numInstances := some ['2']
  instanceNums := none
  baseInstanceNum := some ['3']
  instanceNames := none
  cuttlefishInstance := none

theorem parseOptions_valid_iff_twoFromThree :
    twoFromThree.parseOptions digitsAtoi = .ok ⟨[3, 4], 2⟩ ∧
      (twoFromThree.Valid digitsAtoi ⟨[3, 4], 2⟩ ↔
        twoFromThree.nameCount < 4294967296 ∧
          (twoFromThree.instanceNums = none →
            ∀ first, twoFromThree.base digitsAtoi = some first →
              first.toNat + twoFromThree.requested digitsAtoi ≤ 4294967296)) :=
  have isParsed : twoFromThree.parseOptions digitsAtoi = .ok ⟨[3, 4], 2⟩ := by decide +kernel
  ⟨isParsed, parseOptions_valid_iff isParsed⟩

def twoFromLast : Given where
  numInstances := some ['2']
  instanceNums := none
  baseInstanceNum := none
  instanceNames := none
  cuttlefishInstance := some ['4', '2', '9', '4', '9', '6', '7', '2', '9', '5']

/-- An instance gets the id 0. -/
theorem ids_wrap_around :
    ¬ ∀ (simpleAtoi : Text → Option UInt32) (given : Given) (parsed : ParsedInstanceIdsOpt),
      given.parseOptions simpleAtoi = .ok parsed → given.Valid simpleAtoi parsed := by
  intro always
  have isParsed : twoFromLast.parseOptions digitsAtoi = .ok ⟨[4294967295, 0], 2⟩ := by
    decide +kernel
  have right := (always digitsAtoi twoFromLast _ isParsed).ids (by decide)
  exact absurd (right.positive 0 (by decide)) (by decide)

end Cuttlefish.Instances.StartSelector
