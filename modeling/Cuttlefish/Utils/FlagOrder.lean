import Mathlib.Data.List.Perm.Basic
import Mathlib.Logic.Function.Basic
import Cuttlefish.Utils.FlagParser

/-! # The order of flags

`ConsumeFlags`, which parses the arguments once for each flag and leaves to the next flag what the
one before it has not consumed, and what its result depends on. -/

namespace Cuttlefish.FlagParser

/-! ## Several flags -/

section

variable {State : Type}

def consumeFlagsImpl : List (Flag State) → List Text → State → Flag.Parsed State
  | [], args, state => ⟨.ok (), state, args⟩
  | flag :: flags, args, state =>
      let parsed := flag.parse args state
      match parsed.status with
      | .error failure => { parsed with status := .error failure }
      | .ok () => consumeFlagsImpl flags parsed.arguments parsed.value

def separateByEndOfOptionMark (args : List Text) : List Text × List Text :=
  (args.takeWhile (· ≠ ['-', '-']), (args.dropWhile (· ≠ ['-', '-'])).drop 1)

def consumeFlags (flags : List (Flag State)) (recognizeEndOfOptionMark : Bool) (args : List Text)
    (state : State) : Flag.Parsed State :=
  if recognizeEndOfOptionMark then
    let separated := separateByEndOfOptionMark args
    let parsed := consumeFlagsImpl flags separated.1 state
    { parsed with arguments := parsed.arguments ++ separated.2 }
  else consumeFlagsImpl flags args state

/-- Both succeed or both fail, and on success they leave the same values and arguments. -/
structure Flag.Parsed.Alike (parsed other : Flag.Parsed State) : Prop where
  succeeds : parsed.status.isOk = other.status.isOk
  same : parsed.status.isOk = true → parsed = other

end

section

variable {ι : Type} [DecidableEq ι] {Value : ι → Type}

/-- A flag bound to a variable of its own, one of the variables of a program. -/
def Flag.bound (i : ι) (flag : Flag (Value i)) : Flag (∀ i, Value i) where
  aliases := flag.aliases
  setter := flag.setter.map fun setter found values =>
    ((setter found (values i)).1, Function.update values i (setter found (values i)).2)

end

/-! ## Items -/

def Flag.aliasOf {Value : Type} (flag : Flag Value) (token : Text) : Option FlagAlias :=
  flag.aliases.find? (·.takes token)

def FlagAlias.following (flagAlias : FlagAlias) (rest : List Text) : List Text :=
  match flagAlias.mode with
  | .flagPrefix | .flagExact => []
  | .flagConsumesFollowing => rest.take 1
  | .flagConsumesArbitrary => rest.takeWhile fun arg => !likelyFlag arg

/-- A token that a flag consumes with its values, or one that no flag consumes. -/
structure Item (ι : Type) where
  owner : Option ι
  token : Text
  values : List Text

def Item.tokens {ι : Type} (item : Item ι) : List Text := item.token :: item.values

section

variable {ι : Type} {Value : ι → Type} (flags : ∀ i, Flag (Value i)) (order : List ι)

def ownerOf (token : Text) : Option ι := order.find? fun i => ((flags i).aliasOf token).isSome

def valuesOf (token : Text) (rest : List Text) : List Text :=
  match ownerOf flags order token with
  | none => []
  | some i =>
      match (flags i).aliasOf token with
      | none => []
      | some flagAlias => flagAlias.following rest

/-- The arguments from left to right, each token with its values. -/
def items : List Text → List (Item ι)
  | [] => []
  | token :: rest =>
      ⟨ownerOf flags order token, token, valuesOf flags order token rest⟩ ::
        items (rest.drop (valuesOf flags order token rest).length)
  termination_by args => args.length

def Unmatched (token : Text) : Prop := ∀ i ∈ order, (flags i).aliasOf token = none

/-- What a flag that consumes any number of values stops at, whichever of the other flags have
consumed their items before. -/
def Stops (i : ι) : List (Item ι) → Prop
  | [] => True
  | item :: rest =>
      likelyFlag item.token = true ∧ (item.owner = none ∨ item.owner = some i ∨ Stops i rest)

/-- The arguments from which the flags consume theirs in any order. -/
structure Unambiguous (args : List Text) : Prop where
  disjoint : ∀ token ∈ args, ∀ i ∈ order, ∀ j ∈ order,
    (flags i).aliasOf token ≠ none → (flags j).aliasOf token ≠ none → i = j
  values : ∀ item ∈ items flags order args, ∀ value ∈ item.values, Unmatched flags order value
  stops : ∀ before item rest i flagAlias, items flags order args = before ++ item :: rest →
    item.owner = some i → (flags i).aliasOf item.token = some flagAlias →
      flagAlias.mode = .flagConsumesArbitrary → Stops i rest

end

/-! ## One flag -/

section

variable {V : Type}

def ran (setter : FlagMatch → V → Result Unit × V) (found : FlagMatch) (value : V) : Option V :=
  match setter found value with
  | (.ok _, value) => some value
  | (.error _, _) => none

def FlagAlias.matches (flagAlias : FlagAlias) (token : Text) (values : List Text) :
    Option (List FlagMatch) :=
  match flagAlias.mode, values with
  | .flagPrefix, _ => some [⟨flagAlias.name, token.drop flagAlias.name.length⟩]
  | .flagExact, _ => some [⟨token, token⟩]
  | .flagConsumesFollowing, [] => none
  | .flagConsumesFollowing, value :: _ => some [⟨token, value⟩]
  | .flagConsumesArbitrary, values => some (values.map (⟨token, ·⟩) ++ [⟨token, []⟩])

def ranAll (setter : FlagMatch → V → Result Unit × V) : List FlagMatch → V → Option V
  | [], value => some value
  | found :: rest, value => (ran setter found value).bind (ranAll setter rest)

def Item.apply {ι : Type} (flag : Flag V) (item : Item ι) (value : V) : Option V := do
  let setter ← flag.setter
  let flagAlias ← flag.aliasOf item.token
  let found ← flagAlias.matches item.token item.values
  ranAll setter found value

def outcome {ι : Type} (flag : Flag V) : List (Item ι) → V → Option V
  | [], value => some value
  | item :: rest, value => (item.apply flag value).bind (outcome flag rest)

/-- `Parse` fails, or it goes on like this with the variable that the setter has left. -/
def Flag.Parsed.Leads (parsed : Flag.Parsed V) (value : Option V) (next : V → Flag.Parsed V) :
    Prop :=
  match value with
  | none => parsed.status.isOk = false
  | some value => parsed = next value

theorem Flag.Parsed.Leads.trans {parsed : Flag.Parsed V} {value : Option V}
    {between next : V → Flag.Parsed V} {step : V → Option V} (first : parsed.Leads value between)
    (second : ∀ value, (between value).Leads (step value) next) :
    parsed.Leads (value.bind step) next := by
  cases value with
  | none => exact first
  | some value =>
      change parsed = between value at first
      rw [first]
      exact second value

variable {flag : Flag V} {setter : FlagMatch → V → Result Unit × V}

/-- What `Parse` does behind a step of `Process`. -/
def Flag.after (flag : Flag V) (result : FlagProcessResult) (arg : Text) (rest : List Text)
    (value : V) : Flag.Parsed V :=
  match result with
  | .flagConsumed => flag.parse rest value
  | .flagConsumedWithFollowing => flag.parse (rest.drop 1) value
  | .flagConsumedOnlyFollowing => flag.parse (arg :: rest.drop 1) value
  | .flagSkip => { flag.parse rest value with arguments := arg :: (flag.parse rest value).arguments }

theorem leads_of_callSetter {arg : Text} {rest : List Text} {found : FlagMatch}
    {result : FlagProcessResult} {message : String} {value : V}
    (step : flag.process arg rest.head? value = callSetter setter found result message value)
    (some : result = .flagConsumedOnlyFollowing → rest ≠ []) :
    (flag.parse (arg :: rest) value).Leads (ran setter found value) (flag.after result arg rest) := by
  rw [Flag.parse, step, callSetter, ran]
  rcases setter found value with ⟨failure | success, next⟩
  · rfl
  · cases result with
    | flagSkip => rfl
    | flagConsumed => rfl
    | flagConsumedWithFollowing => rfl
    | flagConsumedOnlyFollowing =>
        cases rest with
        | nil => exact absurd rfl (some rfl)
        | cons next later => rfl

theorem process_of_aliasOf (isSetter : flag.setter = some setter) {token : Text}
    {flagAlias : FlagAlias} (takes : flag.aliasOf token = some flagAlias) (next : Option Text)
    (value : V) :
    flag.process token next value = processAlias setter flagAlias token next value := by
  rw [Flag.process_of_setter isSetter]
  rw [Flag.aliasOf] at takes
  rw [takes]

theorem process_of_none (hasSetter : flag.aliases ≠ [] → flag.setter.isSome) {token : Text}
    (untaken : flag.aliasOf token = none) (next : Option Text) (value : V) :
    flag.process token next value = (.ok .flagSkip, value) := by
  cases isSetter : flag.setter with
  | none =>
      have noAliases : flag.aliases = [] := by
        apply Classical.byContradiction
        intro some
        have set := hasSetter some
        rw [isSetter] at set
        cases set
      rw [Flag.process, isSetter, noAliases]
  | some setter =>
      rw [Flag.aliasOf] at untaken
      rw [Flag.process_of_setter isSetter, untaken]

theorem parse_append_of_untaken (hasSetter : flag.aliases ≠ [] → flag.setter.isSome)
    {tokens : List Text} (untaken : ∀ token ∈ tokens, flag.aliasOf token = none)
    (rest : List Text) (value : V) :
    flag.parse (tokens ++ rest) value =
      { flag.parse rest value with arguments := tokens ++ (flag.parse rest value).arguments } := by
  induction tokens with
  | nil => rfl
  | cons token tokens induction =>
      rcases List.forall_mem_cons.mp untaken with ⟨first, others⟩
      rw [List.cons_append, Flag.parse, process_of_none hasSetter first]
      dsimp only
      rw [induction others]
      rfl

def FlagAlias.Consumes (flagAlias : FlagAlias) (values rest : List Text) : Prop :=
  match flagAlias.mode with
  | .flagPrefix | .flagExact => values = []
  | .flagConsumesFollowing => values.length = 1 ∨ values = [] ∧ rest = []
  | .flagConsumesArbitrary =>
      (∀ value ∈ values, likelyFlag value = false) ∧
        ∀ next ∈ rest.head?, likelyFlag next = true

theorem leads_of_one {parsed : Flag.Parsed V} {found : FlagMatch} {value : V}
    {next : V → Flag.Parsed V} (leads : parsed.Leads (ran setter found value) next) :
    parsed.Leads (ranAll setter [found] value) next := by
  rw [ranAll]
  apply leads.trans
  intro value
  rfl

theorem leads_of_arbitrary (isSetter : flag.setter = some setter) {token name : Text}
    (takes : flag.aliasOf token = some ⟨.flagConsumesArbitrary, name⟩) {values rest : List Text}
    (areValues : ∀ value ∈ values, likelyFlag value = false)
    (stops : ∀ next ∈ rest.head?, likelyFlag next = true) (value : V) :
    (flag.parse (token :: (values ++ rest)) value).Leads
      (ranAll setter (values.map (⟨token, ·⟩) ++ [⟨token, []⟩]) value) (flag.parse rest) := by
  induction values generalizing value with
  | nil =>
      apply leads_of_one
      have step : flag.process token rest.head? value = callSetter setter ⟨token, []⟩ .flagConsumed
          ("Processing " ++ quoted token ++ " failed") value := by
        rw [process_of_aliasOf isSetter takes]
        cases isHead : rest.head? with
        | none => rfl
        | some next => exact if_pos (stops next isHead)
      exact leads_of_callSetter step (fun only => by cases only)
  | cons first values induction =>
      rcases List.forall_mem_cons.mp areValues with ⟨isValue, others⟩
      have step : flag.process token (first :: (values ++ rest)).head? value =
          callSetter setter ⟨token, first⟩ .flagConsumedOnlyFollowing
            ("Processing " ++ quoted token ++ " " ++ quoted first ++ " failed") value := by
        rw [process_of_aliasOf isSetter takes]
        exact if_neg (by rw [isValue]; exact Bool.false_ne_true)
      exact (leads_of_callSetter step fun _ => List.cons_ne_nil _ _).trans (induction others)

theorem leads_of_item (isSetter : flag.setter = some setter) {token : Text}
    {flagAlias : FlagAlias} (takes : flag.aliasOf token = some flagAlias)
    {values rest : List Text} (consumes : flagAlias.Consumes values rest) (value : V) :
    (flag.parse (token :: (values ++ rest)) value).Leads
      ((flagAlias.matches token values).bind (ranAll setter · value)) (flag.parse rest) := by
  rcases flagAlias with ⟨mode, name⟩
  cases mode with
  | flagPrefix =>
      change values = [] at consumes
      rw [consumes, List.nil_append]
      exact leads_of_one (leads_of_callSetter (process_of_aliasOf isSetter takes _ value)
        (fun only => by cases only))
  | flagExact =>
      change values = [] at consumes
      rw [consumes, List.nil_append]
      exact leads_of_one (leads_of_callSetter (process_of_aliasOf isSetter takes _ value)
        (fun only => by cases only))
  | flagConsumesFollowing =>
      rcases consumes with one | ⟨noValues, atEnd⟩
      · rcases List.length_eq_one_iff.mp one with ⟨only, isOnly⟩
        have step : flag.process token (only :: rest).head? value =
            callSetter setter ⟨token, only⟩ .flagConsumedWithFollowing
              ("Processing " ++ quoted token ++ " " ++ quoted only ++ " failed") value :=
          process_of_aliasOf isSetter takes _ value
        rw [isOnly]
        exact leads_of_one (leads_of_callSetter step (fun only => by cases only))
      · rw [noValues, atEnd, List.nil_append, Flag.parse, process_of_aliasOf isSetter takes]
        rfl
  | flagConsumesArbitrary =>
      rcases consumes with ⟨areValues, stops⟩
      exact leads_of_arbitrary isSetter takes areValues stops value

end

/-! ## The items of one flag -/

def render {ι : Type} (parts : List (Item ι)) : List Text := parts.flatMap Item.tokens

section

variable {ι : Type} {Value : ι → Type} {flags : ∀ i, Flag (Value i)} {order : List ι}

theorem valuesOf_isPrefix (token : Text) (rest : List Text) :
    valuesOf flags order token rest <+: rest := by
  rw [valuesOf]
  split
  · exact List.nil_prefix
  · split
    · exact List.nil_prefix
    · rw [FlagAlias.following]
      split
      · exact List.nil_prefix
      · exact List.nil_prefix
      · exact List.take_prefix 1 rest
      · exact List.takeWhile_prefix _

theorem render_items (args : List Text) : render (items flags order args) = args := by
  induction args using items.induct flags order with
  | case1 =>
      rw [items]
      rfl
  | case2 token rest induction =>
      rw [items]
      change token :: (valuesOf flags order token rest ++ render _) = _
      rw [induction, List.prefix_iff_eq_append.mp (valuesOf_isPrefix token rest)]

def FlagAlias.Takes (flagAlias : FlagAlias) (i : ι) (values : List Text) (rest : List (Item ι)) :
    Prop :=
  match flagAlias.mode with
  | .flagPrefix | .flagExact => values = []
  | .flagConsumesFollowing => values.length = 1 ∨ values = [] ∧ rest = []
  | .flagConsumesArbitrary => (∀ value ∈ values, likelyFlag value = false) ∧ Stops i rest

variable (flags order) in
structure Item.Placed (item : Item ι) (rest : List (Item ι)) : Prop where
  unmatched : ∀ value ∈ item.values, Unmatched flags order value
  alone : ∀ i ∈ order, item.owner ≠ some i → (flags i).aliasOf item.token = none
  owned : ∀ i, item.owner = some i → ∃ flagAlias,
    (flags i).aliasOf item.token = some flagAlias ∧ flagAlias.Takes i item.values rest

variable (flags order) in
inductive Arranged : List (Item ι) → Prop
  | nil : Arranged []
  | cons {item : Item ι} {rest : List (Item ι)} (placed : item.Placed flags order rest)
      (later : Arranged rest) : Arranged (item :: rest)

theorem ownerOf_eq_some {token : Text} {i : ι} (owner : ownerOf flags order token = some i) :
    i ∈ order ∧ (flags i).aliasOf token ≠ none := by
  constructor
  · exact List.mem_of_find?_eq_some owner
  · exact Option.isSome_iff_ne_none.mp (List.find?_some (p := fun i => ((flags i).aliasOf token).isSome) owner)

theorem takes_following {flagAlias : FlagAlias} {i : ι} {rest : List Text} {others : List (Item ι)}
    (render_ : render others = rest.drop (flagAlias.following rest).length)
    (stops : flagAlias.mode = .flagConsumesArbitrary → Stops i others) :
    flagAlias.Takes i (flagAlias.following rest) others := by
  rw [FlagAlias.Takes]
  rw [FlagAlias.following] at render_ ⊢
  cases mode : flagAlias.mode with
  | flagPrefix => rfl
  | flagExact => rfl
  | flagConsumesFollowing =>
      cases rest with
      | nil =>
          rw [mode] at render_
          refine .inr ⟨rfl, ?_⟩
          cases others with
          | nil => rfl
          | cons item others => cases render_
      | cons next rest => exact .inl rfl
  | flagConsumesArbitrary =>
      refine ⟨?_, stops mode⟩
      intro value member
      have notLikely := List.mem_takeWhile_imp member
      exact Bool.not_eq_true' _ ▸ notLikely

variable (flags order) in
theorem items_cons (token : Text) (rest : List Text) :
    items flags order (token :: rest) =
      ⟨ownerOf flags order token, token, valuesOf flags order token rest⟩ ::
        items flags order (rest.drop (valuesOf flags order token rest).length) := by
  rw [items]

theorem Unambiguous.tail {token : Text} {rest : List Text}
    (unambiguous : Unambiguous flags order (token :: rest)) :
    Unambiguous flags order (rest.drop (valuesOf flags order token rest).length) := by
  have parts := items_cons flags order token rest
  constructor
  · intro other member
    exact unambiguous.disjoint other (List.mem_cons_of_mem token (List.mem_of_mem_drop member))
  · intro item member
    apply unambiguous.values
    rw [parts]
    exact List.mem_cons_of_mem _ member
  · intro before item later i flagAlias split
    apply unambiguous.stops (_ :: before) item later i flagAlias
    rw [parts, split]
    rfl

theorem Unambiguous.arranged {args : List Text} (unambiguous : Unambiguous flags order args) :
    Arranged flags order (items flags order args) := by
  induction args using items.induct flags order with
  | case1 =>
      rw [items]
      exact .nil
  | case2 token rest induction =>
      have parts := items_cons flags order token rest
      have stops := fun i flagAlias => unambiguous.stops [] _ _ i flagAlias parts
      have values := unambiguous.values
      rw [parts] at values ⊢
      refine .cons ⟨(List.forall_mem_cons.mp values).1, ?_, ?_⟩ (induction unambiguous.tail)
      · intro i member notOwner
        apply Classical.byContradiction
        intro takes
        cases owner : ownerOf flags order token with
        | none =>
            have none := List.find?_eq_none.mp owner i member
            exact none (Option.isSome_iff_ne_none.mpr takes)
        | some j =>
            rcases ownerOf_eq_some owner with ⟨inOrder, ownerTakes⟩
            have same := unambiguous.disjoint token List.mem_cons_self i member j inOrder takes
              ownerTakes
            rw [same] at notOwner
            exact notOwner owner
      · intro i owner
        change ownerOf flags order token = some i at owner
        rcases Option.ne_none_iff_exists'.mp (ownerOf_eq_some owner).2 with ⟨flagAlias, takes⟩
        have isFollowing : valuesOf flags order token rest = flagAlias.following rest := by
          rw [valuesOf, owner]
          dsimp only
          rw [takes]
        refine ⟨flagAlias, takes, ?_⟩
        change flagAlias.Takes i (valuesOf flags order token rest) _
        rw [isFollowing]
        apply takes_following
        · rw [render_items]
        · have stops' := stops i flagAlias owner takes
          rw [isFollowing] at stops'
          exact stops'

theorem Item.Placed.untaken {i : ι} (member : i ∈ order) {item : Item ι} {rest : List (Item ι)}
    (placed : item.Placed flags order rest) (notOwner : item.owner ≠ some i) :
    ∀ token ∈ item.tokens, (flags i).aliasOf token = none := by
  intro token inItem
  rcases List.mem_cons.mp inItem with isToken | isValue
  · rw [isToken]
    exact placed.alone i member notOwner
  · exact placed.unmatched token isValue i member

theorem FlagAlias.Takes.consumes {flagAlias : FlagAlias} {i : ι} {values : List Text}
    {rest : List (Item ι)} (takes : flagAlias.Takes i values rest) :
    flagAlias.Consumes values (render rest) := by
  rw [FlagAlias.Takes] at takes
  rw [FlagAlias.Consumes]
  cases mode : flagAlias.mode with
  | flagPrefix =>
      rw [mode] at takes
      exact takes
  | flagExact =>
      rw [mode] at takes
      exact takes
  | flagConsumesFollowing =>
      rw [mode] at takes
      rcases takes with one | ⟨noValues, last⟩
      · exact .inl one
      · exact .inr ⟨noValues, by rw [last]; rfl⟩
  | flagConsumesArbitrary =>
      rw [mode] at takes
      refine ⟨takes.1, ?_⟩
      intro next isHead
      cases rest with
      | nil => cases isHead
      | cons item rest =>
          cases isHead
          exact takes.2.1

/-! ## Flags that have had their turn -/

def ownedBy [DecidableEq ι] (i : ι) (parts : List (Item ι)) : List (Item ι) :=
  parts.filter fun item => item.owner = some i

def leftBy [DecidableEq ι] (i : ι) (parts : List (Item ι)) : List (Item ι) :=
  parts.filter fun item => item.owner ≠ some i

variable [DecidableEq ι]

theorem Stops.leftBy {i j : ι} (different : j ≠ i) {parts : List (Item ι)} (stops : Stops i parts) :
    Stops i (leftBy j parts) := by
  induction parts with
  | nil => trivial
  | cons item rest induction =>
      rcases stops with ⟨likely, none | own | later⟩
      · have kept : item.owner ≠ some j := by simp [none]
        rw [FlagParser.leftBy, List.filter_cons_of_pos (by simpa using kept)]
        exact ⟨likely, .inl none⟩
      · have kept : item.owner ≠ some j := by
          rw [own]
          exact fun same => different (Option.some.inj same).symm
        rw [FlagParser.leftBy, List.filter_cons_of_pos (by simpa using kept)]
        exact ⟨likely, .inr (.inl own)⟩
      · by_cases kept : item.owner = some j
        · rw [FlagParser.leftBy, List.filter_cons_of_neg (by simpa using kept)]
          exact induction later
        · rw [FlagParser.leftBy, List.filter_cons_of_pos (by simpa using kept)]
          exact ⟨likely, .inr (.inr (induction later))⟩

theorem Arranged.leftBy {i : ι} {parts : List (Item ι)} (arranged : Arranged flags order parts) :
    Arranged flags order (leftBy i parts) := by
  induction arranged with
  | nil => exact .nil
  | @cons item rest placed later induction =>
      by_cases removed : item.owner = some i
      · rw [FlagParser.leftBy, List.filter_cons_of_neg (by simpa using removed)]
        exact induction
      · rw [FlagParser.leftBy, List.filter_cons_of_pos (by simpa using removed)]
        refine .cons ⟨placed.unmatched, placed.alone, ?_⟩ induction
        intro owner isOwner
        rcases placed.owned owner isOwner with ⟨flagAlias, takes, consumes⟩
        refine ⟨flagAlias, takes, ?_⟩
        rw [FlagAlias.Takes] at consumes ⊢
        cases mode : flagAlias.mode with
        | flagPrefix =>
            rw [mode] at consumes
            exact consumes
        | flagExact =>
            rw [mode] at consumes
            exact consumes
        | flagConsumesFollowing =>
            rw [mode] at consumes
            rcases consumes with one | ⟨noValues, last⟩
            · exact .inl one
            · exact .inr ⟨noValues, by rw [last]; rfl⟩
        | flagConsumesArbitrary =>
            rw [mode] at consumes
            have different : i ≠ owner := fun same => removed (same ▸ isOwner)
            exact ⟨consumes.1, consumes.2.leftBy different⟩

theorem parse_render (i : ι) (member : i ∈ order)
    (hasSetter : (flags i).aliases ≠ [] → (flags i).setter.isSome) {parts : List (Item ι)}
    (arranged : Arranged flags order parts) (value : Value i) :
    ((flags i).parse (render parts) value).Leads (outcome (flags i) (ownedBy i parts) value)
      (fun value => ⟨.ok (), value, render (leftBy i parts)⟩) := by
  induction arranged generalizing value with
  | nil =>
      change (flags i).parse [] value = _
      rw [Flag.parse]
      rfl
  | @cons item rest placed later induction =>
      by_cases owned : item.owner = some i
      · rw [ownedBy, leftBy, List.filter_cons_of_pos (by simpa using owned),
          List.filter_cons_of_neg (by simpa using owned), ← ownedBy, ← leftBy, outcome]
        rcases placed.owned i owned with ⟨flagAlias, takes, consumes⟩
        have some : (flags i).aliases ≠ [] := by
          intro none
          rw [Flag.aliasOf, none] at takes
          cases takes
        rcases Option.isSome_iff_exists.mp (hasSetter some) with ⟨setter, isSetter⟩
        have applied : item.apply (flags i) value =
            (flagAlias.matches item.token item.values).bind (ranAll setter · value) := by
          rw [Item.apply, isSetter, takes]
          rfl
        rw [applied]
        exact (leads_of_item isSetter takes consumes.consumes value).trans induction
      · rw [ownedBy, leftBy, List.filter_cons_of_neg (by simpa using owned),
          List.filter_cons_of_pos (by simpa using owned), ← ownedBy, ← leftBy]
        have step := induction value
        change ((flags i).parse (item.tokens ++ render rest) value).Leads _ _
        rw [parse_append_of_untaken hasSetter (placed.untaken member owned)]
        cases result : outcome (flags i) (ownedBy i rest) value with
        | none =>
            rw [result] at step
            exact step
        | some next =>
            rw [result] at step
            change (flags i).parse (render rest) value = _ at step
            rw [step]
            rfl

/-! ## Flags with variables of their own -/

theorem process_bound (i : ι) (flag : Flag (Value i)) (arg : Text) (next : Option Text)
    (values : ∀ i, Value i) :
    (flag.bound i).process arg next values =
      ((flag.process arg next (values i)).1,
        Function.update values i (flag.process arg next (values i)).2) := by
  have called : ∀ setter found result message,
      callSetter (fun found values => ((setter found (values i)).1,
        Function.update values i (setter found (values i)).2)) found result message values =
      ((callSetter setter found result message (values i)).1,
        Function.update values i (callSetter setter found result message (values i)).2) := by
    intro setter found result message
    rw [callSetter, callSetter]
    rcases setter found (values i) with ⟨failure | success, value⟩
    · rfl
    · rfl
  have unchanged : Function.update values i (values i) = values := Function.update_eq_self i values
  rcases flag with ⟨aliases, setter⟩
  cases setter with
  | none =>
      cases aliases with
      | nil => exact Prod.ext rfl unchanged.symm
      | cons flagAlias aliases => exact Prod.ext rfl unchanged.symm
  | some setter =>
      have sameAliases : (Flag.bound i ⟨aliases, some setter⟩).aliases = aliases := rfl
      rw [Flag.process_of_setter rfl, Flag.process_of_setter rfl, sameAliases]
      cases aliases.find? (·.takes arg) with
      | none => exact Prod.ext rfl unchanged.symm
      | some flagAlias =>
          rcases flagAlias with ⟨mode, name⟩
          cases mode with
          | flagPrefix => exact called setter _ _ _
          | flagExact => exact called setter _ _ _
          | flagConsumesFollowing =>
              cases next with
              | none => exact Prod.ext rfl unchanged.symm
              | some next => exact called setter _ _ _
          | flagConsumesArbitrary =>
              cases next with
              | none => exact called setter _ _ _
              | some next =>
                  dsimp only [processAlias]
                  split
                  · exact called setter _ _ _
                  · exact called setter _ _ _

theorem parse_bound (i : ι) (flag : Flag (Value i)) (args : List Text) (values : ∀ i, Value i) :
    (flag.bound i).parse args values =
      ⟨(flag.parse args (values i)).status,
        Function.update values i (flag.parse args (values i)).value,
        (flag.parse args (values i)).arguments⟩ := by
  obtain ⟨size, isSize⟩ : ∃ size, args.length = size := ⟨_, rfl⟩
  induction size using Nat.strongRecOn generalizing args values with
  | ind size induction =>
      cases args with
      | nil =>
          rw [Flag.parse, Flag.parse, Function.update_eq_self]
      | cons arg rest =>
          have later : ∀ shorter : List Text, shorter.length < size → ∀ value : Value i,
              (flag.bound i).parse shorter (Function.update values i value) =
                ⟨(flag.parse shorter value).status,
                  Function.update values i (flag.parse shorter value).value,
                  (flag.parse shorter value).arguments⟩ := by
            intro shorter less value
            have parsed := induction _ less shorter (Function.update values i value) rfl
            rw [Function.update_self, Function.update_idem] at parsed
            exact parsed
          rw [List.length_cons] at isSize
          rw [Flag.parse, Flag.parse, process_bound]
          rcases flag.process arg rest.head? (values i) with ⟨failure | result, value⟩
          · rfl
          · cases result with
            | flagSkip =>
                dsimp only
                rw [later rest (by omega) value]
            | flagConsumed => exact later rest (by omega) value
            | flagConsumedWithFollowing =>
                exact later (rest.drop 1) (by rw [List.length_drop]; omega) value
            | flagConsumedOnlyFollowing =>
                cases rest with
                | nil => rfl
                | cons next rest =>
                    rw [List.length_cons] at isSize
                    exact later (arg :: rest) (by rw [List.length_cons]; omega) value

/-! ## All flags -/

theorem ownedBy_leftBy {i j : ι} (different : j ≠ i) (parts : List (Item ι)) :
    ownedBy j (leftBy i parts) = ownedBy j parts := by
  rw [ownedBy, leftBy, List.filter_filter, ownedBy]
  apply List.filter_congr
  intro item _
  by_cases owned : item.owner = some j
  · simp [owned, different]
  · simp [owned]

def leftByAll (chosen : List ι) (parts : List (Item ι)) : List (Item ι) :=
  parts.filter fun item => chosen.all fun i => item.owner ≠ some i

theorem leftByAll_cons (i : ι) (chosen : List ι) (parts : List (Item ι)) :
    leftByAll (i :: chosen) parts = leftByAll chosen (leftBy i parts) := by
  rw [leftByAll, leftByAll, leftBy, List.filter_filter]
  apply List.filter_congr
  intro item _
  rw [List.all_cons, Bool.and_comm]

/-- What a list of flags makes of the items: the variable of each is what its items make of it, and
what is left are the items of the others. -/
structure Consumed (flags : ∀ i, Flag (Value i)) (chosen : List ι) (parts : List (Item ι))
    (values : ∀ i, Value i) (parsed : Flag.Parsed (∀ i, Value i)) : Prop where
  succeeds : parsed.status.isOk = true ↔
    ∀ i ∈ chosen, (outcome (flags i) (ownedBy i parts) (values i)).isSome
  takers : parsed.status.isOk = true → ∀ i ∈ chosen,
    some (parsed.value i) = outcome (flags i) (ownedBy i parts) (values i)
  others : parsed.status.isOk = true → ∀ i, i ∉ chosen → parsed.value i = values i
  arguments : parsed.status.isOk = true → parsed.arguments = render (leftByAll chosen parts)

theorem Consumed.cons {i : ι} {chosen : List ι} (notLater : i ∉ chosen) {parts : List (Item ι)}
    {values : ∀ i, Value i} {value : Value i}
    (first : outcome (flags i) (ownedBy i parts) (values i) = some value)
    {parsed : Flag.Parsed (∀ i, Value i)}
    (rest : Consumed flags chosen (leftBy i parts) (Function.update values i value) parsed) :
    Consumed flags (i :: chosen) parts values parsed := by
  have sameOutcome : ∀ j ∈ chosen,
      outcome (flags j) (ownedBy j (leftBy i parts)) (Function.update values i value j) =
        outcome (flags j) (ownedBy j parts) (values j) := by
    intro j member
    have different : j ≠ i := fun same => notLater (same ▸ member)
    rw [ownedBy_leftBy different, Function.update_of_ne different]
  constructor
  · rw [rest.succeeds, List.forall_mem_cons, first]
    constructor
    · intro later
      refine ⟨rfl, ?_⟩
      intro j member
      rw [← sameOutcome j member]
      exact later j member
    · intro all j member
      rw [sameOutcome j member]
      exact all.2 j member
  · intro ok j member
    rcases List.mem_cons.mp member with isFirst | later
    · rw [isFirst, first, rest.others ok i notLater, Function.update_self]
    · rw [rest.takers ok j later, sameOutcome j later]
  · intro ok j absent
    rw [List.mem_cons, not_or] at absent
    rw [rest.others ok j absent.2, Function.update_of_ne absent.1]
  · intro ok
    rw [rest.arguments ok, leftByAll_cons]

theorem consumed_render {chosen : List ι} (inOrder : ∀ i ∈ chosen, i ∈ order)
    (hasSetter : ∀ i ∈ order, (flags i).aliases ≠ [] → (flags i).setter.isSome)
    (distinct : chosen.Nodup) {parts : List (Item ι)} (arranged : Arranged flags order parts)
    (values : ∀ i, Value i) :
    Consumed flags chosen parts values
      (consumeFlagsImpl (chosen.map fun i => (flags i).bound i) (render parts) values) := by
  induction chosen generalizing parts values with
  | nil =>
      constructor
      · refine iff_of_true rfl ?_
        intro i member
        cases member
      · intro _ i member
        cases member
      · exact fun _ _ _ => rfl
      · intro _
        have all : leftByAll [] parts = parts := List.filter_eq_self.mpr fun _ _ => rfl
        rw [all]
        rfl
  | cons i chosen induction =>
      rcases List.forall_mem_cons.mp inOrder with ⟨member, others⟩
      rcases List.nodup_cons.mp distinct with ⟨notLater, distinctLater⟩
      have leads := parse_render i member (hasSetter i member) arranged (values i)
      rw [List.map_cons, consumeFlagsImpl, parse_bound]
      cases result : outcome (flags i) (ownedBy i parts) (values i) with
      | none =>
          rw [result] at leads
          cases status : ((flags i).parse (render parts) (values i)).status with
          | ok success =>
              rw [Flag.Parsed.Leads, status] at leads
              cases leads
          | error failure =>
              constructor
              · refine iff_of_false Bool.false_ne_true ?_
                intro all
                have first := all i List.mem_cons_self
                rw [result] at first
                cases first
              · intro ok
                cases ok
              · intro ok
                cases ok
              · intro ok
                cases ok
      | some value =>
          rw [result] at leads
          change (flags i).parse (render parts) (values i) = _ at leads
          rw [leads]
          exact Consumed.cons notLater result (induction others distinctLater arranged.leftBy _)

theorem eq_ok_of_isOk {status : Result Unit} (ok : status.isOk = true) : status = .ok () := by
  cases status with
  | error failure => cases ok
  | ok success => rfl

theorem Consumed.alike {chosen other : List ι} (perm : chosen.Perm other) {parts : List (Item ι)}
    {values : ∀ i, Value i} {parsed otherParsed : Flag.Parsed (∀ i, Value i)}
    (first : Consumed flags chosen parts values parsed)
    (second : Consumed flags other parts values otherParsed) : parsed.Alike otherParsed := by
  have together : parsed.status.isOk = true ↔ otherParsed.status.isOk = true := by
    rw [first.succeeds, second.succeeds]
    simp only [perm.mem_iff]
  constructor
  · exact Bool.eq_iff_iff.mpr together
  · intro ok
    have otherOk := together.mp ok
    have sameStatus : parsed.status = otherParsed.status :=
      (eq_ok_of_isOk ok).trans (eq_ok_of_isOk otherOk).symm
    have sameValue : parsed.value = otherParsed.value := by
      funext i
      by_cases member : i ∈ chosen
      · apply Option.some.inj
        rw [first.takers ok i member, second.takers otherOk i (perm.mem_iff.mp member)]
      · rw [first.others ok i member, second.others otherOk i (mt perm.mem_iff.mpr member)]
    have sameArguments : parsed.arguments = otherParsed.arguments := by
      rw [first.arguments ok, second.arguments otherOk, leftByAll, leftByAll]
      congr 2
      funext item
      exact perm.all_eq
    cases parsed
    cases otherParsed
    congr

/-- The arguments that `ConsumeFlags` lets the flags see. -/
def considered (recognizeEndOfOptionMark : Bool) (args : List Text) : List Text :=
  if recognizeEndOfOptionMark then (separateByEndOfOptionMark args).1 else args

/-- Flags with setters and variables of their own consume unambiguous arguments in any order. -/
theorem consumeFlags_perm (flags : ∀ i, Flag (Value i)) {order other : List ι}
    (perm : order.Perm other) (distinct : order.Nodup)
    (hasSetter : ∀ i ∈ order, (flags i).aliases ≠ [] → (flags i).setter.isSome)
    (recognizeEndOfOptionMark : Bool) {args : List Text}
    (unambiguous : Unambiguous flags order (considered recognizeEndOfOptionMark args))
    (values : ∀ i, Value i) :
    (consumeFlags (order.map fun i => (flags i).bound i) recognizeEndOfOptionMark args values).Alike
      (consumeFlags (other.map fun i => (flags i).bound i) recognizeEndOfOptionMark args
        values) := by
  have arranged := unambiguous.arranged
  have first := consumed_render (fun i member => member) hasSetter distinct arranged values
  have second := consumed_render (fun i => perm.mem_iff.mpr) hasSetter (perm.nodup_iff.mp distinct)
    arranged values
  have alike := first.alike perm second
  rw [render_items] at alike
  rw [considered] at alike
  cases recognizeEndOfOptionMark with
  | false => exact alike
  | true =>
      constructor
      · exact alike.succeeds
      · intro ok
        have same := alike.same ok
        rw [if_pos rfl] at same
        rw [consumeFlags, if_pos rfl, consumeFlags, if_pos rfl]
        dsimp only
        rw [same]

end

/-! ## Flags whose order matters -/

def collecting : Flag (List Text) where
  aliases := [⟨.flagConsumesArbitrary, ['-', 'b']⟩]
  setter := some fun found values => (.ok (), values ++ [found.value])

def quiet : Flag (List Text) where
  aliases := [⟨.flagPrefix, ['-', 'a', '=']⟩]
  setter := some fun _ values => (.ok (), values)

def withoutSetter : Flag (List Text) where
  aliases := [⟨.flagExact, ['-', 'n']⟩]
  setter := none

def assigning (name : Char) : Flag (List Text) where
  aliases := [⟨.flagPrefix, ['-', name, '=']⟩]
  setter := some fun found _ => (.ok (), [found.value])

theorem collecting_quiet :
    consumeFlags [collecting, quiet] false [['-', 'b'], ['v'], ['-', 'a', '='], ['w']] [] =
        ⟨.ok (), [['v'], []], [['w']]⟩ ∧
      consumeFlags [quiet, collecting] false [['-', 'b'], ['v'], ['-', 'a', '='], ['w']] [] =
        ⟨.ok (), [['v'], ['w'], []], []⟩ := by
  constructor
  all_goals simp +decide [consumeFlags, consumeFlagsImpl, Flag.parse, Flag.process, collecting,
    quiet, FlagAlias.takes, normalize, normalizeChar, processAlias, callSetter]

theorem withoutSetter_quiet :
    (consumeFlags [quiet, withoutSetter] false [['-', 'a', '=']] []).status.isOk = true ∧
      (consumeFlags [withoutSetter, quiet] false [['-', 'a', '=']] []).status.isOk = false := by
  constructor
  all_goals simp +decide [consumeFlags, consumeFlagsImpl, Flag.parse, Flag.process, withoutSetter,
    quiet, FlagAlias.takes, normalize, normalizeChar, processAlias, callSetter]

theorem assigning_twice :
    consumeFlags [assigning 'x', assigning 'y'] false [['-', 'x', '=', '1'], ['-', 'y', '=', '2']]
        [] = ⟨.ok (), [['2']], []⟩ ∧
      consumeFlags [assigning 'y', assigning 'x'] false
        [['-', 'x', '=', '1'], ['-', 'y', '=', '2']] [] = ⟨.ok (), [['1']], []⟩ := by
  constructor
  all_goals simp +decide [consumeFlags, consumeFlagsImpl, Flag.parse, Flag.process, assigning,
    FlagAlias.takes, normalize, normalizeChar, processAlias, callSetter]

/-- What stands behind the values of a flag is a value of it or not, a flag without a setter fails
or sees no arguments, and of two flags with one variable the later one decides: in each case the
aliases have no token in common and no value matches an alias. -/
theorem consumeFlags_depends_on_order :
    (∀ token ∈ [['-', 'b'], ['v'], ['-', 'a', '='], ['w']],
        collecting.aliasOf token = none ∨ quiet.aliasOf token = none) ∧
      (∀ value ∈ [['v'], ['w']], collecting.aliasOf value = none ∧ quiet.aliasOf value = none) ∧
      ¬ (consumeFlags [collecting, quiet] false
          [['-', 'b'], ['v'], ['-', 'a', '='], ['w']] []).Alike
        (consumeFlags [quiet, collecting] false
          [['-', 'b'], ['v'], ['-', 'a', '='], ['w']] []) ∧
      ¬ (consumeFlags [quiet, withoutSetter] false [['-', 'a', '=']] []).Alike
        (consumeFlags [withoutSetter, quiet] false [['-', 'a', '=']] []) ∧
      ¬ (consumeFlags [assigning 'x', assigning 'y'] false
          [['-', 'x', '=', '1'], ['-', 'y', '=', '2']] []).Alike
        (consumeFlags [assigning 'y', assigning 'x'] false
          [['-', 'x', '=', '1'], ['-', 'y', '=', '2']] []) := by
  refine ⟨by decide, by decide, ?_, ?_, ?_⟩
  · intro alike
    rw [collecting_quiet.1, collecting_quiet.2] at alike
    cases congrArg Flag.Parsed.arguments (alike.same rfl)
  · intro alike
    have same := alike.succeeds
    rw [withoutSetter_quiet.1, withoutSetter_quiet.2] at same
    cases same
  · intro alike
    rw [assigning_twice.1, assigning_twice.2] at alike
    exact absurd (congrArg Flag.Parsed.value (alike.same rfl)) (by decide)

/-! ## Two flags -/

def textFlags (second : Bool) : Flag Text := gflagsCompatString [if second then 'b' else 'a']

def textArgs : List Text := [['-', 'a'], ['1'], ['x'], ['-', 'b', '=', '2']]

theorem items_textArgs : items textFlags [false, true] textArgs =
    [⟨some false, ['-', 'a'], [['1']]⟩, ⟨none, ['x'], []⟩, ⟨some true, ['-', 'b', '=', '2'], []⟩] := by
  simp +decide [items, ownerOf, valuesOf, textFlags, textArgs, Flag.aliasOf, gflagsCompatString,
    gflagsCompatFlag, FlagAlias.takes, FlagAlias.following, normalize, normalizeChar, withEquals,
    dash, dashes]

theorem unambiguous_textArgs : Unambiguous textFlags [false, true] textArgs := by
  constructor
  · decide
  · rw [items_textArgs]
    unfold Unmatched
    decide
  · intro before item rest i flagAlias _ _ takes arbitrary
    have never : ∀ i, ∀ flagAlias ∈ (textFlags i).aliases,
        flagAlias.mode ≠ .flagConsumesArbitrary := by decide
    exact absurd arbitrary (never i flagAlias (List.mem_of_find?_eq_some takes))

theorem consumeFlags_perm_textFlags :
    (consumeFlags ([false, true].map fun i => (textFlags i).bound i) false textArgs
        fun _ => []).Alike
      (consumeFlags ([true, false].map fun i => (textFlags i).bound i) false textArgs
        fun _ => []) :=
  consumeFlags_perm textFlags (List.Perm.swap true false []) (by decide) (by decide) false
    unambiguous_textArgs (fun _ => [])

end Cuttlefish.FlagParser
