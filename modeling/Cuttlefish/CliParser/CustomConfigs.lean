import Cuttlefish.Config.CustomActions
import Cuttlefish.Utils.GeneratedFlag
import Mathlib.Data.List.Forall2

/-! # Custom actions of instances

`CustomConfigsFlags` of `cf_vm_configs.cpp` makes a flag for each instance that has custom
actions. `CustomActionConfigImpl` assigns what it finds in the flags by their order. -/

namespace Cuttlefish.CliParser

open FlagParser Config

structure Button where
  command : Option Text
  title : Option Text
  iconName : Option Text
  deriving DecidableEq

structure CustomAction where
  shellCommand : Option Text
  button : Option Button
  server : Option Text
  buttons : List Button
  deviceStates : List DeviceState
  deriving DecidableEq

/-- `MessageToJsonString` with `preserve_proto_field_names`. -/
abbrev MessageToJsonString := CustomAction → Except String Text

def customConfigsFlagValue (toJsonString : MessageToJsonString) (customActions : List CustomAction) :
    Result (Option Text) :=
  if customActions = [] then .ok none
  else
    match customActions.mapM toJsonString with
    | .error message => .error (.err message)
    | .ok jsonEntries => .ok (some ('[' :: [','].intercalate jsonEntries ++ [']']))

/-- The flags of the instances, each with its custom actions. -/
def customConfigsFlags (toJsonString : MessageToJsonString) :
    List (List CustomAction) → Result (List Text)
  | [] => .ok []
  | customActions :: instances => do
      let opt ← customConfigsFlagValue toJsonString customActions
      let others ← customConfigsFlags toJsonString instances
      return match opt with
      | none => others
      | some value => generateFlag "custom_actions".toList value :: others

/-! ## The JSON of a custom action

The fields that are set, under their names. -/

def setField (name : String) (value : Option Json) : List (Text × Json) :=
  (value.map fun json => (name.toList, json)).toList

def repeatedField (name : String) (values : List Json) : List (Text × Json) :=
  if values = [] then [] else [(name.toList, .array values)]

def Button.toJson (button : Button) : Json :=
  .object (setField "command" (button.command.map .string) ++
    setField "title" (button.title.map .string) ++
    setField "icon_name" (button.iconName.map .string))

def deviceStateToJson (state : DeviceState) : Json :=
  .object (setField "lid_switch_open" (state.lidSwitchOpen.map .bool) ++
    setField "hinge_angle_value" (state.hingeAngleValue.map .int))

def CustomAction.fields (action : CustomAction) : List (Text × Json) :=
  setField "shell_command" (action.shellCommand.map .string) ++
    setField "button" (action.button.map Button.toJson) ++
    setField "server" (action.server.map .string) ++
    repeatedField "buttons" (action.buttons.map Button.toJson) ++
    repeatedField "device_states" (action.deviceStates.map deviceStateToJson)

def CustomAction.toJson (action : CustomAction) : Json := .object action.fields

def ReadsPrinted (toJsonString : MessageToJsonString) (jsoncpp : Jsoncpp) : Prop :=
  ∀ (customActions : List CustomAction) (jsonEntries : List Text),
    customActions.mapM toJsonString = .ok jsonEntries →
      jsoncpp.parseJson ('[' :: [','].intercalate jsonEntries ++ [']']) =
        some (.array (customActions.map CustomAction.toJson))

/-! ## What is configured -/

/-- One of the three kinds, with angles that fit their field. -/
def CustomAction.Valid (action : CustomAction) : Prop :=
  [action.shellCommand.isSome, action.server.isSome, !action.deviceStates.isEmpty].count true = 1 ∧
    ∀ state ∈ action.deviceStates, ∀ value ∈ state.hingeAngleValue, Decimal.FitsInt value

structure Actions where
  shellActions : List CustomShellActionConfig
  actionServers : List CustomActionServerConfig
  deviceStateActions : List CustomDeviceStateActionConfig
  deriving DecidableEq

def Button.configured (button : Button) : ControlPanelButton :=
  ⟨button.command.getD [], button.title.getD [], button.iconName.getD []⟩

def CustomAction.configuredButton (action : CustomAction) : ControlPanelButton :=
  (action.button.map Button.configured).getD ⟨[], [], []⟩

def CustomAction.shellAction? (action : CustomAction) : Option CustomShellActionConfig :=
  action.shellCommand.map fun shellCommand => ⟨action.configuredButton, shellCommand⟩

def CustomAction.actionServer? (action : CustomAction) : Option CustomActionServerConfig :=
  action.server.map fun server => ⟨server, action.buttons.map Button.configured⟩

def CustomAction.deviceStateAction? (action : CustomAction) :
    Option CustomDeviceStateActionConfig :=
  if action.deviceStates = [] then none else some ⟨action.configuredButton, action.deviceStates⟩

def configured (customActions : List CustomAction) : Actions where
  shellActions := customActions.filterMap CustomAction.shellAction?
  actionServers := customActions.filterMap CustomAction.actionServer?
  deviceStateActions := customActions.filterMap CustomAction.deviceStateAction?

def returned (ids : List Text) (instanceActions : List InstanceActions) (idStr : Text) : Actions where
  shellActions := customShellActions ids instanceActions idStr
  actionServers := customActionServers ids instanceActions idStr
  deviceStateActions := customDeviceStateActions ids instanceActions idStr

/-! ## Reading what was printed -/

theorem lookup_setField (name : String) (value : Option Json) (key : Text) :
    (setField name value).lookup key = if key = name.toList then value else none := by
  cases value with
  | none => simp [setField]
  | some json =>
      by_cases same : key = name.toList
      · simp [setField, same]
      · have different : (key == name.toList) = false := beq_false_of_ne same
        simp [setField, List.lookup_cons, same, different]

theorem lookup_repeatedField (name : String) (values : List Json) (key : Text) :
    (repeatedField name values).lookup key =
      if key = name.toList ∧ values ≠ [] then some (.array values) else none := by
  rw [repeatedField]
  by_cases empty : values = []
  · simp [empty]
  · rw [if_neg empty]
    by_cases same : key = name.toList
    · simp [same, empty]
    · have different : (key == name.toList) = false := beq_false_of_ne same
      simp [List.lookup_cons, same, different]

variable {jsoncpp : Jsoncpp}

theorem getButton_toJson (button : Button) :
    getButton jsoncpp button.toJson = some button.configured := by
  have text : ∀ value : Option Text,
      asString jsoncpp ((value.map Json.string).getD .null) = some (value.getD []) := by
    intro value
    cases value <;> rfl
  simp [getButton, Button.toJson, Json.members?, Json.member, List.lookup_append, lookup_setField,
    text, Button.configured]

theorem getDeviceState_toJson {state : DeviceState}
    (fits : ∀ value ∈ state.hingeAngleValue, Decimal.FitsInt value) :
    getDeviceState jsoncpp (deviceStateToJson state) = some state := by
  rcases state with ⟨lid, hinge⟩
  have isLid : (setField "lid_switch_open" (lid.map .bool) ++
      setField "hinge_angle_value" (hinge.map .int)).lookup "lid_switch_open".toList =
        lid.map .bool := by
    rw [List.lookup_append, lookup_setField, lookup_setField, if_pos rfl, if_neg (by decide),
      Option.or_none]
  have isHinge : (setField "lid_switch_open" (lid.map .bool) ++
      setField "hinge_angle_value" (hinge.map .int)).lookup "hinge_angle_value".toList =
        hinge.map .int := by
    rw [List.lookup_append, lookup_setField, lookup_setField, if_neg (by decide), if_pos rfl,
      Option.none_or]
  rw [getDeviceState, deviceStateToJson, Json.members?]
  simp only [Option.bind_eq_bind, Option.bind_some, isMember, Json.member, isLid, isHinge]
  cases hinge with
  | none => cases lid <;> rfl
  | some value =>
      have isInt : asInt jsoncpp (.int value) = some value := if_pos (fits value rfl)
      cases lid <;> simp [isInt, asBool]

section Fields

variable (action : CustomAction)

theorem lookup_instance_id : action.fields.lookup "instance_id".toList = none := by
  simp [CustomAction.fields, List.lookup_append, lookup_setField, lookup_repeatedField]

theorem lookup_shell_command :
    action.fields.lookup "shell_command".toList = action.shellCommand.map .string := by
  simp [CustomAction.fields, List.lookup_append, lookup_setField, lookup_repeatedField]

theorem lookup_button :
    action.fields.lookup "button".toList = action.button.map Button.toJson := by
  simp [CustomAction.fields, List.lookup_append, lookup_setField, lookup_repeatedField]

theorem lookup_server : action.fields.lookup "server".toList = action.server.map .string := by
  simp [CustomAction.fields, List.lookup_append, lookup_setField, lookup_repeatedField]

theorem lookup_buttons : action.fields.lookup "buttons".toList =
    if action.buttons = [] then none else some (.array (action.buttons.map Button.toJson)) := by
  by_cases empty : action.buttons = [] <;>
    simp [CustomAction.fields, List.lookup_append, lookup_setField, lookup_repeatedField, empty]

theorem lookup_device_states : action.fields.lookup "device_states".toList =
    if action.deviceStates = [] then none
    else some (.array (action.deviceStates.map deviceStateToJson)) := by
  by_cases empty : action.deviceStates = [] <;>
    simp [CustomAction.fields, List.lookup_append, lookup_setField, lookup_repeatedField, empty]

theorem getButton_fields :
    getButton jsoncpp (Json.member action.fields "button".toList) =
      some action.configuredButton := by
  rw [Json.member, lookup_button, CustomAction.configuredButton]
  cases action.button with
  | none => rfl
  | some button => exact getButton_toJson button

end Fields

def addAction (entry : InstanceActions) (action : CustomAction) : InstanceActions :=
  { entry with
    customShellActions := entry.customShellActions ++ action.shellAction?.toList
    customActionServers := entry.customActionServers ++ action.actionServer?.toList
    customDeviceStateActions :=
      entry.customDeviceStateActions ++ action.deviceStateAction?.toList }

theorem getCustomShellActionConfigFromJson_fields {action : CustomAction} {shellCommand : Text}
    (isShell : action.shellCommand = some shellCommand) :
    getCustomShellActionConfigFromJson jsoncpp action.fields =
      some ⟨action.configuredButton, shellCommand⟩ := by
  rw [getCustomShellActionConfigFromJson, getButton_fields, Json.member, lookup_shell_command,
    isShell]
  rfl

theorem getCustomActionServerConfigFromJson_fields {action : CustomAction} {server : Text}
    (isServer : action.server = some server) :
    getCustomActionServerConfigFromJson jsoncpp action.fields =
      some ⟨server, action.buttons.map Button.configured⟩ := by
  have buttons : (valuesOf (Json.member action.fields "buttons".toList)).mapM (getButton jsoncpp) =
      some (action.buttons.map Button.configured) := by
    have values : valuesOf (Json.member action.fields "buttons".toList) =
        action.buttons.map Button.toJson := by
      rw [Json.member, lookup_buttons]
      split
      · next empty =>
        rw [empty]
        rfl
      · rfl
    rw [values, mapM_map fun button _ => getButton_toJson button]
  rw [getCustomActionServerConfigFromJson, buttons, Json.member, lookup_server, isServer]
  rfl

theorem getCustomDeviceStateActionConfigFromJson_fields {action : CustomAction}
    (some_ : action.deviceStates ≠ []) (fits : ∀ state ∈ action.deviceStates,
      ∀ value ∈ state.hingeAngleValue, Decimal.FitsInt value) :
    getCustomDeviceStateActionConfigFromJson jsoncpp action.fields =
      some ⟨action.configuredButton, action.deviceStates⟩ := by
  have states : (valuesOf (Json.member action.fields "device_states".toList)).mapM
      (getDeviceState jsoncpp) = some action.deviceStates := by
    have read : ∀ state ∈ action.deviceStates,
        getDeviceState jsoncpp (deviceStateToJson state) = some (id state) :=
      fun state isState => getDeviceState_toJson (fits state isState)
    rw [Json.member, lookup_device_states, if_neg some_]
    exact (mapM_map read).trans (congrArg some (List.map_id _))
  rw [getCustomDeviceStateActionConfigFromJson, getButton_fields, states]
  rfl

theorem CustomAction.Valid.kind {action : CustomAction} (valid : action.Valid) :
    (∃ shellCommand, action.shellCommand = some shellCommand ∧ action.server = none ∧
        action.deviceStates = []) ∨
      (∃ server, action.shellCommand = none ∧ action.server = some server ∧
        action.deviceStates = []) ∨
      (action.shellCommand = none ∧ action.server = none ∧ action.deviceStates ≠ []) := by
  have one := valid.1
  cases isShell : action.shellCommand <;> cases isServer : action.server <;>
    cases isStates : action.deviceStates <;> simp_all

theorem addActions_toJson {action : CustomAction} (valid : action.Valid)
    (instanceActions : List InstanceActions) (entry : InstanceActions) (rest : List Json) :
    addActions jsoncpp instanceActions entry (action.toJson :: rest) =
      addActions jsoncpp instanceActions (addAction entry action) rest := by
  rw [addActions]
  simp only [CustomAction.toJson, Json.members?, isMember, lookup_instance_id,
    lookup_shell_command, lookup_server, lookup_device_states, Option.bind_eq_bind,
    Option.bind_some, Option.isSome_map, Option.isSome_none]
  rcases valid.kind with ⟨shellCommand, isShell, isServer, none_⟩ |
    ⟨server, isShell, isServer, none_⟩ | ⟨isShell, isServer, some_⟩
  · rw [getCustomShellActionConfigFromJson_fields isShell]
    simp [isShell, isServer, none_, addAction, CustomAction.shellAction?,
      CustomAction.actionServer?, CustomAction.deviceStateAction?]
  · rw [getCustomActionServerConfigFromJson_fields isServer]
    simp [isShell, isServer, none_, addAction, CustomAction.shellAction?,
      CustomAction.actionServer?, CustomAction.deviceStateAction?]
  · rw [getCustomDeviceStateActionConfigFromJson_fields some_ valid.2]
    simp [isShell, isServer, some_, addAction, CustomAction.shellAction?,
      CustomAction.actionServer?, CustomAction.deviceStateAction?]

def entryActions (entry : InstanceActions) : Actions :=
  ⟨entry.customShellActions, entry.customActionServers, entry.customDeviceStateActions⟩

variable (jsoncpp) in
theorem addActions_map_toJson {customActions : List CustomAction}
    (valid : ∀ action ∈ customActions, action.Valid) (instanceActions : List InstanceActions)
    (entry : InstanceActions) (unnamed : entry.customActionInstanceId = "-1".toList) :
    ∃ last, addActions jsoncpp instanceActions entry (customActions.map CustomAction.toJson) =
        some (true, instanceActions ++ [last]) ∧
      entryActions last =
        ⟨entry.customShellActions ++ (configured customActions).shellActions,
          entry.customActionServers ++ (configured customActions).actionServers,
          entry.customDeviceStateActions ++ (configured customActions).deviceStateActions⟩ := by
  induction customActions generalizing entry with
  | nil =>
      refine ⟨_, by rw [List.map_nil, addActions, if_pos unnamed], ?_⟩
      simp [configured, entryActions]
  | cons action customActions induction =>
      rw [List.forall_mem_cons] at valid
      rcases induction valid.2 (addAction entry action) unnamed with ⟨last, added, actions⟩
      refine ⟨last, by rw [List.map_cons, addActions_toJson valid.1, added], actions.trans ?_⟩
      have cons : ∀ {Config : Type} (kind : CustomAction → Option Config),
          (action :: customActions).filterMap kind =
            (kind action).toList ++ customActions.filterMap kind := by
        intro Config kind
        cases isKind : kind action <;> simp [isKind]
      simp only [configured, addAction, cons, List.append_assoc]

/-! ## Processing the flags -/

theorem customConfigsFlags_eq_map {toJsonString : MessageToJsonString}
    {instances : List (List CustomAction)} {flags : List Text}
    (generated : customConfigsFlags toJsonString instances = .ok flags) :
    ∃ values : List Text, flags = values.map (generateFlag "custom_actions".toList) ∧
      List.Forall₂ (fun value customActions => ∃ jsonEntries,
        customActions.mapM toJsonString = .ok jsonEntries ∧
          value = '[' :: [','].intercalate jsonEntries ++ [']'])
        values (instances.filter (· ≠ [])) := by
  induction instances generalizing flags with
  | nil =>
      rcases Except.ok.inj generated with rfl
      exact ⟨[], rfl, .nil⟩
  | cons customActions instances induction =>
      simp only [customConfigsFlags, Result.bind_eq_ok, pure, Except.pure, Except.ok.injEq]
        at generated
      rcases generated with ⟨opt, isValue, others, rest, rfl⟩
      rcases induction rest with ⟨values, rfl, all⟩
      rw [customConfigsFlagValue] at isValue
      by_cases empty : customActions = []
      · rw [if_pos empty] at isValue
        rcases Except.ok.inj isValue with rfl
        exact ⟨values, rfl, by simpa [empty] using all⟩
      · rw [if_neg empty] at isValue
        cases printed : customActions.mapM toJsonString with
        | error message =>
            rw [printed] at isValue
            cases isValue
        | ok jsonEntries =>
            rw [printed] at isValue
            rcases Except.ok.inj isValue with rfl
            refine ⟨_ :: values, rfl, ?_⟩
            rw [List.filter_cons_of_pos (by simpa using empty)]
            exact .cons ⟨jsonEntries, printed, rfl⟩ all

theorem setCustomActions_printed {toJsonString : MessageToJsonString}
    (reads : ReadsPrinted toJsonString jsoncpp) {customActions : List CustomAction}
    (valid : ∀ action ∈ customActions, action.Valid) {jsonEntries : List Text}
    (printed : customActions.mapM toJsonString = .ok jsonEntries) (key : Text)
    (config : CustomActionConfig) :
    ∃ last, setCustomActions jsoncpp ⟨key, '[' :: [','].intercalate jsonEntries ++ [']']⟩ config =
        (.ok (), { config with instanceActions := config.instanceActions ++ [last] }) ∧
      entryActions last = configured customActions := by
  rcases addActions_map_toJson jsoncpp valid
    config.instanceActions (InstanceActions.empty "-1".toList) rfl with ⟨last, added, actions⟩
  refine ⟨last, ?_, actions⟩
  have notUnset : isUnset ('[' :: [','].intercalate jsonEntries ++ [']']) = false := by
    simp [isUnset]
  simp only [setCustomActions, notUnset, Bool.false_eq_true, if_false, reads _ _ printed, addJson,
    addJsonCustomActionConfigs, added]

theorem parse_customActions {toJsonString : MessageToJsonString}
    (reads : ReadsPrinted toJsonString jsoncpp) {instances : List (List CustomAction)}
    (valid : ∀ customActions ∈ instances, ∀ action ∈ customActions, action.Valid)
    {values : List Text}
    (printed : List.Forall₂ (fun value customActions => ∃ jsonEntries,
      customActions.mapM toJsonString = .ok jsonEntries ∧
        value = '[' :: [','].intercalate jsonEntries ++ [']']) values instances)
    (config : CustomActionConfig) :
    ∃ added, (customActionsFlag jsoncpp).parse
          (values.map (generateFlag "custom_actions".toList)) config =
        ⟨.ok (), { config with instanceActions := config.instanceActions ++ added }, []⟩ ∧
      added.map entryActions = instances.map configured := by
  induction printed generalizing config with
  | nil => exact ⟨[], by simp [Flag.parse], rfl⟩
  | cons head tail induction =>
      rw [List.forall_mem_cons] at valid
      rcases head with ⟨jsonEntries, isPrinted, rfl⟩
      rcases setCustomActions_printed reads valid.1 isPrinted
        (withEquals (dashes "custom_actions".toList)) config with ⟨last, set, actions⟩
      rcases induction valid.2
        { config with instanceActions := config.instanceActions ++ [last] } with
          ⟨added, parsed, all⟩
      refine ⟨last :: added, ?_, by rw [List.map_cons, List.map_cons, actions, all]⟩
      rw [List.map_cons, customActionsFlag, parse_generateFlag_self (by decide) _ _ set]
      exact parsed.trans (by simp)

theorem process_customConfigsFlags {toJsonString : MessageToJsonString}
    (reads : ReadsPrinted toJsonString jsoncpp) {files : ConfigFiles}
    (noFile : files.defaultCustomActionConfig = []) {instances : List (List CustomAction)}
    (valid : ∀ customActions ∈ instances, ∀ action ∈ customActions, action.Valid)
    {flags : List Text} (generated : customConfigsFlags toJsonString instances = .ok flags) :
    ∃ instanceActions, process jsoncpp files flags = .ok instanceActions ∧
      instanceActions.map entryActions =
        (instances.filter (· ≠ [])).map configured ++ [configured []] := by
  rcases customConfigsFlags_eq_map generated with ⟨values, rfl, printed⟩
  have validKept : ∀ customActions ∈ instances.filter (· ≠ []),
      ∀ action ∈ customActions, action.Valid :=
    fun customActions isKept => valid customActions (List.mem_of_mem_filter isKept)
  rcases parse_customActions reads validKept printed
    CustomActionConfig.initial with ⟨added, parsed, all⟩
  have notConfig : (customActionConfigFlag files).parse
      (values.map (generateFlag "custom_actions".toList)) CustomActionConfig.initial =
        ⟨.ok (), CustomActionConfig.initial,
          values.map (generateFlag "custom_actions".toList)⟩ := by
    have isName : IsName "custom_action_config".toList := by decide
    have different : ∀ other ∈ (values.map fun value => ("custom_actions".toList, value)).map (·.1),
        IsName other ∧ normalize "custom_action_config".toList ≠ normalize other := by
      intro other isOther
      simp only [List.map_map, List.mem_map] at isOther
      rcases isOther with ⟨value, -, rfl⟩
      exact (by decide : IsName "custom_actions".toList ∧
        normalize "custom_action_config".toList ≠ normalize "custom_actions".toList)
    have entries : values.map (generateFlag "custom_actions".toList) =
        (values.map fun value => ("custom_actions".toList, value)).map
          fun entry => generateFlag entry.1 entry.2 := by
      rw [List.map_map]
      rfl
    rw [entries]
    exact parse_generateFlags isName different _
  have processed : process jsoncpp files (values.map (generateFlag "custom_actions".toList)) =
      .ok (added ++ [InstanceActions.empty (printSize added.length)]) := by
    rw [process]
    dsimp only
    rw [notConfig]
    dsimp only
    rw [parsed]
    simp [noFile, CustomActionConfig.initial, addConfigFiles, addEmptyJsonCustomActionConfigs, bind,
      Except.bind]
  refine ⟨_, processed, ?_⟩
  rw [List.map_append, all]
  rfl

/-! ## Positions -/

section Positions

variable {Value : Type}

def pick (entries : List Value) (position : Nat) : Option Value :=
  entries[if position ≥ entries.length then 0 else position]?

theorem isSome_pick {entries : List Value} (some_ : entries ≠ []) (position : Nat) :
    (pick entries position).isSome := by
  have positive := List.length_pos_iff.mpr some_
  rw [pick]
  split
  · simpa using positive
  · simpa using Nat.lt_of_not_le ‹_›

theorem pick_eq_getElem? {entries : List Value} {first : Value} (isFirst : entries[0]? = some first)
    {position : Nat} (near : position ≤ entries.length) :
    pick entries position = (entries ++ [first])[position]? := by
  rw [pick]
  by_cases inside : position < entries.length
  · rw [if_neg (Nat.not_le.mpr inside), List.getElem?_append_left inside]
  · have isEnd : position = entries.length := by omega
    rw [if_pos (Nat.le_of_not_lt inside), isFirst, isEnd, List.getElem?_append_right (Nat.le_refl _)]
    simp

theorem forall_pick_iff [DecidableEq Value] {empty : Value} {values kept : List Value}
    (notEmpty : ∀ value ∈ kept, value ≠ empty)
    (count : values.countP (· ≠ empty) = kept.length) :
    (∀ position value, values[position]? = some value →
        pick (kept ++ [empty]) position = some value) ↔
      kept = [] ∨ values <+: kept ++ [empty] := by
  constructor
  · intro picked
    refine or_iff_not_imp_left.mpr fun someKept => ?_
    rcases List.exists_cons_of_ne_nil someKept with ⟨first, rest, isKept⟩
    have isFirst : (kept ++ [empty])[0]? = some first := by simp [isKept]
    -- Behind the empty entry is the first one again, and one value too many is not empty.
    have front : values.take (kept.length + 2) <+: kept ++ [empty] ++ [first] := by
      rw [List.prefix_iff_getElem?]
      intro position inside
      rw [List.length_take] at inside
      have value := picked position values[position] (List.getElem?_eq_getElem (by omega))
      rw [pick_eq_getElem? isFirst (by simp; omega)] at value
      rw [value, List.getElem_take]
    have short : values.length ≤ kept.length + 1 := by
      by_contra long
      have whole : values.take (kept.length + 2) = kept ++ [empty] ++ [first] := by
        refine front.eq_of_length ?_
        simp
        omega
      have more : (values.take (kept.length + 2)).countP (· ≠ empty) ≤ kept.length :=
        count ▸ (List.take_sublist _ values).countP_le
      rw [whole, List.countP_append, List.countP_append,
        List.countP_eq_length.mpr fun value isValue => decide_eq_true (notEmpty value isValue)] at more
      have isNotEmpty : first ≠ empty := notEmpty first (by simp [isKept])
      have last : [first].countP (· ≠ empty) = 1 := by simp [isNotEmpty]
      rw [last] at more
      omega
    rw [List.take_of_length_le (by omega)] at front
    exact List.prefix_of_prefix_length_le front (List.prefix_append _ _) (by simpa using short)
  · rintro (noneKept | isPrefix) position value isValue
    · have allEmpty : values.countP (· ≠ empty) = 0 := by rw [count, noneKept]; rfl
      have isEmpty : value = empty := by
        by_contra other
        have positive : 0 < values.countP (· ≠ empty) := List.countP_pos_iff.mpr
          ⟨value, List.mem_of_getElem? isValue, by simpa using other⟩
        omega
      rw [noneKept, isEmpty, pick]
      split <;> simp_all
    · rcases List.getElem?_eq_some_iff.mp isValue with ⟨inside, rfl⟩
      have bound := isPrefix.length_le
      rw [pick, if_neg (by omega), isPrefix.getElem inside]
      exact List.getElem?_eq_getElem _

end Positions

/-! ## The main result -/

/-- The custom actions of the instances in the order of `CuttlefishConfig::Instances`. -/
def inOrder (ids : List Text) (instances : List (List CustomAction)) : List (List CustomAction) :=
  (Config.instances ids).map fun id => ((ids.zip instances).lookup id).getD []

theorem lookup_of_mem {Value : Type} {entries : List (Text × Value)}
    (nodup : (entries.map (·.1)).Nodup) {entry : Text × Value} (isEntry : entry ∈ entries) :
    entries.lookup entry.1 = some entry.2 := by
  induction entries with
  | nil => cases isEntry
  | cons head entries induction =>
      rw [List.map_cons, List.nodup_cons] at nodup
      rcases List.mem_cons.mp isEntry with rfl | inRest
      · exact List.lookup_cons_self
      · have different : (entry.1 == head.1) = false :=
          beq_false_of_ne fun same => nodup.1 (same ▸ List.mem_map_of_mem inRest)
        rcases head with ⟨name, value⟩
        simp [List.lookup_cons, different, induction nodup.2 inRest]

theorem perm_instances (ids : List Text) : (Config.instances ids).Perm ids :=
  List.perm_insertionSort _ ids

theorem getInstanceOrder_getElem {ids : List Text} (nodup : ids.Nodup) {position : Nat} {id : Text}
    (isId : (Config.instances ids)[position]? = some id) : getInstanceOrder ids id = position := by
  rcases List.getElem?_eq_some_iff.mp isId with ⟨inside, rfl⟩
  have sorted := (perm_instances ids).nodup_iff.mpr nodup
  rw [getInstanceOrder]
  rw [List.findIdx_eq inside]
  refine ⟨by simp, fun earlier before => ?_⟩
  simpa using fun same => Nat.ne_of_lt before
    ((List.Nodup.getElem_inj_iff sorted).mp same)

theorem configured_ne {customActions : List CustomAction}
    (valid : ∀ action ∈ customActions, action.Valid) (some_ : customActions ≠ []) :
    configured customActions ≠ configured [] := by
  rcases List.exists_cons_of_ne_nil some_ with ⟨action, rest, rfl⟩
  intro same
  have shell := congrArg Actions.shellActions same
  have servers := congrArg Actions.actionServers same
  have states := congrArg Actions.deviceStateActions same
  rcases (valid action (by simp)).kind with ⟨_, isShell, -, -⟩ | ⟨_, -, isServer, -⟩ | ⟨-, -, isStates⟩
  · simp [configured, CustomAction.shellAction?, isShell] at shell
  · simp [configured, CustomAction.actionServer?, isServer] at servers
  · simp [configured, CustomAction.deviceStateAction?, isStates] at states

theorem returned_eq {ids : List Text} {instanceActions : List InstanceActions} {id : Text}
    (named : id ≠ []) :
    returned ids instanceActions id =
      (pick (instanceActions.map entryActions) (getInstanceOrder ids id)).getD ⟨[], [], []⟩ := by
  simp only [returned, customShellActions, customActionServers, customDeviceStateActions, actionsOf,
    pick, if_neg named, List.length_map, List.getElem?_map]
  cases instanceActions[if getInstanceOrder ids id ≥ instanceActions.length then 0
    else getInstanceOrder ids id]? <;> rfl

theorem perm_inOrder {ids : List Text} {instances : List (List CustomAction)}
    (sizes : ids.length = instances.length) (nodup : ids.Nodup) :
    (inOrder ids instances).Perm instances := by
  have keys : (ids.zip instances).map (·.1) = ids := List.map_fst_zip (Nat.le_of_eq sizes)
  have values : (ids.zip instances).map (·.2) = instances :=
    List.map_snd_zip (Nat.le_of_eq sizes.symm)
  have keysNodup : ((ids.zip instances).map (·.1)).Nodup := by rwa [keys]
  have found : ids.map (fun id => ((ids.zip instances).lookup id).getD []) = instances :=
    calc ids.map (fun id => ((ids.zip instances).lookup id).getD [])
        = ((ids.zip instances).map (·.1)).map fun id => ((ids.zip instances).lookup id).getD [] := by
          rw [keys]
      _ = (ids.zip instances).map fun entry => ((ids.zip instances).lookup entry.1).getD [] :=
          List.map_map
      _ = (ids.zip instances).map (·.2) := List.map_congr_left fun entry isEntry => by
          rw [lookup_of_mem keysNodup isEntry]
          rfl
      _ = instances := values
  exact ((perm_instances ids).map _).trans (.of_eq found)

theorem count_inOrder {ids : List Text} {instances : List (List CustomAction)}
    (sizes : ids.length = instances.length) (nodup : ids.Nodup)
    (valid : ∀ customActions ∈ instances, ∀ action ∈ customActions, action.Valid) :
    ((inOrder ids instances).map configured).countP (· ≠ configured []) =
      ((instances.filter (· ≠ [])).map configured).length := by
  rw [List.countP_map, (perm_inOrder sizes nodup).countP_eq, List.length_map,
    ← List.countP_eq_length_filter]
  refine List.countP_congr fun customActions isInstance => ?_
  by_cases empty : customActions = []
  · simp [empty]
  · simp [empty, configured_ne (valid customActions isInstance) empty]

theorem exists_mem_zip {ids : List Text} {instances : List (List CustomAction)}
    (sizes : ids.length = instances.length) {id : Text} (isId : id ∈ ids) :
    ∃ customActions, (id, customActions) ∈ ids.zip instances := by
  rw [← List.map_fst_zip (Nat.le_of_eq sizes)] at isId
  rcases List.mem_map.mp isId with ⟨⟨_, customActions⟩, isEntry, rfl⟩
  exact ⟨customActions, isEntry⟩

theorem custom_actions_reach_instance_iff {toJsonString : MessageToJsonString}
    (reads : ReadsPrinted toJsonString jsoncpp) {files : ConfigFiles}
    (noFile : files.defaultCustomActionConfig = []) {ids : List Text}
    {instances : List (List CustomAction)} (sizes : ids.length = instances.length)
    (nodup : ids.Nodup) (named : [] ∉ ids)
    (valid : ∀ customActions ∈ instances, ∀ action ∈ customActions, action.Valid)
    {flags : List Text} (generated : customConfigsFlags toJsonString instances = .ok flags) :
    (∃ instanceActions, process jsoncpp files flags = .ok instanceActions ∧
      ∀ entry ∈ ids.zip instances,
        returned ids instanceActions entry.1 = configured entry.2) ↔
      (∀ customActions ∈ instances, customActions = []) ∨
        (inOrder ids instances).map configured <+:
          (instances.filter (· ≠ [])).map configured ++ [configured []] := by
  rcases process_customConfigsFlags reads noFile valid generated with
    ⟨instanceActions, processed, entries⟩
  have keys : (ids.zip instances).map (·.1) = ids := List.map_fst_zip (Nat.le_of_eq sizes)
  have notEmpty : ∀ value ∈ (instances.filter (· ≠ [])).map configured, value ≠ configured [] := by
    intro value isValue
    rcases List.mem_map.mp isValue with ⟨customActions, isKept, rfl⟩
    rw [List.mem_filter, decide_eq_true_eq] at isKept
    exact configured_ne (valid customActions isKept.1) isKept.2
  have none_ : (∀ customActions ∈ instances, customActions = []) ↔
      (instances.filter (· ≠ [])).map configured = [] := by
    simp [List.filter_eq_nil_iff]
  have keysNodup : ((ids.zip instances).map (·.1)).Nodup := by rwa [keys]
  have isOrdered : ∀ {position : Nat} {id : Text}, (Config.instances ids)[position]? = some id →
      ∀ {customActions : List CustomAction}, (id, customActions) ∈ ids.zip instances →
        ((inOrder ids instances).map configured)[position]? = some (configured customActions) := by
    intro position id isId customActions isEntry
    rw [List.getElem?_map, inOrder, List.getElem?_map, isId, Option.map_some,
      lookup_of_mem keysNodup isEntry]
    rfl
  rw [none_, ← forall_pick_iff notEmpty (count_inOrder sizes nodup valid), ← entries]
  constructor
  · rintro ⟨other, isOther, all⟩ position value isValue
    rw [processed] at isOther
    rcases Except.ok.inj isOther with rfl
    have inside : position < (Config.instances ids).length := by
      simpa [inOrder] using (List.getElem?_eq_some_iff.mp isValue).1
    have atPosition := List.getElem?_eq_getElem inside
    have isId := (perm_instances ids).mem_iff.mp (List.getElem_mem inside)
    rcases exists_mem_zip sizes isId with ⟨customActions, isEntry⟩
    have isConfigured : value = configured customActions :=
      Option.some.inj (isValue.symm.trans (isOrdered atPosition isEntry))
    have given := all _ isEntry
    rw [returned_eq (fun empty => named (empty ▸ isId)),
      getInstanceOrder_getElem nodup atPosition] at given
    have picked : (pick (instanceActions.map entryActions) position).isSome :=
      isSome_pick (by rw [entries]; simp) position
    rcases Option.isSome_iff_exists.mp picked with ⟨found, isFound⟩
    rw [isConfigured, ← given, isFound]
    rfl
  · intro picked
    refine ⟨instanceActions, processed, fun entry isEntry => ?_⟩
    have isId : entry.1 ∈ ids := keys ▸ List.mem_map_of_mem isEntry
    rcases List.getElem?_of_mem ((perm_instances ids).mem_iff.mpr isId) with ⟨position, atPosition⟩
    rw [returned_eq (fun empty => named (empty ▸ isId)), getInstanceOrder_getElem nodup atPosition,
      picked _ _ (isOrdered atPosition isEntry)]
    rfl

/-! ## One shell action -/

def listFiles : CustomAction where
  shellCommand := some "ls".toList
  button := none
  server := none
  buttons := []
  deviceStates := []

def printListFiles : MessageToJsonString := fun action =>
  if action = listFiles then .ok "\x7b\"shell_command\":\"ls\"\x7d".toList
  else .error "not printed"

def readListFiles : Jsoncpp where
  parseJson text :=
    some (.array (if text = "[]".toList then []
      else List.replicate (text.count ',' + 1) listFiles.toJson))
  realToString _ := []
  realToInt _ := none
  realToBool _ := false

theorem mapM_printListFiles {customActions : List CustomAction} {jsonEntries : List Text}
    (printed : customActions.mapM printListFiles = .ok jsonEntries) :
    customActions = List.replicate customActions.length listFiles ∧
      jsonEntries = List.replicate customActions.length "\x7b\"shell_command\":\"ls\"\x7d".toList := by
  induction customActions generalizing jsonEntries with
  | nil => exact ⟨rfl, (Except.ok.inj printed).symm⟩
  | cons action customActions induction =>
      rw [List.mapM_cons] at printed
      by_cases isList : action = listFiles
      · cases rest : customActions.mapM printListFiles with
        | error message =>
            rw [rest] at printed
            simp [printListFiles, isList, bind, Except.bind] at printed
        | ok others =>
            rw [rest] at printed
            simp only [printListFiles, isList, if_true, bind, Except.bind, pure, Except.pure,
              Except.ok.injEq] at printed
            rcases induction rest with ⟨same, entries⟩
            exact ⟨by rw [List.length_cons, List.replicate_succ, isList, ← same],
              by rw [← printed, entries, List.length_cons, List.replicate_succ]⟩
      · simp [printListFiles, isList, bind, Except.bind] at printed

theorem count_intercalate (more : Nat) :
    ([','].intercalate (List.replicate (more + 1)
      "\x7b\"shell_command\":\"ls\"\x7d".toList)).count ',' = more := by
  induction more with
  | zero => decide
  | succ more induction =>
      have noComma : "\x7b\"shell_command\":\"ls\"\x7d".toList.count ',' = 0 := by decide
      have one : [','].count ',' = 1 := rfl
      rw [List.replicate_succ] at induction ⊢
      rw [List.replicate_succ, List.intercalate_cons_cons, List.count_append, List.count_append,
        induction, noComma, one]
      omega

theorem readsPrinted_listFiles : ReadsPrinted printListFiles readListFiles := by
  intro customActions jsonEntries printed
  rcases mapM_printListFiles printed with ⟨same, rfl⟩
  rw [same]
  cases customActions.length with
  | zero => rfl
  | succ more =>
      have commas : ('[' :: [','].intercalate (List.replicate (more + 1)
          "\x7b\"shell_command\":\"ls\"\x7d".toList) ++ [']']).count ',' = more := by
        rw [List.cons_append, List.count_cons_of_ne (by decide), List.count_append,
          count_intercalate]
        rfl
      have notEmpty : '[' :: [','].intercalate (List.replicate (more + 1)
          "\x7b\"shell_command\":\"ls\"\x7d".toList) ++ [']'] ≠ "[]".toList := by
        rw [List.replicate_succ]
        cases more <;> simp
      rw [List.length_replicate, readListFiles]
      dsimp only
      rw [commas, if_neg notEmpty, List.map_replicate]

theorem listFiles_valid : listFiles.Valid := ⟨by decide, by simp [listFiles]⟩

theorem custom_actions_reach_instance_iff_listFiles :
    ∃ instanceActions, process readListFiles ⟨[], fun _ => none⟩
        ["--custom_actions=[\x7b\"shell_command\":\"ls\"\x7d]".toList] = .ok instanceActions ∧
      ∀ entry ∈ ["1".toList, "2".toList].zip [[listFiles], []],
        returned ["1".toList, "2".toList] instanceActions entry.1 = configured entry.2 :=
  (custom_actions_reach_instance_iff readsPrinted_listFiles rfl rfl (by decide) (by decide)
    (by simp [listFiles_valid]) (by decide)).mpr (.inr (by decide))

/-- The first of two instances has no actions: it gets those of the second one. -/
theorem actions_of_other_instance :
    listFiles.Valid ∧ ReadsPrinted printListFiles readListFiles ∧
    customConfigsFlags printListFiles [[], [listFiles]] =
        .ok ["--custom_actions=[\x7b\"shell_command\":\"ls\"\x7d]".toList] ∧
      ¬ ∃ instanceActions, process readListFiles ⟨[], fun _ => none⟩
          ["--custom_actions=[\x7b\"shell_command\":\"ls\"\x7d]".toList] = .ok instanceActions ∧
        ∀ entry ∈ ["1".toList, "2".toList].zip [[], [listFiles]],
          returned ["1".toList, "2".toList] instanceActions entry.1 = configured entry.2 := by
  have processed : process readListFiles ⟨[], fun _ => none⟩
      ["--custom_actions=[\x7b\"shell_command\":\"ls\"\x7d]".toList] =
        .ok [⟨[⟨⟨[], [], []⟩, "ls".toList⟩], [], [], "0".toList⟩, ⟨[], [], [], "1".toList⟩] := by
    decide +kernel
  refine ⟨listFiles_valid, readsPrinted_listFiles, by decide +kernel, ?_⟩
  rintro ⟨instanceActions, isOk, all⟩
  rw [processed] at isOk
  rcases Except.ok.inj isOk with rfl
  exact absurd (all ("1".toList, []) (by decide)) (by decide)

end Cuttlefish.CliParser
