import Cuttlefish.Config.CustomActions

/-! # Serialized custom actions

`Serialize` and `Deserialize` of `host/libs/config/custom_actions.cpp`: the instances in one JSON
array, each behind an entry with its id. -/

namespace Cuttlefish.Config

open FlagParser Json

/-! ## Writing actions -/

def instanceIdToJson (customActionInstanceId : Text) : Json :=
  .object (setMember [] "instance_id".toList (.string customActionInstanceId))

def buttonToJson (button : ControlPanelButton) : Json :=
  let entry := setMember [] "command".toList (.string button.command)
  let entry := setMember entry "title".toList (.string button.title)
  .object (setMember entry "icon_name".toList (.string button.iconName))

def shellActionToJson (customAction : CustomShellActionConfig) : Json :=
  let json := setMember [] "shell_command".toList (.string customAction.shellCommand)
  .object (setMember json "button".toList (buttonToJson customAction.button))

def actionServerToJson (customAction : CustomActionServerConfig) : Json :=
  let json := setMember [] "server".toList (.string customAction.server)
  .object (setMember json "buttons".toList (.array (customAction.buttons.map buttonToJson)))

def deviceStateEntryToJson (deviceState : DeviceState) : Json :=
  let entry :=
    match deviceState.lidSwitchOpen with
    | none => []
    | some lidSwitchOpen => setMember [] "lid_switch_open".toList (.bool lidSwitchOpen)
  let entry :=
    match deviceState.hingeAngleValue with
    | none => entry
    | some hingeAngleValue => setMember entry "hinge_angle_value".toList (.int hingeAngleValue)
  if entry.isEmpty then .null else .object entry

def deviceStateActionToJson (customAction : CustomDeviceStateActionConfig) : Json :=
  let json := setMember [] "device_states".toList
    (.array (customAction.deviceStates.map deviceStateEntryToJson))
  .object (setMember json "button".toList (buttonToJson customAction.button))

def serializeInstance (instanceAction : InstanceActions) : List Json :=
  instanceIdToJson instanceAction.customActionInstanceId ::
    (instanceAction.customShellActions.map shellActionToJson ++
      instanceAction.customActionServers.map actionServerToJson ++
      instanceAction.customDeviceStateActions.map deviceStateActionToJson)

def serialize (instanceActions : List InstanceActions) : Json :=
  .array (instanceActions.flatMap serializeInstance)

section

variable (jsoncpp : Jsoncpp)

def deserialize (customActionsJson : Json) (instanceActions : List InstanceActions) :
    Option (Bool × List InstanceActions) :=
  addJsonCustomActionConfigs jsoncpp customActionsJson instanceActions

/-! ## Lists of actions that the flags can leave -/

/-- What values of the two flags can add, also those that are refused behind their first
entries. -/
inductive Reachable : List InstanceActions → Prop
  | initial : Reachable []
  | unset {instanceActions : List InstanceActions} (reachable : Reachable instanceActions) :
      Reachable (addEmptyJsonCustomActionConfigs instanceActions)
  | json {instanceActions after : List InstanceActions} {customActionArray : Json} {added : Bool}
      (reachable : Reachable instanceActions)
      (adds : addJsonCustomActionConfigs jsoncpp customActionArray instanceActions =
        some (added, after)) : Reachable after

def ConvertsToInt : Prop :=
  ∀ bits value, jsoncpp.realToInt bits = some value → Decimal.FitsInt value

end

def DeviceState.Fits (deviceState : DeviceState) : Prop :=
  ∀ value ∈ deviceState.hingeAngleValue, Decimal.FitsInt value

def InstanceActions.Fits (instanceAction : InstanceActions) : Prop :=
  ∀ action ∈ instanceAction.customDeviceStateActions,
    ∀ deviceState ∈ action.deviceStates, deviceState.Fits

structure InstanceActions.Serializable (instanceAction : InstanceActions) : Prop where
  named : instanceAction.customActionInstanceId ≠ "-1".toList
  fits : instanceAction.Fits

variable {jsoncpp : Jsoncpp}

theorem Reachable.addJson {message : String} {customActionArray : Json}
    {instanceActions : List InstanceActions} (reachable : Reachable jsoncpp instanceActions) :
    Reachable jsoncpp (addJson jsoncpp message customActionArray instanceActions).2 := by
  rw [Config.addJson]
  split
  · exact reachable
  · next adds => exact .json reachable adds
  · next adds => exact .json reachable adds

theorem Reachable.setCustomActions {config : CustomActionConfig}
    (reachable : Reachable jsoncpp config.instanceActions) (found : FlagMatch) :
    Reachable jsoncpp (setCustomActions jsoncpp found config).2.instanceActions := by
  rw [Config.setCustomActions]
  split
  · exact .unset reachable
  split
  · exact reachable
  · exact reachable.addJson

theorem Reachable.addConfigFiles {files : ConfigFiles} {configs : List Text}
    {instanceActions after : List InstanceActions} (reachable : Reachable jsoncpp instanceActions)
    (adds : addConfigFiles jsoncpp files configs instanceActions = .ok after) :
    Reachable jsoncpp after := by
  induction configs generalizing instanceActions with
  | nil =>
      cases adds
      exact reachable
  | cons config configs induction =>
      rw [Config.addConfigFiles] at adds
      split at adds
      · exact induction (.unset reachable) adds
      split at adds
      · cases adds
      next contents _ =>
      split at adds
      · cases adds
      next customActionArray _ =>
      have added : Reachable jsoncpp (Config.addJson jsoncpp ("Failed to parse config at " ++ quoted config)
        customActionArray instanceActions).2 := reachable.addJson
      split at adds
      · cases adds
      · next isAdded =>
        rw [isAdded] at added
        exact induction added adds

theorem customActionConfigFlag_keeps {files : ConfigFiles} (args : List Text)
    {config : CustomActionConfig} (reachable : Reachable jsoncpp config.instanceActions) :
    Reachable jsoncpp ((customActionConfigFlag files).parse args config).value.instanceActions := by
  refine @Flag.parse_keeps _ _ (fun config => Reachable jsoncpp config.instanceActions) ?_
    (customActionConfigFlag files) rfl args config reachable
  intro found config reachable
  split
  · exact reachable
  split <;> exact reachable

theorem process_reachable {files : ConfigFiles} {args : List Text}
    {instanceActions : List InstanceActions}
    (processed : process jsoncpp files args = .ok instanceActions) :
    Reachable jsoncpp instanceActions := by
  rw [process] at processed
  simp only [bind, Except.bind] at processed
  split at processed
  · cases processed
  split at processed
  · cases processed
  refine Reachable.addConfigFiles ?_ processed
  have collected := @customActionConfigFlag_keeps jsoncpp files args
    CustomActionConfig.initial .initial
  refine @Flag.parse_keeps _ _ (fun config => Reachable jsoncpp config.instanceActions) ?_
    (customActionsFlag jsoncpp) rfl _ _ collected
  exact fun found config reachable => reachable.setCustomActions found

theorem printSize_ne (size : Nat) : printSize size ≠ "-1".toList := by
  intro same
  have scanned := Decimal.scan_print size
  rw [← printSize, same] at scanned
  have minusOne : Decimal.scan "-1".toList = some (-1) := by decide
  rw [minusOne] at scanned
  have negative : (-1 : Int) = size := Option.some.inj scanned
  omega

theorem asInt_fits (converts : ConvertsToInt jsoncpp) {json : Json} {value : Int}
    (isValue : asInt jsoncpp json = some value) : Decimal.FitsInt value := by
  cases json with
  | null =>
      cases isValue
      decide
  | bool flag =>
      cases isValue
      cases flag <;> decide
  | int number =>
      rw [asInt] at isValue
      split at isValue
      · next fits =>
        cases isValue
        exact fits
      · cases isValue
  | real bits => exact converts bits value isValue
  | string text => cases isValue
  | array elements => cases isValue
  | object members => cases isValue

theorem getDeviceState_fits (converts : ConvertsToInt jsoncpp) {json : Json}
    {deviceState : DeviceState} (read : getDeviceState jsoncpp json = some deviceState) :
    deviceState.Fits := by
  rw [getDeviceState] at read
  simp only [Option.bind_eq_bind, Option.bind_eq_some_iff] at read
  rcases read with ⟨entry, _, read⟩
  have hinge : ∀ lidSwitchOpen, (if isMember entry "hinge_angle_value".toList = true then
      ((asInt jsoncpp (member entry "hinge_angle_value".toList)).map some).bind
        fun hingeAngleValue => pure (DeviceState.mk lidSwitchOpen hingeAngleValue)
      else (some none).bind
        fun hingeAngleValue => pure (DeviceState.mk lidSwitchOpen hingeAngleValue)) =
        some deviceState → deviceState.Fits := by
    intro lidSwitchOpen made value isValue
    split at made
    · rcases Option.bind_eq_some_iff.mp made with ⟨hingeAngleValue, isHinge, made⟩
      rcases Option.map_eq_some_iff.mp isHinge with ⟨number, isNumber, isSome⟩
      cases made
      cases isSome
      cases isValue
      exact asInt_fits converts isNumber
    · cases made
      cases isValue
  split at read
  · rcases Option.bind_eq_some_iff.mp read with ⟨lidSwitchOpen, _, made⟩
    exact hinge lidSwitchOpen made
  · exact hinge none read

theorem exists_of_mem_mapM {First Second : Type} {read : First → Option Second}
    {values : List First} {results : List Second} (mapped : values.mapM read = some results)
    {result : Second} (member : result ∈ results) : ∃ value ∈ values, read value = some result := by
  induction values generalizing results with
  | nil =>
      cases mapped
      cases member
  | cons value values induction =>
      simp only [List.mapM_cons, Option.bind_eq_bind, Option.bind_eq_some_iff] at mapped
      rcases mapped with ⟨first, isFirst, rest, isRest, made⟩
      cases made
      rcases List.mem_cons.mp member with same | member
      · exact ⟨value, List.mem_cons_self, same ▸ isFirst⟩
      · rcases induction isRest member with ⟨found, isFound, reads⟩
        exact ⟨found, List.mem_cons_of_mem value isFound, reads⟩

theorem getCustomDeviceStateActionConfigFromJson_fits (converts : ConvertsToInt jsoncpp)
    {dictionary : List (Text × Json)} {config : CustomDeviceStateActionConfig}
    (read : getCustomDeviceStateActionConfigFromJson jsoncpp dictionary = some config) :
    ∀ deviceState ∈ config.deviceStates, deviceState.Fits := by
  simp only [getCustomDeviceStateActionConfigFromJson, Option.bind_eq_bind,
    Option.bind_eq_some_iff] at read
  rcases read with ⟨button, _, deviceStates, mapped, made⟩
  cases made
  intro deviceState member
  rcases exists_of_mem_mapM mapped member with ⟨value, _, reads⟩
  exact getDeviceState_fits converts reads

theorem addActions_serializable (converts : ConvertsToInt jsoncpp) {customActions : List Json}
    {instanceActions after : List InstanceActions} {instanceAction : InstanceActions} {added : Bool}
    (adds : addActions jsoncpp instanceActions instanceAction customActions = some (added, after))
    (kept : ∀ entry ∈ instanceActions, entry.Serializable) (fits : instanceAction.Fits) :
    ∀ entry ∈ after, entry.Serializable := by
  induction customActions generalizing instanceActions instanceAction with
  | nil =>
      cases adds
      rw [List.forall_mem_append]
      refine ⟨kept, List.forall_mem_singleton.mpr ?_⟩
      split
      · exact ⟨printSize_ne _, fits⟩
      · next named => exact ⟨named, fits⟩
  | cons customAction customActions induction =>
      rw [addActions] at adds
      simp only [Option.bind_eq_bind, Option.bind_eq_some_iff] at adds
      rcases adds with ⟨dictionary, _, adds⟩
      split at adds
      · cases adds
        exact kept
      split at adds
      · rcases Option.bind_eq_some_iff.mp adds with ⟨config, _, adds⟩
        exact induction adds kept fits
      split at adds
      · rcases Option.bind_eq_some_iff.mp adds with ⟨config, _, adds⟩
        exact induction adds kept fits
      split at adds
      · rcases Option.bind_eq_some_iff.mp adds with ⟨config, read, adds⟩
        refine induction adds kept (List.forall_mem_append.mpr ⟨fits, ?_⟩)
        exact List.forall_mem_singleton.mpr
          (getCustomDeviceStateActionConfigFromJson_fits converts read)
      rcases Option.bind_eq_some_iff.mp adds with ⟨config, _, adds⟩
      split at adds
      · next named =>
        refine induction adds ?_ fun action member => absurd member List.not_mem_nil
        exact List.forall_mem_append.mpr ⟨kept, List.forall_mem_singleton.mpr ⟨named, fits⟩⟩
      · exact induction adds kept fits

theorem Reachable.serializable (converts : ConvertsToInt jsoncpp)
    {instanceActions : List InstanceActions} (reachable : Reachable jsoncpp instanceActions) :
    ∀ entry ∈ instanceActions, entry.Serializable := by
  induction reachable with
  | initial => exact fun entry member => absurd member List.not_mem_nil
  | unset _ kept =>
      refine List.forall_mem_append.mpr ⟨kept, List.forall_mem_singleton.mpr ⟨printSize_ne _, ?_⟩⟩
      exact fun action member => absurd member List.not_mem_nil
  | @json instanceActions after customActionArray added _ adds kept =>
      cases customActionArray with
      | array customActions =>
          exact addActions_serializable converts adds kept
            fun action member => absurd member List.not_mem_nil
      | _ =>
          cases adds
          exact kept

/-! ## Reading what was written -/

theorem getButton_buttonToJson (button : ControlPanelButton) :
    getButton jsoncpp (buttonToJson button) = some button := rfl

theorem getDeviceState_deviceStateEntryToJson {deviceState : DeviceState}
    (fits : deviceState.Fits) :
    getDeviceState jsoncpp (deviceStateEntryToJson deviceState) = some deviceState := by
  rcases deviceState with ⟨lidSwitchOpen, hingeAngleValue⟩
  cases hingeAngleValue with
  | none => cases lidSwitchOpen <;> rfl
  | some value =>
      have isInt : asInt jsoncpp (.int value) = some value := if_pos (fits value rfl)
      cases lidSwitchOpen <;>
        simp [getDeviceState, deviceStateEntryToJson, setMember, members?, isMember, member,
          List.lookup_cons, isInt, asBool]

theorem getCustomActionServerConfigFromJson_toJson (customAction : CustomActionServerConfig) :
    getCustomActionServerConfigFromJson jsoncpp
      [("server".toList, .string customAction.server),
        ("buttons".toList, .array (customAction.buttons.map buttonToJson))] =
      some customAction := by
  have buttons : (customAction.buttons.map buttonToJson).mapM (getButton jsoncpp) =
      some (customAction.buttons.map id) := mapM_map fun button _ => getButton_buttonToJson button
  rw [List.map_id] at buttons
  simp [getCustomActionServerConfigFromJson, member, List.lookup_cons, valuesOf, buttons, asString]

theorem getCustomDeviceStateActionConfigFromJson_toJson
    {customAction : CustomDeviceStateActionConfig}
    (fits : ∀ deviceState ∈ customAction.deviceStates, deviceState.Fits) :
    getCustomDeviceStateActionConfigFromJson jsoncpp
      [("device_states".toList, .array (customAction.deviceStates.map deviceStateEntryToJson)),
        ("button".toList, buttonToJson customAction.button)] = some customAction := by
  have states : (customAction.deviceStates.map deviceStateEntryToJson).mapM
      (getDeviceState jsoncpp) = some (customAction.deviceStates.map id) :=
    mapM_map fun deviceState isState =>
      getDeviceState_deviceStateEntryToJson (fits deviceState isState)
  rw [List.map_id] at states
  simp [getCustomDeviceStateActionConfigFromJson, member, List.lookup_cons, valuesOf, states,
    getButton_buttonToJson]

/-! ## Regrouping the array -/

section Regrouping

variable (instanceActions : List InstanceActions) (instanceAction : InstanceActions)
  (rest : List Json)

theorem addActions_shellActionToJson (customAction : CustomShellActionConfig) :
    addActions jsoncpp instanceActions instanceAction (shellActionToJson customAction :: rest) =
      addActions jsoncpp instanceActions { instanceAction with
        customShellActions := instanceAction.customShellActions ++ [customAction] } rest := rfl

theorem addActions_actionServerToJson (customAction : CustomActionServerConfig) :
    addActions jsoncpp instanceActions instanceAction (actionServerToJson customAction :: rest) =
      addActions jsoncpp instanceActions { instanceAction with
        customActionServers := instanceAction.customActionServers ++ [customAction] } rest :=
  congrArg (Option.bind · _) (getCustomActionServerConfigFromJson_toJson customAction)

theorem addActions_deviceStateActionToJson {customAction : CustomDeviceStateActionConfig}
    (fits : ∀ deviceState ∈ customAction.deviceStates, deviceState.Fits) :
    addActions jsoncpp instanceActions instanceAction
        (deviceStateActionToJson customAction :: rest) =
      addActions jsoncpp instanceActions { instanceAction with
        customDeviceStateActions := instanceAction.customDeviceStateActions ++ [customAction] }
        rest :=
  congrArg (Option.bind · _) (getCustomDeviceStateActionConfigFromJson_toJson fits)

theorem addActions_instanceIdToJson (named : instanceAction.customActionInstanceId ≠ "-1".toList)
    (customActionInstanceId : Text) :
    addActions jsoncpp instanceActions instanceAction
        (instanceIdToJson customActionInstanceId :: rest) =
      addActions jsoncpp (instanceActions ++ [instanceAction])
        (InstanceActions.empty customActionInstanceId) rest := by
  have read : addActions jsoncpp instanceActions instanceAction
        (instanceIdToJson customActionInstanceId :: rest) =
      if instanceAction.customActionInstanceId ≠ "-1".toList then
        addActions jsoncpp (instanceActions ++ [instanceAction])
          (InstanceActions.empty customActionInstanceId) rest
      else
        addActions jsoncpp instanceActions
          { instanceAction with customActionInstanceId := customActionInstanceId } rest := rfl
  rw [read, if_pos named]

theorem addActions_map_append {CustomAction : Type} {write : CustomAction → Json}
    (holding : List CustomAction → InstanceActions) (actions : List CustomAction)
    (step : ∀ taken, ∀ action ∈ actions, ∀ rest,
      addActions jsoncpp instanceActions (holding taken) (write action :: rest) =
        addActions jsoncpp instanceActions (holding (taken ++ [action])) rest)
    (taken : List CustomAction) :
    addActions jsoncpp instanceActions (holding taken) (actions.map write ++ rest) =
      addActions jsoncpp instanceActions (holding (taken ++ actions)) rest := by
  induction actions generalizing taken with
  | nil => rw [List.append_nil, List.map_nil, List.nil_append]
  | cons action actions induction =>
      rw [List.map_cons, List.cons_append, step taken action List.mem_cons_self,
        induction fun before other member => step before other (List.mem_cons_of_mem action member),
        List.append_assoc, List.singleton_append]

theorem addActions_tail_serializeInstance {entry : InstanceActions} (fits : entry.Fits) :
    addActions jsoncpp instanceActions (InstanceActions.empty entry.customActionInstanceId)
        ((serializeInstance entry).tail ++ rest) =
      addActions jsoncpp instanceActions entry rest := by
  rcases entry with ⟨shellActions, actionServers, deviceStateActions, id⟩
  rw [serializeInstance, List.tail_cons, List.append_assoc, List.append_assoc]
  refine (addActions_map_append instanceActions _ (fun taken => ⟨taken, [], [], id⟩) shellActions
    (fun taken action _ later => ?_) []).trans ?_
  · exact addActions_shellActionToJson instanceActions _ later action
  refine (addActions_map_append instanceActions _ (fun taken => ⟨shellActions, taken, [], id⟩)
    actionServers (fun taken action _ later => ?_) []).trans ?_
  · exact addActions_actionServerToJson instanceActions _ later action
  refine addActions_map_append instanceActions rest
    (fun taken => ⟨shellActions, actionServers, taken, id⟩) deviceStateActions
    (fun taken action member later => ?_) []
  exact addActions_deviceStateActionToJson instanceActions _ later (fits action member)

theorem addActions_serializeInstance {entry : InstanceActions}
    (named : instanceAction.customActionInstanceId ≠ "-1".toList) (fits : entry.Fits) :
    addActions jsoncpp instanceActions instanceAction (serializeInstance entry ++ rest) =
      addActions jsoncpp (instanceActions ++ [instanceAction]) entry rest :=
  (addActions_instanceIdToJson instanceActions instanceAction _ named _).trans
    (addActions_tail_serializeInstance _ rest fits)

end Regrouping

theorem addActions_serialize {entries : List InstanceActions} {entry : InstanceActions}
    (named : entry.customActionInstanceId ≠ "-1".toList)
    (serializable : ∀ later ∈ entries, later.Serializable)
    (instanceActions : List InstanceActions) :
    addActions jsoncpp instanceActions entry (entries.flatMap serializeInstance) =
      some (true, instanceActions ++ entry :: entries) := by
  induction entries generalizing entry instanceActions with
  | nil => rw [List.flatMap_nil, addActions, if_neg named]
  | cons first entries induction =>
      rw [List.forall_mem_cons] at serializable
      rw [List.flatMap_cons, addActions_serializeInstance _ _ _ named serializable.1.fits,
        induction serializable.1.named serializable.2, List.append_assoc, List.singleton_append]

theorem deserialize_serialize_cons {entry : InstanceActions} {entries : List InstanceActions}
    (serializable : ∀ each ∈ entry :: entries, each.Serializable) :
    deserialize jsoncpp (serialize (entry :: entries)) [] = some (true, entry :: entries) := by
  rw [List.forall_mem_cons] at serializable
  have first : deserialize jsoncpp (serialize (entry :: entries)) [] =
      addActions jsoncpp [] (InstanceActions.empty entry.customActionInstanceId)
        ((serializeInstance entry).tail ++ entries.flatMap serializeInstance) := rfl
  rw [first, addActions_tail_serializeInstance _ _ serializable.1.fits,
    addActions_serialize serializable.1.named serializable.2, List.nil_append]

theorem deserialize_serialize_nil :
    deserialize jsoncpp (serialize []) [] = some (true, [InstanceActions.empty (printSize 0)]) :=
  rfl

theorem answers_deserialize_serialize (converts : ConvertsToInt jsoncpp)
    {instanceActions : List InstanceActions} (reachable : Reachable jsoncpp instanceActions) :
    ∃ again, deserialize jsoncpp (serialize instanceActions) [] = some (true, again) ∧
      ∀ ids idStr, customShellActions ids again idStr =
          customShellActions ids instanceActions idStr ∧
        customActionServers ids again idStr = customActionServers ids instanceActions idStr ∧
        customDeviceStateActions ids again idStr =
          customDeviceStateActions ids instanceActions idStr := by
  have serializable := reachable.serializable converts
  cases instanceActions with
  | nil =>
      refine ⟨_, deserialize_serialize_nil, fun ids idStr => ?_⟩
      simp [customShellActions, customActionServers, customDeviceStateActions, actionsOf, InstanceActions.empty]
  | cons entry entries =>
      exact ⟨_, deserialize_serialize_cons serializable, fun ids idStr => ⟨rfl, rfl, rfl⟩⟩

def withoutDoubles : Jsoncpp := ⟨fun _ => none, fun _ => [], fun _ => none, fun _ => false⟩

def twoInstances : List InstanceActions :=
  let button : ControlPanelButton := ⟨"fold".toList, "Fold".toList, "devices".toList⟩
  [⟨[⟨button, "ls".toList⟩], [], [], "7".toList⟩,
    ⟨[], [], [⟨button, [⟨none, none⟩, ⟨some true, some 90⟩]⟩], "-2".toList⟩]

theorem answers_deserialize_serialize_twoInstances :
    ∃ again, deserialize withoutDoubles (serialize twoInstances) [] = some (true, again) ∧
      ∀ ids idStr, customShellActions ids again idStr =
          customShellActions ids twoInstances idStr ∧
        customActionServers ids again idStr = customActionServers ids twoInstances idStr ∧
        customDeviceStateActions ids again idStr =
          customDeviceStateActions ids twoInstances idStr := by
  have converts : ConvertsToInt withoutDoubles := fun bits value isValue => by cases isValue
  have adds : addJsonCustomActionConfigs withoutDoubles (.array [
      .object [("instance_id".toList, .string "7".toList)],
      .object [("shell_command".toList, .string "ls".toList), ("button".toList, .object [
        ("command".toList, .string "fold".toList), ("title".toList, .string "Fold".toList),
        ("icon_name".toList, .string "devices".toList)])],
      .object [("instance_id".toList, .int (-2))],
      .object [("button".toList, .object [
          ("command".toList, .string "fold".toList), ("title".toList, .string "Fold".toList),
          ("icon_name".toList, .string "devices".toList)]),
        ("device_states".toList, .array [.null, .object [
          ("hinge_angle_value".toList, .int 90), ("lid_switch_open".toList, .bool true)]])]]) [] =
      some (true, twoInstances) := rfl
  exact answers_deserialize_serialize converts (.json .initial adds)

end Cuttlefish.Config
