import Cuttlefish.CliParser.Overrides
import Cuttlefish.Result
import Mathlib.Data.List.Forall2

/-! # Launch templates

`launch_cvd_templates.cpp` of `host/commands/cvd/cli/parser`: an instance of an environment
specification names the template that it starts from. -/

namespace Cuttlefish.CliParser.LaunchTemplates

/-! ## The templates -/

def field (name : String) (value : Json) : Text × Json := (name.toList, value)

def display (width height dpi : Int) : Json :=
  .object [field "width" (.int width), field "height" (.int height), field "dpi" (.int dpi)]

def graphics (displays : List Json) : Json := .object [field "displays" (.array displays)]

def kPhoneInstanceTemplate : Json :=
  .object [field "vm" (.object [field "memory_mb" (.int 4096)]),
    field "graphics" (graphics [display 720 1280 320])]

def kTabletInstanceTemplate : Json :=
  .object [field "vm" (.object [field "memory_mb" (.int 4096)]),
    field "graphics" (graphics [display 2560 1800 320])]

def kTvInstanceTemplate : Json :=
  .object [field "vm" (.object [field "memory_mb" (.int 2048)]),
    field "graphics" (graphics [display 1920 1080 213])]

def kWearableInstanceTemplate : Json :=
  .object [field "vm" (.object [field "memory_mb" (.int 1536), field "use_sdcard" (.bool false)]),
    field "graphics" (graphics [display 450 450 320])]

def kAutoInstanceTemplate : Json :=
  .object [field "vm" (.object [field "memory_mb" (.int 4096)]),
    field "graphics" (graphics [display 1080 600 120, display 400 600 120])]

def kSlimInstanceTemplate : Json :=
  .object [field "vm" (.object [field "memory_mb" (.int 2048), field "use_sdcard" (.bool false)]),
    field "graphics" (graphics [display 720 1280 320])]

def kGoInstanceTemplate : Json :=
  .object [field "vm" (.object [field "memory_mb" (.int 2048)]),
    field "graphics" (graphics [display 720 1280 320])]

def deviceStateAction (lidSwitchOpen : Bool) (hingeAngleValue : Int)
    (command title iconName : String) : Json :=
  .object [
    field "device_states" (.array [.object [field "lid_switch_open" (.bool lidSwitchOpen),
      field "hinge_angle_value" (.int hingeAngleValue)]]),
    field "button" (.object [field "command" (.string command.toList),
      field "title" (.string title.toList), field "icon_name" (.string iconName.toList)])]

def kFoldableInstanceTemplate : Json :=
  .object [
    field "vm" (.object [field "memory_mb" (.int 4096),
      field "custom_actions" (.array [
        deviceStateAction false 0 "device_state_closed" "Device State Closed" "smartphone",
        deviceStateAction true 90 "device_state_half_opened" "Device State Half-Opened" "laptop",
        deviceStateAction true 180 "device_state_opened" "Device State Opened" "tablet"])]),
    field "graphics" (graphics [display 1768 2208 374, display 832 2268 387])]

def supportedTemplates : List (Text × Json) :=
  [field "phone" kPhoneInstanceTemplate, field "tablet" kTabletInstanceTemplate,
    field "tv" kTvInstanceTemplate, field "wearable" kWearableInstanceTemplate,
    field "auto" kAutoInstanceTemplate, field "slim" kSlimInstanceTemplate,
    field "go" kGoInstanceTemplate, field "foldable" kFoldableInstanceTemplate]

def loadTemplateByName (templateName : Text) : Result Json :=
  match supportedTemplates.lookup templateName with
  | none => .error (.err ("Unknown import value '" ++ String.ofList templateName ++ "'"))
  | some template => .ok template

/-! ## Instances -/

/-- The message `Instance`: the fields that are set, as a tree under their own names. Fields that
are not set are null in it. -/
structure Instance where
  importTemplate : Option Text
  fields : Json

structure EnvironmentSpecification where
  instances : List Instance

section Conversion

-- `MessageToJsonString` and the parsing of what it printed
variable (messageToJson : Instance → Result Json)

/-- One turn of the loop over the instances. The merged tree is printed, and the line that would
read it back into the instance is commented out. -/
def extractTemplate (ins : Instance) : Result Instance :=
  match ins.importTemplate with
  | none => .ok ins
  | some [] => .ok ins
  | some templateName => do
      let tmplJson ← loadTemplateByName templateName
      let insJson ← messageToJson ins
      match mergeTwoJsonObjs insJson tmplJson with
      | none => .error (.abort "exception of the JSON library")
      | some _combinedJson => .ok ins

def extractLaunchTemplates (config : EnvironmentSpecification) :
    Result EnvironmentSpecification := do
  let instances ← config.instances.mapM (extractTemplate messageToJson)
  pure ⟨instances⟩

end Conversion

/-! ## What applying a template means -/

def IsScalar : Json → Prop
  | .bool _ | .int _ | .real _ | .string _ => True
  | .null | .array _ | .object _ => False

def Sets (tree : Json) (path : List Json.Step) : Prop := IsScalar (tree.lookup path)

def Combines (fields template combined : Json) : Prop :=
  ∀ path,
    (Sets fields path → ¬ Sets template path → combined.lookup path = fields.lookup path) ∧
    (Sets template path → ¬ Sets fields path → combined.lookup path = template.lookup path)

def InstanceApplied (ins after : Instance) : Prop :=
  match ins.importTemplate with
  | none => after = ins
  | some templateName =>
      ∀ template, loadTemplateByName templateName = .ok template →
        Combines ins.fields template after.fields

/-- The templates are applied to all the instances of the specification. -/
def TemplatesApplied (config result : EnvironmentSpecification) : Prop :=
  List.Forall₂ InstanceApplied config.instances result.instances

/-- The instance sets itself all that its template sets. -/
def Complete (ins : Instance) : Prop :=
  ∀ templateName, ins.importTemplate = some templateName →
    ∀ template, loadTemplateByName templateName = .ok template →
      ∀ path, Sets template path → Sets ins.fields path

theorem extractTemplate_eq {messageToJson : Instance → Result Json} {ins after : Instance}
    (extracted : extractTemplate messageToJson ins = .ok after) : after = ins := by
  rw [extractTemplate] at extracted
  split at extracted
  · exact (Except.ok.inj extracted).symm
  · exact (Except.ok.inj extracted).symm
  · rcases Result.bind_eq_ok.mp extracted with ⟨tmplJson, -, converted⟩
    rcases Result.bind_eq_ok.mp converted with ⟨insJson, -, merged⟩
    split at merged
    · cases merged
    · exact (Except.ok.inj merged).symm

theorem mapM_eq_self {step : α → Result α} (keeps : ∀ first after, step first = .ok after →
    after = first) {firsts results : List α} (ran : firsts.mapM step = .ok results) :
    results = firsts := by
  induction firsts generalizing results with
  | nil => exact (Except.ok.inj ran).symm
  | cons first firsts induction =>
      rw [List.mapM_cons] at ran
      rcases Result.bind_eq_ok.mp ran with ⟨after, stepped, rest⟩
      rcases Result.bind_eq_ok.mp rest with ⟨afters, stepsRan, returned⟩
      have assembled : after :: afters = results := Except.ok.inj returned
      rw [← assembled, keeps first after stepped, induction stepsRan]

theorem extractLaunchTemplates_eq {messageToJson : Instance → Result Json}
    {config result : EnvironmentSpecification}
    (extracted : extractLaunchTemplates messageToJson config = .ok result) : result = config := by
  rcases Result.bind_eq_ok.mp extracted with ⟨instances, ran, returned⟩
  have same : instances = config.instances :=
    mapM_eq_self (fun _ _ => extractTemplate_eq) ran
  have assembled : (⟨instances⟩ : EnvironmentSpecification) = result := Except.ok.inj returned
  rw [← assembled, same]

theorem instanceApplied_self_iff (ins : Instance) : InstanceApplied ins ins ↔ Complete ins := by
  cases imported : ins.importTemplate with
  | none => simp [InstanceApplied, Complete, imported]
  | some templateName =>
      simp only [InstanceApplied, Complete, imported, Option.some.injEq, forall_eq']
      apply forall_congr'
      intro template
      apply imp_congr_right
      intro _loaded
      constructor
      · intro combines path set
        by_contra missing
        have same : ins.fields.lookup path = template.lookup path :=
          (combines path).2 set missing
        apply missing
        rw [Sets, same]
        exact set
      · intro complete path
        exact ⟨fun _ _ => rfl, fun set missing => absurd (complete path set) missing⟩

/-- The templates of a specification are applied exactly where no instance needs its template. -/
theorem templates_applied_iff (messageToJson : Instance → Result Json)
    {config result : EnvironmentSpecification}
    (extracted : extractLaunchTemplates messageToJson config = .ok result) :
    TemplatesApplied config result ↔ ∀ ins ∈ config.instances, Complete ins := by
  rw [extractLaunchTemplates_eq extracted, TemplatesApplied, List.forall₂_same]
  apply forall₂_congr
  intro ins _member
  exact instanceApplied_self_iff ins

def phoneToJson (_ins : Instance) : Result Json :=
  .ok (.object [field "@import" (.string "phone".toList),
    field "vm" (.object [field "memoryMb" (.int 4096)]),
    field "graphics" (graphics [display 720 1280 320])])

theorem templates_applied_phone :
    TemplatesApplied ⟨[⟨some "phone".toList, kPhoneInstanceTemplate⟩]⟩
      ⟨[⟨some "phone".toList, kPhoneInstanceTemplate⟩]⟩ := by
  apply (templates_applied_iff phoneToJson rfl).mpr
  intro ins member templateName imported template loaded path set
  rw [List.mem_singleton] at member
  subst member
  have named : "phone".toList = templateName := Option.some.inj imported
  subst named
  have found : kPhoneInstanceTemplate = template := Except.ok.inj loaded
  rwa [found]

/-- A phone that sets nothing itself is returned without the memory of the template. -/
theorem phone_template_not_applied :
    ∃ result, extractLaunchTemplates
        (fun _ => .ok (.object [field "@import" (.string "phone".toList)]))
        ⟨[⟨some "phone".toList, .null⟩]⟩ = .ok result ∧
      ¬ TemplatesApplied ⟨[⟨some "phone".toList, .null⟩]⟩ result := by
  refine ⟨⟨[⟨some "phone".toList, .null⟩]⟩, rfl, ?_⟩
  intro applied
  have complete : Complete ⟨some "phone".toList, .null⟩ :=
    (instanceApplied_self_iff _).mp (List.forall₂_same.mp applied _ (List.mem_singleton_self _))
  have set : Sets .null [.key "vm".toList, .key "memory_mb".toList] :=
    complete _ rfl kPhoneInstanceTemplate rfl _ trivial
  rw [Sets, Json.lookup_null] at set
  exact set

end Cuttlefish.CliParser.LaunchTemplates
