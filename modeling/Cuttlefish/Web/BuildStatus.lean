import Cuttlefish.Foundation.Json
import Cuttlefish.Result
import Cuttlefish.Utils.FlagParser

/-! # The status of a build

`GetBuildInfo` and `BlockUntilTerminalStatus` of `AndroidBuildApi`, in `host/libs/web`: both ask
for the same resource, one of them again and again. -/

namespace Cuttlefish.Web.BuildStatus

open FlagParser (quoted withContext)

/-! ## JSON values by their selectors -/

/-- `isMember` and `operator[]`. The library throws where the value has no members. -/
def findMember (value : Json) (selector : Text) : Result (Option Json) :=
  match value.members? with
  | none => .error (.abort "exception of the JSON library")
  | some members => .ok (members.lookup selector)

def asString : Json → Result Text
  | .string value => .ok value
  | _ => .error (.err "v.isString()")

def asBool : Json → Result Bool
  | .bool value => .ok value
  | _ => .error (.err "v.isBool()")

def getValue (as : Json → Result α) (root : Json) : List Text → Result α
  | [] => as root
  | selector :: selectors => do
      match ← findMember root selector with
      | none => .error (.err ("JSON selector " ++ quoted selector ++ " does not exist"))
      | some value => getValue as value selectors

def hasValue (root : Json) : List Text → Result Bool
  | [] => .ok true
  | selector :: selectors => do
      match ← findMember root selector with
      | none => .ok false
      | some value => hasValue value selectors

/-! ## Responses -/

structure HttpResponse where
  data : Json
  httpCode : Int

namespace HttpResponse

variable (response : HttpResponse)

def httpSuccess : Bool := 200 ≤ response.httpCode ∧ response.httpCode ≤ 299

def statusDescription : String :=
  if response.httpCode = 200 then "OK"
  else if response.httpCode = 201 then "Created"
  else if response.httpCode = 204 then "No Content"
  else if response.httpCode = 400 then "Bad Request"
  else if response.httpCode = 401 then "Unauthorized"
  else if response.httpCode = 403 then "Forbidden"
  else if response.httpCode = 404 then "File Not Found"
  else if response.httpCode = 500 then "Internal Server Error"
  else if response.httpCode = 502 then "Bad Gateway"
  else if response.httpCode = 503 then "Service Unavailable"
  else "Status Code: " ++ toString response.httpCode

end HttpResponse

def getResponseJson (response : HttpResponse) : Result Json := do
  cfExpect response.httpSuccess
    ("Error response from Android Build API - " ++ toString response.httpCode ++ ":" ++
      response.statusDescription ++ "\nCheck log file for full response")
  let error ← findMember response.data "error".toList
  cfExpect error.isNone
    ("Response was successful, but contains error information.  Check " ++
      "log file for full response.")
  pure response.data

abbrev Fetched := Result HttpResponse

def statusIsTerminal (status : Text) : Bool :=
  ["abandoned", "complete", "error", "ABANDONED", "COMPLETE", "ERROR"].any (·.toList = status)

structure BuildInfo where
  branch : Text
  product : Text
  status : Text
  target : Text
  isSigned : Bool
  deriving DecidableEq

def noAuthErrorMessage (hasCredentialSource : Bool) (response : HttpResponse) : String :=
  if ¬ hasCredentialSource ∧ response.httpCode = 404 then
    "\n\nThis fetch was run unauthenticated, which could be the " ++
      "problem.\nTry `cvd help login`"
  else ""

def getBuildInfo (hasCredentialSource : Bool) (fetched : Fetched) : Result BuildInfo := do
  let response ← fetched
  let json ← (getResponseJson response).mapError (withContext
    ("Error fetching build information for build:\n" ++
      "\n\nIf you specified a branch and it appears in the build id " ++
      "field of this error, there was a problem retrieving the latest " ++
      "build id.\n\nIs there a typo in the branch or target name?" ++
      noAuthErrorMessage hasCredentialSource response))
  let signedGiven ← hasValue json ["build".toList, "buildSigned".toList]
  let isSigned ← match signedGiven with
    | true => getValue asBool json ["build".toList, "buildSigned".toList]
    | false => pure false
  let branch ← getValue asString json ["build".toList, "branch".toList]
  let product ← getValue asString json ["build".toList, "target".toList, "product".toList]
  let status ← getValue asString json ["build".toList, "buildAttemptStatus".toList]
  let target ← getValue asString json ["build".toList, "target".toList, "name".toList]
  pure ⟨branch, product, status, target, isSigned⟩

/-! ## Waiting -/

def polledStatus (fetched : Fetched) : Result Text := do
  let response ← fetched
  let json ← (getResponseJson response).mapError
    (withContext "Error retrying build status retrieval")
  getValue asString json ["buildAttemptStatus".toList]

inductive Wait
  | polling
  | returned (result : Result Bool) (unread : List Fetched)

def poll (retryPeriod : Int) (status : Text) (hasRetried : Bool) (responses : List Fetched) :
    Wait :=
  if retryPeriod = 0 ∨ statusIsTerminal status then .returned (.ok hasRetried) responses
  else
    match responses with
    | [] => .polling
    | fetched :: responses =>
        match polledStatus fetched with
        | .error failure => .returned (.error failure) responses
        | .ok status => poll retryPeriod status true responses
termination_by structural responses

def blockUntilTerminalStatus (retryPeriod : Int) (initialStatus buildId : Text)
    (responses : List Fetched) : Wait :=
  if initialStatus = [] then
    .returned (.error (.err (quoted buildId ++ " is not a valid branch or build id."))) responses
  else poll retryPeriod initialStatus false responses

/-! ## The first terminal status -/

section Reported

variable (hasCredentialSource : Bool)

def reportsTerminal (fetched : Fetched) : Bool :=
  match getBuildInfo hasCredentialSource fetched with
  | .ok info => statusIsTerminal info.status
  | .error _ => false

/-- Success behind the first response that reports a terminal status. -/
def firstTerminal : List Fetched → Wait
  | [] => .polling
  | fetched :: responses =>
      if reportsTerminal hasCredentialSource fetched then .returned (.ok true) responses
      else firstTerminal responses

/-- The loop finds a status in the response, and it is terminal if the reported one is. -/
def Agrees (fetched : Fetched) : Prop :=
  ∃ status, polledStatus fetched = .ok status ∧
    statusIsTerminal status = reportsTerminal hasCredentialSource fetched

/-- All the responses agree, up to the first one that reports a terminal status. -/
def AgreesUpToTerminal : List Fetched → Prop
  | [] => True
  | fetched :: responses =>
      Agrees hasCredentialSource fetched ∧
        (reportsTerminal hasCredentialSource fetched = false → AgreesUpToTerminal responses)

end Reported

variable {hasCredentialSource : Bool} {retryPeriod : Int}

theorem firstTerminal_unread {responses unread : List Fetched} {result : Result Bool}
    (returned : firstTerminal hasCredentialSource responses = .returned result unread) :
    unread.length < responses.length := by
  induction responses with
  | nil => cases returned
  | cons fetched responses induction =>
      rw [firstTerminal] at returned
      split at returned
      · have same : responses = unread := (Wait.returned.inj returned).2
        rw [← same]
        exact Nat.lt_succ_self _
      · exact Nat.lt_succ_of_lt (induction returned)

theorem poll_of_terminal {status : Text} (terminal : statusIsTerminal status = true)
    (hasRetried : Bool) (responses : List Fetched) :
    poll retryPeriod status hasRetried responses = .returned (.ok hasRetried) responses := by
  rw [poll.eq_def, if_pos (Or.inr terminal)]

theorem poll_of_running (retries : retryPeriod ≠ 0) {status : Text}
    (running : statusIsTerminal status = false) (hasRetried : Bool) (fetched : Fetched)
    (responses : List Fetched) :
    poll retryPeriod status hasRetried (fetched :: responses) =
      match polledStatus fetched with
      | .error failure => .returned (.error failure) responses
      | .ok status => poll retryPeriod status true responses := by
  have goesOn : ¬ (retryPeriod = 0 ∨ statusIsTerminal status = true) := by simp [retries, running]
  rw [poll, if_neg goesOn]

theorem poll_unread (retries : retryPeriod ≠ 0) {status : Text}
    (running : statusIsTerminal status = false) {hasRetried : Bool}
    {responses unread : List Fetched} {result : Result Bool}
    (returned : poll retryPeriod status hasRetried responses = .returned result unread) :
    unread.length < responses.length := by
  induction responses generalizing status hasRetried with
  | nil =>
      have goesOn : ¬ (retryPeriod = 0 ∨ statusIsTerminal status = true) := by
        simp [retries, running]
      rw [poll, if_neg goesOn] at returned
      cases returned
  | cons fetched responses induction =>
      rw [poll_of_running retries running] at returned
      split at returned
      · have same : responses = unread := (Wait.returned.inj returned).2
        rw [← same]
        exact Nat.lt_succ_self _
      · rename_i polled _
        cases terminal : statusIsTerminal polled with
        | false => exact Nat.lt_succ_of_lt (induction terminal returned)
        | true =>
            rw [poll_of_terminal terminal] at returned
            have same : responses = unread := (Wait.returned.inj returned).2
            rw [← same]
            exact Nat.lt_succ_self _

theorem poll_eq_firstTerminal_iff (retries : retryPeriod ≠ 0) {status : Text}
    (running : statusIsTerminal status = false) (hasRetried : Bool) (responses : List Fetched) :
    poll retryPeriod status hasRetried responses = firstTerminal hasCredentialSource responses ↔
      AgreesUpToTerminal hasCredentialSource responses := by
  induction responses generalizing status hasRetried with
  | nil => simp [poll, retries, running, firstTerminal, AgreesUpToTerminal]
  | cons fetched responses induction =>
      rw [poll_of_running retries running, firstTerminal, AgreesUpToTerminal, Agrees]
      cases polled : polledStatus fetched with
      | error failure =>
          -- an error is returned, and the function is expected to succeed
          have noSuccess : Wait.returned (.error failure) responses ≠
              firstTerminal hasCredentialSource responses := fun same =>
            Nat.lt_irrefl _ (firstTerminal_unread same.symm)
          cases reported : reportsTerminal hasCredentialSource fetched <;> simp [noSuccess]
      | ok status =>
          cases terminal : statusIsTerminal status <;>
            cases reported : reportsTerminal hasCredentialSource fetched
          · simpa [terminal] using induction terminal true
          · -- it goes on behind the response where it is expected to stop
            have readsOn : poll retryPeriod status true responses ≠
                .returned (.ok true) responses := fun same =>
              Nat.lt_irrefl _ (poll_unread retries terminal same)
            simp [terminal, readsOn]
          · -- it stops where it is expected to go on
            have stops : Wait.returned (.ok true) responses ≠
                firstTerminal hasCredentialSource responses := fun same =>
              Nat.lt_irrefl _ (firstTerminal_unread same.symm)
            simp [terminal, poll_of_terminal terminal, stops]
          · simp [terminal, poll_of_terminal terminal]

theorem blockUntilTerminalStatus_reads_reported_iff (hasCredentialSource : Bool)
    {retryPeriod : Int} (retries : retryPeriod ≠ 0) {initialStatus : Text}
    (running : statusIsTerminal initialStatus = false) (buildId : Text)
    (responses : List Fetched) :
    blockUntilTerminalStatus retryPeriod initialStatus buildId responses =
        firstTerminal hasCredentialSource responses ↔
      initialStatus ≠ [] ∧ AgreesUpToTerminal hasCredentialSource responses := by
  rw [blockUntilTerminalStatus]
  split
  · rename_i empty
    apply iff_of_false
    · intro same
      exact Nat.lt_irrefl _ (firstTerminal_unread same.symm)
    · exact fun condition => condition.1 empty
  · rename_i named
    rw [poll_eq_firstTerminal_iff retries running]
    exact (and_iff_right named).symm

/-- A response with the fields that `GetBuildInfo` reads. -/
def sampleResponse (others : List (Text × Json)) (status : String) : Fetched :=
  .ok ⟨.object (("build".toList, .object [
    ("branch".toList, .string "main".toList),
    ("buildAttemptStatus".toList, .string status.toList),
    ("target".toList, .object [("product".toList, .string "phone".toList),
      ("name".toList, .string "phone-userdebug".toList)])]) :: others), 200⟩

theorem blockUntilTerminalStatus_reads_reported_sample :
    blockUntilTerminalStatus 20 "building".toList "1".toList
        [sampleResponse [("buildAttemptStatus".toList, .string "complete".toList)] "complete"] =
      firstTerminal false
        [sampleResponse [("buildAttemptStatus".toList, .string "complete".toList)] "complete"] :=
  (blockUntilTerminalStatus_reads_reported_iff false (by decide) (by decide) "1".toList _).mpr
    ⟨by decide, ⟨"complete".toList, rfl, rfl⟩, fun running => absurd running (by decide)⟩

/-- The response of a complete build is accepted, and waiting for it ends with an error. -/
theorem complete_build_not_found :
    getBuildInfo false (sampleResponse [] "complete") =
        .ok ⟨"main".toList, "phone".toList, "complete".toList, "phone-userdebug".toList, false⟩ ∧
      blockUntilTerminalStatus 20 "building".toList "1".toList [sampleResponse [] "complete"] ≠
        firstTerminal false [sampleResponse [] "complete"] := by
  constructor
  · rfl
  · have failed : blockUntilTerminalStatus 20 "building".toList "1".toList
        [sampleResponse [] "complete"] = .returned
          (.error (.err "JSON selector \"buildAttemptStatus\" does not exist")) [] := rfl
    have expected : firstTerminal false [sampleResponse [] "complete"] =
        .returned (.ok true) [] := rfl
    rw [failed, expected]
    intro same
    cases (Wait.returned.inj same).1

end Cuttlefish.Web.BuildStatus
