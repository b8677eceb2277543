import Cuttlefish.Zip.SourceSeeks

/-! # Reads of remote zip files

What `RemoteZip::Read` of `zip/remote_zip.cc` returns when its requests go through the client of
`http_client/retrying_http_client.cc` to a server that has the file. -/

namespace Cuttlefish.Zip

/-- One request to the server: the data as they arrive, and the status; none stands for a
request without a response. -/
structure Attempt where
  chunks : List Bytes
  httpCode : Option Int

namespace Attempt

variable (attempt : Attempt)

def httpSuccess : Bool := attempt.httpCode.any fun code => 200 ≤ code && code ≤ 299

def httpServerError : Bool := attempt.httpCode.any fun code => 500 ≤ code && code ≤ 599

def body : Bytes := attempt.chunks.flatten

/-- The calls of the callback: the start of the data, and the data. -/
def events : List (Option Bytes) := none :: attempt.chunks.map some

end Attempt

/-- `DownloadToCallback` of the client that retries, with what the server does in each of the
attempts it may make. It returns the calls of the callback and the last attempt. -/
def downloadToCallback : List Attempt → Option (List (Option Bytes) × Attempt)
  | [] => none
  | attempt :: attempts =>
      if attempt.httpCode = none then none
      else if attempt.httpServerError ∧ attempts ≠ [] then
        (downloadToCallback attempts).map fun (events, last) => (attempt.events ++ events, last)
      else some (attempt.events, attempt)

namespace RemoteZip

/-- A request for a range, answered with success. -/
def download (server : (first last : Nat) → List Attempt) : Download := fun first last =>
  match downloadToCallback (server first last) with
  | none => none
  | some (events, response) => if response.httpSuccess then some events else none

/-! ## Servers -/

def rangeResponse (content : Bytes) (first last : Nat) : Bytes :=
  if first ≤ last then content.readAt first (last + 1 - first) else content

/-- What the server answers with success is the range. -/
def Correct (server : (first last : Nat) → List Attempt) (content : Bytes) : Prop :=
  ∀ first last, ∀ attempt ∈ server first last, attempt.httpSuccess = true →
    attempt.body = rangeResponse content first last

/-- The attempts before the first one that is not a server error. -/
def retried (attempts : List Attempt) : List Attempt := attempts.takeWhile Attempt.httpServerError

/-- The first attempt that is not a server error is a success. -/
def Answered (attempts : List Attempt) : Prop :=
  ∃ answer, (attempts.dropWhile Attempt.httpServerError).head? = some answer ∧
    answer.httpSuccess = true

/-- The attempts of the request that a read makes. -/
def requested (server : (first last : Nat) → List Attempt) (source : RemoteZip) (zipLen : Nat) :
    List Attempt :=
  server source.offset (toUInt64 (source.offset + zipLen - 1))

/-- A read returns what a file has there, and fails with its request only. -/
structure ReadsAsFile (server : (first last : Nat) → List Attempt) (content : Bytes)
    (source : RemoteZip) (zipLen : Nat) : Prop where
  answered : Answered (requested server source zipLen) →
    source.read (download server) zipLen =
      (some (content.readAt source.offset zipLen),
        { source with offset := source.offset + min zipLen (content.length - source.offset) })
  failed : ∀ next, source.read (download server) zipLen = (none, next) →
    ¬ Answered (requested server source zipLen) ∧ next = source
  unanswered : ¬ Answered (requested server source zipLen) →
    source.read (download server) zipLen = (none, source)

/-! ## What the callback collects -/

theorem collect_chunks (zipLen : Nat) (already : Bytes) (chunks : List Bytes)
    (rest : List (Option Bytes)) (fits : already.length ≤ zipLen) :
    collect zipLen already (chunks.map some ++ rest) =
      if already.length + chunks.flatten.length ≤ zipLen then
        collect zipLen (already ++ chunks.flatten) rest
      else none := by
  induction chunks generalizing already with
  | nil => simp [fits]
  | cons chunk chunks induction =>
      rw [List.map_cons, List.cons_append, collect, List.flatten_cons, List.length_append]
      by_cases tooLong : zipLen < chunk.length + already.length
      · rw [if_pos tooLong, if_neg (by omega)]
      · rw [if_neg tooLong, induction _ (by rw [List.length_append]; omega), List.length_append,
          List.append_assoc, Nat.add_assoc]

theorem collect_attempt (zipLen : Nat) (already : Bytes) (attempt : Attempt)
    (rest : List (Option Bytes)) :
    collect zipLen already (attempt.events ++ rest) =
      if attempt.body.length ≤ zipLen then collect zipLen attempt.body rest else none := by
  rw [Attempt.events, List.cons_append, collect, collect_chunks _ _ _ _ (Nat.zero_le _),
    List.length_nil, Nat.zero_add, List.nil_append]
  rfl

theorem httpServerError_of_success {attempt : Attempt} (success : attempt.httpSuccess = true) :
    attempt.httpServerError = false := by
  unfold Attempt.httpSuccess Attempt.httpServerError at *
  cases code : attempt.httpCode with
  | none => rfl
  | some code =>
      simp only [code, Option.any_some, Bool.and_eq_true, decide_eq_true_eq] at success ⊢
      simp only [Bool.and_eq_false_iff, decide_eq_false_iff_not]
      omega

theorem httpCode_of_serverError {attempt : Attempt} (isError : attempt.httpServerError = true) :
    attempt.httpCode ≠ none := by
  intro none
  rw [Attempt.httpServerError, none] at isError
  cases isError

theorem httpCode_of_success {attempt : Attempt} (success : attempt.httpSuccess = true) :
    attempt.httpCode ≠ none := by
  intro none
  rw [Attempt.httpSuccess, none] at success
  cases success

theorem downloadToCallback_answered {attempts : List Attempt} {answer : Attempt}
    (isHead : (attempts.dropWhile Attempt.httpServerError).head? = some answer)
    (success : answer.httpSuccess = true) :
    downloadToCallback attempts =
      some ((retried attempts).flatMap Attempt.events ++ answer.events, answer) := by
  induction attempts with
  | nil => cases isHead
  | cons attempt attempts induction =>
      rw [downloadToCallback]
      by_cases isError : attempt.httpServerError = true
      · rw [List.dropWhile_cons_of_pos isError] at isHead
        have more : attempts ≠ [] := by
          intro none
          rw [none] at isHead
          cases isHead
        have isRetried : retried (attempt :: attempts) = attempt :: retried attempts :=
          List.takeWhile_cons_of_pos isError
        rw [if_neg (httpCode_of_serverError isError), if_pos ⟨isError, more⟩, induction isHead,
          isRetried, List.flatMap_cons, List.append_assoc]
        rfl
      · rw [List.dropWhile_cons_of_neg isError] at isHead
        have isAnswer : attempt = answer := Option.some.inj isHead
        rw [isAnswer] at isError ⊢
        rw [if_neg (httpCode_of_success success), if_neg (fun both => isError both.1), retried,
          List.takeWhile_cons_of_neg isError]
        rfl

theorem answered_of_download {attempts : List Attempt} {events : List (Option Bytes)}
    {response : Attempt} (downloaded : downloadToCallback attempts = some (events, response))
    (success : response.httpSuccess = true) : Answered attempts := by
  induction attempts generalizing events with
  | nil => cases downloaded
  | cons attempt attempts induction =>
      rw [downloadToCallback] at downloaded
      split at downloaded
      · cases downloaded
      · split at downloaded
        · rename_i retries
          cases later : downloadToCallback attempts with
          | none =>
              rw [later] at downloaded
              cases downloaded
          | some result =>
              rw [later] at downloaded
              have isResponse : result.2 = response :=
                (Prod.mk.inj (Option.some.inj downloaded)).2
              have isLater : downloadToCallback attempts = some (result.1, response) := by
                rw [later, ← isResponse]
              rcases induction isLater with ⟨answer, isHead, isSuccess⟩
              refine ⟨answer, ?_, isSuccess⟩
              rw [List.dropWhile_cons_of_pos retries.1]
              exact isHead
        · have isResponse : attempt = response :=
            (Prod.mk.inj (Option.some.inj downloaded)).2
          refine ⟨response, ?_, success⟩
          have notError := httpServerError_of_success success
          rw [isResponse, List.dropWhile_cons_of_neg (by simp [notError])]
          rfl

theorem collect_retried {zipLen : Nat} (already : Bytes) {attempts : List Attempt}
    {answer : Attempt} (fits : ∀ attempt ∈ attempts, attempt.body.length ≤ zipLen)
    (answerFits : answer.body.length ≤ zipLen) :
    collect zipLen already (attempts.flatMap Attempt.events ++ answer.events) =
      some answer.body := by
  induction attempts generalizing already with
  | nil =>
      have whole := collect_attempt zipLen already answer []
      rw [List.append_nil] at whole
      rw [List.flatMap_nil, List.nil_append, whole, if_pos answerFits]
      rfl
  | cons attempt attempts induction =>
      rw [List.flatMap_cons, List.append_assoc, collect_attempt,
        if_pos (fits attempt List.mem_cons_self)]
      exact induction _ fun other member => fits other (List.mem_cons_of_mem attempt member)

theorem fits_of_collect {zipLen : Nat} {already data : Bytes} {attempts : List Attempt}
    {answer : Attempt}
    (collected : collect zipLen already (attempts.flatMap Attempt.events ++ answer.events) =
      some data) :
    (∀ attempt ∈ attempts, attempt.body.length ≤ zipLen) ∧ data = answer.body := by
  induction attempts generalizing already with
  | nil =>
      have whole := collect_attempt zipLen already answer []
      rw [List.append_nil] at whole
      rw [List.flatMap_nil, List.nil_append, whole] at collected
      split at collected
      · refine ⟨fun attempt member => ?_, (Option.some.inj collected).symm⟩
        cases member
      · cases collected
  | cons attempt attempts induction =>
      rw [List.flatMap_cons, List.append_assoc, collect_attempt] at collected
      split at collected
      · rename_i fits
        rcases induction collected with ⟨othersFit, isData⟩
        refine ⟨?_, isData⟩
        intro other member
        rcases List.mem_cons.mp member with isFirst | inRest
        · exact isFirst ▸ fits
        · exact othersFit other inRest
      · cases collected

/-! ## Reads -/

section Read

variable {server : (first last : Nat) → List Attempt} {content : Bytes} {source : RemoteZip}
  {zipLen : Nat}

theorem download_answered {first last : Nat} {answer : Attempt}
    (isHead : ((server first last).dropWhile Attempt.httpServerError).head? = some answer)
    (success : answer.httpSuccess = true) :
    download server first last =
      some ((retried (server first last)).flatMap Attempt.events ++ answer.events) := by
  rw [download, downloadToCallback_answered isHead success]
  exact if_pos success

theorem read_unanswered (notAnswered : ¬ Answered (requested server source zipLen)) :
    source.read (download server) zipLen = (none, source) := by
  have fails : download server source.offset (toUInt64 (source.offset + zipLen - 1)) = none := by
    rw [download]
    cases downloaded : downloadToCallback
        (server source.offset (toUInt64 (source.offset + zipLen - 1))) with
    | none => rfl
    | some result =>
        apply if_neg
        intro success
        exact notAnswered (answered_of_download downloaded success)
  rw [read, fails]

theorem read_answered {answer : Attempt}
    (isHead : ((requested server source zipLen).dropWhile Attempt.httpServerError).head? =
      some answer)
    (success : answer.httpSuccess = true)
    (fits : ∀ attempt ∈ retried (requested server source zipLen), attempt.body.length ≤ zipLen)
    (whole : answer.body.length = zipLen) :
    source.read (download server) zipLen =
      (some answer.body, { source with offset := source.offset + answer.body.length }) := by
  have collected := collect_retried [] fits (Nat.le_of_eq whole)
  rw [read, download_answered isHead success]
  rw [requested] at collected
  simp only [collected, whole, ne_eq, not_true, if_false]

theorem whole_of_read {answer : Attempt} {data : Bytes} {next : RemoteZip}
    (isHead : ((requested server source zipLen).dropWhile Attempt.httpServerError).head? =
      some answer)
    (success : answer.httpSuccess = true)
    (returned : source.read (download server) zipLen = (some data, next)) :
    (∀ attempt ∈ retried (requested server source zipLen), attempt.body.length ≤ zipLen) ∧
      answer.body.length = zipLen ∧ data = answer.body := by
  rw [read, download_answered isHead success] at returned
  dsimp only at returned
  cases collected : collect zipLen [] ((retried (requested server source zipLen)).flatMap
      Attempt.events ++ answer.events) with
  | none =>
      rw [requested] at collected
      rw [collected] at returned
      cases (Prod.mk.inj returned).1
  | some collectedData =>
      rcases fits_of_collect collected with ⟨fits, isBody⟩
      rw [requested] at collected
      rw [collected] at returned
      dsimp only at returned
      split at returned
      · cases (Prod.mk.inj returned).1
      · rename_i whole
        have isData := Option.some.inj (Prod.mk.inj returned).1
        rw [isBody] at whole isData
        exact ⟨fits, by simpa using whole, isData.symm⟩

theorem source_of_failed {next : RemoteZip}
    (failed : source.read (download server) zipLen = (none, next)) : next = source := by
  rw [read] at failed
  split at failed
  · exact (Prod.mk.inj failed).2.symm
  · split at failed
    · exact (Prod.mk.inj failed).2.symm
    · split at failed
      · exact (Prod.mk.inj failed).2.symm
      · cases (Prod.mk.inj failed).1

theorem rangeResponse_inside {offset : Nat} (positive : 0 < zipLen)
    (inside : offset + zipLen ≤ content.length)
    (fits : content.length < 18446744073709551616) :
    rangeResponse content offset (toUInt64 (offset + zipLen - 1)) =
      content.readAt offset zipLen := by
  have last : toUInt64 ((offset : Int) + zipLen - 1) = offset + zipLen - 1 := by
    rw [toUInt64]
    omega
  have size : offset + zipLen - 1 + 1 - offset = zipLen := by omega
  rw [rangeResponse, last, if_pos (by omega), size]

theorem rangeResponse_zero {offset : Nat} (inside : offset ≤ content.length)
    (fits : content.length < 18446744073709551616) :
    rangeResponse content offset (toUInt64 (offset + (0 : Nat) - 1)) = content := by
  by_cases atStart : offset = 0
  · have last : toUInt64 ((offset : Int) + (0 : Nat) - 1) = 18446744073709551615 := by
      rw [toUInt64]
      omega
    rw [rangeResponse, last, atStart, if_pos (Nat.zero_le _), Bytes.readAt, List.drop_zero]
    exact List.take_of_length_le (by omega)
  · have last : toUInt64 ((offset : Int) + (0 : Nat) - 1) = offset - 1 := by
      rw [toUInt64]
      omega
    rw [rangeResponse, last, if_neg (by omega)]

theorem body_eq (correct : Correct server content) {answer : Attempt}
    (isHead : ((requested server source zipLen).dropWhile Attempt.httpServerError).head? =
      some answer)
    (success : answer.httpSuccess = true) :
    answer.body =
      rangeResponse content source.offset (toUInt64 (source.offset + zipLen - 1)) := by
  apply correct
  · exact (List.dropWhile_sublist _).subset (List.mem_of_mem_head? isHead)
  · exact success

theorem read_within (correct : Correct server content)
    (fits : content.length < 18446744073709551616)
    (answered : Answered (requested server source zipLen))
    (within : source.offset + zipLen ≤ content.length) (emptyWhenNone : zipLen = 0 → content = [])
    (retriedFit : ∀ attempt ∈ retried (requested server source zipLen),
      attempt.body.length ≤ zipLen) :
    source.read (download server) zipLen =
      (some (content.readAt source.offset zipLen),
        { source with offset :=
            source.offset + min zipLen (content.length - source.offset) }) := by
  rcases answered with ⟨answer, isHead, success⟩
  have isRange := body_eq correct isHead success
  have isSlice : answer.body = content.readAt source.offset zipLen := by
    by_cases none : zipLen = 0
    · have isEmpty := emptyWhenNone none
      rw [isRange, none, rangeResponse_zero (by omega) fits, isEmpty, Bytes.readAt]
      rfl
    · rw [isRange, rangeResponse_inside (Nat.pos_of_ne_zero none) within fits]
  have whole : answer.body.length = zipLen := by
    rw [isSlice, Bytes.readAt_length]
    omega
  have moved : min zipLen (content.length - source.offset) = answer.body.length := by
    rw [whole]
    omega
  rw [read_answered isHead success retriedFit whole, isSlice, moved, isSlice]

theorem within_of_read (correct : Correct server content) (inside : source.offset ≤ content.length)
    (fits : content.length < 18446744073709551616)
    (answered : Answered (requested server source zipLen)) {next : RemoteZip}
    (returned : source.read (download server) zipLen =
      (some (content.readAt source.offset zipLen), next)) :
    source.offset + zipLen ≤ content.length ∧ (zipLen = 0 → content = []) ∧
      ∀ attempt ∈ retried (requested server source zipLen), attempt.body.length ≤ zipLen := by
  rcases answered with ⟨answer, isHead, success⟩
  rcases whole_of_read isHead success returned with ⟨retriedFit, whole, isBody⟩
  have length := congrArg List.length isBody
  rw [whole, Bytes.readAt_length] at length
  refine ⟨by omega, ?_, retriedFit⟩
  intro none
  have isContent := body_eq correct isHead success
  rw [none] at isContent whole
  rw [rangeResponse_zero inside fits] at isContent
  rw [isContent] at whole
  exact List.length_eq_zero_iff.mp whole

/-- A read is like one of a file when its request is not answered, and otherwise exactly when it
ends within the content, asks for something unless the content is empty, and is long enough for
all that the client delivers before the answer. -/
theorem readsAsFile_iff (correct : Correct server content)
    (inside : source.offset ≤ content.length)
    (fits : content.length < 18446744073709551616) :
    ReadsAsFile server content source zipLen ↔
      ¬ Answered (requested server source zipLen) ∨
        source.offset + zipLen ≤ content.length ∧ (zipLen = 0 → content = []) ∧
          ∀ attempt ∈ retried (requested server source zipLen),
            attempt.body.length ≤ zipLen := by
  constructor
  · intro reads
    by_cases answered : Answered (requested server source zipLen)
    · exact .inr (within_of_read correct inside fits answered (reads.answered answered))
    · exact .inl answered
  · intro either
    constructor
    · intro answered
      rcases either.resolve_left (not_not_intro answered) with ⟨within, emptyWhenNone, retriedFit⟩
      exact read_within correct fits answered within emptyWhenNone retriedFit
    · intro next isFailure
      refine ⟨?_, source_of_failed isFailure⟩
      intro answered
      rcases either.resolve_left (not_not_intro answered) with ⟨within, emptyWhenNone, retriedFit⟩
      rw [read_within correct fits answered within emptyWhenNone retriedFit] at isFailure
      cases (Prod.mk.inj isFailure).1
    · exact read_unanswered

end Read

def sampleServer (content : Bytes) (first last : Nat) : List Attempt :=
  [⟨[[9]], some 503⟩, ⟨[rangeResponse content first last], some 206⟩]

theorem sampleServer_correct (content : Bytes) : Correct (sampleServer content) content := by
  intro first last attempt member success
  rcases List.mem_cons.mp member with isFirst | inRest
  · rw [isFirst] at success
    cases success
  · rw [List.mem_singleton.mp inRest, Attempt.body, List.flatten_singleton]

theorem readsAsFile_iff_sample :
    ReadsAsFile (sampleServer [1, 2, 3, 4]) [1, 2, 3, 4] ⟨1, 4⟩ 2 ↔
      ¬ Answered (requested (sampleServer [1, 2, 3, 4]) ⟨1, 4⟩ 2) ∨
        1 + 2 ≤ 4 ∧ (2 = 0 → ([1, 2, 3, 4] : Bytes) = []) ∧
          ∀ attempt ∈ retried (requested (sampleServer [1, 2, 3, 4]) ⟨1, 4⟩ 2),
            attempt.body.length ≤ 2 :=
  readsAsFile_iff (sampleServer_correct [1, 2, 3, 4]) (by decide) (by decide)

/-- A read across the end fails although it is answered. -/
theorem read_across_end_fails :
    ¬ ∀ (server : (first last : Nat) → List Attempt) (content : Bytes) (source : RemoteZip)
      (zipLen : Nat), Correct server content → source.offset ≤ content.length →
        content.length < 18446744073709551616 → ReadsAsFile server content source zipLen := by
  intro always
  have reads := always (sampleServer [1, 2, 3, 4]) [1, 2, 3, 4] ⟨2, 4⟩ 4
    (sampleServer_correct [1, 2, 3, 4]) (by decide) (by decide)
  have answered : Answered (requested (sampleServer [1, 2, 3, 4]) ⟨2, 4⟩ 4) :=
    ⟨⟨[[3, 4]], some 206⟩, rfl, rfl⟩
  have failed : read (download (sampleServer [1, 2, 3, 4])) ⟨2, 4⟩ 4 = (none, ⟨2, 4⟩) := rfl
  exact (reads.failed ⟨2, 4⟩ failed).1 answered

end RemoteZip

end Cuttlefish.Zip
