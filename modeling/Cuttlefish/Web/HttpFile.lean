import Mathlib.Data.List.Basic
import Cuttlefish.Foundation.Bytes

/-! # Downloads into files

`HttpGetToFile` of `http_client/http_file.cc`, called with the client of
`retrying_http_client.cc` that retries after server errors of the client of
`curl_http_client.cc`. A download goes into a temporary file, which is removed when it starts
again. -/

namespace Cuttlefish.Web

structure HttpHeader where
  name : String
  value : String
  deriving DecidableEq

/-- `HttpResponse<T>`. -/
structure HttpResponse (Data : Type) where
  data : Data
  httpCode : Int
  headers : List HttpHeader
  deriving DecidableEq

namespace HttpResponse

variable {Data : Type} (response : HttpResponse Data)

def httpSuccess : Bool := 200 ≤ response.httpCode && response.httpCode ≤ 299
def httpServerError : Bool := 500 ≤ response.httpCode && response.httpCode ≤ 599

end HttpResponse

namespace HttpFile

/-- What the server does in one attempt: the data in chunks and the response, or an error of
the transport. -/
structure Attempt where
  chunks : List Bytes
  response : Option (HttpResponse Unit)

/-! ## Files -/

/-- Names of files, and what the files have. A file without a name can still be written. -/
structure FileSystem where
  names : String → Option Nat
  files : Nat → Bytes
  used : Nat
  bounded : ∀ path inode, names path = some inode → inode < used

namespace FileSystem

variable (fileSystem : FileSystem) (path : String)

def lookup : Option Nat := if path = "" then none else fileSystem.names path

def content : Option Bytes := (fileSystem.lookup path).map fileSystem.files

def create : FileSystem where
  names other := if other = path then some fileSystem.used else fileSystem.names other
  files inode := if inode = fileSystem.used then [] else fileSystem.files inode
  used := fileSystem.used + 1
  bounded other inode named := by
    split at named
    next =>
      cases named
      exact Nat.lt_succ_self _
    next => exact Nat.lt_succ_of_lt (fileSystem.bounded other inode named)

def append (inode : Nat) (data : Bytes) : FileSystem where
  names := fileSystem.names
  files other :=
    if other = inode then fileSystem.files other ++ data else fileSystem.files other
  used := fileSystem.used
  bounded := fileSystem.bounded

theorem lt_used_of_lookup {inode : Nat} (found : fileSystem.lookup path = some inode) :
    inode < fileSystem.used := by
  rw [lookup] at found
  split at found
  next => cases found
  next => exact fileSystem.bounded path inode found

def remove : Option FileSystem :=
  match fileSystem.lookup path with
  | none => none
  | some _ =>
      some
        { fileSystem with
          names := fun other => if other = path then none else fileSystem.names other
          bounded := fun other inode named => by
            split at named
            next => cases named
            next => exact fileSystem.bounded other inode named }

def rename (current target : String) : Option FileSystem :=
  if target = "" then none
  else
    match found : fileSystem.lookup current with
    | none => none
    | some moved =>
        some
          { fileSystem with
            names := fun other =>
              if other = target then some moved
              else if other = current then none
              else fileSystem.names other
            bounded := fun other inode named => by
              split at named
              next =>
                cases named
                exact fileSystem.lt_used_of_lookup current found
              next =>
                split at named
                next => cases named
                next => exact fileSystem.bounded other inode named }

/-! ### Changes that leave a name alone -/

structure Apart (before : FileSystem) : Prop where
  names : fileSystem.names path = before.names path
  files : ∀ inode < before.used, fileSystem.files inode = before.files inode
  used : before.used ≤ fileSystem.used

section

variable {fileSystem before next : FileSystem} {path file : String}

theorem Apart.content (apart : fileSystem.Apart path before) :
    fileSystem.content path = before.content path := by
  have sameLookup : fileSystem.lookup path = before.lookup path := by
    rw [lookup, lookup, apart.names]
  rw [FileSystem.content, FileSystem.content, sameLookup]
  cases found : before.lookup path with
  | none => rfl
  | some inode => exact congrArg some (apart.files inode (before.lt_used_of_lookup path found))

theorem Apart.create (apart : fileSystem.Apart path before) (different : file ≠ path) :
    (fileSystem.create file).Apart path before where
  names := by
    change (if path = file then some fileSystem.used else fileSystem.names path) = _
    rw [if_neg different.symm]
    exact apart.names
  files inode isOld := by
    change (if inode = fileSystem.used then [] else fileSystem.files inode) = _
    rw [if_neg (Nat.ne_of_lt (Nat.lt_of_lt_of_le isOld apart.used))]
    exact apart.files inode isOld
  used := Nat.le_succ_of_le apart.used

theorem Apart.append (apart : fileSystem.Apart path before) {inode : Nat} {data : Bytes}
    (isNew : before.used ≤ inode) : (fileSystem.append inode data).Apart path before where
  names := apart.names
  files other isOld := by
    change (if other = inode then fileSystem.files other ++ data else fileSystem.files other) = _
    rw [if_neg (Nat.ne_of_lt (Nat.lt_of_lt_of_le isOld isNew))]
    exact apart.files other isOld
  used := apart.used

theorem Apart.remove (apart : fileSystem.Apart path before) (different : file = "" ∨ file ≠ path)
    (removed : fileSystem.remove file = some next) : next.Apart path before := by
  rw [FileSystem.remove] at removed
  cases found : fileSystem.lookup file with
  | none =>
      rw [found] at removed
      cases removed
  | some inode =>
      rw [found] at removed
      cases removed
      have notTarget : path ≠ file := by
        intro same
        rcases different with isEmpty | different
        · rw [lookup, if_pos isEmpty] at found
          cases found
        · exact different same.symm
      refine ⟨?_, apart.files, apart.used⟩
      change (if path = file then none else fileSystem.names path) = _
      rw [if_neg notTarget]
      exact apart.names

theorem content_of_names {inode : Nat} (named : path ≠ "")
    (isFile : fileSystem.names path = some inode) :
    fileSystem.content path = some (fileSystem.files inode) := by
  rw [content, lookup, if_neg named, isFile]
  rfl

theorem content_rename {current target : String} {inode : Nat} (different : current ≠ "")
    (isFile : fileSystem.names current = some inode)
    (renamed : fileSystem.rename current target = some next) :
    next.content target = some (fileSystem.files inode) := by
  rw [rename] at renamed
  split at renamed
  next => cases renamed
  next named =>
    have isFound : fileSystem.lookup current = some inode := by
      rw [lookup, if_neg different, isFile]
    split at renamed
    next notFound =>
      rw [isFound] at notFound
      cases notFound
    next moved found =>
      cases renamed
      rw [isFound] at found
      cases found
      have isTarget : (if target = target then some inode
          else if target = current then none else fileSystem.names target) = some inode :=
        if_pos rfl
      exact content_of_names named isTarget

end

end FileSystem

/-- How the calls of a moment end: the characters with which `mkostemp` replaces the six Xs, the
bytes of a write after which it fails, and whether files can be removed and renamed. -/
structure Moment where
  suffix : Option (Vector Char 6)
  written : Option Nat
  removes : Bool
  renames : Bool

structure Stream where
  inode : Nat
  failed : Bool
  deriving DecidableEq

/-- The files, and what the callback shares with its caller. -/
structure State where
  fileSystem : FileSystem
  moment : Nat
  tempPath : String
  stream : Option Stream

namespace State

def initial (fileSystem : FileSystem) : State where
  fileSystem := fileSystem
  moment := 0
  tempPath := ""
  stream := none

variable (moments : Nat → Moment) (path : String)

def removeFile (state : State) (file : String) : Bool × State :=
  let next := { state with moment := state.moment + 1 }
  if (moments state.moment).removes then
    match state.fileSystem.remove file with
    | none => (false, next)
    | some fileSystem => (true, { next with fileSystem := fileSystem })
  else (false, next)

def renameFile (state : State) (current target : String) : Bool × State :=
  let next := { state with moment := state.moment + 1 }
  if current = target then (true, state)
  else if (moments state.moment).renames then
    match state.fileSystem.rename current target with
    | none => (false, next)
    | some fileSystem => (true, { next with fileSystem := fileSystem })
  else (false, next)

def mkostemp (state : State) : Option (Nat × String) × State :=
  let next := { state with moment := state.moment + 1 }
  match (moments state.moment).suffix with
  | none => (none, next)
  | some suffix =>
      let tempPath := path ++ String.ofList suffix.toList
      match state.fileSystem.names tempPath with
      | some _ => (none, next)
      | none =>
          (some (state.fileSystem.used, tempPath),
            { next with fileSystem := state.fileSystem.create tempPath })

def start (state : State) : Bool × State :=
  let state :=
    if state.tempPath = "" then state else (state.removeFile moments state.tempPath).2
  match state.mkostemp moments path with
  | (none, state) => (false, state)
  | (some (inode, tempPath), state) =>
      (true, { state with tempPath := tempPath, stream := some ⟨inode, false⟩ })

def write (state : State) (data : Bytes) : Bool × State :=
  let next := { state with moment := state.moment + 1 }
  match state.stream with
  | none => (false, state)
  | some stream =>
      if stream.failed then (false, state)
      else
        match (moments state.moment).written with
        | none =>
            (true, { next with fileSystem := state.fileSystem.append stream.inode data })
        | some count =>
            (false,
              { next with
                fileSystem := state.fileSystem.append stream.inode (data.take count)
                stream := some { stream with failed := true } })

/-- The calls of the callback with data, until one fails. -/
def receive : List Bytes → State → Bool × State
  | [], state => (true, state)
  | chunk :: chunks, state =>
      match state.write moments chunk with
      | (false, state) => (false, state)
      | (true, state) => receive chunks state

def downloadToCallback (attempt : Attempt) (state : State) :
    Option (HttpResponse Unit) × State :=
  match state.start moments path with
  | (false, state) => (none, state)
  | (true, state) =>
      match receive moments attempt.chunks state with
      | (false, state) => (none, state)
      | (true, state) => (attempt.response, state)

/-- The loop of `ServerErrorRetryClient::DownloadToCallback`, with what the server does in each
of the attempts that it may make. -/
def retry : List Attempt → HttpResponse Unit → State → Option (HttpResponse Unit) × State
  | [], response, state => (some response, state)
  | attempt :: attempts, _, state =>
      match state.downloadToCallback moments path attempt with
      | (none, state) => (none, state)
      | (some response, state) =>
          if response.httpServerError then retry attempts response state
          else (some response, state)

/-! ### The target stays until the rename -/

structure Apart (before : FileSystem) (state : State) : Prop where
  fileSystem : state.fileSystem.Apart path before
  stream : ∀ stream, state.stream = some stream → before.used ≤ stream.inode
  tempPath : state.tempPath = "" ∨ state.tempPath ≠ path

structure Receiving (state : State) (data : Bytes) : Prop where
  named : state.tempPath ≠ ""
  file : ∃ inode, state.stream = some ⟨inode, false⟩ ∧
    state.fileSystem.names state.tempPath = some inode ∧ state.fileSystem.files inode = data

section

variable {moments path} {before : FileSystem} {state next : State} {done : Bool}

theorem Apart.removeFile {file : String} (apart : Apart path before state)
    (different : file = "" ∨ file ≠ path)
    (removed : state.removeFile moments file = (done, next)) : Apart path before next := by
  rw [State.removeFile] at removed
  split at removed
  next =>
    split at removed
    next =>
      cases removed
      exact ⟨apart.fileSystem, apart.stream, apart.tempPath⟩
    next fileSystem isRemoved =>
      cases removed
      exact ⟨apart.fileSystem.remove different isRemoved, apart.stream, apart.tempPath⟩
  next =>
    cases removed
    exact ⟨apart.fileSystem, apart.stream, apart.tempPath⟩

theorem tempPath_ne (path : String) (suffix : Vector Char 6) :
    path ++ String.ofList suffix.toList ≠ path ∧ path ++ String.ofList suffix.toList ≠ "" := by
  have length : (path ++ String.ofList suffix.toList).length = path.length + 6 := by
    rw [String.length_append, String.length_ofList, Vector.length_toList]
  constructor
  · intro same
    rw [same] at length
    omega
  · intro isEmpty
    rw [isEmpty, String.length_empty] at length
    omega

theorem mkostemp_none (apart : Apart path before state)
    (made : state.mkostemp moments path = (none, next)) : Apart path before next := by
  rw [mkostemp] at made
  split at made
  next =>
    cases made
    exact ⟨apart.fileSystem, apart.stream, apart.tempPath⟩
  next =>
    dsimp only at made
    split at made
    next =>
      cases made
      exact ⟨apart.fileSystem, apart.stream, apart.tempPath⟩
    next => cases made

theorem mkostemp_some (apart : Apart path before state) {inode : Nat} {tempPath : String}
    (made : state.mkostemp moments path = (some (inode, tempPath), next)) :
    next.fileSystem.Apart path before ∧ before.used ≤ inode ∧
      tempPath ≠ path ∧ tempPath ≠ "" ∧
      next.fileSystem.names tempPath = some inode ∧ next.fileSystem.files inode = [] := by
  rw [mkostemp] at made
  split at made
  next => cases made
  next suffix isSuffix =>
    rcases tempPath_ne path suffix with ⟨notTarget, notEmpty⟩
    dsimp only at made
    split at made
    next => cases made
    next =>
      cases made
      refine ⟨apart.fileSystem.create notTarget, apart.fileSystem.used, notTarget, notEmpty, ?_, ?_⟩
      · exact if_pos rfl
      · exact if_pos rfl

theorem start_spec (apart : Apart path before state)
    (started : state.start moments path = (done, next)) :
    Apart path before next ∧ (done = true → next.Receiving []) := by
  have afterRemove : Apart path before (if state.tempPath = "" then state
      else (state.removeFile moments state.tempPath).2) := by
    split
    · exact apart
    · exact apart.removeFile apart.tempPath rfl
  rw [start] at started
  generalize (if state.tempPath = "" then state
    else (state.removeFile moments state.tempPath).2) = removed at afterRemove started
  split at started
  next failed made =>
    cases started
    constructor
    · exact mkostemp_none afterRemove made
    · intro isDone
      cases isDone
  next inode tempPath after made =>
    cases started
    rcases mkostemp_some afterRemove made with
      ⟨isApart, isNew, notTarget, notEmpty, isNamed, isEmpty⟩
    constructor
    · refine ⟨isApart, ?_, .inr notTarget⟩
      intro stream isStream
      cases isStream
      exact isNew
    · intro _
      exact ⟨notEmpty, inode, rfl, isNamed, isEmpty⟩

theorem write_spec {chunk : Bytes} (apart : Apart path before state)
    (written : state.write moments chunk = (done, next)) :
    Apart path before next ∧
      ∀ data, state.Receiving data → done = true → next.Receiving (data ++ chunk) := by
  rw [write] at written
  dsimp only at written
  split at written
  next =>
    cases written
    refine ⟨apart, ?_⟩
    intro data _ isDone
    cases isDone
  next stream isStream =>
    have isNew := apart.stream stream isStream
    split at written
    next =>
      cases written
      refine ⟨apart, ?_⟩
      intro data _ isDone
      cases isDone
    next =>
      split at written
      next =>
        cases written
        refine ⟨⟨apart.fileSystem.append isNew, apart.stream, apart.tempPath⟩, ?_⟩
        intro data receiving _
        rcases receiving with ⟨named, inode, isOpen, isNamed, isData⟩
        rw [isOpen] at isStream
        cases isStream
        refine ⟨named, inode, isOpen, isNamed, ?_⟩
        change (if inode = inode then state.fileSystem.files inode ++ chunk else _) = _
        rw [if_pos rfl, isData]
      next =>
        cases written
        constructor
        · refine ⟨apart.fileSystem.append isNew, ?_, apart.tempPath⟩
          intro other isOther
          cases isOther
          exact isNew
        · intro data _ isDone
          cases isDone

theorem receive_spec {chunks : List Bytes} (apart : Apart path before state)
    (received : receive moments chunks state = (done, next)) :
    Apart path before next ∧
      ∀ data, state.Receiving data → done = true → next.Receiving (data ++ chunks.flatten) := by
  induction chunks generalizing state with
  | nil =>
      cases received
      refine ⟨apart, ?_⟩
      intro data receiving _
      rw [List.flatten_nil, List.append_nil]
      exact receiving
  | cons chunk chunks induction =>
      rw [receive] at received
      split at received
      next failed written =>
        cases received
        refine ⟨(write_spec apart written).1, ?_⟩
        intro data _ isDone
        cases isDone
      next after written =>
        rcases write_spec apart written with ⟨isApart, isWritten⟩
        rcases induction isApart received with ⟨isApart, isReceived⟩
        refine ⟨isApart, ?_⟩
        intro data receiving isDone
        rw [List.flatten_cons, ← List.append_assoc]
        exact isReceived _ (isWritten data receiving rfl) isDone

theorem downloadToCallback_spec {attempt : Attempt} {result : Option (HttpResponse Unit)}
    (apart : Apart path before state)
    (downloaded : state.downloadToCallback moments path attempt = (result, next)) :
    Apart path before next ∧ ∀ response, result = some response →
      attempt.response = some response ∧ next.Receiving attempt.chunks.flatten := by
  rw [downloadToCallback] at downloaded
  split at downloaded
  next failed started =>
    cases downloaded
    refine ⟨(start_spec apart started).1, ?_⟩
    intro response isResponse
    cases isResponse
  next startedState started =>
    rcases start_spec apart started with ⟨isApart, receiving⟩
    split at downloaded
    next failed received =>
      cases downloaded
      refine ⟨(receive_spec isApart received).1, ?_⟩
      intro response isResponse
      cases isResponse
    next after received =>
      rcases receive_spec isApart received with ⟨isApart, isReceived⟩
      cases downloaded
      refine ⟨isApart, ?_⟩
      intro response isResponse
      exact ⟨isResponse, isReceived [] (receiving rfl) rfl⟩

def ReachedAttempt (attempts : List Attempt) (last : Attempt) : Prop :=
  ∃ before rest, attempts = before ++ last :: rest ∧
    ∀ attempt ∈ before, attempt.response.any HttpResponse.httpServerError = true

theorem retry_spec {attempts : List Attempt} {initialResponse : HttpResponse Unit}
    {result : Option (HttpResponse Unit)} (apart : Apart path before state)
    (retried : retry moments path attempts initialResponse state = (result, next)) :
    Apart path before next ∧ ∀ response, result = some response → attempts ≠ [] →
      ∃ last, ReachedAttempt attempts last ∧ last.response = some response ∧
        next.Receiving last.chunks.flatten := by
  induction attempts generalizing initialResponse state with
  | nil =>
      cases retried
      refine ⟨apart, ?_⟩
      intro response _ notEmpty
      exact absurd rfl notEmpty
  | cons attempt attempts induction =>
      rw [retry] at retried
      split at retried
      next failed downloaded =>
        cases retried
        refine ⟨(downloadToCallback_spec apart downloaded).1, ?_⟩
        intro response isResponse
        cases isResponse
      next response after downloaded =>
        rcases downloadToCallback_spec apart downloaded with ⟨isApart, received⟩
        rcases received response rfl with ⟨isResponse, receiving⟩
        have isFirst : ReachedAttempt (attempt :: attempts) attempt :=
          ⟨[], attempts, rfl, by simp⟩
        split at retried
        next isServerError =>
          rcases induction isApart retried with ⟨isApart, isLast⟩
          refine ⟨isApart, ?_⟩
          intro final isFinal _
          cases attempts with
          | nil =>
              cases retried
              cases isFinal
              exact ⟨attempt, isFirst, isResponse, receiving⟩
          | cons following attempts =>
              rcases isLast final isFinal (List.cons_ne_nil _ _) with
                ⟨last, reached, lastResponse, lastReceiving⟩
              rcases reached with ⟨earlier, rest, split, areErrors⟩
              refine ⟨last, ⟨attempt :: earlier, rest, by rw [split]; rfl, ?_⟩, lastResponse,
                lastReceiving⟩
              intro other member
              rcases List.mem_cons.mp member with same | later
              · rw [same, isResponse]
                exact isServerError
              · exact areErrors other later
        next =>
          cases retried
          refine ⟨isApart, ?_⟩
          intro final isFinal _
          cases isFinal
          exact ⟨attempt, isFirst, isResponse, receiving⟩

theorem renameFile_spec {data : Bytes} (apart : Apart path before state)
    (receiving : state.Receiving data)
    (renamed : state.renameFile moments state.tempPath path = (done, next)) :
    next.fileSystem.content path = if done = true then some data else before.content path := by
  rcases receiving with ⟨named, inode, -, isFile, isData⟩
  have notTarget : state.tempPath ≠ path := by
    rcases apart.tempPath with isEmpty | notTarget
    · exact absurd isEmpty named
    · exact notTarget
  rw [renameFile, if_neg notTarget] at renamed
  split at renamed
  next =>
    split at renamed
    next =>
      cases renamed
      exact apart.fileSystem.content
    next isRenamed =>
      cases renamed
      rw [if_pos rfl, ← isData]
      exact FileSystem.content_rename named isFile isRenamed
  next =>
    cases renamed
    exact apart.fileSystem.content

theorem renameFile_empty (apart : Apart path before state) (isEmpty : state.tempPath = "")
    (renamed : state.renameFile moments state.tempPath path = (done, next)) :
    next.fileSystem.content path = before.content path := by
  have notFound : state.fileSystem.rename state.tempPath path = none := by
    rw [FileSystem.rename]
    split
    next => rfl
    next =>
      split
      next => rfl
      next found =>
        rw [FileSystem.lookup, if_pos isEmpty] at found
        cases found
  rw [renameFile] at renamed
  split at renamed
  next =>
    cases renamed
    exact apart.fileSystem.content
  next =>
    rw [notFound] at renamed
    split at renamed
    next =>
      cases renamed
      exact apart.fileSystem.content
    next =>
      cases renamed
      exact apart.fileSystem.content

end

end State

def finish (moments : Nat → Moment) (path : String) (response : HttpResponse Unit)
    (state : State) : Option (HttpResponse String) × State :=
  match if response.httpSuccess then state.renameFile moments state.tempPath path
    else state.removeFile moments state.tempPath with
  | (false, state) => (none, state)
  | (true, state) =>
      (some { data := path, httpCode := response.httpCode, headers := response.headers }, state)

/-- `HttpGetToFile`; `none` where it fails. The retrying client returns the uninitialized
response if it may not make any attempt. -/
def httpGetToFile (moments : Nat → Moment) (path : String) (uninitialized : HttpResponse Unit)
    (attempts : List Attempt) (fileSystem : FileSystem) : Option (HttpResponse String) × State :=
  match State.retry moments path attempts uninitialized (State.initial fileSystem) with
  | (none, state) => (none, state)
  | (some response, state) => finish moments path response state

/-- The response that ends the download, unless there is no attempt or the client fails. -/
def finalResponse (moments : Nat → Moment) (path : String) (uninitialized : HttpResponse Unit)
    (attempts : List Attempt) (fileSystem : FileSystem) : Option (HttpResponse Unit) :=
  if attempts = [] then none
  else (State.retry moments path attempts uninitialized (State.initial fileSystem)).1

section

variable {moments : Nat → Moment} {path : String} {response : HttpResponse Unit}
  {before fileSystem : FileSystem} {state : State}

theorem State.Apart.initial : State.Apart path fileSystem (State.initial fileSystem) where
  fileSystem := ⟨rfl, fun _ _ => rfl, Nat.le_refl _⟩
  stream stream isStream := by cases isStream
  tempPath := .inl rfl

theorem finish_of_not_success (apart : State.Apart path before state)
    (notSuccess : response.httpSuccess = false) :
    (finish moments path response state).2.fileSystem.content path = before.content path := by
  rw [finish, notSuccess, if_neg Bool.false_ne_true]
  cases removed : state.removeFile moments state.tempPath with
  | mk done next =>
      have isApart := apart.removeFile apart.tempPath removed
      cases done with
      | false => exact isApart.fileSystem.content
      | true => exact isApart.fileSystem.content

theorem finish_empty (apart : State.Apart path before state) (isEmpty : state.tempPath = "") :
    (finish moments path response state).2.fileSystem.content path = before.content path := by
  cases success : response.httpSuccess with
  | false => exact finish_of_not_success apart success
  | true =>
      rw [finish, success, if_pos rfl]
      cases renamed : state.renameFile moments state.tempPath path with
      | mk done next =>
          have same := State.renameFile_empty apart isEmpty renamed
          cases done with
          | false => exact same
          | true => exact same

theorem finish_of_success {data : Bytes} (apart : State.Apart path before state)
    (receiving : state.Receiving data) (success : response.httpSuccess = true) :
    (finish moments path response state).1 =
          some { data := path, httpCode := response.httpCode, headers := response.headers } ∧
        (finish moments path response state).2.fileSystem.content path = some data ∨
      (state.renameFile moments state.tempPath path).1 = false ∧
        (finish moments path response state).1 = none ∧
        (finish moments path response state).2.fileSystem.content path = before.content path := by
  rw [finish, success, if_pos rfl]
  cases renamed : state.renameFile moments state.tempPath path with
  | mk done next =>
      have target := State.renameFile_spec apart receiving renamed
      cases done with
      | false => exact .inr ⟨rfl, rfl, target⟩
      | true => exact .inl ⟨rfl, target⟩

end

section

variable (moments : Nat → Moment) (path : String) (uninitialized : HttpResponse Unit)
  (attempts : List Attempt) (fileSystem : FileSystem)

/-- The file at the path stays as it is, unless the final response is a success. Then it has
the chunks of the last attempt, or the rename fails and the file stays too. -/
theorem httpGetToFile_target :
    ((∀ response, finalResponse moments path uninitialized attempts fileSystem = some response →
        response.httpSuccess = false) →
      (httpGetToFile moments path uninitialized attempts fileSystem).2.fileSystem.content path =
        fileSystem.content path) ∧
    ∀ response, finalResponse moments path uninitialized attempts fileSystem = some response →
      response.httpSuccess = true →
        ((httpGetToFile moments path uninitialized attempts fileSystem).1 =
            some { data := path, httpCode := response.httpCode, headers := response.headers } ∧
          ∃ last, State.ReachedAttempt attempts last ∧ last.response = some response ∧
            (httpGetToFile moments path uninitialized attempts fileSystem).2.fileSystem.content
              path = some last.chunks.flatten) ∨
        (∃ state, State.retry moments path attempts uninitialized (State.initial fileSystem) =
            (some response, state) ∧ (state.renameFile moments state.tempPath path).1 = false) ∧
          (httpGetToFile moments path uninitialized attempts fileSystem).1 = none ∧
          (httpGetToFile moments path uninitialized attempts fileSystem).2.fileSystem.content
            path = fileSystem.content path := by
  rw [httpGetToFile, finalResponse]
  cases retried : State.retry moments path attempts uninitialized (State.initial fileSystem) with
  | mk result state =>
      rcases State.retry_spec State.Apart.initial retried with ⟨apart, received⟩
      constructor
      · intro notSuccess
        cases result with
        | none => exact apart.fileSystem.content
        | some response =>
            by_cases isEmpty : attempts = []
            · rw [isEmpty] at retried
              cases retried
              exact finish_empty apart rfl
            · rw [if_neg isEmpty] at notSuccess
              exact finish_of_not_success apart (notSuccess response rfl)
      · intro response isFinal success
        by_cases isEmpty : attempts = []
        · rw [if_pos isEmpty] at isFinal
          cases isFinal
        · rw [if_neg isEmpty] at isFinal
          cases isFinal
          rcases received response rfl isEmpty with ⟨last, reached, isResponse, receiving⟩
          rcases @finish_of_success moments path response fileSystem state _ apart receiving
            success with ⟨isResult, isTarget⟩ | ⟨notRenamed, isError, isOld⟩
          · exact .inl ⟨isResult, last, reached, isResponse, isTarget⟩
          · exact .inr ⟨⟨state, rfl, notRenamed⟩, isError, isOld⟩

end

def sampleFileSystem : FileSystem where
  names path := if path = "out" then some 0 else none
  files _ := [9]
  used := 1
  bounded path inode named := by
    split at named
    next =>
      cases named
      exact Nat.zero_lt_one
    next => cases named

def sampleMoment (_ : Nat) : Moment where
  suffix := some (Vector.replicate 6 'a')
  written := none
  removes := true
  renames := true

def sampleAttempts : List Attempt :=
  [⟨[[1, 2]], some ⟨(), 503, []⟩⟩, ⟨[[1], [2, 3]], some ⟨(), 200, []⟩⟩]

theorem httpGetToFile_target_retried :
    finalResponse sampleMoment "out" ⟨(), 0, []⟩ sampleAttempts sampleFileSystem =
        some ⟨(), 200, []⟩ ∧
      ∃ last, State.ReachedAttempt sampleAttempts last ∧ last.response = some ⟨(), 200, []⟩ ∧
        (httpGetToFile sampleMoment "out" ⟨(), 0, []⟩ sampleAttempts
          sampleFileSystem).2.fileSystem.content "out" = some last.chunks.flatten := by
  have isFinal : finalResponse sampleMoment "out" ⟨(), 0, []⟩ sampleAttempts sampleFileSystem =
      some ⟨(), 200, []⟩ := by
    decide +kernel
  have reported : (httpGetToFile sampleMoment "out" ⟨(), 0, []⟩ sampleAttempts
      sampleFileSystem).1 ≠ none := by
    decide +kernel
  rcases (httpGetToFile_target sampleMoment "out" ⟨(), 0, []⟩ sampleAttempts
      sampleFileSystem).2 _ isFinal rfl with replaced | failed
  · exact ⟨isFinal, replaced.2⟩
  · exact absurd failed.2.1 reported

end HttpFile

end Cuttlefish.Web
