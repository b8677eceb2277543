import Cuttlefish.Foundation.XmlWrite
import Cuttlefish.ModemSimulator.SimFileSystem

/-! # Reading files of the SIM after updates

`HandleSIM_IO` searches one list of records for every command, but for updates it looks
only at the parameters. -/

namespace Cuttlefish.ModemSimulator

open Xml DocumentApi

variable {Element : Type} {api : DocumentApi Element}

/-! ## Files after a write -/

namespace SimFileSystem

variable {way : List Nat} {text : Text} {document : Element}

theorem followPath_afterWrite (lawful : api.Lawful) (parent : Pointer Element) (path : Text) :
    followPath api (api.afterWrite way text parent) path =
      (followPath api parent path).map (api.afterWrite way text) := by
  rw [followPath, followPath]
  generalize pathPieces path = pieces
  induction pieces generalizing parent with
  | nil => rfl
  | cons piece pieces induction =>
      rw [List.foldlM_cons, List.foldlM_cons, findAttribute_afterWrite lawful]
      cases api.findAttribute parent "path" piece with
      | none => rfl
      | some child => exact induction child

theorem findFile_afterWrite (lawful : api.Lawful) (document : Element) (path id : Text) :
    findFile api (api.setTextAt document way text) path id =
      (findFile api document path id).map (api.afterWrite way text) := by
  rw [findFile, findFile, root_afterWrite, followPath_afterWrite lawful]
  cases followPath api (DocumentApi.root document) path with
  | none => rfl
  | some parent => exact findAttribute_afterWrite lawful parent "id" id

theorem leadsIn_followPath {parent child : Pointer Element} {path : Text}
    (leads : api.LeadsIn document parent) (found : followPath api parent path = some child) :
    api.LeadsIn document child := by
  rw [followPath] at found
  generalize pathPieces path = pieces at found
  induction pieces generalizing parent with
  | nil =>
      cases found
      exact leads
  | cons piece pieces induction =>
      rw [List.foldlM_cons] at found
      cases step : api.findAttribute parent "path" piece with
      | none =>
          rw [step] at found
          cases found
      | some next =>
          rw [step] at found
          exact induction (leads.findAttribute step) found

theorem leadsIn_findFile {path id : Text} {ef : Pointer Element}
    (found : findFile api document path id = some ef) : api.LeadsIn document ef := by
  rw [findFile] at found
  cases step : followPath api (DocumentApi.root document) path with
  | none =>
      rw [step] at found
      cases found
  | some parent =>
      rw [step] at found
      exact (leadsIn_followPath LeadsIn.root step).findAttribute found

end SimFileSystem

open SimFileSystem

namespace SimCard

/-! ## Requests -/

namespace SimIoRequest

variable (api)

def isRead (request : SimIoRequest) : Bool :=
  request.c == "B2".toList || request.c == "B0".toList

/-- The file that the request is about; none where its id is not a number. -/
def file (request : SimIoRequest) (document : Element) : Option (Pointer Element) :=
  (Hexadecimal.stoi request.id).bind fun fileid =>
    findFile api document (request.location fileid).1 (request.location fileid).2

def hasParameters (request : SimIoRequest) (final : Pointer Element) : Bool :=
  api.hasAttribute final "p1" request.p1 && api.hasAttribute final "p2" request.p2 &&
    api.hasAttribute final "p3" request.p3

/-- The record that the request is about, which it reads or writes. -/
def record (request : SimIoRequest) (document : Element) : Option (Pointer Element) :=
  (request.file api document).bind fun ef =>
    (api.childrenNamed ef "SIMIO").find? (request.matchesRecord api)

end SimIoRequest

def withText (api : DocumentApi Element) (card : SimCard Element) (document : Element)
    (final : Pointer Element) (text : Text) : SimCard Element :=
  { card with profile := some (api.setText document final text) }

def respond (api : DocumentApi Element) (card : SimCard Element) (request : SimIoRequest) :
    Option (SimCard Element × List String) :=
  match card.profile with
  | none => some (card, [cmeErrorOperationNotAllowed])
  | some document =>
      if Hexadecimal.stoi request.id = none then none
      else
        match request.record api document with
        | none => some (card, fileNotFound)
        | some final =>
            if request.isUpdate then
              some (card.withText api document final ("144,0,".toList ++ request.data),
                ["+CRSM: 144,0", "OK"])
            else
              (api.text final).map fun text => (card, ["+CRSM: " ++ String.ofList text, "OK"])

theorem findRecord_eq (request : SimIoRequest) (document : Element) (fileid : Int) :
    request.findRecord api document fileid =
      (findFile api document (request.location fileid).1 (request.location fileid).2).bind fun ef =>
        (api.childrenNamed ef "SIMIO").find? (request.matchesRecord api) := by
  rw [SimIoRequest.findRecord]
  dsimp only
  cases findFile api document (request.location fileid).1 (request.location fileid).2 with
  | none => rfl
  | some ef => rfl

theorem handleSIM_IO_eq (card : SimCard Element) (command : Text) :
    card.handleSIM_IO api command =
      if CommandParser.skipPrefix command = statusRequest then some (card, [statusResponse, "OK"])
      else card.respond api (SimIoRequest.parse (CommandParser.skipPrefix command)) := by
  rw [ handleSIM_IO]
  dsimp only
  split
  next => rfl
  next =>
    generalize SimIoRequest.parse (CommandParser.skipPrefix command) = request
    rw [respond]
    cases card.profile with
    | none => rfl
    | some document =>
        dsimp only
        rw [SimIoRequest.record, SimIoRequest.file]
        cases Hexadecimal.stoi request.id with
        | none => rfl
        | some fileid =>
            dsimp only
            rw [if_neg (Option.some_ne_none fileid), findRecord_eq, Option.bind_some]
            cases (findFile api document (request.location fileid).1
                (request.location fileid).2).bind fun ef =>
                  (api.childrenNamed ef "SIMIO").find? (request.matchesRecord api) with
            | none => rfl
            | some final =>
                dsimp only
                split
                · rfl
                · cases api.text final with
                  | none => rfl
                  | some text => rfl

/-! ## The records of requests -/

section

variable {document : Element} {request : SimIoRequest} {way : List Nat} {text : Text}

theorem isUpdate_of_isRead (isRead : request.isRead = true) : request.isUpdate = false := by
  rw [SimIoRequest.isRead, Bool.or_eq_true, beq_iff_eq, beq_iff_eq] at isRead
  rw [SimIoRequest.isUpdate]
  rcases isRead with isC | isC
  · rw [isC]
    decide
  · rw [isC]
    decide

theorem matchesRecord_of_isUpdate (isUpdate : request.isUpdate = true) :
    request.matchesRecord api = request.hasParameters api := by
  funext final
  rw [SimIoRequest.matchesRecord, isUpdate, Bool.true_or, Bool.true_and]
  rfl

theorem matchesRecord_of_not_isUpdate (notUpdate : request.isUpdate = false)
    (final : Pointer Element) :
    request.matchesRecord api final = true ↔
      SimIoRequest.allows api final "cmd" request.c = true ∧
        SimIoRequest.allows api final "data" request.data = true ∧
        request.hasParameters api final = true := by
  rw [SimIoRequest.matchesRecord, notUpdate, Bool.false_or, SimIoRequest.hasParameters]
  simp only [Bool.and_eq_true, and_assoc]

theorem hasParameters_of_matchesRecord {final : Pointer Element}
    (isMatch : request.matchesRecord api final = true) :
    request.hasParameters api final = true := by
  rw [SimIoRequest.matchesRecord] at isMatch
  rw [SimIoRequest.hasParameters]
  simp only [Bool.and_eq_true] at isMatch ⊢
  exact ⟨⟨isMatch.1.1.2, isMatch.1.2⟩, isMatch.2⟩

theorem matchesRecord_afterWrite (lawful : api.Lawful) (final : Pointer Element) :
    request.matchesRecord api (api.afterWrite way text final) =
      request.matchesRecord api final := by
  simp only [SimIoRequest.matchesRecord, SimIoRequest.allows, hasAttribute_afterWrite lawful,
    attributeValue_afterWrite lawful]

theorem file_afterWrite (lawful : api.Lawful) :
    request.file api (api.setTextAt document way text) =
      (request.file api document).map (api.afterWrite way text) := by
  rw [SimIoRequest.file, SimIoRequest.file]
  cases Hexadecimal.stoi request.id with
  | none => rfl
  | some fileid => exact findFile_afterWrite lawful document _ _

theorem record_afterWrite (lawful : api.Lawful) :
    request.record api (api.setTextAt document way text) =
      (request.record api document).map (api.afterWrite way text) := by
  rw [SimIoRequest.record, SimIoRequest.record, file_afterWrite lawful]
  cases request.file api document with
  | none => rfl
  | some ef =>
      rw [Option.map_some, Option.bind_some, Option.bind_some, childrenNamed_afterWrite lawful]
      exact find?_map_afterWrite (matchesRecord_afterWrite lawful)

theorem stoi_of_record {final : Pointer Element}
    (found : request.record api document = some final) : Hexadecimal.stoi request.id ≠ none := by
  intro isNone
  rw [SimIoRequest.record, SimIoRequest.file, isNone] at found
  cases found

theorem record_eq_some {final : Pointer Element} :
    request.record api document = some final ↔
      ∃ ef, request.file api document = some ef ∧
        (api.childrenNamed ef "SIMIO").find? (request.matchesRecord api) = some final := by
  rw [SimIoRequest.record, Option.bind_eq_some_iff]

theorem leadsIn_file {ef : Pointer Element} (found : request.file api document = some ef) :
    api.LeadsIn document ef := by
  rw [SimIoRequest.file, Option.bind_eq_some_iff] at found
  rcases found with ⟨fileid, -, isFile⟩
  exact leadsIn_findFile isFile

theorem mem_childPointers_of_find? {ef final : Pointer Element} {name : String}
    {wanted : Pointer Element → Bool}
    (found : (api.childrenNamed ef name).find? wanted = some final) :
    final ∈ api.childPointers ef :=
  (List.mem_filter.mp (List.mem_of_find?_eq_some found)).1

theorem file_eq_of_record_way {other : SimIoRequest} {ef otherEf final otherFinal : Pointer Element}
    (isFile : request.file api document = some ef)
    (isOther : other.file api document = some otherEf)
    (member : final ∈ api.childPointers ef) (otherMember : otherFinal ∈ api.childPointers otherEf)
    (sameWay : otherFinal.way = final.way) :
    other.file api document = request.file api document ∧ otherFinal = final := by
  have leads := leadsIn_file isFile
  have otherLeads := leadsIn_file isOther
  rcases mem_childPointers.mp member with ⟨position, isWay, -⟩
  rcases mem_childPointers.mp otherMember with ⟨otherPosition, isOtherWay, -⟩
  have ways : otherEf.way = ef.way := by
    rw [isWay, isOtherWay] at sameWay
    exact List.append_inj_left' sameWay rfl
  have sameFile := otherLeads.eq_of_way_eq leads ways
  rw [isFile, isOther, sameFile]
  exact ⟨rfl, (otherLeads.child otherMember).eq_of_way_eq (leads.child member) sameWay⟩

end

/-! ## Answers -/

section

variable {card : SimCard Element} {document : Element} {request : SimIoRequest}
  {text : Text}

theorem respond_update (isProfile : card.profile = some document) {final : Pointer Element}
    (isUpdate : request.isUpdate = true) (found : request.record api document = some final) :
    card.respond api request =
      some (card.withText api document final ("144,0,".toList ++ request.data),
        ["+CRSM: 144,0", "OK"]) := by
  rw [respond, isProfile]
  dsimp only
  rw [if_neg (stoi_of_record found), found]
  dsimp only
  rw [if_pos isUpdate]

theorem respond_other (isProfile : card.profile = some document) {final : Pointer Element}
    (notUpdate : request.isUpdate = false) (found : request.record api document = some final) :
    card.respond api request =
      (api.text final).map fun text => (card, ["+CRSM: " ++ String.ofList text, "OK"]) := by
  rw [respond, isProfile]
  dsimp only
  rw [if_neg (stoi_of_record found), found]
  dsimp only
  rw [notUpdate, if_neg Bool.false_ne_true]

theorem answer_withText (lawful : api.Lawful) (isProfile : card.profile = some document)
    {written : Pointer Element}
    (kept : ∀ final, request.record api document = some final → request.isUpdate = false →
      final.way ≠ written.way) :
    ((card.withText api document written text).respond api request).map Prod.snd =
      (card.respond api request).map Prod.snd := by
  rw [respond, respond, isProfile, withText]
  dsimp only [setText]
  split
  · rfl
  · rw [record_afterWrite lawful]
    cases found : request.record api document with
    | none => rfl
    | some final =>
        rw [Option.map_some]
        dsimp only
        split
        · rfl
        next notUpdate =>
          have different := kept final found (by simpa using notUpdate)
          rw [text_afterWrite lawful, if_neg different, Option.map_map, Option.map_map]
          rfl

end

/-! ## Reading what was written -/

section

variable (api) (document : Element) (target : SimIoRequest)

/-- The request is about the same file with the same parameters. -/
structure SameTarget (request : SimIoRequest) : Prop where
  file : request.file api document = target.file api document
  p1 : request.p1 = target.p1
  p2 : request.p2 = target.p2
  p3 : request.p3 = target.p3

/-- A request to read the file with the parameters finds a record. -/
structure ReadsRecord (read : SimIoRequest) (final : Pointer Element) : Prop where
  isRead : read.isRead = true
  target : SameTarget api document target read
  found : read.record api document = some final

/-- After an update with any data every such request is answered with the data, and the
answers to all other requests are as before. -/
def ReadsBack (card : SimCard Element) : Prop :=
  ∀ update : SimIoRequest, update.isUpdate = true → SameTarget api document target update →
    '\x00' ∉ update.data →
      ∃ updated, card.respond api update = some (updated, ["+CRSM: 144,0", "OK"]) ∧
        (∀ read final, ReadsRecord api document target read final →
          updated.respond api read = some (updated,
            ["+CRSM: " ++ String.ofList ("144,0,".toList ++ update.data), "OK"])) ∧
        ∀ other : SimIoRequest,
          ¬ (other.isRead = true ∧ SameTarget api document target other) →
            (updated.respond api other).map Prod.snd = (card.respond api other).map Prod.snd

/-- The first record with the parameters is for one command, and it is the record that all
requests to read with them find. -/
def UpdatesReadRecord : Prop :=
  ∃ ef first, target.file api document = some ef ∧
    (api.childrenNamed ef "SIMIO").find? (target.hasParameters api) = some first ∧
    api.attributeValue first.element "cmd" ≠ none ∧
    ∀ read final, ReadsRecord api document target read final →
      read.matchesRecord api first = true

end

section

variable {document : Element} {target request : SimIoRequest} {ef first : Pointer Element}

theorem SameTarget.hasParameters (same : SameTarget api document target request) :
    request.hasParameters api = target.hasParameters api := by
  funext final
  rw [SimIoRequest.hasParameters, SimIoRequest.hasParameters, same.p1, same.p2, same.p3]

theorem find?_of_imp {α : Type} {values : List α} {weak strong : α → Bool} {first : α}
    (found : values.find? weak = some first) (isStrong : strong first = true)
    (imp : ∀ value, strong value = true → weak value = true) :
    values.find? strong = some first := by
  induction values with
  | nil => cases found
  | cons value rest induction =>
      rw [List.find?_cons] at found ⊢
      cases isWeak : weak value with
      | true =>
          rw [isWeak] at found
          cases found
          rw [isStrong]
      | false =>
          rw [isWeak] at found
          have notStrong : strong value = false := by
            cases isTrue : strong value with
            | false => rfl
            | true =>
                rw [imp value isTrue] at isWeak
                cases isWeak
          rw [notStrong]
          exact induction found

theorem record_of_matches_first (isFile : target.file api document = some ef)
    (isFirst : (api.childrenNamed ef "SIMIO").find? (target.hasParameters api) = some first)
    (same : SameTarget api document target request)
    (isMatch : request.matchesRecord api first = true) :
    request.record api document = some first := by
  apply record_eq_some.mpr
  refine ⟨ef, same.file.trans isFile, find?_of_imp isFirst isMatch ?_⟩
  intro final matches_
  rw [← same.hasParameters]
  exact hasParameters_of_matchesRecord matches_

theorem first_of_readsRecord {read : SimIoRequest} {final : Pointer Element}
    (reads : ReadsRecord api document target read final) :
    ∃ ef first, target.file api document = some ef ∧
      (api.childrenNamed ef "SIMIO").find? (target.hasParameters api) = some first := by
  rcases record_eq_some.mp reads.found with ⟨ef, isFile, isFinal⟩
  have has : target.hasParameters api final = true := by
    rw [← reads.target.hasParameters]
    exact hasParameters_of_matchesRecord (List.find?_some isFinal)
  have some := List.find?_isSome.mpr ⟨final, List.mem_of_find?_eq_some isFinal, has⟩
  rcases Option.isSome_iff_exists.mp some with ⟨first, isFirst⟩
  exact ⟨ef, first, reads.target.file ▸ isFile, isFirst⟩

theorem update_finds_first (isFile : target.file api document = some ef)
    (isFirst : (api.childrenNamed ef "SIMIO").find? (target.hasParameters api) = some first)
    (isUpdate : request.isUpdate = true) (same : SameTarget api document target request) :
    request.record api document = some first := by
  apply record_of_matches_first isFile isFirst same
  rw [matchesRecord_of_isUpdate isUpdate, same.hasParameters]
  exact List.find?_some isFirst

theorem takeWhile_of_notMem {text : Text} (noNull : '\x00' ∉ text) :
    text.takeWhile (· != '\x00') = text := by
  rw [List.takeWhile_eq_self_iff]
  intro char member
  exact bne_iff_ne.mpr fun isNull => noNull (isNull ▸ member)

theorem takeWhile_answer {data : Text} (noNull : '\x00' ∉ data) :
    ("144,0,".toList ++ data).takeWhile (· != '\x00') = "144,0,".toList ++ data := by
  apply takeWhile_of_notMem
  intro member
  rcases List.mem_append.mp member with inFront | inData
  · exact absurd inFront (by decide)
  · exact noNull inData

theorem respond_withText (lawful : api.Lawful) {card : SimCard Element} {data : Text}
    (noNull : '\x00' ∉ data) (notUpdate : request.isUpdate = false)
    (found : request.record api document = some first) :
    (card.withText api document first ("144,0,".toList ++ data)).respond api request =
      some (card.withText api document first ("144,0,".toList ++ data),
        ["+CRSM: " ++ String.ofList ("144,0,".toList ++ data), "OK"]) := by
  have isProfile : (card.withText api document first ("144,0,".toList ++ data)).profile =
      some (api.setTextAt document first.way ("144,0,".toList ++ data)) := by
    rw [withText, setText, takeWhile_answer noNull]
  have foundAfter := @record_afterWrite _ api document request first.way
    ("144,0,".toList ++ data) lawful
  rw [found] at foundAfter
  rw [respond_other isProfile notUpdate foundAfter, text_afterWrite lawful, if_pos rfl]
  rfl

theorem not_answer_of_all {answer : Option (List String)} (all : ∀ data : Text, '\x00' ∉ data →
    answer = some ["+CRSM: " ++ String.ofList ("144,0,".toList ++ data), "OK"]) : False := by
  have empty := all [] (by decide)
  rw [all ['0'] (by decide)] at empty
  exact absurd empty (by decide)

theorem isRead_of_matches {read other : SimIoRequest} (isRead : read.isRead = true)
    (isMatch : read.matchesRecord api first = true) (notUpdate : other.isUpdate = false)
    (isOther : other.matchesRecord api first = true)
    (hasCommand : api.attributeValue first.element "cmd" ≠ none) : other.isRead = true := by
  rw [matchesRecord_of_not_isUpdate (isUpdate_of_isRead isRead)] at isMatch
  rw [matchesRecord_of_not_isUpdate notUpdate] at isOther
  have command := isMatch.1
  have otherCommand := isOther.1
  rw [SimIoRequest.allows] at command otherCommand
  cases isValue : api.attributeValue first.element "cmd" with
  | none => exact absurd isValue hasCommand
  | some value =>
      rw [isValue] at command otherCommand
      have isC := eq_of_beq command
      have isOtherC := eq_of_beq otherCommand
      rw [SimIoRequest.isRead, ← isOtherC, isC]
      exact isRead

theorem parameter_eq {name : String} {value other : Text}
    (has : api.hasAttribute first name value = true)
    (hasOther : api.hasAttribute first name other = true) : other = value := by
  have isValue := eq_of_beq has
  rw [eq_of_beq hasOther] at isValue
  exact Option.some.inj isValue

theorem sameTarget_of_way (isFile : target.file api document = some ef)
    (isFirst : (api.childrenNamed ef "SIMIO").find? (target.hasParameters api) = some first)
    {final : Pointer Element} (found : request.record api document = some final)
    (sameWay : final.way = first.way) :
    SameTarget api document target request ∧ request.matchesRecord api first = true := by
  rcases record_eq_some.mp found with ⟨otherEf, isOther, isFinal⟩
  rcases file_eq_of_record_way isFile isOther (mem_childPointers_of_find? isFirst)
    (mem_childPointers_of_find? isFinal) sameWay with ⟨sameFile, isSame⟩
  subst isSame
  have isMatch := List.find?_some isFinal
  have has := hasParameters_of_matchesRecord isMatch
  have hasTarget := List.find?_some isFirst
  rw [SimIoRequest.hasParameters, Bool.and_eq_true, Bool.and_eq_true] at has hasTarget
  exact ⟨⟨sameFile, parameter_eq hasTarget.1.1 has.1.1, parameter_eq hasTarget.1.2 has.1.2,
    parameter_eq hasTarget.2 has.2⟩, isMatch⟩

theorem readsBack_of_updatesReadRecord (lawful : api.Lawful) {card : SimCard Element}
    (isProfile : card.profile = some document) {read : SimIoRequest} {final : Pointer Element}
    (reads : ReadsRecord api document target read final)
    (right : UpdatesReadRecord api document target) : ReadsBack api document target card := by
  rcases right with ⟨ef, first, isFile, isFirst, hasCommand, all⟩
  intro update isUpdate same noNull
  refine ⟨_, respond_update isProfile isUpdate (update_finds_first isFile isFirst isUpdate same),
    ?_, ?_⟩
  · intro next found readsNext
    have finds := record_of_matches_first isFile isFirst readsNext.target (all _ _ readsNext)
    exact respond_withText lawful noNull (isUpdate_of_isRead readsNext.isRead) finds
  · intro other different
    apply answer_withText lawful isProfile
    intro found isFound notUpdate sameWay
    rcases sameTarget_of_way isFile isFirst isFound sameWay with ⟨isTarget, isMatch⟩
    exact different ⟨isRead_of_matches reads.isRead (all _ _ reads) notUpdate isMatch hasCommand,
      isTarget⟩

theorem updatesReadRecord_of_readsBack (lawful : api.Lawful) {card : SimCard Element}
    (isProfile : card.profile = some document) {read : SimIoRequest} {final : Pointer Element}
    (reads : ReadsRecord api document target read final)
    (back : ReadsBack api document target card) : UpdatesReadRecord api document target := by
  rcases first_of_readsRecord reads with ⟨ef, first, isFile, isFirst⟩
  -- What is known of the answers after an update with any data.
  have updated : ∀ data : Text, '\x00' ∉ data →
      (∀ read final, ReadsRecord api document target read final →
        ((card.withText api document first ("144,0,".toList ++ data)).respond api read).map
            Prod.snd = some ["+CRSM: " ++ String.ofList ("144,0,".toList ++ data), "OK"]) ∧
      ∀ other : SimIoRequest, ¬ (other.isRead = true ∧ SameTarget api document target other) →
        ((card.withText api document first ("144,0,".toList ++ data)).respond api other).map
            Prod.snd = (card.respond api other).map Prod.snd := by
    intro data noNull
    have same : SameTarget api document target { target with c := "DC".toList, data := data } :=
      ⟨rfl, rfl, rfl, rfl⟩
    have isUpdate :
        SimIoRequest.isUpdate { target with c := "DC".toList, data := data } = true := by
      rw [SimIoRequest.isUpdate, beq_self_eq_true, Bool.true_or]
    rcases back _ isUpdate same noNull with ⟨after, answered, readBack, unchanged⟩
    rw [respond_update isProfile isUpdate (update_finds_first isFile isFirst isUpdate same)]
      at answered
    have isAfter := congrArg Prod.fst (Option.some.inj answered)
    dsimp only at isAfter
    subst isAfter
    constructor
    · intro read final reads
      rw [readBack read final reads]
      rfl
    · exact unchanged
  refine ⟨ef, first, isFile, isFirst, ?_, ?_⟩
  · -- A record without a command is read by other commands too.
    intro noCommand
    let other : SimIoRequest := { target with
      c := "C0".toList, data := (api.attributeValue first.element "data").getD [] }
    have notUpdate : other.isUpdate = false := by
      change ("C0".toList == "DC".toList || "C0".toList == "D6".toList) = false
      decide
    have notRead : other.isRead = false := by
      change ("C0".toList == "B2".toList || "C0".toList == "B0".toList) = false
      decide
    have isMatch : other.matchesRecord api first = true := by
      rw [matchesRecord_of_not_isUpdate notUpdate]
      refine ⟨?_, ?_, List.find?_some isFirst⟩
      · rw [SimIoRequest.allows, noCommand]
      · rw [SimIoRequest.allows]
        cases isData : api.attributeValue first.element "data" with
        | none => rfl
        | some present =>
            change (present == (api.attributeValue first.element "data").getD []) = true
            rw [isData, Option.getD_some, beq_self_eq_true]
    have same : SameTarget api document target other := ⟨rfl, rfl, rfl, rfl⟩
    have finds := record_of_matches_first isFile isFirst same isMatch
    apply @not_answer_of_all ((card.respond api other).map Prod.snd)
    intro data noNull
    have unchanged := (updated data noNull).2 other (fun isOther => by
      rw [notRead] at isOther
      cases isOther.1)
    rw [← unchanged, respond_withText lawful noNull notUpdate finds]
    rfl
  · intro next found readsNext
    by_cases isMatch : next.matchesRecord api first = true
    · exact isMatch
    · exfalso
      apply @not_answer_of_all ((card.respond api next).map Prod.snd)
      intro data noNull
      rw [← (updated data noNull).1 next found readsNext]
      apply Eq.symm
      apply answer_withText lawful isProfile
      intro other isOther _ sameWay
      exact isMatch (sameTarget_of_way isFile isFirst isOther sameWay).2

end

/-- What an update writes is read, and nothing else changes, exactly if the update finds
the record that is read. -/
theorem readsBack_iff_updatesReadRecord (lawful : api.Lawful) (card : SimCard Element)
    (document : Element) (isProfile : card.profile = some document) (target : SimIoRequest) :
    ((∃ read final, ReadsRecord api document target read final) →
        ReadsBack api document target card) ↔
      ((∃ read final, ReadsRecord api document target read final) →
        UpdatesReadRecord api document target) := by
  constructor
  · intro back hasRead
    rcases hasRead with ⟨read, final, reads⟩
    exact updatesReadRecord_of_readsBack lawful isProfile reads (back ⟨read, final, reads⟩)
  · intro right hasRead
    rcases hasRead with ⟨read, final, reads⟩
    exact readsBack_of_updatesReadRecord lawful isProfile reads (right ⟨read, final, reads⟩)

def simIo (command data : Text) : Tag :=
  .mk "SIMIO" [("cmd", command), ("p1", ['0']), ("p2", ['0']), ("p3", ['F'])]
    (some ("144,0,".toList ++ data)) []

def profileWith (records : List Tag) : Tag :=
  .mk "IccProfile" [] none
    [.mk "MF" [("path", "3F00".toList)] none
      [.mk "ADF" [("path", "7FFF".toList)] none [.mk "EF" [("id", "6F40".toList)] none records]]]

def cardWith (records : List Tag) : SimCard Tag where
  pins := SimService.sampleService
  profile := some (profileWith records)
  logicalChannels := []
  lastFileId := []

def readFile : SimIoRequest where
  c := ['B', '0']
  id := ['6', 'F', '4', '0']
  p1 := ['0']
  p2 := ['0']
  p3 := ['F']
  data := []
  path := []

theorem readsBack_iff_updatesReadRecord_one :
    ReadsBack Tag.api (profileWith [simIo ['B', '0'] ['0', '1']]) readFile
      (cardWith [simIo ['B', '0'] ['0', '1']]) := by
  generalize isProfile : profileWith [simIo ['B', '0'] ['0', '1']] = document
  have one : (readFile.file Tag.api document).map (fun ef =>
      (Tag.api.childrenNamed ef "SIMIO").map fun final =>
        (Tag.api.attributeValue final.element "cmd", readFile.matchesRecord Tag.api final)) =
      some [(some ['B', '0'], true)] := by
    rw [← isProfile]
    decide +kernel
  rcases Option.map_eq_some_iff.mp one with ⟨ef, isFile, records⟩
  rcases List.map_eq_singleton_iff.mp records with ⟨first, isList, isFirst⟩
  have command := congrArg Prod.fst isFirst
  have isMatch : readFile.matchesRecord Tag.api first = true := congrArg Prod.snd isFirst
  have found : readFile.record Tag.api document = some first := by
    apply record_eq_some.mpr
    refine ⟨ef, isFile, ?_⟩
    rw [isList, List.find?_cons, isMatch]
  apply (readsBack_iff_updatesReadRecord Tag.lawful _ document (congrArg some isProfile)
    readFile).mpr
  · intro _
    refine ⟨ef, first, isFile, ?_, ?_, ?_⟩
    · rw [isList, List.find?_cons, hasParameters_of_matchesRecord isMatch]
    · intro isNone
      rw [isNone] at command
      cases command
    · intro read final reads
      rcases record_eq_some.mp reads.found with ⟨otherEf, isOther, isFinal⟩
      have sameFile := reads.target.file.symm.trans isOther
      rw [isFile] at sameFile
      rw [← Option.some.inj sameFile, isList] at isFinal
      have isOnly := List.mem_singleton.mp (List.mem_of_find?_eq_some isFinal)
      rw [← isOnly]
      exact List.find?_some isFinal
  · exact ⟨readFile, first, by decide, ⟨rfl, rfl, rfl, rfl⟩, found⟩

def readCommand : Text := "AT+CRSM=176,28480,0,0,15".toList
def getResponseCommand : Text := "AT+CRSM=192,28480,0,0,15".toList
def updateCommand : Text := "AT+CRSM=214,28480,0,0,15,AA".toList

/-- The answers to a command before and after the update. -/
def answers (card : SimCard Tag) (command : Text) : Option (List String) × Option (List String) :=
  ((card.handleSIM_IO Tag.api command).map Prod.snd,
    (card.handleSIM_IO Tag.api updateCommand).bind fun updated =>
      ( handleSIM_IO Tag.api updated.1 command).map Prod.snd)

/-- An update of a file whose first record with the parameters is for GET RESPONSE: the
record that is read stays, and the other one changes. -/
theorem update_overwrites_get_response :
    answers (cardWith [simIo ['C', '0'] ['6', '2'], simIo ['B', '0'] ['0', '1']]) readCommand =
        (some ["+CRSM: 144,0,01", "OK"], some ["+CRSM: 144,0,01", "OK"]) ∧
      answers (cardWith [simIo ['C', '0'] ['6', '2'], simIo ['B', '0'] ['0', '1']])
          getResponseCommand =
        (some ["+CRSM: 144,0,62", "OK"], some ["+CRSM: 144,0,AA", "OK"]) := by
  decide +kernel

end SimCard

end Cuttlefish.ModemSimulator
