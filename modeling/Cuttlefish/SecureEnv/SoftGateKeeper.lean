import Cuttlefish.Foundation.LittleEndian
import Mathlib.Logic.Function.Basic

/-! # The fast path of the gatekeeper

`SoftGateKeeper` of `host/commands/secure_env`: behind a password that the base class has accepted,
a fast hash of it is kept for the user. -/

namespace Cuttlefish.SecureEnv.SoftGateKeeper

/-- `password_handle_t`: the user id, and what else is in the handle. -/
structure PasswordHandle where
  userId : UInt64
  content : Bytes
  deriving DecidableEq

structure FastHash (Digest : Type) where
  salt : UInt64
  digest : Digest

abbrev FastHashMap (Digest : Type) := UInt64 → Option (FastHash Digest)

structure Verification where
  expectedHandle : PasswordHandle
  password : Bytes
  salt : UInt64

/-- Calls of the gatekeeper. `Enroll` of the base class makes a new handle; a trusted one keeps the
user id of the current handle, which is verified first. -/
inductive Call
  | enroll (issued : PasswordHandle)
  | reenroll (current : Verification) (issued : PasswordHandle)
  | verify (verification : Verification)

def Call.verification : Call → Option Verification
  | .enroll _ => none
  | .reenroll current _ => some current
  | .verify verification => some verification

section Libraries

variable {Digest : Type} [DecidableEq Digest] (sha256 : Bytes → Digest)

def computeFastHash (password : Bytes) (salt : UInt64) : FastHash Digest where
  salt := salt
  digest := sha256 (LittleEndian.encode 8 salt.toNat ++ password)

def verifyFast (fastHash : FastHash Digest) (password : Bytes) : Bool :=
  (computeFastHash sha256 password fastHash.salt).digest = fastHash.digest

-- `GateKeeper::DoVerify`
variable (baseVerify : PasswordHandle → Bytes → Bool)

def fastVerified (fastHashMap : FastHashMap Digest) (verification : Verification) : Bool :=
  match fastHashMap verification.expectedHandle.userId with
  | none => false
  | some fastHash => verifyFast sha256 fastHash verification.password

def doVerify (verification : Verification) (fastHashMap : FastHashMap Digest) :
    Bool × FastHashMap Digest :=
  if fastVerified sha256 fastHashMap verification then (true, fastHashMap)
  else if baseVerify verification.expectedHandle verification.password then
    (true, Function.update fastHashMap verification.expectedHandle.userId
      (some (computeFastHash sha256 verification.password verification.salt)))
  else (false, fastHashMap)

def step (fastHashMap : FastHashMap Digest) (call : Call) : FastHashMap Digest :=
  match call.verification with
  | none => fastHashMap
  | some verification => (doVerify sha256 baseVerify verification fastHashMap).2

/-- In all the calls, one after another, `DoVerify` answers as the base class would. -/
def Agrees (fastHashMap : FastHashMap Digest) : List Call → Prop
  | [] => True
  | call :: calls =>
      (∀ verification ∈ call.verification,
        (doVerify sha256 baseVerify verification fastHashMap).1 =
          baseVerify verification.expectedHandle verification.password) ∧
      Agrees (step sha256 baseVerify fastHashMap call) calls

/-! ## The last password of a user -/

def noteVerified (verified : UInt64 → Option Bytes) (call : Call) : UInt64 → Option Bytes :=
  match call.verification with
  | none => verified
  | some verification =>
      if baseVerify verification.expectedHandle verification.password then
        Function.update verified verification.expectedHandle.userId (some verification.password)
      else verified

-- the password that a handle was made from
variable (passwordOf : PasswordHandle → Option Bytes)

/-- The password that was accepted last for the user is only given with a handle that was made
from it. -/
def NoOldPassword (verified : UInt64 → Option Bytes) : List Call → Prop
  | [] => True
  | call :: calls =>
      (∀ verification ∈ call.verification,
        verified verification.expectedHandle.userId = some verification.password →
          passwordOf verification.expectedHandle = some verification.password) ∧
      NoOldPassword (noteVerified baseVerify verified call) calls

variable {sha256 baseVerify passwordOf}

def Cached (sha256 : Bytes → Digest) (fastHashMap : FastHashMap Digest)
    (verified : UInt64 → Option Bytes) : Prop :=
  ∀ userId, ∃ salt, fastHashMap userId =
    (verified userId).map fun password => computeFastHash sha256 password salt

theorem fastVerified_iff (noCollisions : Function.Injective sha256)
    {fastHashMap : FastHashMap Digest} {verified : UInt64 → Option Bytes}
    (cached : Cached sha256 fastHashMap verified) (verification : Verification) :
    fastVerified sha256 fastHashMap verification = true ↔
      verified verification.expectedHandle.userId = some verification.password := by
  rcases cached verification.expectedHandle.userId with ⟨salt, found⟩
  rw [fastVerified, found]
  cases verified verification.expectedHandle.userId with
  | none => simp
  | some password =>
      change decide (sha256 (LittleEndian.encode 8 salt.toNat ++ verification.password) =
        sha256 (LittleEndian.encode 8 salt.toNat ++ password)) = true ↔ _
      rw [decide_eq_true_eq, Option.some.injEq]
      constructor
      · intro same
        exact (List.append_cancel_left (noCollisions same)).symm
      · intro same
        rw [same]

theorem Cached.step (noCollisions : Function.Injective sha256)
    {fastHashMap : FastHashMap Digest} {verified : UInt64 → Option Bytes}
    (cached : Cached sha256 fastHashMap verified) {call : Call}
    (agrees : ∀ verification ∈ call.verification,
      (doVerify sha256 baseVerify verification fastHashMap).1 =
        baseVerify verification.expectedHandle verification.password) :
    Cached sha256 (SoftGateKeeper.step sha256 baseVerify fastHashMap call)
      (noteVerified baseVerify verified call) := by
  rw [SoftGateKeeper.step, noteVerified]
  cases given : call.verification with
  | none => exact cached
  | some verification =>
      have same := agrees verification given
      dsimp only
      rw [doVerify] at same ⊢
      cases fast : fastVerified sha256 fastHashMap verification with
      | true =>
          -- the password is the one that is noted already
          have noted := (fastVerified_iff noCollisions cached verification).mp fast
          rw [fast, if_pos rfl] at same
          rw [if_pos rfl, ← same, if_pos rfl, ← noted, Function.update_eq_self]
          exact cached
      | false =>
          rw [if_neg Bool.false_ne_true]
          cases baseVerify verification.expectedHandle verification.password with
          | false => exact cached
          | true =>
              intro userId
              by_cases user : userId = verification.expectedHandle.userId
              · subst user
                exact ⟨verification.salt, by simp⟩
              · rcases cached userId with ⟨salt, found⟩
                exact ⟨salt, by simp [user, found]⟩

theorem doVerify_agrees_iff (noCollisions : Function.Injective sha256)
    (accepts : ∀ handle password, baseVerify handle password = true ↔
      passwordOf handle = some password)
    {fastHashMap : FastHashMap Digest} {verified : UInt64 → Option Bytes}
    (cached : Cached sha256 fastHashMap verified) (verification : Verification) :
    (doVerify sha256 baseVerify verification fastHashMap).1 =
        baseVerify verification.expectedHandle verification.password ↔
      (verified verification.expectedHandle.userId = some verification.password →
        passwordOf verification.expectedHandle = some verification.password) := by
  rw [← fastVerified_iff noCollisions cached, ← accepts, doVerify]
  cases fastVerified sha256 fastHashMap verification with
  | true =>
      rw [if_pos rfl]
      exact ⟨fun same _ => same.symm, fun accepted => (accepted rfl).symm⟩
  | false => cases baseVerify verification.expectedHandle verification.password <;> simp

theorem agrees_iff (noCollisions : Function.Injective sha256)
    (accepts : ∀ handle password, baseVerify handle password = true ↔
      passwordOf handle = some password)
    {fastHashMap : FastHashMap Digest} {verified : UInt64 → Option Bytes}
    (cached : Cached sha256 fastHashMap verified) (calls : List Call) :
    Agrees sha256 baseVerify fastHashMap calls ↔
      NoOldPassword baseVerify passwordOf verified calls := by
  induction calls generalizing fastHashMap verified with
  | nil => exact Iff.rfl
  | cons call calls induction =>
      have first : (∀ verification ∈ call.verification,
          (doVerify sha256 baseVerify verification fastHashMap).1 =
            baseVerify verification.expectedHandle verification.password) ↔
          ∀ verification ∈ call.verification,
            verified verification.expectedHandle.userId = some verification.password →
              passwordOf verification.expectedHandle = some verification.password :=
        forall₂_congr fun verification _ =>
          doVerify_agrees_iff noCollisions accepts cached verification
      rw [Agrees, NoOldPassword, ← first]
      apply and_congr_right
      intro agrees
      exact induction (cached.step noCollisions agrees)

end Libraries

/-- With an empty map, all calls are answered as the base class would answer them exactly where no
old password is given. -/
theorem fast_path_agrees_iff {Digest : Type} [DecidableEq Digest] {sha256 : Bytes → Digest}
    {baseVerify : PasswordHandle → Bytes → Bool} (passwordOf : PasswordHandle → Option Bytes)
    (noCollisions : Function.Injective sha256)
    (accepts : ∀ handle password, baseVerify handle password = true ↔
      passwordOf handle = some password) (calls : List Call) :
    Agrees sha256 baseVerify (fun _ => none) calls ↔
      NoOldPassword baseVerify passwordOf (fun _ => none) calls := by
  have empty : Cached sha256 (fun _ => none) (fun _ => none) := fun _ => ⟨0, rfl⟩
  exact agrees_iff noCollisions accepts empty calls

/-! ## A change of the password -/

def handleOf (userId : UInt64) (password : Bytes) : PasswordHandle := ⟨userId, password⟩

def sameContent (handle : PasswordHandle) (password : Bytes) : Bool := handle.content = password

def verifyOf (handle : PasswordHandle) (password : Bytes) : Verification := ⟨handle, password, 7⟩

theorem fast_path_agrees_unchanged :
    Agrees id sameContent (fun _ => none)
      [.enroll (handleOf 1 [10]), .verify (verifyOf (handleOf 1 [10]) [10]),
        .verify (verifyOf (handleOf 1 [10]) [11]), .verify (verifyOf (handleOf 1 [10]) [10])] := by
  apply (fast_path_agrees_iff (fun handle => some handle.content) Function.injective_id
    (by simp [sameContent]) _).mpr
  simp [NoOldPassword, Call.verification, noteVerified, verifyOf, handleOf, sameContent]

/-- The old password is accepted with the new handle of the user. -/
theorem old_password_accepted :
    ¬ Agrees id sameContent (fun _ => none)
      [.enroll (handleOf 1 [10]),
        .reenroll (verifyOf (handleOf 1 [10]) [10]) (handleOf 1 [11]),
        .verify (verifyOf (handleOf 1 [11]) [10])] := by
  intro agrees
  have last := agrees.2.2.1 (verifyOf (handleOf 1 [11]) [10]) rfl
  exact absurd last (by decide)

end Cuttlefish.SecureEnv.SoftGateKeeper
