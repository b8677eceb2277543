import Cuttlefish.Foundation.Decimal

/-! # Delayed callbacks

`ThreadLooper`: callbacks waiting to be run, each with the serial number it can
be cancelled by. When a callback runs is left open, so the queue keeps no
times. -/

namespace Cuttlefish.ModemSimulator

variable {Callback : Type}

structure Event (Callback : Type) where
  callback : Callback
  serial : Int
  deriving DecidableEq, Repr

structure ThreadLooper (Callback : Type) where
  queue : List (Event Callback)
  nextSerial : Int
  deriving DecidableEq, Repr

namespace ThreadLooper

def initial : ThreadLooper Callback where
  queue := []
  nextSerial := 1

def post (looper : ThreadLooper Callback) (callback : Callback) :
    Int × ThreadLooper Callback :=
  (looper.nextSerial,
    { queue := looper.queue ++ [⟨callback, looper.nextSerial⟩]
      nextSerial := Decimal.toInt (looper.nextSerial + 1) })

def cancelSerial (looper : ThreadLooper Callback) (serial : Int) : ThreadLooper Callback :=
  { looper with queue := looper.queue.eraseP fun event => event.serial = serial }

def take (looper : ThreadLooper Callback) (index : Nat) :
    Option (Callback × ThreadLooper Callback) :=
  match looper.queue[index]? with
  | none => none
  | some event => some (event.callback, { looper with queue := looper.queue.eraseIdx index })

def SerialsDistinct (looper : ThreadLooper Callback) : Prop :=
  looper.queue.Pairwise fun first second => first.serial ≠ second.serial

def NextIsFree (looper : ThreadLooper Callback) : Prop :=
  ∀ event ∈ looper.queue, event.serial ≠ looper.nextSerial

instance (looper : ThreadLooper Callback) : Decidable looper.NextIsFree :=
  inferInstanceAs (Decidable (∀ _ ∈ _, _))

variable {looper : ThreadLooper Callback}

theorem SerialsDistinct.post (distinct : looper.SerialsDistinct) (free : looper.NextIsFree)
    (callback : Callback) : (looper.post callback).2.SerialsDistinct := by
  refine List.pairwise_append.mpr ⟨distinct, List.pairwise_singleton _ _, ?_⟩
  intro first member second isNew
  rw [List.mem_singleton.mp isNew]
  exact free first member

theorem SerialsDistinct.not_mem_cancelSerial (distinct : looper.SerialsDistinct)
    {event : Event Callback} :
    event ∉ (looper.cancelSerial event.serial).queue := by
  rcases looper with ⟨queue, nextSerial⟩
  change queue.Pairwise _ at distinct
  change event ∉ queue.eraseP _
  induction queue with
  | nil => simp
  | cons first rest induction =>
      rcases List.pairwise_cons.mp distinct with ⟨firstDiffers, restDistinct⟩
      by_cases same : first.serial = event.serial
      · rw [List.eraseP_cons_of_pos (by simp [same])]
        intro member
        exact firstDiffers event member same
      · rw [List.eraseP_cons_of_neg (by simp [same])]
        intro member
        rcases List.mem_cons.mp member with equal | member
        · exact same (by rw [equal])
        · exact induction restDistinct member

end ThreadLooper

end Cuttlefish.ModemSimulator
