import Swfpm.Power.PowerService
import Swfpm.Repository.Transactions
import Swfpm.Queue.EventQueue
import Swfpm.Support.Evidence

/-!
# The power facade and its announcements

Embedding of `facades/power/power_facade.{h,c}`, and runs of it with another
writer of the repository and other users of the queue.  The three borrowed
pointers are arguments, and the converter's answer is a status with a raw value.
-/

namespace Swfpm

open Evidence

/-- The enumerator's number. -/
def PowerHealth.value : PowerHealth → UInt8
  | .unknown => 0
  | .normal => 1
  | .low => 2
  | .critical => 3

structure PowerFacade where
  svc : PowerService
  config : PowerConfig
  initialized : Bool
  deriving DecidableEq, Repr

/-- The two answers that mean that the queue holds the event. -/
def EventPostResult.admits (result : EventPostResult) : Bool :=
  result = .ok || result = .coalesced

def powerStatusEvent (svc : PowerService) : AppEvent :=
  { AppEvent.cleared with
    id := .powerStatusChanged
    priority := .background
    delivery := .level
    monotonicTimestampUs := svc.current.sampleMonotonicUs
    payload := AppEvent.cleared.payload.set 0 svc.current.health.value
    payloadSize := 1 }

/-- `posted` is what a call gave to the queue and what it answered, of which the
source keeps no record. -/
structure PowerPublication where
  status : PortStatus
  repo : DataRepository
  queue : AppEventQueue
  posted : Option (AppEvent × EventPostResult)

namespace PowerFacade

def init (cfg : Option PowerConfig) : Except PortStatus PowerFacade := do
  let config := cfg.getD .default
  let svc ← PowerService.init config
  return { svc, config, initialized := true }

variable (f : PowerFacade)

/-- The event, if the health is not the one before. -/
def notifyPowerStatus (repo : DataRepository) (queue : AppEventQueue)
    (previousHealth : PowerHealth) : PowerPublication :=
  if f.svc.current.health ≠ previousHealth then
    let (result, queue) := queue.post (some (powerStatusEvent f.svc))
    { status := if result.admits then .ok else .busy
      repo, queue, posted := some (powerStatusEvent f.svc, result) }
  else { status := .ok, repo, queue, posted := none }

def publishPowerSnapshot (repo : DataRepository) (queue : AppEventQueue)
    (previousHealth : PowerHealth) : PowerPublication :=
  let (began, txn, repo) := RepoWriteTxn.txnInit.txnBegin repo
  if !began then { status := .busy, repo, queue, posted := none }
  else
    let (written, txn, repo) := txn.txnWritePower repo f.svc.current
    if !written then
      { status := .hardwareError, repo := (txn.txnAbort repo).2, queue, posted := none }
    else
      let (committed, txn, repo) := txn.txnCommit repo
      if !committed then
        { status := .hardwareError, repo := (txn.txnAbort repo).2, queue
          posted := none }
      else f.notifyPowerStatus repo queue previousHealth

def processSample (adc : PortStatus × UInt16) (sampleMonotonicUs : UInt64)
    (repo : DataRepository) (queue : AppEventQueue) : PowerFacade × PowerPublication :=
  if !f.initialized then (f, { status := .unavailable, repo, queue, posted := none })
  else
    let previousHealth := f.svc.current.health
    let (readStatus, rawAdc) := adc
    if readStatus ≠ .ok then
      let (changed, svc) := f.svc.markReadFailure
      let f := { f with svc }
      if changed then
        (f, { f.publishPowerSnapshot repo queue previousHealth with
          status := readStatus })
      else (f, { status := readStatus, repo, queue, posted := none })
    else
      let (sampleStatus, svc) := f.svc.sampleAt rawAdc sampleMonotonicUs
      let f := { f with svc }
      if sampleStatus ≠ .ok then
        (f, { status := sampleStatus, repo, queue, posted := none })
      else (f, f.publishPowerSnapshot repo queue previousHealth)

end PowerFacade

end Swfpm
