import RemoteBridge.Framework.RunLength

/-!
# The fault log

The log of raw errors, `faults.c`.  It keeps the four newest records in a ring; a call that repeats the
newest record is merged into it.  The serial number counts the calls and skips zero when it wraps.
-/

namespace RemoteBridge

/-- `RBP_FAULT_CAPACITY`. -/
def faultCapacity : Nat := 4

/-- `rbp_fault_t`. -/
structure Fault where
  sequence : UInt32
  domain : UInt16
  stage : UInt16
  code : UInt32
  context : UInt32
  count : UInt32
  boardMs : UInt32
  deriving DecidableEq, Repr

/-- The static variables of `faults.c`. -/
structure FaultLog where
  records : Nat → Fault := fun _ =>
    { sequence := 0, domain := 0, stage := 0, code := 0, context := 0, count := 0, boardMs := 0 }
  serial : UInt32 := 0
  evictions : UInt32 := 0
  clockMs : UInt32 := 0
  used : Nat := 0
  next : Nat := 0

namespace FaultLog

/-- `rbp_fault_set_time`. -/
def setTime (boardMs : UInt32) (l : FaultLog) : FaultLog := { l with clockMs := boardMs }

/-- `if(++serial==0)++serial`. -/
def nextSerial (serial : UInt32) : UInt32 := if serial + 1 = 0 then serial + 1 + 1 else serial + 1

/-- `rbp_fault_record`. -/
def record (domain stage : UInt16) (code context : UInt32) (l : FaultLog) : FaultLog :=
  let last := (l.next + faultCapacity - 1) % faultCapacity
  let r := l.records last
  let serial := nextSerial l.serial
  if l.used ≠ 0 ∧ r.domain = domain ∧ r.stage = stage ∧ r.code = code ∧ r.context = context then
    let count := if r.count ≠ 0xffffffff then r.count + 1 else r.count
    { l with
      serial
      records := Function.update l.records last { r with count, sequence := serial, boardMs := l.clockMs } }
  else
    { l with
      serial
      evictions :=
        if l.used = faultCapacity ∧ l.evictions ≠ 0xffffffff then l.evictions + 1 else l.evictions
      records := Function.update l.records l.next
        { sequence := serial, domain, stage, code, context, count := 1, boardMs := l.clockMs }
      next := (l.next + 1) % faultCapacity
      used := if l.used < faultCapacity then l.used + 1 else l.used }

/-- `rbp_fault_snapshot`: the records, the current sequence number and the number of evictions. -/
def snapshot (l : FaultLog) : List Fault × UInt32 × UInt32 :=
  ((List.range l.used).map fun i => l.records ((l.next + faultCapacity - l.used + i) % faultCapacity),
    l.serial, l.evictions)

end FaultLog

/-- What is done to the log. -/
inductive FaultOp where
  | setTime (boardMs : UInt32)
  | record (domain stage : UInt16) (code context : UInt32)
  deriving DecidableEq, Repr

def FaultOp.run (l : FaultLog) : FaultOp → FaultLog
  | .setTime boardMs => l.setTime boardMs
  | .record domain stage code context => l.record domain stage code context

/-- A run of a board that has just started. -/
def faultRun (ops : List FaultOp) : FaultLog := ops.foldl FaultOp.run {}

end RemoteBridge
