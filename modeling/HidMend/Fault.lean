/-!
# Faults of a repair stage

Every stage of a repair (attaching to a device, patching its descriptor, correcting a report) fails
with one of five faults.  A fault has a stable number, the errno of the host it is reported as, and
two readings that decide what the host does with it: neutral faults pass the data through, and
declining faults keep a mender away from a device.
-/

namespace HidMend

/-- How loudly a fault is reported, in ascending order. -/
inductive Severity
  | info
  | warning
  | error
  deriving DecidableEq, Repr

namespace Severity

def rank : Severity → Nat
  | info => 0
  | warning => 1
  | error => 2

def label : Severity → String
  | info => "INFO"
  | warning => "WARN"
  | error => "ERROR"

/-- The louder of two severities. -/
def max (left right : Severity) : Severity :=
  if left.rank < right.rank then right else left

end Severity

inductive Fault
  /-- The host refused access to the buffer. -/
  | permissionDenied
  /-- The descriptor does not have the size the mender was written for. -/
  | sizeMismatch
  /-- A guarded descriptor byte no longer holds its factory value. -/
  | alreadyPatched
  /-- The patched content would not fit in the buffer. -/
  | bufferTooSmall
  /-- A lookup lies outside the domain of its table. -/
  | outOfDomain
  deriving DecidableEq, Repr

namespace Fault

def all : List Fault :=
  [permissionDenied, sizeMismatch, alreadyPatched, bufferTooSmall, outOfDomain]

def code : Fault → Nat
  | permissionDenied => 1
  | sizeMismatch => 2
  | alreadyPatched => 3
  | bufferTooSmall => 4
  | outOfDomain => 5

def ofCode? (code : Nat) : Option Fault :=
  all.find? fun fault => fault.code == code

/-- The errno under which the host knows the fault: EPERM, EINVAL, EALREADY, ENOSPC and EDOM. -/
def errno : Fault → Nat
  | permissionDenied => 1
  | sizeMismatch => 22
  | alreadyPatched => 114
  | bufferTooSmall => 28
  | outOfDomain => 33

/-- The status reported to the host is the negated errno. -/
def status (fault : Fault) : Int :=
  -(fault.errno : Int)

def ofStatus? (status : Int) : Option Fault :=
  all.find? fun fault => fault.status == status

def severity : Fault → Severity
  | permissionDenied => .info
  | sizeMismatch => .info
  | alreadyPatched => .warning
  | bufferTooSmall => .error
  | outOfDomain => .info

/-- Neutral faults mean that the data passes through unmodified. -/
def passesThrough : Fault → Bool
  | permissionDenied => true
  | outOfDomain => true
  | _ => false

/-- Declining faults mean that the mender must not attach to the device. -/
def keepsAway : Fault → Bool
  | sizeMismatch => true
  | alreadyPatched => true
  | _ => false

def message : Fault → String
  | permissionDenied => "runtime denied access to the buffer"
  | sizeMismatch => "descriptor size does not match the module"
  | alreadyPatched => "descriptor is already patched"
  | bufferTooSmall => "patched content does not fit the buffer"
  | outOfDomain => "value outside the lookup table domain"

/-- No two faults share a code. -/
theorem ofCode?_code (fault : Fault) : ofCode? fault.code = some fault := by
  cases fault <;> rfl

/-- A status tells which fault it stands for. -/
theorem ofStatus?_status (fault : Fault) : ofStatus? fault.status = some fault := by
  cases fault <;> rfl

end Fault

end HidMend
