/-!
The radio link to the tag: the operations that a session asks for, and the events that come back.
Every operation only starts something; what comes of it is told later by an event that carries the
epoch of the operation.
-/

namespace TagFix.Link

/-- The generation of a session. Events of older generations no longer count. -/
abbrev Epoch := UInt64

/-! ## Characteristics of the tag -/

/-- A characteristic of the tag's service. -/
inductive Characteristic
  /-- Range reports, to be notified of and read. -/
  | location
  /-- Switches ranging on and off. -/
  | ranging
  /-- Takes roles and the time. -/
  | status
  | calibration
deriving DecidableEq, Repr

/-- The identifier of the service that the characteristics belong to. -/
def service : String := "d68c3152-a23f-ee90-0c45-5231395e5d2e"

def Characteristic.uuid : Characteristic → String
  | .location => "d68c3153-a23f-ee90-0c45-5231395e5d2e"
  | .ranging => "d68c3154-a23f-ee90-0c45-5231395e5d2e"
  | .status => "d68c3155-a23f-ee90-0c45-5231395e5d2e"
  | .calibration => "d68c3156-a23f-ee90-0c45-5231395e5d2e"

/-! ## Operations -/

/-- An operation that is asked of the link. Ending a scan has no epoch, because no event answers
it. -/
inductive Operation
  | checkAdapter (epoch : Epoch)
  | startScan (epoch : Epoch)
  | stopScan
  | connect (device : String) (epoch : Epoch)
  | disconnect (device : String) (epoch : Epoch)
  | startNotification (device : String) (characteristic : Characteristic) (epoch : Epoch)
  | read (device : String) (characteristic : Characteristic) (epoch : Epoch)
  | write (device : String) (characteristic : Characteristic) (data : List UInt8) (epoch : Epoch)
deriving DecidableEq, Repr

/-! ## Events -/

inductive Signal
  | adapterState (enabled : Bool)
  | deviceDiscovered (device : String)
  | scanFailed (reason : String)
  | connected
  | connectFailed (reason : String)
  | subscribed
  | subscribeFailed (reason : String)
  /-- The location characteristic has changed. -/
  | notification
  | readCompleted (data : List UInt8)
  | readFailed (reason : String)
  | writeCompleted
  | writeFailed (reason : String)
  | disconnected
  | disconnectFailed (reason : String)
  /-- The tag dropped the link without being asked to. -/
  | linkLost (reason : String)
deriving DecidableEq, Repr

/-- A signal and the epoch that it belongs to. -/
structure Event where
  epoch : Epoch
  signal : Signal
deriving DecidableEq, Repr

end TagFix.Link
