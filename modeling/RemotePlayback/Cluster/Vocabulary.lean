/-!
Numbers with a name in the messages of the connect-state service.

The messages carry plain numbers, since the service may send ones that have no name here; those
count as the first of their kind where a name is needed.
-/

namespace RemotePlayback.Cluster

/-- Why a device reports its state. -/
inductive ReportReason where
  | unknown
  | hello
  | notify
  | newDevice
  | playerStateChanged
  | volumeChanged
  | pickerOpened
  | becameInactive
  deriving DecidableEq, Inhabited

namespace ReportReason

/-- The number of a reason. -/
def number : ReportReason → Int32
  | unknown => 0
  | hello => 1
  | notify => 2
  | newDevice => 3
  | playerStateChanged => 4
  | volumeChanged => 5
  | pickerOpened => 6
  | becameInactive => 7

/-- The reason of a number. -/
def ofNumber? (n : Int32) : Option ReportReason :=
  [unknown, hello, notify, newDevice, playerStateChanged, volumeChanged, pickerOpened,
    becameInactive].find? (·.number == n)

end ReportReason

/-- The protocol by which a device takes part. -/
inductive Membership where
  | spircV2
  | spircV3
  | connectState
  | connectStateExtended
  deriving DecidableEq, Inhabited

namespace Membership

/-- The number of a protocol. -/
def number : Membership → Int32
  | spircV2 => 0
  | spircV3 => 1
  | connectState => 2
  | connectStateExtended => 5

/-- The protocol of a number. -/
def ofNumber? (n : Int32) : Option Membership :=
  [spircV2, spircV3, connectState, connectStateExtended].find? (·.number == n)

end Membership

end RemotePlayback.Cluster
