import FlowTracker.Capture.Erf
import FlowTracker.Files

/-!
# Capture files

Opening a capture file.  A directory can be opened like a file; it is the first read that fails.
-/

namespace FlowTracker

namespace FileStatus

/-- What the reads of an opened file meet, or why it cannot be opened. -/
def delivery : FileStatus → Except FileError Delivery
  | .regular contents | .special contents => .ok [.data contents]
  | .directory => .ok [.failure directoryUnreadable]
  | .unavailable error => .error error

end FileStatus

namespace Capture

def openFile (path : String) (status : FileStatus) : Except CaptureError Capture :=
  match status.delivery with
  | .ok delivery => .ok ((ofDelivery path delivery).report (.captureOpened path))
  | .error error => .error (.open path error.message)

end Capture

end FlowTracker
