import HostVitals.Host
import HostVitals.Logged
import HostVitals.Text.Blank

/-!
# Physical block sizes

The size of a device's blocks is published in a file of its own. A partition usually
has none and takes the size of its disk.
-/

namespace HostVitals.BlockDevice

open Text (trim readUnsigned join)
open Logged (report)

/-- Block sizes are below this bound. -/
def blockSizeBound : Nat := UInt32.size

/-- The disk of a partition: the name without its final digits, and without the `p`
that sets them off from a name that ends in a digit itself. -/
def parentName (name : List Char) : List Char :=
  match name.reverse.dropWhile Char.isDigit with
  | 'p' :: d :: rest => if d.isDigit then (d :: rest).reverse else ('p' :: d :: rest).reverse
  | stripped => stripped.reverse

/-- The file with the block size of a device. -/
def sizePath (sysRoot device : String) : String :=
  join (join (join (join sysRoot "block") device) "queue") "physical_block_size"

/-- Reads a block size from a file that is there. A text that is no size gives zero. -/
def readSizeFile (host : Host) (path : String) : Logged Nat :=
  match host.files.readText path with
  | .error fault => do
    report (.blockSizeUnreadable path fault)
    return 0
  | .ok text =>
    match readUnsigned blockSizeBound (trim text.toList) with
    | .error fault => do
      report (.blockSizeUnparseable path fault)
      return 0
    | .ok size => return size

/-- The block size of a device: from its own file, else from that of its disk, else zero. -/
def readBlockSize (host : Host) (sysRoot device : String) : Logged Nat :=
  let own := sizePath sysRoot device
  let parent := sizePath sysRoot (String.ofList (parentName device.toList))
  if host.files.holds own then readSizeFile host own
  else if host.files.holds parent then readSizeFile host parent
  else do
    report (.blockSizeUnknown device)
    return 0

example : parentName "sda1".toList = "sda".toList := by decide +kernel
example : parentName "nvme0n1p2".toList = "nvme0n1".toList := by decide +kernel
example : parentName "sdp1".toList = "sdp".toList := by decide +kernel

end HostVitals.BlockDevice
