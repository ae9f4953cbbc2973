import RemotePlayback.Bytes

/-!
The 32-bit cyclic redundancy check of gzip members: the reflected polynomial `EDB88320`, starting
from all ones and complemented at the end.
-/

namespace RemotePlayback.Gzip

/-- One bit of the division. -/
def checksumBit (r : UInt32) : UInt32 :=
  if r &&& 1 = 1 then (r >>> 1) ^^^ 0xEDB88320 else r >>> 1

/-- Eight bits of the division. -/
def checksumByte (r : UInt32) (b : UInt8) : UInt32 :=
  let r := r ^^^ b.toUInt32
  checksumBit (checksumBit (checksumBit (checksumBit
    (checksumBit (checksumBit (checksumBit (checksumBit r)))))))

/-- The check value of a byte string. -/
def checksum (b : Bytes) : UInt32 := b.foldl checksumByte 0xFFFFFFFF ^^^ 0xFFFFFFFF

end RemotePlayback.Gzip
