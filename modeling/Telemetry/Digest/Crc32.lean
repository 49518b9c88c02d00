import Telemetry.Text.Bytes

/-!
# Cyclic redundancy checks

The 32-bit check of a message, which finds errors of transmission.
-/

namespace Telemetry.Crc32

/-- One bit, least significant first. -/
def stepBit (register : UInt32) : UInt32 :=
  if register &&& 1 = 1 then (register >>> 1) ^^^ 0xedb88320 else register >>> 1

/-- One byte of the message. -/
def step (register : UInt32) (byte : UInt8) : UInt32 :=
  let mixed := register ^^^ byte.toUInt32
  stepBit (stepBit (stepBit (stepBit (stepBit (stepBit (stepBit (stepBit mixed)))))))

/-- The check of a message. -/
def check (message : Bytes) : UInt32 :=
  message.foldl step 0xffffffff ^^^ 0xffffffff

end Telemetry.Crc32
