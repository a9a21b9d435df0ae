import Telecontrol.Asdu.Codec
import Telecontrol.Ft12.Codec

/-!
# ASDUs as payload of link frames

An ASDU that is handed to a station of a serial line is encoded at once, and refused if no link
frame can carry it.
-/

namespace Telecontrol

def Asdu.payload (widths : FieldWidths) (addressLength : Nat) (a : Asdu) :
    Except Fault Octets := do
  let octets ← a.encode widths
  let limit := LinkFrame.maxAsduLength addressLength
  if limit < octets.length then throw (.invalidAsdu (.tooLong octets.length limit))
  return octets

end Telecontrol
