import HidMend.Device.Identity
import HidMend.Text.HexNumber

/-!
# Naming a device

A user names a device by its modalias, or by vendor and product with a colon between them, which
stands for a USB device of the generic group.  White space around the text does not count.
-/

namespace HidMend

inductive ArgumentFault
  | number (fault : HexFault)
  | identity (fault : IdentityFault)
  deriving DecidableEq, Repr

namespace ArgumentFault

def message : ArgumentFault → String
  | number fault => fault.valueMessage
  | identity fault => fault.message

end ArgumentFault

namespace DeviceId

def ofModalias (text : String) : Except IdentityFault DeviceId :=
  match Modalias.parse text with
  | .error fault => .error fault
  | .ok modalias => modalias.device

/-- Read vendor and product. -/
def ofPair (vendor product : List Char) : Except ArgumentFault DeviceId :=
  match Hex.word vendor with
  | .error fault => .error (.number fault)
  | .ok vendor =>
      match Hex.word product with
      | .error fault => .error (.number fault)
      | .ok product => .ok (.usb vendor product)

/-- Read the name of a device.  A colon separates vendor and product, unless it belongs to the
scheme of a modalias. -/
def ofArgument (argument : String) : Except ArgumentFault DeviceId :=
  let text := Text.trim argument.toList
  let pair := if text.take 4 = Modalias.scheme then none else Text.splitFirst? ':' text
  match pair with
  | some (vendor, product) => ofPair vendor product
  | none => (ofModalias (String.ofList text)).mapError .identity

end DeviceId

end HidMend
