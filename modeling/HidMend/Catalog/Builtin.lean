import HidMend.Catalog.ArtistPro

/-!
# Built-in menders

The recipes that come with the program, in the order in which they attach: the pen displays, and the
Kaliber MMOmentum.

The mouse publishes one of two descriptors of the same size.  On one of them, told apart by its
fourth byte, three usable fields are declared as padding; its recipe turns them into data.  Its
reports are left alone.
-/

namespace HidMend

namespace Momentum

def vendor : UInt16 := 0x258A

def product : UInt16 := 0x0027

def devices : List DeviceId :=
  [.usb vendor product]

def factorySize : Nat := 213

/-- The usage that tells the affected layout apart. -/
def usage : GuardedByte :=
  ⟨3, 0x06⟩

/-- The items that are constant by mistake. -/
def constantInputs : List Nat :=
  [84, 112, 140]

def recipe : Recipe where
  name := "kaliber-mmomentum"
  devices := devices
  gate := .sizeOnly factorySize
  patch := some (.constantToData ⟨usage, constantInputs⟩)
  reportLength := 0
  transforms := []

end Momentum

namespace Catalog

def recipes : List Recipe :=
  [ArtistPro.recipe, Momentum.recipe]

def menders : List Mender :=
  recipes.map Recipe.toMender

/-- The largest descriptor that a host hands to a mender. -/
def maxDescriptorSize : Nat := 4096

end Catalog

end HidMend
