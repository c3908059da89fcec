import HidMend.Text.Hex

/-!
# Device identities

A device is known by its bus, its group, its vendor and its product, 16 bits each.  The kernel has
names for many buses and groups; the text of an identity uses them and falls back to four
hexadecimal digits.

A mender claims devices by identity.  Group 0 is open: it stands for every group, whichever side it
is on, so that an identity read from a place that carries no group still finds its menders.
-/

namespace HidMend

structure Bus where
  number : UInt16
  deriving DecidableEq, Repr

namespace Bus

def usb : Bus := ⟨3⟩

/-- The kernel's names of bus numbers. -/
def names : List (UInt16 × String) :=
  [(0x01, "BUS_PCI"), (0x02, "BUS_ISAPNP"), (0x03, "BUS_USB"), (0x04, "BUS_HIL"),
    (0x05, "BUS_BLUETOOTH"), (0x06, "BUS_VIRTUAL"), (0x10, "BUS_ISA"), (0x11, "BUS_I8042"),
    (0x12, "BUS_XTKBD"), (0x13, "BUS_RS232"), (0x14, "BUS_GAMEPORT"), (0x15, "BUS_PARPORT"),
    (0x16, "BUS_AMIGA"), (0x17, "BUS_ADB"), (0x18, "BUS_I2C"), (0x19, "BUS_HOST"),
    (0x1A, "BUS_GSC"), (0x1B, "BUS_ATARI"), (0x1C, "BUS_SPI"), (0x1D, "BUS_RMI"),
    (0x1E, "BUS_CEC"), (0x1F, "BUS_INTEL_ISHTP"), (0x20, "BUS_AMD_SFH")]

def name? (bus : Bus) : Option String :=
  names.lookup bus.number

def text (bus : Bus) : String :=
  bus.name?.getD (String.ofList (Hex.fixed 4 bus.number.toNat))

end Bus

structure Group where
  number : UInt16
  deriving DecidableEq, Repr

namespace Group

/-- The open group, which matches every group. -/
def any : Group := ⟨0⟩

def generic : Group := ⟨1⟩

/-- The kernel's names of group numbers. -/
def names : List (UInt16 × String) :=
  [(0x0000, "HID_GROUP_ANY"), (0x0001, "HID_GROUP_GENERIC"), (0x0002, "HID_GROUP_MULTITOUCH"),
    (0x0003, "HID_GROUP_SENSOR_HUB"), (0x0004, "HID_GROUP_MULTITOUCH_WIN_8"),
    (0x0100, "HID_GROUP_RMI"), (0x0101, "HID_GROUP_WACOM"),
    (0x0102, "HID_GROUP_LOGITECH_DJ_DEVICE"), (0x0103, "HID_GROUP_STEAM"),
    (0x0104, "HID_GROUP_LOGITECH_27MHZ_DEVICE"), (0x0105, "HID_GROUP_VIVALDI")]

def name? (group : Group) : Option String :=
  names.lookup group.number

def text (group : Group) : String :=
  group.name?.getD (String.ofList (Hex.fixed 4 group.number.toNat))

end Group

structure DeviceId where
  bus : Bus
  group : Group
  vendor : UInt16
  product : UInt16
  deriving DecidableEq, Repr

namespace DeviceId

/-- A USB device of the generic group. -/
def usb (vendor product : UInt16) : DeviceId :=
  ⟨.usb, .generic, vendor, product⟩

/-- Whether two groups are compatible.  Unless matching is strict, all of them are. -/
def groupsAgree (strict : Bool) (left right : Group) : Bool :=
  !strict || left == .any || right == .any || left == right

/-- Whether a claimed identity covers a device. -/
def covers (claim device : DeviceId) (strict : Bool) : Bool :=
  claim.bus == device.bus && claim.vendor == device.vendor && claim.product == device.product
    && groupsAgree strict claim.group device.group

def text (device : DeviceId) : String :=
  "HID_DEVICE(" ++ device.bus.text ++ ", " ++ device.group.text ++ ", 0x"
    ++ String.ofList (Hex.fixed 4 device.vendor.toNat) ++ ", 0x"
    ++ String.ofList (Hex.fixed 4 device.product.toNat) ++ ")"

end DeviceId

end HidMend
