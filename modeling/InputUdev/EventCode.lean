/-!
# Event codes

The numbers of the keys, buttons and axes that decide what kind of device reports them, and the
bus numbers of product identities.
-/

namespace InputUdev.EventCode

/-! ## Keys and buttons -/

def btnMisc : Nat := 0x100
def btnLeft : Nat := 0x110
def btnMiddle : Nat := 0x112
def btnJoystick : Nat := 0x120
def btnToolPen : Nat := 0x140
def btnToolFinger : Nat := 0x145
def btnTouch : Nat := 0x14a
def btnStylus : Nat := 0x14b
def btnStylus2 : Nat := 0x14c
/-- One more than the highest key code. -/
def keyCount : Nat := 0x300

/-! ## Relative axes -/

def relX : Nat := 0x00
def relY : Nat := 0x01
/-- One more than the highest relative axis. -/
def relCount : Nat := 0x10

/-! ## Absolute axes -/

def absX : Nat := 0x00
def absY : Nat := 0x01
def absPressure : Nat := 0x18
/-- The first of the multitouch axes. -/
def absMtSlot : Nat := 0x2f
/-- One more than the highest absolute axis. -/
def absCount : Nat := 0x40

end InputUdev.EventCode

namespace InputUdev.Bus

def pci : UInt32 := 0x01
def usb : UInt32 := 0x03
def virtual : UInt32 := 0x06
def i8042 : UInt32 := 0x11

end InputUdev.Bus
