import InputUdev.KernelTree

/-!
# Tunables and sysctl values

Boolean system tunables, among them the one that tells whether evdev is active. The platform has no
sysctl values: every reading of one fails.
-/

namespace InputUdev

inductive SysctlError where
  | unavailable (name : String)
  deriving DecidableEq, Repr

def SysctlError.message : SysctlError → String
  | unavailable name => "sysctl " ++ name ++ " is not available on this platform"

namespace Sysctl

def readText (name : String) : Except SysctlError String := .error (.unavailable name)

def readInt (name : String) : Except SysctlError Int32 := .error (.unavailable name)

end Sysctl

inductive TunableError where
  | notFound (key : String)
  | unreadable (cause : SysctlError)
  deriving DecidableEq, Repr

def TunableError.message : TunableError → String
  | notFound key => "tunable " ++ key ++ " not found"
  | unreadable cause => "IO error reading tunable: " ++ cause.message

/-- The boolean value of each tunable. -/
abbrev Tunables := String → Except TunableError Bool

namespace Tunables

/-- The tunables of a list; of two values for a key the first counts. -/
def ofList (values : List (String × Bool)) : Tunables := fun key =>
  match values.lookup key with
  | some value => .ok value
  | none => .error (.notFound key)

/-- The tunables of the running kernel: a sysctl value other than zero is true. -/
def kernel : Tunables := fun key =>
  match Sysctl.readInt key with
  | .ok value => .ok (value != 0)
  | .error cause => .error (.unreadable cause)

/-- Reports that the kernel has the evdev driver. -/
def evdevSupport : String := "kern.features.evdev_support"

/-- Whether evdev is active; a tunable that cannot be read counts as off. -/
def evdevEnabled (t : Tunables) : Bool :=
  match t evdevSupport with
  | .ok value => value
  | .error _ => false

end Tunables

/-- The tree of the running kernel, read attribute by attribute. -/
def KernelTree.kernel : KernelTree where
  value driver unit attr :=
    (Sysctl.readText ("dev." ++ driver ++ "." ++ unit ++ "." ++ attr.name)).toOption

end InputUdev
