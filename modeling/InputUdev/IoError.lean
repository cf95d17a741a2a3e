/-!
# Failures of input and output
-/

namespace InputUdev

inductive IoError where
  | notFound
  | notADirectory
  | isADirectory
  /-- A device operation on something that is no device. -/
  | notADevice
  /-- A path, or a component of it, beyond the length limits. -/
  | nameTooLong
  | nulByte
  | invalidUtf8
  | other (text : String)
  deriving DecidableEq, Repr

def IoError.message : IoError → String
  | notFound => "No such file or directory (os error 2)"
  | notADirectory => "Not a directory (os error 20)"
  | isADirectory => "Is a directory (os error 21)"
  | notADevice => "Inappropriate ioctl for device (os error 25)"
  | nameTooLong => "File name too long (os error 36)"
  | nulByte => "file name contained an unexpected NUL byte"
  | invalidUtf8 => "stream did not contain valid UTF-8"
  | other text => text

end InputUdev
