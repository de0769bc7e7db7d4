/-!
# What goes wrong with files

The faults of the system with their numbers, and those that are found
before the system is asked.
-/

namespace ProxySync.Files

inductive IoFault where
  | notFound
  | permissionDenied
  | badDescriptor
  | busy
  | alreadyExists
  | notADirectory
  | isADirectory
  | invalidArgument
  | noSpace
  | nameTooLong
  | notEmpty
  | tooManyLinks
  | brokenPipe
  | noDevice
  | addressInUse
  | notText
  | unexpectedEnd
  | invalidData
  | nulInPath
  | nulInArgument
  | diskFull
  | noFileName (path : String)
deriving DecidableEq, Repr

namespace IoFault

/-- What the system calls a fault. -/
def reason : IoFault → String
  | notFound => "No such file or directory"
  | permissionDenied => "Permission denied"
  | badDescriptor => "Bad file descriptor"
  | busy => "Device or resource busy"
  | alreadyExists => "File exists"
  | notADirectory => "Not a directory"
  | isADirectory => "Is a directory"
  | invalidArgument => "Invalid argument"
  | noSpace => "No space left on device"
  | nameTooLong => "File name too long"
  | notEmpty => "Directory not empty"
  | tooManyLinks => "Too many levels of symbolic links"
  | brokenPipe => "Broken pipe"
  | noDevice => "No such device or address"
  | addressInUse => "Address already in use"
  | notText => "stream did not contain valid UTF-8"
  | unexpectedEnd => "failed to fill whole buffer"
  | invalidData => "invalid data"
  | nulInPath => "file name contained an unexpected NUL byte"
  | nulInArgument => "nul byte found in provided data"
  | diskFull => "disk full"
  | noFileName path => "config path " ++ path ++ " has no file name"

/-- The system's number of a fault, if the system finds it. -/
def number? : IoFault → Option Nat
  | notFound => some 2
  | noDevice => some 6
  | badDescriptor => some 9
  | permissionDenied => some 13
  | busy => some 16
  | alreadyExists => some 17
  | notADirectory => some 20
  | isADirectory => some 21
  | invalidArgument => some 22
  | noSpace => some 28
  | nameTooLong => some 36
  | brokenPipe => some 32
  | notEmpty => some 39
  | tooManyLinks => some 40
  | addressInUse => some 98
  | _ => none

def message (e : IoFault) : String :=
  match e.number? with
  | some n => e.reason ++ " (os error " ++ toString n ++ ")"
  | none => e.reason

end IoFault

end ProxySync.Files
