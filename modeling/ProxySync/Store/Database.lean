import ProxySync.Store.Basic

/-!
# The database file

A store lives in a database file inside its folder. Opening it makes the
folder and the file if they are missing; a file that holds anything else
cannot be opened.
-/

namespace ProxySync

open Files

def databaseName : String := "conduit.redb"

/-- The path of the database in a store's folder. -/
def databasePath (folder : String) : String := child folder databaseName

/-- The length of the head of a database, in bytes. -/
def databaseHead : Nat := 320

/-- Where the head tells the version of the database. -/
def versionOffset : Nat := 64

/-- Why a file with these bytes is no database that can be opened. -/
def openingFault (bytes : List UInt8) : String :=
  if !Content.databaseMark.isPrefixOf bytes then "I/O error: " ++ IoFault.invalidData.message
  else if bytes.length < databaseHead then "I/O error: " ++ IoFault.unexpectedEnd.message
  else
    let version := ((bytes[versionOffset]?).getD 0).toNat
    if version == 1 then
      "Manual upgrade required. Expected file format version 3, but file is version 1"
    else
      "DB corrupted: Expected file format version <= 3, found " ++ toString version

/-- Opens the database in `folder` with what is done to the disk. -/
def openDatabase (d : Disk) (folder : String) : Except StoreFault Unit × Disk :=
  match d.makeFolders folder with
  | .error cause => (.error (.io cause), d)
  | .ok d =>
    let path := databasePath folder
    let created : Except StoreFault Unit × Disk :=
      match d.write path .database with
      | .ok d => (.ok (), d)
      | .error cause => (.error (.engine ("I/O error: " ++ cause.message)), d)
    match d.readContent path with
    | .ok .database => (.ok (), d)
    | .ok c => if c.toBytes.isEmpty then created else (.error (.engine (openingFault c.toBytes)), d)
    | .error _ => created

/-- The database of `folder` is there with what was written to it. -/
def hasDatabase (d : Disk) (folder : String) : Bool :=
  match d.readContent (databasePath folder) with
  | .ok .database => true
  | _ => false

end ProxySync
