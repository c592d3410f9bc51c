/-!
# Disk faults — why a path cannot be followed, read or written
-/

namespace ClientBindings

inductive DiskFault where
  | notFound
  /-- A folder stands where a file is expected. -/
  | isFolder
  /-- A path goes on behind a file. -/
  | notFolder
  /-- A file stands where a folder is to be made. -/
  | occupied
  | nameTooLong
  /-- A file is to be copied onto itself. -/
  | sameFile
  /-- A path holds a null character. -/
  | nullCharacter
  deriving DecidableEq

namespace DiskFault

def message : DiskFault → String
  | notFound => "No such file or folder"
  | isFolder => "Is a folder"
  | notFolder => "Not a folder"
  | occupied => "A file is there already"
  | nameTooLong => "Name too long"
  | sameFile => "Source and target are the same file"
  | nullCharacter => "A path holds a null character"

end DiskFault
end ClientBindings
