import Kasten.Zid.Basic

/-!
# What can go wrong

Failures of the file system, and the errors that the operations of a store answer with.
-/

namespace Kasten

/-- Why a file operation failed. -/
inductive FileFault where
  | missing
  | notDirectory
  | isDirectory
  | occupied
  | nameTooLong
  | noMember
  | other (text : String)
deriving DecidableEq, Repr

namespace FileFault

def message : FileFault → String
  | missing => "No such file or directory (os error 2)"
  | occupied => "File exists (os error 17)"
  | notDirectory => "Not a directory (os error 20)"
  | isDirectory => "Is a directory (os error 21)"
  | nameTooLong => "File name too long (os error 36)"
  | noMember => "no such archive member"
  | other text => text

/-- Nothing was there to work on. -/
def isMissing : FileFault → Bool
  | missing => true
  | noMember => true
  | _ => false

end FileFault

inductive StoreError where
  | notFound (zid : Zid)
  | invalidZid (detail : String)
  | readOnly
  | noDirectory (path : String)
  | timeout (operation : String)
  | exhaustedIds
  | file (context : String) (fault : FileFault)
  | invalidConfig (detail : String)
  | stopped (detail : String)
  | internal (detail : String)
deriving DecidableEq, Repr

namespace StoreError

def message : StoreError → String
  | notFound zid => s!"NOT_FOUND: zettel {zid} not found"
  | invalidZid detail => "INVALID_ZID: " ++ detail
  | readOnly => "READ_ONLY: box does not allow modifications"
  | noDirectory path => "NO_DIRECTORY: " ++ path
  | timeout operation => "TIMEOUT: " ++ operation
  | exhaustedIds => "EXHAUSTED_IDS: no free zettel identifier available"
  | file context fault => "IO_FAILURE: " ++ context ++ ": " ++ fault.message
  | invalidConfig detail => "INVALID_CONFIG: " ++ detail
  | stopped detail => "STOPPED: " ++ detail
  | internal detail => "INTERNAL: " ++ detail

/-- Whether another attempt later may succeed. -/
def isRetryable : StoreError → Bool
  | timeout _ => true
  | file _ _ => true
  | stopped _ => true
  | _ => false

/-- The file or member that was asked for does not exist. -/
def isMissingFile : StoreError → Bool
  | file _ fault => fault.isMissing
  | _ => false

def ofZidError : ZidError → StoreError
  | .exhausted _ => exhaustedIds
  | error => invalidZid error.message

end StoreError

end Kasten
