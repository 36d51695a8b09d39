/-! # Faults

What may go wrong between a configuration and the system it describes.
-/
namespace LinkConfig

/-- Why a file could not be read. -/
inductive FileFault where
  | notFound
  | denied
deriving DecidableEq

inductive Fault where
  | file (cause : FileFault) (text : String)
  /-- The platform refused a request. -/
  | platform (message : String)
  /-- The platform refused a request that has a name. -/
  | operation (name message : String)
  | linkNotFound (ifindex : UInt32)
deriving DecidableEq

namespace Fault

def message : Fault → String
  | file _ text => s!"I/O error: {text}"
  | platform message => s!"platform error: {message}"
  | operation name message => s!"{name}: {message}"
  | linkNotFound ifindex => s!"link not found: ifindex {ifindex}"

/-- Names the request that failed, if the platform refused it and it has no name yet. -/
def during (name : String) : Fault → Fault
  | platform message => operation name message
  | fault => fault

def isNotFound : Fault → Bool
  | linkNotFound _ => true
  | file .notFound _ => true
  | _ => false

end Fault

end LinkConfig
