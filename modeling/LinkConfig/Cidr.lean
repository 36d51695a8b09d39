import LinkConfig.Address.Text
import LinkConfig.Text

/-! # Addresses with a prefix length -/
namespace LinkConfig

namespace Cidr

/-- Why a text is no address, or no address with a prefix length. -/
inductive Error where
  | invalidAddress (text : String)
  | invalidPrefix (text : String)
  | prefixTooLarge (len max : UInt8)
deriving DecidableEq

def Error.message : Error → String
  | invalidAddress text => s!"invalid address: {text}"
  | invalidPrefix text => s!"invalid prefix length: {text}"
  | prefixTooLarge len max => s!"prefix length {len} exceeds maximum {max}"

end Cidr

/-- Reads an address with blanks around it. -/
def AnyAddress.read (cs : List Char) : Except Cidr.Error AnyAddress :=
  match AnyAddress.ofChars? (Text.trim cs) with
  | some a => .ok a
  | none => .error (.invalidAddress (String.ofList cs))

/-- A prefix, or an address together with the prefix of its network. -/
structure Cidr where
  address : AnyAddress
  len : UInt8
deriving DecidableEq

namespace Cidr

/-- Reads what stands after the slash. -/
def readLen (max : UInt8) (cs : List Char) : Except Error UInt8 :=
  match Text.readByte (Text.trim cs) with
  | none => .error (.invalidPrefix (String.ofList cs))
  | some len => if max < len then .error (.prefixTooLarge len max) else .ok len

/-- Reads an address, a slash and a length, the address first. Without a slash the prefix is that
of the address alone. -/
def read (cs : List Char) : Except Error Cidr := do
  let address ← AnyAddress.read (cs.takeWhile (· != '/'))
  match cs.dropWhile (· != '/') with
  | [] => return ⟨address, address.family.hostLen⟩
  | _ :: len => return ⟨address, ← readLen address.family.hostLen len⟩

end Cidr

end LinkConfig
