/-! # Address families

Everything in this library is written once for both families: a family fixes the width of its
addresses and the words it is spoken of in.
-/
namespace LinkConfig

inductive Family where
  | v4
  | v6
deriving DecidableEq

namespace Family

def name : Family → String
  | v4 => "IPv4"
  | v6 => "IPv6"

/-- The number of bits of an address. -/
@[reducible] def width : Family → Nat
  | v4 => 32
  | v6 => 128

/-- The length of the prefix that holds one address only. -/
def hostLen : Family → UInt8
  | v4 => 32
  | v6 => 128

/-- Where configurations of the family are published unless another place is named. -/
def objectRoot : Family → String
  | v4 => "/org/freedesktop/NetworkManager/IP4Config"
  | v6 => "/org/freedesktop/NetworkManager/IP6Config"

@[simp] theorem toNat_hostLen (F : Family) : F.hostLen.toNat = F.width := by
  cases F <;> rfl

end Family

end LinkConfig
