import LinkConfig.Address

/-! # Address classes

Each address belongs to one class. The classes are ordered: in an address list those of lower
rank come first.
-/
namespace LinkConfig

inductive AddressClass where
  /-- An IPv4 address in its IPv6 form, `::ffff:a.b.c.d`. -/
  | mapped
  /-- The older such form, `::a.b.c.d`. -/
  | compat
  | unspecified
  | loopback
  | linkLocal
  /-- Private to a site. -/
  | siteLocal
  | global
deriving DecidableEq

namespace AddressClass

def rank : AddressClass → Nat
  | mapped => 0
  | compat => 1
  | unspecified => 2
  | loopback => 3
  | linkLocal => 4
  | siteLocal => 5
  | global => 6

instance : Ord AddressClass := ⟨fun c d => compare c.rank d.rank⟩

end AddressClass

namespace Address

/-- Loopback is 127/8, link-local 169.254/16, private 10/8, 172.16/12 and 192.168/16. -/
def classV4 (a : Address .v4) : AddressClass :=
  let o := a.octet
  if a.isUnspecified then .unspecified
  else if o 0 = 127 then .loopback
  else if o 0 = 169 ∧ o 1 = 254 then .linkLocal
  else if o 0 = 10 ∨ (o 0 = 172 ∧ 16 ≤ o 1 ∧ o 1 < 32) ∨ (o 0 = 192 ∧ o 1 = 168) then .siteLocal
  else .global

/-- Link-local is fe80/10 and site-local fec0/10; the two embeddings of IPv4 have five leading
groups of zero, and the compatible one leaves out `::` and `::1`. -/
def classV6 (a : Address .v6) : AddressClass :=
  let g := a.group
  let low := g 0 = 0 ∧ g 1 = 0 ∧ g 2 = 0 ∧ g 3 = 0 ∧ g 4 = 0
  if low ∧ g 5 = 0xffff then .mapped
  else if low ∧ g 5 = 0 ∧ (g 6 ≠ 0 ∨ 1 < g 7) then .compat
  else if a.isUnspecified then .unspecified
  else if a.toNat = 1 then .loopback
  else if g 0 &&& 0xffc0 = 0xfe80 then .linkLocal
  else if g 0 &&& 0xffc0 = 0xfec0 then .siteLocal
  else .global

def classify : {F : Family} → Address F → AddressClass
  | .v4, a => a.classV4
  | .v6, a => a.classV6

def isLinkLocal {F : Family} (a : Address F) : Bool := a.classify == .linkLocal

end Address

end LinkConfig
