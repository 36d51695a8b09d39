import LinkConfig.Family

/-! # Addresses

An address is a word of its family's width, compared as a number. `octet` and `group` read it as
it is written: four parts of eight bits, eight parts of sixteen, the most significant first. A
prefix of an address is told by a mask. `AnyAddress` is an address of either family.
-/
namespace LinkConfig

structure Address (F : Family) where
  word : BitVec F.width
deriving DecidableEq

variable {F : Family}

namespace Address

/-- The address of all zeros, which stands for no address. -/
def unspecified : Address F := ⟨0⟩

instance : Inhabited (Address F) := ⟨unspecified⟩

instance : LawfulBEq (Address F) := inferInstance

def isUnspecified (a : Address F) : Bool := a == unspecified

/-- The address, unless it is the unspecified one. -/
def specified? (a : Address F) : Option (Address F) := if a.isUnspecified then none else some a

def toNat (a : Address F) : Nat := a.word.toNat

def ofNat (n : Nat) : Address F := ⟨BitVec.ofNat _ n⟩

instance : Ord (Address F) := ⟨fun a b => compare a.toNat b.toNat⟩

theorem ofNat_toNat (a : Address F) : ofNat a.toNat = a := by
  cases a; simp [ofNat, toNat]

theorem toNat_inj {a b : Address F} : a.toNat = b.toNat ↔ a = b := by
  refine ⟨fun h => ?_, fun h => h ▸ rfl⟩
  rw [← ofNat_toNat a, h, ofNat_toNat]

@[simp] theorem isUnspecified_iff {a : Address F} : a.isUnspecified ↔ a = unspecified := by
  simp [isUnspecified]

/-- Part `i` of four, from the left. -/
def octet (a : Address .v4) (i : Nat) : Nat := a.toNat >>> (8 * (3 - i)) % 256

def octets (a : Address .v4) : List Nat := (List.range 4).map a.octet

/-- Part `i` of eight, from the left. -/
def group (a : Address .v6) (i : Nat) : Nat := a.toNat >>> (16 * (7 - i)) % 65536

def groups (a : Address .v6) : List Nat := (List.range 8).map a.group

/-- The address with the given parts, each below `base`. -/
def ofParts (base : Nat) (parts : List Nat) : Address F :=
  ofNat (parts.foldl (fun n p => base * n + p) 0)

/-- The word of width `w` whose `len` leading bits are set. -/
def netmask (w len : Nat) : BitVec w := BitVec.allOnes w <<< (w - len)

/-- Whether `a` lies in `p/len`: the words agree under the mask. Every address lies in a prefix of
length zero, none in one longer than an address. -/
def within (a p : Address F) (len : UInt8) : Bool :=
  if len = 0 then true
  else if F.hostLen < len then false
  else a.word &&& netmask F.width len.toNat == p.word &&& netmask F.width len.toNat

@[simp] theorem within_self (a : Address F) {len : UInt8} (h : len ≤ F.hostLen) :
    a.within a len := by
  have : ¬ F.hostLen < len := UInt8.not_lt.mpr h
  simp [within, this]

end Address

/-- An address of either family. -/
structure AnyAddress where
  family : Family
  address : Address family
deriving DecidableEq

namespace AnyAddress

/-- The address, if it is one of family `F`. -/
def narrow (F : Family) (a : AnyAddress) : Option (Address F) :=
  if h : a.family = F then some (h ▸ a.address) else none

@[simp] theorem narrow_mk (a : Address F) : narrow F ⟨F, a⟩ = some a := by simp [narrow]

theorem narrow_eq_some {a : AnyAddress} {b : Address F} : a.narrow F = some b ↔ a = ⟨F, b⟩ := by
  obtain ⟨G, a⟩ := a
  by_cases h : G = F
  · subst h; simp
  · simp [narrow, h]

end AnyAddress

/-- The address as one of either family. -/
def Address.widen (a : Address F) : AnyAddress := ⟨F, a⟩

end LinkConfig
