/-! # Sources

Which subsystem contributed an entry. When two describe the same entry the higher one keeps it.
-/
namespace LinkConfig

inductive Source where
  | unknown
  /-- Read back from the running system. -/
  | kernel
  /-- Configured by another program. -/
  | static
  | vpn
  /-- Learned from a router's advertisements. -/
  | rdisc
  | dhcp
  /-- Declared by the user. -/
  | user
deriving DecidableEq

namespace Source

def rank : Source → Nat
  | unknown => 0
  | kernel => 1
  | static => 2
  | vpn => 3
  | rdisc => 4
  | dhcp => 5
  | user => 6

instance : Ord Source := ⟨fun s t => compare s.rank t.rank⟩
instance : LE Source := ⟨fun s t => s.rank ≤ t.rank⟩
instance : DecidableLE Source := fun s t => inferInstanceAs (Decidable (s.rank ≤ t.rank))
instance : Max Source := maxOfLe

def name : Source → String
  | unknown => "unknown"
  | kernel => "kernel"
  | static => "static"
  | vpn => "vpn"
  | rdisc => "rdisc"
  | dhcp => "dhcp"
  | user => "user"

theorem rank_inj {s t : Source} : s.rank = t.rank ↔ s = t := by
  cases s <;> cases t <;> decide

@[simp] theorem rank_max (s t : Source) : (max s t).rank = max s.rank t.rank := by
  cases s <;> cases t <;> rfl

theorem max_self (s : Source) : max s s = s := by cases s <;> rfl

theorem max_max_right (s t : Source) : max (max s t) t = max s t := by
  cases s <;> cases t <;> rfl

end Source

end LinkConfig
