import LinkConfig.AddressEntry.Order
import LinkConfig.Event

/-! # Configurations

The configuration of one link for one family: addresses, routes, the default gateway, resolver
data and a few switches. An operation on a configuration has an `Outcome`, which holds the
configuration it leads to beside what it changed and what it has to tell.
-/
namespace LinkConfig

@[ext] structure Config (F : Family) where
  addresses : List (AddressEntry F) := []
  /-- All routes but the default one, which is `gateway`. -/
  routes : List (Route F) := []
  gateway : Option (Address F) := none
  nameservers : List (Address F) := []
  domains : List String := []
  searches : List String := []
  /-- The link never supplies the default route. -/
  neverDefault : Bool := false
  mss : UInt32 := 0
  privacy : Privacy := .unknown
  /-- Where the configuration is published, once it is. -/
  path : Option String := none
deriving DecidableEq

variable {F : Family}

namespace Config

/-- Whether nothing is there to be published. -/
def isEmpty (c : Config F) : Bool :=
  c.addresses.isEmpty && c.routes.isEmpty && c.gateway.isNone && c.nameservers.isEmpty &&
  c.domains.isEmpty && c.searches.isEmpty

def hasAddress (c : Config F) (a : Address F) (len : UInt8) : Bool :=
  c.addresses.any fun e => e.address == a && e.prefixLen == len

end Config

structure Outcome (F : Family) where
  config : Config F
  changes : Changes := ∅
  log : List (Event F) := []

namespace Outcome
variable {α : Type}

/-- Nothing happened yet. -/
def start (c : Config F) : Outcome F := ⟨c, ∅, []⟩

/-- Goes on with `step` from the configuration reached so far. -/
def andThen (o : Outcome F) (step : Config F → Outcome F) : Outcome F :=
  let next := step o.config
  ⟨next.config, o.changes ∪ next.changes, o.log ++ next.log⟩

/-- Goes on with one step for each of `xs`, in order. -/
def forEach (o : Outcome F) (xs : List α) (step : Config F → α → Outcome F) : Outcome F :=
  xs.foldl (fun o x => o.andThen (step · x)) o

/-- Goes on with `step` if `b` holds. -/
def andIf (o : Outcome F) (b : Bool) (step : Config F → Outcome F) : Outcome F :=
  if b then o.andThen step else o

@[simp] theorem config_start (c : Config F) : (start c).config = c := rfl

@[simp] theorem changes_start (c : Config F) : (start c).changes = ∅ := rfl

@[simp] theorem config_andThen (o : Outcome F) (step : Config F → Outcome F) :
    (o.andThen step).config = (step o.config).config := rfl

@[simp] theorem changes_andThen (o : Outcome F) (step : Config F → Outcome F) :
    (o.andThen step).changes = o.changes ∪ (step o.config).changes := rfl

@[simp] theorem config_andIf (o : Outcome F) (b : Bool) (step : Config F → Outcome F) :
    (o.andIf b step).config = if b then (step o.config).config else o.config := by
  cases b <;> rfl

@[simp] theorem forEach_nil (o : Outcome F) (step : Config F → α → Outcome F) :
    o.forEach [] step = o := rfl

@[simp] theorem forEach_cons (o : Outcome F) (x : α) (xs : List α)
    (step : Config F → α → Outcome F) :
    o.forEach (x :: xs) step = (o.andThen (step · x)).forEach xs step := rfl

@[simp] theorem config_forEach (o : Outcome F) (xs : List α) (step : Config F → α → Outcome F) :
    (o.forEach xs step).config = xs.foldl (fun c x => (step c x).config) o.config := by
  induction xs generalizing o with
  | nil => rfl
  | cons x xs ih => simp [ih]

end Outcome

end LinkConfig
