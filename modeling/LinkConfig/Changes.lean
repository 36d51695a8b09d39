/-! # Changes

The published fields of a configuration, and sets of them. An operation answers with the set of
those it changed.
-/
namespace LinkConfig

inductive Field where
  | gateway
  | addresses
  | routes
  | nameservers
  | domains
  | searches
deriving DecidableEq

namespace Field

/-- The fields in the order in which they are published. -/
def all : List Field := [gateway, addresses, routes, nameservers, domains, searches]

def name : Field → String
  | gateway => "gateway"
  | addresses => "addresses"
  | routes => "routes"
  | nameservers => "nameservers"
  | domains => "domains"
  | searches => "searches"

theorem mem_all (f : Field) : f ∈ all := by cases f <;> decide

end Field

/-- A set of fields. -/
structure Changes where
  gateway : Bool := false
  addresses : Bool := false
  routes : Bool := false
  nameservers : Bool := false
  domains : Bool := false
  searches : Bool := false
deriving DecidableEq

namespace Changes

instance : EmptyCollection Changes := ⟨{}⟩

def has (c : Changes) : Field → Bool
  | .gateway => c.gateway
  | .addresses => c.addresses
  | .routes => c.routes
  | .nameservers => c.nameservers
  | .domains => c.domains
  | .searches => c.searches

/-- The fields of which `p` holds. -/
def ofPred (p : Field → Bool) : Changes :=
  ⟨p .gateway, p .addresses, p .routes, p .nameservers, p .domains, p .searches⟩

/-- The field alone, if it changed. -/
def when (changed : Bool) (f : Field) : Changes := ofPred fun g => changed && g == f

def only (f : Field) : Changes := when true f

instance : Union Changes := ⟨fun a b => ofPred fun f => a.has f || b.has f⟩

def insert (c : Changes) (f : Field) : Changes := c ∪ only f

def ofList (fs : List Field) : Changes := fs.foldl insert ∅

def toList (c : Changes) : List Field := Field.all.filter c.has

def size (c : Changes) : Nat := c.toList.length

def isEmpty (c : Changes) : Bool := c == ∅

def summary (c : Changes) : String :=
  if c.isEmpty then "no changes" else ", ".intercalate (c.toList.map Field.name)

@[simp] theorem has_ofPred (p : Field → Bool) (f : Field) : (ofPred p).has f = p f := by
  cases f <;> rfl

theorem ext_has {a b : Changes} (h : ∀ f, a.has f = b.has f) : a = b := by
  cases a; cases b
  simpa [has] using And.intro (h .gateway) ⟨h .addresses, h .routes, h .nameservers,
    h .domains, h .searches⟩

@[simp] theorem has_empty (f : Field) : (∅ : Changes).has f = false := by cases f <;> rfl

@[simp] theorem has_union (a b : Changes) (f : Field) : (a ∪ b).has f = (a.has f || b.has f) :=
  has_ofPred _ f

@[simp] theorem has_when (b : Bool) (f g : Field) : (when b f).has g = (b && g == f) :=
  has_ofPred _ g

@[simp] theorem mem_toList {c : Changes} {f : Field} : f ∈ c.toList ↔ c.has f := by
  simp [toList, Field.mem_all]

end Changes

end LinkConfig
