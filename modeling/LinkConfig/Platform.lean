import LinkConfig.AddressEntry
import LinkConfig.Fault
import LinkConfig.Route

/-! # Platforms

A platform holds the tables of the links, in a state `σ`. It is a record of five requests, each
of which it may refuse. A write leaves a state whether it is refused or not; that it changes nothing
if it is refused is up to the platform.
-/
namespace LinkConfig

/-- What is answered to a write, and the state that it leaves. -/
structure Written (σ : Type) where
  result : Except Fault Unit
  state : σ

namespace Written
variable {σ : Type}

def done (s : σ) : Written σ := ⟨.ok (), s⟩

def refused (s : σ) (fault : Fault) : Written σ := ⟨.error fault, s⟩

def isOk (w : Written σ) : Bool := w.result.isOk

@[simp] theorem isOk_done (s : σ) : (done s).isOk := rfl

@[simp] theorem isOk_refused (s : σ) (fault : Fault) : (refused s fault).isOk = false := rfl

@[simp] theorem state_done (s : σ) : (done s).state = s := rfl

@[simp] theorem state_refused (s : σ) (fault : Fault) : (refused s fault).state = s := rfl

end Written

structure Platform (F : Family) (σ : Type) where
  /-- Whether the link belongs to another one, such as a bridge. -/
  hasMaster : σ → UInt32 → Except Fault Bool
  addresses : σ → UInt32 → Except Fault (List (AddressEntry F))
  routes : σ → UInt32 → Except Fault (List (Route F))
  /-- Makes the addresses of the link exactly those given. -/
  writeAddresses : σ → UInt32 → List (AddressEntry F) → Written σ
  /-- Makes the routes of the link exactly those given. -/
  writeRoutes : σ → UInt32 → List (Route F) → Written σ

/-- The requests to a platform. -/
inductive Request where
  | hasMaster
  | addresses
  | routes
  | writeAddresses
  | writeRoutes
deriving DecidableEq

def Request.name : Request → String
  | hasMaster => "link_has_master"
  | addresses => "addresses"
  | routes => "routes"
  | writeAddresses => "sync_addresses"
  | writeRoutes => "sync_routes"

namespace Platform
variable {F : Family} {σ α : Type}

/-- Refuses the request if it is one of `requests`, and else passes it on. -/
def guarded (requests : List Request) (r : Request) (refused : Fault → α) (answer : α) : α :=
  if r ∈ requests then refused (.platform s!"{r.name} refused") else answer

/-- The platform with some requests refused before they reach it. -/
def refusing (p : Platform F σ) (requests : List Request) : Platform F σ where
  hasMaster s i := guarded requests .hasMaster .error (p.hasMaster s i)
  addresses s i := guarded requests .addresses .error (p.addresses s i)
  routes s i := guarded requests .routes .error (p.routes s i)
  writeAddresses s i es := guarded requests .writeAddresses (.refused s) (p.writeAddresses s i es)
  writeRoutes s i rs := guarded requests .writeRoutes (.refused s) (p.writeRoutes s i rs)

end Platform

end LinkConfig
