import LinkConfig.Config.Edit
import LinkConfig.Setting

/-! # Settings and configurations

A setting is applied to a configuration, and a configuration is described as a setting, as far as
the user may have declared it.
-/
namespace LinkConfig

variable {F : Family}

/-- A declared address is permanent and belongs to the user. -/
def DeclaredAddress.entry (a : DeclaredAddress F) : AddressEntry F :=
  { address := a.address, prefixLen := a.prefixLen, source := .user }

def DeclaredRoute.entry (r : DeclaredRoute F) (metric : UInt32) : Route F :=
  { network := r.destination, prefixLen := r.prefixLen
    gateway := r.nextHop.getD .unspecified
    metric := if r.metric = 0 then metric else r.metric
    source := .user }

namespace Config

/-- Applies what the user declared; `metric` is that of routes declared without one. -/
def applySetting (c : Config F) (s : Setting F) (metric : UInt32) : Outcome F :=
  let o := (Outcome.start c)
    |>.andIf (s.neverDefault || s.ignoreAutoRoutes) (·.setNeverDefault s.neverDefault)
    |>.andIf s.gateway.isSome (·.setGateway s.gateway)
    |>.forEach s.addresses (fun c a => c.insertAddress a.entry)
    |>.andIf s.ignoreAutoRoutes clearRoutes
    |>.forEach s.routes (fun c r => c.insertRoute (r.entry metric))
    |>.andIf s.ignoreAutoDns clearNameservers
    |>.andIf s.ignoreAutoDns clearDomains
    |>.andIf s.ignoreAutoDns clearSearches
    |>.forEach s.nameservers insertNameserver
    |>.forEach s.searches insertSearch
  { o with log := o.log ++ [.settingApplied o.changes] }

/-- How addresses seem to be obtained, given what the addresses before `e` told. -/
def inferMethod (seen : Option Method) (e : AddressEntry F) : Option Method :=
  if e.address.isLinkLocal then seen <|> some .linkLocal
  else if !e.isPermanent then some .auto
  else if seen = none ∨ seen = some .linkLocal then some .manual
  else seen

/-- Permanent addresses are declared, link-local ones come by themselves. -/
def isDeclared (e : AddressEntry F) : Bool := !e.address.isLinkLocal && e.isPermanent

def isDeclaredRoute (r : Route F) : Bool :=
  !r.network.isLinkLocal && r.prefixLen != 0 && r.source == .user

/-- The setting that describes the configuration. Each address carries its gateway. -/
def toSetting (c : Config F) : Setting F where
  method := (c.addresses.foldl inferMethod none).getD .disabled
  addresses := (c.addresses.filter isDeclared).map fun e => ⟨e.address, e.prefixLen, c.gateway⟩
  routes := (c.routes.filter isDeclaredRoute).map fun r =>
    ⟨r.network, r.prefixLen, r.gateway.specified?, r.metric⟩
  nameservers := c.nameservers
  searches := c.searches

end Config

end LinkConfig
