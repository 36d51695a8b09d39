import LinkConfig.Config

/-! # Configurations for a reader -/
namespace LinkConfig.Config
variable {F : Family}

/-- The line, if `b` holds. -/
def lineIf (b : Bool) (line : String) : List String := if b then [line] else []

def reportLines (c : Config F) : List String :=
  [s!"{F.name} config:"] ++
  c.addresses.map (fun x => s!"  address {x.text}") ++
  c.gateway.toList.map (fun x => s!"  gateway {x.text}") ++
  c.routes.map (fun x => s!"  route {x.text}") ++
  c.nameservers.map (fun x => s!"  nameserver {x.text}") ++
  lineIf (!c.domains.isEmpty) ("  domains " ++ " ".intercalate c.domains) ++
  lineIf (!c.searches.isEmpty) ("  search " ++ " ".intercalate c.searches) ++
  lineIf (c.mss != 0) s!"  mss {c.mss}" ++
  lineIf c.neverDefault "  never-default"

/-- A line for each part that is set. -/
def report (c : Config F) : String := String.join (c.reportLines.map (· ++ "\n"))

/-- The whole configuration for the log, under a heading that names `detail`. -/
def dump (c : Config F) (detail : String) : List (Severity × String) :=
  (.debug, ·) <$> (
    [s!"--------- {F.name} IpConfig ({detail})"] ++
    c.path.toList.map (fun x => s!"   path: {x}") ++
    c.addresses.map (fun x => s!"      a: {x.text}") ++
    c.gateway.toList.map (fun x => s!"     gw: {x.text}") ++
    c.routes.map (fun x => s!"     rt: {x.text}") ++
    c.nameservers.map (fun x => s!"     ns: {x.text}") ++
    c.domains.map (fun x => s!" domain: {x}") ++
    c.searches.map (fun x => s!" search: {x}") ++
    [s!"    mss: {c.mss}", s!"n-dflt: {c.neverDefault}"])

end LinkConfig.Config
