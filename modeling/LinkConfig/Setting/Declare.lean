import LinkConfig.Cidr
import LinkConfig.Setting

/-! # Declarations

How a setting grows by what the user writes. A declaration that cannot be read says why.
-/
namespace LinkConfig
variable {F : Family}

namespace Setting

/-- What a text was meant to be. -/
inductive Subject where
  | address
  | destination
deriving DecidableEq

inductive Error where
  | missingPrefix (subject : Subject) (text : String)
  | invalidAddress (subject : Subject) (text : String)
  | invalidPrefix (text : String)
  | prefixTooLarge (len max : UInt8)
  | invalidGateway (text : String)
  | wrongFamily (text : String) (family : Family)
deriving DecidableEq

namespace Error

def message : Error → String
  | missingPrefix .address text =>
    s!"address missing prefix: {text} (expected format: 192.168.1.1/24)"
  | missingPrefix .destination text =>
    s!"destination missing prefix: {text} (expected format: 10.0.0.0/8)"
  | invalidAddress .address text => s!"invalid IP address: {text}"
  | invalidAddress .destination text => s!"invalid destination address: {text}"
  | invalidPrefix text => s!"invalid prefix length: {text}"
  | prefixTooLarge len max => s!"prefix length {len} exceeds maximum {max}"
  | invalidGateway text => s!"invalid gateway address: {text}"
  | wrongFamily text family => s!"{text} is not an {family.name} address"

def ofCidr (subject : Subject) : Cidr.Error → Error
  | .invalidAddress text => .invalidAddress subject text
  | .invalidPrefix text => .invalidPrefix text
  | .prefixTooLarge len max => .prefixTooLarge len max

end Error

/-- Reads an address with a prefix length, which may not be left out. -/
def readCidr (subject : Subject) (text : String) : Except Error Cidr :=
  if '/' ∈ text.toList then (Cidr.read text.toList).mapError (.ofCidr subject)
  else .error (.missingPrefix subject text)

/-- The address read from `text`, if it is one of the family. -/
def ofFamily (a : AnyAddress) (text : String) : Except Error (Address F) :=
  match a.narrow F with
  | some a => .ok a
  | none => .error (.wrongFamily text F)

def readAddress (text : String) : Except Error (Address F) := do
  let a ← (AnyAddress.read text.toList).mapError (.ofCidr .address)
  ofFamily a text

def declareAddress (s : Setting F) (text : String) (gateway : Option (Address F)) :
    Except Error (Setting F) := do
  let cidr ← readCidr .address text
  let address ← ofFamily cidr.address text
  return { s with addresses := s.addresses ++ [⟨address, cidr.len, gateway⟩] }

/-- The gateway is read first. -/
def declareAddressVia (s : Setting F) (text gateway : String) : Except Error (Setting F) := do
  let g ← (readAddress gateway).mapError fun _ => .invalidGateway gateway
  s.declareAddress text (some g)

def readNextHop (text : String) : Except Error (Address F) :=
  match AnyAddress.read text.toList with
  | .error _ => .error (.invalidGateway text)
  | .ok a => ofFamily a text

def declareRoute (s : Setting F) (text : String) (via : Option String) (metric : UInt32) :
    Except Error (Setting F) := do
  let cidr ← readCidr .destination text
  let destination ← ofFamily cidr.address text
  let nextHop ← via.mapM readNextHop
  return { s with routes := s.routes ++ [⟨destination, cidr.len, nextHop, metric⟩] }

def declareNameserver (s : Setting F) (text : String) : Except Error (Setting F) := do
  let a ← readAddress text
  return { s with nameservers := s.nameservers ++ [a] }

def declareSearch (s : Setting F) (text : String) : Setting F :=
  { s with searches := s.searches ++ [text] }

end Setting

/-- What the user writes about a setting, one thing at a time. -/
inductive Declaration where
  | address (text : String)
  | addressVia (text gateway : String)
  | route (text : String) (via : Option String) (metric : UInt32)
  | nameserver (text : String)
  | search (text : String)
  | neverDefault
  | ignoreAutoRoutes
  | ignoreAutoDns
deriving DecidableEq

namespace Setting

def declare (s : Setting F) : Declaration → Except Error (Setting F)
  | .address text => s.declareAddress text none
  | .addressVia text gateway => s.declareAddressVia text gateway
  | .route text via metric => s.declareRoute text via metric
  | .nameserver text => s.declareNameserver text
  | .search text => .ok (s.declareSearch text)
  | .neverDefault => .ok { s with neverDefault := true }
  | .ignoreAutoRoutes => .ok { s with ignoreAutoRoutes := true }
  | .ignoreAutoDns => .ok { s with ignoreAutoDns := true }

/-- The setting after all that can be read; what cannot be is passed over. -/
def build (s : Setting F) (ds : List Declaration) : Setting F :=
  ds.foldl (fun s d => (s.declare d).toOption.getD s) s

/-- The setting after all of the declarations, if every one can be read. -/
def declareAll (s : Setting F) (ds : List Declaration) : Except Error (Setting F) :=
  ds.foldlM declare s

end LinkConfig.Setting
