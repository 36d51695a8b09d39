import LinkConfig.Address.Text
import LinkConfig.Fault
import LinkConfig.Text

/-! # Resolver files

A resolver file names the system's nameservers, one in a line after the word `nameserver`. Lines
that begin with another word are passed over.
-/
namespace LinkConfig.Resolver
open Text

/-- What a resolver file says: the nameservers in order, and the values that are no addresses. -/
structure Reading where
  servers : List AnyAddress := []
  skipped : List String := []
deriving DecidableEq

def isSeparator (c : Char) : Bool := c == ' ' || c == '\t'

/-- A blank or a comment ends a value. -/
def endsValue (c : Char) : Bool := isBlank c || c == '#' || c == ';'

/-- What stands after the keyword and a separator, if anything does. -/
def value? (line : List Char) : Option (List Char) := do
  let rest ← "nameserver".toList.isPrefixOf? (trimStart line)
  let value := (rest.dropWhile isSeparator).takeWhile (!endsValue ·)
  if rest.head?.any isSeparator && !value.isEmpty then some value else none

def read (text : List Char) : Reading :=
  let values := (lines text).filterMap value?
  { servers := values.filterMap AnyAddress.ofChars?
    skipped := (values.filter fun v => (AnyAddress.ofChars? v).isNone).map String.ofList }

end LinkConfig.Resolver

namespace LinkConfig

/-- Where nameservers are read from: a file, or text that is at hand. -/
inductive Resolver where
  | file (path : String)
  | contents (text : String)
deriving DecidableEq

namespace Resolver

/-- The file that holds the system's nameservers. -/
def systemPath : String := "/etc/resolv.conf"

def system : Resolver := file systemPath

def path? : Resolver → Option String
  | file path => some path
  | contents _ => none

/-- The nameservers, given what reading a file yields. -/
def reading (files : String → Except Fault String) : Resolver → Except Fault Reading
  | file path => (files path).map fun text => read text.toList
  | contents text => .ok (read text.toList)

end LinkConfig.Resolver
