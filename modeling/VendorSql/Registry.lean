import VendorSql.Text.Printable
import VendorSql.Vendor.Builtin

/-!
# The registry

Profiles are looked up by tag. Tags are registered in lowercase, in the order of their first
registration; registering a tag again replaces its constructor in place. A query is trimmed and
lowercased; if no tag equals it, it may be an alias of a vendor, and then the tag of that vendor
counts, provided it is registered.
-/
namespace VendorSql

/-- Builds a profile from the attributes of a connection. -/
abbrev Constructor := Attributes → Traced Profile

structure Registry where
  constructors : OrderedMap String Constructor

namespace Registry

def empty : Registry := ⟨.empty⟩

/-- The registry in which `tag` leads to `constructor`. -/
def register (registry : Registry) (tag : String) (constructor : Constructor) : Registry :=
  ⟨registry.constructors.insert (Text.lower tag) constructor⟩

def builtin : Registry :=
  Vendor.all.foldl (fun registry vendor => registry.register vendor.tag vendor.configure) empty

def tags (registry : Registry) : List String := registry.constructors.keys

/-- The constructor a query leads to. -/
def lookup? (registry : Registry) (query : String) : Option Constructor :=
  let key := Text.lower (Text.trim query)
  match registry.constructors.get? key with
  | some constructor => some constructor
  | none => (Vendor.ofName? key).bind fun vendor => registry.constructors.get? vendor.tag

def contains (registry : Registry) (query : String) : Bool :=
  (registry.lookup? query).isSome

/-- The profile a query leads to, built from the attributes of a connection. -/
def create (registry : Registry) (query : String) (attributes : Attributes) :
    Except Error (Traced Profile) :=
  match registry.lookup? query with
  | none => .error (.unknownVendor query)
  | some constructor =>
    let profile := constructor attributes
    .ok { profile with
      events := profile.events ++ [.createdProfile query profile.result.name] }

/-- The registry as it is shown for inspection. -/
def shown (registry : Registry) : String :=
  "DialectRegistry \x7b vendors: " ++ Text.shownList (registry.tags.map Text.shown) ++ " \x7d"

end Registry

end VendorSql
