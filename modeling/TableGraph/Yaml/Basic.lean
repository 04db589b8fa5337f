/-
YAML documents as values. A value may carry a tag of its own; keys of a mapping are values too and keep their order.
-/
import TableGraph.Number.Binary64

namespace TableGraph

/-- a YAML value -/
inductive Yaml where
  | null
  | bool (value : Bool)
  | integer (value : Int)
  | float (value : Binary64)
  | string (text : String)
  | sequence (items : List Yaml)
  | mapping (entries : List (Yaml × Yaml))
  | tagged (tag : String) (value : Yaml)
  deriving Repr, Inhabited

/-- whether two numbers are the same key: the zeros are, and so is the undefined value with itself -/
def Binary64.sameAs : Binary64 → Binary64 → Bool
  | .finite negative significand exponent _, .finite negative' significand' exponent' _ =>
    significand == significand' && (significand == 0 || (negative == negative' && exponent == exponent'))
  | .infinite negative, .infinite negative' => negative == negative'
  | .undefined, .undefined => true
  | _, _ => false

namespace Yaml

mutual

/-- whether two values are the same key -/
def sameAs : Yaml → Yaml → Bool
  | .null, .null => true
  | .bool a, .bool b => a == b
  | .integer a, .integer b => a == b
  | .float a, .float b => a.sameAs b
  | .string a, .string b => a == b
  | .sequence a, .sequence b => sameItems a b
  | .mapping a, .mapping b => a.length == b.length && sameEntries a b
  | .tagged s a, .tagged t b => s == t && a.sameAs b
  | _, _ => false

def sameItems : List Yaml → List Yaml → Bool
  | [], [] => true
  | a :: as, b :: bs => a.sameAs b && sameItems as bs
  | _, _ => false

/-- whether every entry of a mapping is found in another one -/
def sameEntries : List (Yaml × Yaml) → List (Yaml × Yaml) → Bool
  | [], _ => true
  | (key, value) :: rest, others => sameEntry key value others && sameEntries rest others

/-- whether an entry is found in a mapping -/
def sameEntry (key value : Yaml) : List (Yaml × Yaml) → Bool
  | [] => false
  | (key', value') :: rest => (key.sameAs key' && value.sameAs value') || sameEntry key value rest

end

/-- whether a mapping has a key -/
def hasKey (entries : List (Yaml × Yaml)) (key : Yaml) : Bool := entries.any fun entry => entry.1.sameAs key

end Yaml

end TableGraph
