/-!
# Kinds

What a bound value is (`Kind`): a kind has a simple and a qualified name and stands below other kinds, listed from the
nearest to the farthest. Every kind stands below the root, whether it is listed or not (`Kind.root`). New kinds are
declared below earlier ones (`Kind.declare?`); the list of a new kind keeps the order of each of its bases' lists and
the order of the bases (`linearize?`), and a declaration for which no such list exists is refused.

Mappings need not be made of one: a kind is one of mappings because of the kinds it is below, some of which are given as
such, while others can be adopted without standing below them (`Kind.isMapping`).
-/

namespace GoalPlanner

/-- A kind by itself: its two names, and the number that tells it from others of the same names. -/
structure KindLabel where
  name : String
  qualified : String
  /-- Zero for the kinds that are given from the start. -/
  number : Nat
  deriving DecidableEq, Hashable, Repr, Inhabited

/-- A kind of value and the kinds above it. -/
structure Kind where
  label : KindLabel
  above : List KindLabel
  deriving DecidableEq, Hashable, Repr, Inhabited

/-- What the values of a kind are made of. -/
inductive Storage
  | list
  | mapping
  | tuple
  | text
  | integer
  | float
  deriving DecidableEq, Repr

namespace Kind

/-- The kind itself and the kinds above it. -/
def lineage (k : Kind) : List KindLabel := k.label :: k.above

/-- A kind that is given from the start, with no other kind listed above it and one name. -/
def basic (name : String) : Kind := ⟨⟨name, name, 0⟩, []⟩

/-- The kind that all kinds are at or below. -/
def root : Kind := basic "object"

/-- A kind is at or below another. -/
def isBelow (k j : Kind) : Bool := j.label == root.label || k.lineage.contains j.label

/-- The kinds that values are made of, by name. -/
def storages : List (String × Storage) :=
  [("list", .list), ("dict", .mapping), ("tuple", .tuple), ("str", .text), ("int", .integer), ("float", .float)]

/-- What the values of a kind given from the start are made of. -/
def storageOf (l : KindLabel) : Option Storage := if l.number == 0 then storages.lookup l.name else none

/-- The storage that a kind inherits, if any. -/
def storage? (k : Kind) : Option Storage := k.lineage.findSome? storageOf

/-! ## Mappings -/

/-- The kind that mappings of any make stand below. -/
def abstractMapping : Kind :=
  ⟨⟨"Mapping", "collections.abc.Mapping", 0⟩,
    [⟨"Collection", "collections.abc.Collection", 0⟩, ⟨"Sized", "collections.abc.Sized", 0⟩,
      ⟨"Iterable", "collections.abc.Iterable", 0⟩, ⟨"Container", "collections.abc.Container", 0⟩]⟩

/-- The kinds that are given as kinds of mappings. -/
def mappings : List KindLabel := [(basic "dict").label, (basic "mappingproxy").label, abstractMapping.label]

/-- A kind of mappings: it is at or below one that is given as such, or one that was adopted among them. -/
def isMapping (k : Kind) (adopted : List KindLabel) : Bool := k.lineage.any (mappings ++ adopted).contains

/-! ## Declarations -/

/-- Merges lists into one that keeps the order of each: the first head that no list holds further down comes next. -/
def linearize? : (fuel : Nat) → List (List KindLabel) → Option (List KindLabel)
  | 0, ls => if ls.all List.isEmpty then some [] else none
  | fuel + 1, ls =>
    let ls := ls.filter fun l => !l.isEmpty
    if ls.isEmpty then some []
    else do
      let next ← (ls.filterMap List.head?).find? fun x => ls.all fun l => !l.tail.contains x
      let rest ← linearize? fuel (ls.map fun l => if l.head? == some next then l.tail else l)
      return next :: rest

/-- A new kind below some others. Values are made of one thing only, so the bases may not differ in it. -/
def declare? (label : KindLabel) (bases : List Kind) : Option Kind := do
  let lists := bases.map lineage ++ [bases.map Kind.label]
  let above ← linearize? lists.flatten.length lists
  if (above.filter fun l => (storageOf l).isSome).length ≤ 1 then some ⟨label, above⟩ else none

/-- The qualified name of a kind declared in a module. -/
def qualify (module path : String) : String :=
  if module == "" || module == "builtins" then path else module ++ "." ++ path

end Kind

end GoalPlanner
