import GoalPlanner.Decimal.Text
import GoalPlanner.Kind
import GoalPlanner.Text.Quoted
import GoalPlanner.Truth

/-!
# Values

The values that documents hold and that are bound on a blackboard (`Value`): scalars, sequences, mappings, truth values
and instances of declared kinds. A value has a kind (`Value.kind`), counts as true or false (`Value.isTrue`) and has a
text (`Value.literal` as written in a document, `Value.shown` as printed).
-/

namespace GoalPlanner

/-- A value of a document or on a blackboard. -/
inductive Value
  | null
  | bool (b : Bool)
  | int (n : Int)
  | float (x : Float)
  | text (s : String)
  | list (items : List Value)
  | tuple (items : List Value)
  /-- A mapping, with its entries in the order of insertion. -/
  | mapping (entries : List (Value × Value))
  | truth (t : Truth)
  /-- An instance of a declared kind: empty if made of something, else one that counts as true. -/
  | object (kind : Kind) (id : Value)
  deriving Inhabited

namespace Value

/-! ## Kinds -/

/-- The kind of a value. -/
def kind : Value → Kind
  | null => .basic "NoneType"
  | bool _ => ⟨⟨"bool", "bool", 0⟩, [(Kind.basic "int").label]⟩
  | int _ => .basic "int"
  | float _ => .basic "float"
  | text _ => .basic "str"
  | list _ => .basic "list"
  | tuple _ => .basic "tuple"
  | mapping _ => .basic "dict"
  | truth _ => ⟨⟨"ConditionValue", "planning.conditions.ConditionValue", 0⟩, [⟨"Enum", "enum.Enum", 0⟩]⟩
  | object k _ => k

/-- The simple name of a value's kind. -/
def kindName (v : Value) : String := v.kind.label.name

/-- The kind of a value as messages show it. -/
def kindText : Value → String
  | truth t => "<enum '" ++ (truth t).kind.label.name ++ "'>"
  | v => "<class '" ++ v.kind.label.qualified ++ "'>"

/-- Whether a value is a sequence of values. -/
def isSequence (v : Value) : Bool := v.kind.storage? == some .list || v.kind.storage? == some .tuple

/-- Whether a value is a mapping, by its kind and the kinds adopted among those of mappings. -/
def isMapping (v : Value) (adopted : List KindLabel) : Bool := v.kind.isMapping adopted

/-! ## Truth -/

/-- Whether a value counts as true: nothing, zero and what is empty do not. -/
def isTrue : Value → Bool
  | null => false
  | bool b => b
  | int n => n != 0
  | float x => x != 0
  | text s => s != ""
  | list items => !items.isEmpty
  | tuple items => !items.isEmpty
  | mapping entries => !entries.isEmpty
  | truth _ => true
  | object k _ => k.storage?.isNone

/-- The truth value that stands for a value: nothing is not known, all else is decided. -/
def asTruth : Value → Truth
  | null => .unknown
  | v => .ofBool v.isTrue

/-! ## Text -/

/-- The text of a truth value inside another value. -/
def truthLiteral (t : Truth) : String := "<ConditionValue." ++ t.name ++ ": '" ++ t.word ++ "'>"

mutual

/-- A value as written inside others. -/
def literal : Value → String
  | null => "None"
  | bool true => "True"
  | bool false => "False"
  | int n => toString n
  | float x => Decimal.floatText x
  | text s => Text.quoted s
  | list items => "[" ++ ", ".intercalate (literals items) ++ "]"
  | tuple [item] => "(" ++ literal item ++ ",)"
  | tuple items => "(" ++ ", ".intercalate (literals items) ++ ")"
  | mapping entries => "\x7b" ++ ", ".intercalate (entryLiterals entries) ++ "\x7d"
  | truth t => truthLiteral t
  | object k (text s) => "<" ++ k.label.name ++ " " ++ s ++ ">"
  | object k id => "<" ++ k.label.name ++ " " ++ literal id ++ ">"

/-- Values as written, one by one. -/
def literals : List Value → List String
  | [] => []
  | v :: r => literal v :: literals r

/-- The entries of a mapping as written. -/
def entryLiterals : List (Value × Value) → List String
  | [] => []
  | (k, v) :: r => (literal k ++ ": " ++ literal v) :: entryLiterals r

end

/-- A value as printed by itself: a text without quotes, a truth value by its name. -/
def shown : Value → String
  | text s => s
  | truth t => t.name
  | v => v.literal

/-! ## Keys of mappings -/

/-- The exact number that a value is, if it is a finite one. -/
def number? : Value → Option Rat
  | bool b => some b.toNat
  | int n => some n
  | float x => Decimal.rational? x
  | _ => none

mutual

/-- The value that counts as a key: instances of kinds that are made of something count as what they hold. -/
def held : Value → Value
  | tuple items => tuple (heldAll items)
  | object k id =>
    match k.storage? with
    | some .text => text ""
    | some .integer => int 0
    | some .float => float 0
    | some .tuple => tuple []
    | _ => object k id
  | v => v

/-- The values that count, one by one. -/
def heldAll : List Value → List Value
  | [] => []
  | v :: r => held v :: heldAll r

end

mutual

/-- Whether two values are alike: numbers and flags by their exact value. An instance is like no other. -/
def alike : Value → Value → Bool
  | null, null => true
  | text s, text t => s == t
  | truth s, truth t => s == t
  | tuple xs, tuple ys => allAlike xs ys
  | float x, float y => x == y
  | v, w =>
    match v.number?, w.number? with
    | some a, some b => a == b
    | _, _ => false

/-- Whether two lists hold values that are alike, in the same order. -/
def allAlike : List Value → List Value → Bool
  | [], [] => true
  | x :: xs, y :: ys => alike x y && allAlike xs ys
  | _, _ => false

end

/-- Whether two values are one key of a mapping. -/
def sameKey (v w : Value) : Bool := alike v.held w.held

mutual

/-- The first part of a value that keeps it from being a key of a mapping: a list or a mapping. -/
def obstacle? : Value → Option Value
  | list items => some (list items)
  | mapping entries => some (mapping entries)
  | tuple items => firstObstacle? items
  | object k id => if k.storage? == some .list || k.storage? == some .mapping then some (object k id) else none
  | _ => none

/-- The first obstacle in some values. -/
def firstObstacle? : List Value → Option Value
  | [] => none
  | v :: r => (obstacle? v).or (firstObstacle? r)

end

/-- Whether a value can be a key of a mapping. -/
def isKey (v : Value) : Bool := v.obstacle?.isNone

/-- The entries of a mapping with one more, or with the value of its key changed in place. -/
def putEntry (k v : Value) : List (Value × Value) → List (Value × Value)
  | [] => [(k, v)]
  | (a, b) :: r => if sameKey a k then (a, v) :: r else (a, b) :: putEntry k v r

/-- The entries of a mapping built in turn. -/
def entriesOf (es : List (Value × Value)) : List (Value × Value) := es.foldl (fun m e => putEntry e.1 e.2 m) []

/-- The value of a text key in the entries of a mapping. -/
def field? (key : String) : List (Value × Value) → Option Value
  | [] => none
  | (text s, v) :: r => if s == key then some v else field? key r
  | _ :: r => field? key r

/-- The value of a text key in a mapping; nothing where there is none. -/
def getD (key : String) (entries : List (Value × Value)) : Value := (field? key entries).getD null

end Value

end GoalPlanner
