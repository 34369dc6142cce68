import GoalPlanner.Decimal.Reader
import GoalPlanner.Document.Error

/-!
# Fields of documents

How the values of a document are read: truth values (`readTruth`), numbers (`readNumber`), names listed one by one
(`readNames`) and conditions with explicit values (`readConditions`). Where both spellings of conditions are given, the
explicit one wins (`get?_combine`).
-/

namespace GoalPlanner.Document

/-- The truth value that a value states: a truth value itself, a flag, nothing for "not known", or one of the words. -/
def readTruth : Value → Except DocumentError Truth
  | .truth t => .ok t
  | .null => .ok .unknown
  | .bool b => .ok (.ofBool b)
  | .text s => (Truth.ofWord? s).elim (.error (.notTruth (.text s))) .ok
  | v => .error (.notTruth v)

/-- The number that a value gives. -/
def readNumber : Value → Except DocumentError Float
  | .bool b => .ok (if b then 1 else 0)
  | .int n => (Decimal.ofInt? n).elim (.error .tooLarge) .ok
  | .float x => .ok x
  | .text s => (Decimal.readFloat? s).elim (.error .notNumber) .ok
  | _ => .error .misplaced

/-- The members that a value lists: the items of a sequence, the keys of a mapping, the characters of a text. -/
def members : Value → Except DocumentError (List Value)
  | .list items => .ok items
  | .tuple items => .ok items
  | .mapping entries => .ok (entries.map Prod.fst)
  | .text s => .ok (s.toList.map fun c => .text (String.ofList [c]))
  | _ => .error .misplaced

/-- The members that a value lists, if it counts as true; otherwise it lists none. -/
def listed (v : Value) : Except DocumentError (List Value) := if v.isTrue then members v else .ok []

/-- The name of a condition that a value is. -/
def readName (v : Value) : Except DocumentError Name :=
  match v with
  | .text s => .ok (.text s)
  | .int n => .ok (.number n)
  | .bool b => .ok (.flag b)
  | .float x => .ok (.decimal x.toBits)
  | .null => .ok .null
  | v => if v.isKey then .ok (.text v.shown) else .error .misplaced

/-- Names without those that are one key with an earlier one. -/
def distinctKeys (vs : List Value) : List Value :=
  vs.foldl (fun kept v => if kept.any (Value.sameKey · v) then kept else kept ++ [v]) []

/-- The names that a value lists, as requirements or effects that hold. -/
def readNames (v : Value) : Except DocumentError Facts := do
  let vs ← listed v
  let _ ← vs.mapM readName
  return Facts.uniform (← (distinctKeys vs).mapM readName) .yes

/-- The explicit conditions of a mapping; keys count by their text. -/
def readEntries (entries : List (Value × Value)) : Except DocumentError (List (Name × Truth)) :=
  entries.mapM fun (k, v) => do return (.text k.shown, ← readTruth v)

/-- Explicit conditions; a value that counts as false gives none. -/
def readConditions (v : Value) : Except DocumentError (List (Name × Truth)) :=
  if v.isTrue then
    match v with
    | .mapping entries => readEntries entries
    | v => .error (.notConditions v)
  else .ok []

/-- Both spellings of conditions together. -/
def combine (named : Facts) (explicit : List (Name × Truth)) : Facts := named.setAll explicit

theorem get?_combine (named : Facts) (explicit : List (Name × Truth)) (n : Name) :
    (combine named explicit).get? n = (Table.lookup n explicit.reverse).or (named.get? n) :=
  Table.get?_setAll _ _ _

/-- The conditions that an entry gives in both spellings. -/
def readSpec (explicit names : Value) : Except DocumentError Facts := do
  let named ← readNames names
  return combine named (← readConditions explicit)

end GoalPlanner.Document
