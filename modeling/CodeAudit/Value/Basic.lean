import CodeAudit.Decimal.Double
import CodeAudit.Value.Moment

/-!
# Values

The values that documents are made of.

A document of a data format is decoded to a `Value` before anything is asked of
it. Rules, configurations and reports are then read from values, so the type has
every kind of value that one of the formats can spell.

A mapping keeps its entries in the order in which their keys first appeared. Keys
are compared as `sameKey` does, which takes numbers by their value whatever their
kind, so that one, one point zero and true are one key.

A collection can contain itself. Such a collection is a `knot`, which keeps two forms of it. Its
outline says how it is written out: where the collection comes up again inside of itself stands
`again`, which knows only what kind of collection it is. Its content is what it holds. In the
content the collection comes up again as a knot, a few times over; from there on it is `again`
too, since nothing asks for parts of a document that lie so deep.

## Main definitions

* `Collection`: The kinds of collections that can contain themselves.
* `Value`: A value of a document.
* `Value.opened`: What a collection that contains itself holds.
* `Value.sameKey`: Two values are the same key of a mapping.
* `Value.put`, `Value.find?`: Entry and look-up by key.
* `Value.isTruthy`: A value is neither empty nor nothing.

## Theorems

* `Value.find?_nil`: Nothing is found in an empty mapping.
* `Value.find?_cons`: The first entry with a key is the one that is found.
* `Value.opened_mapping`: A mapping holds its entries.
-/

namespace CodeAudit

/-- The kinds of collections that can contain themselves. -/
inductive Collection
  | list
  | pair
  | mapping
deriving DecidableEq, Repr

/-- A value of a document. -/
inductive Value
  | null
  | bool (b : Bool)
  | int (i : Int)
  | float (x : Double)
  | text (s : String)
  | bytes (bs : List UInt8)
  | date (d : Date)
  | moment (m : Moment)
  | list (items : List Value)
  | pair (first second : Value)
  | set (items : List Value)
  | mapping (entries : List (Value × Value))
  /-- A collection that contains itself: how it is written out, and what it holds. -/
  | knot (outline content : Value)
  /-- A collection that is not gone into again. -/
  | again (kind : Collection)
deriving Inhabited, Repr

namespace Value

/-- The entries of a mapping, in the order in which their keys first appeared. -/
abbrev Entries := List (Value × Value)

/-- The integer a value stands for when numbers are compared. -/
def asInt? : Value → Option Int
  | .bool b => some (if b then 1 else 0)
  | .int i => some i
  | _ => none

/-- Two values are the same key of a mapping. Collections are never keys. -/
def sameKey : Value → Value → Bool
  | .null, .null => true
  | .text s, .text t => s == t
  | .bytes b, .bytes c => b == c
  | .date d, .date e => d == e
  | .moment m, .moment n => m.sameInstant n
  | .float x, .float y => x.sameNumber y
  | .float x, v =>
    match v.asInt? with
    | some i => x.equalsInt i
    | none => false
  | u, .float y =>
    match u.asInt? with
    | some i => y.equalsInt i
    | none => false
  | u, v =>
    match u.asInt?, v.asInt? with
    | some i, some j => i == j
    | _, _ => false

/-- Sets the value of a key: in its old place if the key is there, at the end
    otherwise. -/
def put (key value : Value) : Entries → Entries
  | [] => [(key, value)]
  | (k, v) :: rest => if k.sameKey key then (k, value) :: rest else (k, v) :: put key value rest

/-- The value of a key. -/
def find? (key : Value) : Entries → Option Value
  | [] => none
  | (k, v) :: rest => if k.sameKey key then some v else find? key rest

/-- Nothing is found in an empty mapping. -/
@[simp] theorem find?_nil (key : Value) : find? key [] = none := rfl

/-- The first entry with a key is the one that is found. -/
theorem find?_cons (key k v : Value) (rest : Entries) :
    find? key ((k, v) :: rest) = if k.sameKey key then some v else find? key rest := rfl

/-- The value of a textual key. -/
def get? (key : String) (entries : Entries) : Option Value :=
  find? (.text key) entries

/-- A value counts as present: it is neither nothing, nor false, nor a zero, nor
    an empty text or collection. -/
def isTruthy : Value → Bool
  | .null => false
  | .bool b => b
  | .int i => i != 0
  | .float x => !x.isZero
  | .text s => s != ""
  | .bytes bs => !bs.isEmpty
  | .list items => !items.isEmpty
  | .set items => !items.isEmpty
  | .mapping entries => !entries.isEmpty
  | .date _ | .moment _ | .pair _ _ => true
  -- What contains itself is not empty.
  | .knot _ _ | .again _ => true

/-- A value as what it holds, if it contains itself. -/
def opened : Value → Value
  | .knot _ content => content
  | v => v

/-- A mapping that is written out in full does not contain itself. -/
@[simp] theorem opened_mapping (entries : Entries) : (mapping entries).opened = .mapping entries :=
  rfl

end Value

end CodeAudit
