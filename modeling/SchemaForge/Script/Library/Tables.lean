import SchemaForge.Script.Native

/-! Library functions on tables, and on values that their metatables make into tables. -/

namespace SchemaForge.Script.Library

open Text.Utf8 (Bytes)

def tableLike (args : Args) (n : Nat) (events : List String) : Native Value := do
  let v := args.get n
  match v with
  | .table _ => return v
  | v =>
    let handlers ← events.mapM fun event => Native.metamethod v event
    if (← Native.metatable v).isNone || handlers.any Value.isNil then
      args.wrongType (α := Unit) n "table"
    return v

def reading : List String := ["__index"]

def writing : List String := ["__newindex"]

def counting : List String := ["__len"]

def textsFrom (list : Value) (first : Int) : Nat → Native (List Bytes)
  | 0 => return []
  | n + 1 => do
    match (← Native.getInt list first).toBytes? with
    | some b => return b :: (← textsFrom list (first + 1) n)
    | none => Native.message s!"invalid value (at index {first}) in table for 'concat'"

def onConcat (args : Args) : Native (List Value) := do
  let list ← tableLike args 1 (reading ++ counting)
  let length ← Native.lengthOf list
  let separator ← args.bytesOr 2 []
  let i ← args.intOr 3 1
  let j ← args.intOr 4 length
  return [.string (separator.intercalate (← textsFrom list i (j - i + 1).toNat))]

/-- Copy `n` items from `first` on to the places from `target` on, in order. -/
def copyUp (source : Value) (first : Int) (target : Value) (place : Int) : Nat → Native Unit
  | 0 => return ()
  | n + 1 => do
    Native.setInt target place (← Native.getInt source first)
    copyUp source (first + 1) target (place + 1) n

def copyDown (source : Value) (first : Int) (target : Value) (place : Int) : Nat → Native Unit
  | 0 => return ()
  | n + 1 => do
    Native.setInt target (place + n) (← Native.getInt source (first + n))
    copyDown source first target place n

def onInsert (args : Args) : Native (List Value) := do
  let list ← tableLike args 1 (reading ++ writing ++ counting)
  let free := (← Native.lengthOf list) + 1
  match args.length with
  | 2 => Native.setInt list free (args.get 2)
  | 3 =>
    let place ← args.int 2
    Args.check 2 "position out of bounds" (1 ≤ place && place ≤ free)
    copyDown list place list (place + 1) (free - place).toNat
    Native.setInt list place (args.get 3)
  | _ => Native.message "wrong number of arguments to 'insert'"
  return []

def onRemove (args : Args) : Native (List Value) := do
  let list ← tableLike args 1 (reading ++ writing ++ counting)
  let size ← Native.lengthOf list
  let place ← args.intOr 2 size
  Args.check 2 "position out of bounds" (place = size || (1 ≤ place && place ≤ size + 1))
  let v ← Native.getInt list place
  copyUp list (place + 1) list place (size - place).toNat
  Native.setInt list (max place size) .nil
  return [v]

def onMove (args : Args) : Native (List Value) := do
  let first ← args.int 2
  let last ← args.int 3
  let place ← args.int 4
  let other := if (args.get 5).isNil then 1 else 5
  let source ← tableLike args 1 reading
  let target ← tableLike args other writing
  if first ≤ last then
    Args.check 3 "too many elements to move" (0 < first || last < Word.signedEnd - 1 + first)
    let n := last - first + 1
    Args.check 4 "destination wrap around" (place ≤ Word.signedEnd - 1 - n + 1)
    let same ← if other = 1 then pure true else Native.equal source target
    if last < place || place ≤ first || !same then copyUp source first target place n.toNat
    else copyDown source first target place n.toNat
  return [target]

def onTablePack (args : Args) : Native (List Value) := do
  let t : Table := { Table.sized args.length 1 with items := args.toArray }
  return [← Native.newTable (t.set (.text "n") (.int args.length))]

def itemsFrom (list : Value) (first : Int) : Nat → Native (List Value)
  | 0 => return []
  | n + 1 => do
    let v ← Native.getInt list first
    return v :: (← itemsFrom list (first + 1) n)

def onTableUnpack (args : Args) : Native (List Value) := do
  let list := args.get 1
  let i ← args.intOr 2 1
  let j ← if (args.get 3).isNil then Native.lengthOf list else args.int 3
  if 1000000 ≤ j - i then Native.message "too many results to unpack"
  itemsFrom list i (j - i + 1).toNat

/-- Whether one item of a list comes before another: by a function, or by the order of values. -/
def comesBefore (order a b : Value) : Native Bool :=
  match order with
  | .nil => Native.less a b
  | f => do return (← Native.result f [a, b]).truthy

section Sorting

variable (list order : Value)

def swapItems (i j : Int) (a b : Value) : Native Unit := do
  Native.setInt list i b
  Native.setInt list j a

def unordered {α : Type} : Native α := Native.message "invalid order function for sorting"

/-- The first place behind `i` whose item does not come before the pivot. -/
def nextNotBefore (pivot : Value) (up : Int) (fuel : Nat) (i : Int) : Native (Int × Value) := do
  let v ← Native.getInt list (i + 1)
  if ← comesBefore order v pivot then
    match fuel with
    | 0 => unordered
    | fuel + 1 =>
      if i + 1 = up - 1 then unordered else nextNotBefore pivot up fuel (i + 1)
  else return (i + 1, v)

/-- The last place in front of `j` whose item the pivot does not come before. -/
def lastNotBehind (pivot : Value) (i : Int) (fuel : Nat) (j : Int) : Native (Int × Value) := do
  let v ← Native.getInt list (j - 1)
  if ← comesBefore order pivot v then
    match fuel with
    | 0 => unordered
    | fuel + 1 => if j - 1 < i then unordered else lastNotBehind pivot i fuel (j - 1)
  else return (j - 1, v)

/-- Part the items around the pivot, which stands in front of the last one; its new place. -/
def partitionItems (pivot : Value) (up : Int) (fuel : Nat) (i j : Int) : Native Int := do
  let (i, a) ← nextNotBefore list order pivot up (up - i).toNat i
  let (j, b) ← lastNotBehind list order pivot i (j - i).toNat j
  if j < i then
    swapItems list (up - 1) i pivot a
    return i
  else
    match fuel with
    | 0 => unordered
    | fuel + 1 =>
      swapItems list i j a b
      partitionItems pivot up fuel i j

def orderItems (i j : Int) : Native Unit := do
  let a ← Native.getInt list i
  let b ← Native.getInt list j
  if ← comesBefore order b a then swapItems list i j a b

def pivotPlace (lo up : Int) (chance : Nat) : Int :=
  if up - lo < 100 then (lo + up) / 2
  else
    let quarter := (up - lo) / 4
    chance % (quarter * 2) + (lo + quarter)

/-- Put the outer items and the pivot in order; where the pivot is, if there is more to do. -/
def orderThree (lo up : Int) (chance : Nat) : Native (Option Int) := do
  orderItems list order lo up
  if up - lo = 1 then return none
  let p := pivotPlace lo up chance
  let a ← Native.getInt list p
  let first ← Native.getInt list lo
  if ← comesBefore order a first then swapItems list p lo a first
  else
    let last ← Native.getInt list up
    if ← comesBefore order last a then swapItems list p up a last
  return if up - lo = 2 then none else some p

/-- Sort the items from `lo` to `up`. Where the parts are very uneven, the next pivot is drawn by
chance. -/
def sortItems (fuel : Nat) (lo up : Int) (chance : Nat) : Native Unit := do
  match fuel with
  | 0 => return ()
  | fuel + 1 =>
    if up ≤ lo then return ()
    match ← orderThree list order lo up chance with
    | none => return ()
    | some p =>
      let pivot ← Native.getInt list p
      let other ← Native.getInt list (up - 1)
      swapItems list p (up - 1) pivot other
      let p ← partitionItems list order pivot up (up - lo).toNat lo (up - 1)
      let less := p - lo < up - p
      let (lower, upper) := ((lo, p - 1), (p + 1, up))
      let (smaller, greater) := if less then (lower, upper) else (upper, lower)
      sortItems fuel smaller.1 smaller.2 chance
      let size := if less then p - lo else up - p
      if size < (greater.2 - greater.1) / 128 then
        let seeds ← Native.ask .seeds
        sortItems fuel greater.1 greater.2 (seeds.1.toNat % Word.unsignedEnd32)
      else sortItems fuel greater.1 greater.2 chance

end Sorting

def onSort (args : Args) : Native (List Value) := do
  let list ← tableLike args 1 (reading ++ writing ++ counting)
  let n ← Native.lengthOf list
  if 1 < n then
    Args.check 1 "array too big" (n < Word.signedEnd32 - 1)
    let order := args.get 2
    if !order.isNil then
      let _ ← args.function 2
    sortItems list order n.toNat 1 n 0
  return []

end SchemaForge.Script.Library
