/-!
# Names

Entity types, properties, stored objects, registered conditions and transactions are named by
machine words. Each sort of name is a type of its own, so that no two sorts can be confused. Words
wrap, so a counter of names starts again after the last one.
-/

namespace EntityQuery

/-- Names an entity type. -/
structure EntityId where
  val : UInt32
  deriving DecidableEq, Repr, Inhabited

/-- Names a property within its entity. -/
structure PropertyId where
  val : UInt32
  deriving DecidableEq, Repr, Inhabited

/-- Names a stored object. The store never issues zero before it has issued every other name. -/
structure ObjectId where
  val : UInt64
  deriving DecidableEq, Repr, Inhabited

/-- Names a condition registered in a builder session: the session that issued it and the slot
there. -/
structure ConditionId where
  builder : UInt64
  index : UInt32
  deriving DecidableEq, Repr, Inhabited

/-- Names a transaction. -/
structure TxId where
  val : UInt64
  deriving DecidableEq, Repr, Inhabited

/-- What a transaction may do. -/
inductive TxMode where
  | readOnly
  | readWrite
  deriving DecidableEq, Repr, Inhabited

namespace EntityId

def text (e : EntityId) : String :=
  e.val.toNat.repr

end EntityId

namespace PropertyId

def text (p : PropertyId) : String :=
  p.val.toNat.repr

end PropertyId

namespace ObjectId

def text (o : ObjectId) : String :=
  o.val.toNat.repr

end ObjectId

namespace TxId

def text (t : TxId) : String :=
  t.val.toNat.repr

end TxId

namespace ConditionId

def text (c : ConditionId) : String :=
  c.builder.toNat.repr ++ "#" ++ c.index.toNat.repr

end ConditionId

namespace TxMode

def name : TxMode → String
  | .readOnly => "ReadOnly"
  | .readWrite => "ReadWrite"

def ofName? (name : String) : Option TxMode :=
  [readOnly, readWrite].find? (·.name == name)

end TxMode

end EntityQuery
