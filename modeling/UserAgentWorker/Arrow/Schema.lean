import Mathlib.Data.List.Forall2

namespace Arrow

inductive TimeUnit
  | second | millisecond | microsecond | nanosecond
  deriving DecidableEq

inductive IntervalUnit
  | yearMonth | dayTime | monthDayNano
  deriving DecidableEq

inductive UnionMode
  | sparse | dense
  deriving DecidableEq

mutual

inductive DataType
  | null
  | boolean
  | int8 | int16 | int32 | int64
  | uint8 | uint16 | uint32 | uint64
  | float16 | float32 | float64
  | timestamp (unit : TimeUnit) (timezone : Option String)
  | date32 | date64
  | time32 (unit : TimeUnit)
  | time64 (unit : TimeUnit)
  | duration (unit : TimeUnit)
  | interval (unit : IntervalUnit)
  | binary
  | fixedSizeBinary (width : Int)
  | largeBinary
  | binaryView
  | utf8
  | largeUtf8
  | utf8View
  | list (item : Field)
  | listView (item : Field)
  | fixedSizeList (item : Field) (length : Int)
  | largeList (item : Field)
  | largeListView (item : Field)
  | struct (fields : Fields)
  | union (fields : UnionFields) (mode : UnionMode)
  | dictionary (key value : DataType)
  | decimal32 (precision : Nat) (scale : Int)
  | decimal64 (precision : Nat) (scale : Int)
  | decimal128 (precision : Nat) (scale : Int)
  | decimal256 (precision : Nat) (scale : Int)
  | map (entries : Field) (sorted : Bool)
  | runEndEncoded (runEnds values : Field)
  deriving DecidableEq

inductive Field
  | new (name : String) (dataType : DataType) (nullable : Bool)
  deriving DecidableEq

inductive Fields
  | nil
  | cons (head : Field) (tail : Fields)
  deriving DecidableEq

inductive UnionFields
  | nil
  | cons (typeId : Int) (head : Field) (tail : UnionFields)
  deriving DecidableEq

end

def Field.name : Field → String
  | .new name _ _ => name

def Field.dataType : Field → DataType
  | .new _ dataType _ => dataType

def Field.nullable : Field → Bool
  | .new _ _ nullable => nullable

def Fields.ofList : List Field → Fields
  | [] => .nil
  | field :: fields => .cons field (ofList fields)

def Fields.toList : Fields → List Field
  | .nil => []
  | .cons field fields => field :: fields.toList

def UnionFields.find : UnionFields → Int → Option Field
  | .nil, _ => none
  | .cons typeId field fields, id => if typeId = id then some field else fields.find id

@[simp] theorem Fields.toList_ofList (fields : List Field) : (Fields.ofList fields).toList = fields := by
  induction fields with
  | nil => rfl
  | cons field fields ih => rw [Fields.ofList, Fields.toList, ih]

/-- Types whose arrays keep a validity bit for every row and whose payload nothing here reads. -/
def DataType.plain : DataType → Bool
  | .null | .boolean | .utf8 | .largeUtf8 | .struct _ | .union _ _ | .dictionary _ _ | .runEndEncoded _ _ => false
  | _ => true

end Arrow
