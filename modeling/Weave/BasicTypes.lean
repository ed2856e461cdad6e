import Weave.Value

/-! The types of values that the sample programs use: numbers, texts and lists of texts. -/

namespace Weave

/-- Owned text and literal text are different types. -/
inductive BasicType where
  | string | literal | u8 | u32 | u64 | i32 | i64 | bool | unit | strings
deriving DecidableEq, Repr

namespace BasicType

abbrev Carrier : BasicType → Type
  | string => String
  | literal => String
  | u8 => UInt8
  | u32 => UInt32
  | u64 => UInt64
  | i32 => Int32
  | i64 => Int64
  | bool => Bool
  | unit => Unit
  | strings => List String

instance decEqCarrier : (type : BasicType) → DecidableEq type.Carrier
  | string | literal => inferInstanceAs (DecidableEq String)
  | u8 => inferInstanceAs (DecidableEq UInt8)
  | u32 => inferInstanceAs (DecidableEq UInt32)
  | u64 => inferInstanceAs (DecidableEq UInt64)
  | i32 => inferInstanceAs (DecidableEq Int32)
  | i64 => inferInstanceAs (DecidableEq Int64)
  | bool => inferInstanceAs (DecidableEq Bool)
  | unit => inferInstanceAs (DecidableEq Unit)
  | strings => inferInstanceAs (DecidableEq (List String))

def name : BasicType → String
  | string => "alloc::string::String"
  | literal => "&str"
  | u8 => "u8"
  | u32 => "u32"
  | u64 => "u64"
  | i32 => "i32"
  | i64 => "i64"
  | bool => "bool"
  | unit => "()"
  | strings => "alloc::vec::Vec<alloc::string::String>"

end BasicType

instance : ValueTypes where
  Index := BasicType
  decEq := inferInstance
  Carrier := BasicType.Carrier
  name := BasicType.name

end Weave
