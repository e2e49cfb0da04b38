/-
# `RmqCxx.FieldValue` — argument tables: FieldValue, TableEntry, Table

The C structures of an argument table (`amqp_bytes_t`, `amqp_field_value_t`,
`amqp_table_entry_t`, `amqp_table_t`) hold pointers, and so do the classes that
wrap them: `FieldValue` copies the structure, not what it points to, and
`Table` owns the entry array only.  Storage is explicit here, so that a pointer
into something that died can be told from one that did not.

`decodeTable` is what a reader of an `amqp_table_t` finds, following every
pointer in the storage of that moment.  `CppValue` is the C++ expression an
argument is written as, and `evalValue` its evaluation: arguments live on,
temporaries of the constructors do not.
-/
import Mathlib.Algebra.Group.Nat.Defs
import RmqCxx.Cpp.Storage

namespace RmqCxx

open Cpp

/-- The bytes of a `std::string` or of a byte container. -/
abbrev ByteString := List UInt8

/-- `amqp_field_value_kind_t`. -/
inductive FieldKind where
  | boolean | i8 | u8 | i16 | u16 | i32 | u32 | i64 | u64 | f32 | f64
  | decimal | utf8 | array | bytes | timestamp | table | void
  | other (code : UInt8)
  deriving DecidableEq, Repr

/-- `amqp_decimal_t`. -/
structure Decimal where
  decimals : UInt8
  value : UInt32
  deriving DecidableEq, Repr

/-! ## The C structures -/

/-- `amqp_bytes_t`. -/
structure RawBytes where
  len : Nat
  bytes : Addr
  deriving DecidableEq, Repr

/-- `amqp_table_t`, and `amqp_array_t`, which has the same shape. -/
structure RawTable where
  numEntries : Int
  entries : Addr
  deriving DecidableEq, Repr

/-- The member of the union in `amqp_field_value_t` that was written last;
`f32` and `f64` by their bit patterns.  A timestamp is in `u64`. -/
inductive RawUnion where
  | boolean (v : Bool)
  | i8 (v : Int8) | u8 (v : UInt8)
  | i16 (v : Int16) | u16 (v : UInt16)
  | i32 (v : Int32) | u32 (v : UInt32)
  | i64 (v : Int64) | u64 (v : UInt64)
  | f32 (bits : UInt32) | f64 (bits : UInt64)
  | decimal (v : Decimal)
  | bytes (v : RawBytes)
  | array (v : RawTable)
  | table (v : RawTable)
  deriving DecidableEq, Repr

/-- `amqp_field_value_t`. -/
structure RawFieldValue where
  kind : FieldKind
  value : RawUnion
  deriving DecidableEq, Repr

/-- `amqp_table_entry_t`. -/
structure RawTableEntry where
  key : RawBytes
  value : RawFieldValue
  deriving DecidableEq, Repr

/-- What a block of the program's storage holds. -/
inductive Block where
  | chars (cs : ByteString)
  | values (vs : List RawFieldValue)
  | entries (es : List RawTableEntry)
  deriving DecidableEq, Repr

namespace Block

def asChars : Block → Option ByteString
  | .chars cs => some cs
  | _ => none

def asValues : Block → Option (List RawFieldValue)
  | .values vs => some vs
  | _ => none

def asEntries : Block → Option (List RawTableEntry)
  | .entries es => some es
  | _ => none

end Block

/-- The program's storage. -/
abbrev Memory := Storage Block

/-! ## What a reader finds -/

/-- The contents of an argument, away from any storage. -/
inductive AmqpValue where
  | boolean (v : Bool)
  | i8 (v : Int8) | u8 (v : UInt8)
  | i16 (v : Int16) | u16 (v : UInt16)
  | i32 (v : Int32) | u32 (v : UInt32)
  | i64 (v : Int64) | u64 (v : UInt64)
  | f32 (bits : UInt32) | f64 (bits : UInt64)
  | decimal (v : Decimal)
  | timestamp (v : UInt64)
  | void
  | bytes (kind : FieldKind) (data : ByteString)
  | array (vs : List AmqpValue)
  | table (es : List (ByteString × AmqpValue))

/-- The first `n` things behind a pointer; nothing is read when `n` is 0. -/
def readSeq {X : Type} (m : Memory) (as : Block → Option (List X)) (n : Nat) (a : Addr) :
    Option (List X) :=
  if n = 0 then some [] else
    match (m.read a).bind as with
    | some xs => if n ≤ xs.length then some (xs.take n) else none
    | none => none

def readBytes (m : Memory) (b : RawBytes) : Option ByteString :=
  readSeq m Block.asChars b.len b.bytes

/-- Reads an entry: its key, and its value as `value` reads it. -/
def decodeEntry (m : Memory) (value : RawFieldValue → Option AmqpValue) (e : RawTableEntry) :
    Option (ByteString × AmqpValue) := do
  let key ← readBytes m e.key
  let v ← value e.value
  pure (key, v)

/-- Reads a field value by its kind; a kind that does not fit the member of the
union that was written finds nothing, and for a void no member is read.  `fuel` bounds the
depth of nesting. -/
def decodeValue (m : Memory) : Nat → RawFieldValue → Option AmqpValue
  | 0, _ => none
  | fuel + 1, v =>
      match v.kind, v.value with
      | .boolean, .boolean b => some (.boolean b)
      | .i8, .i8 n => some (.i8 n)
      | .u8, .u8 n => some (.u8 n)
      | .i16, .i16 n => some (.i16 n)
      | .u16, .u16 n => some (.u16 n)
      | .i32, .i32 n => some (.i32 n)
      | .u32, .u32 n => some (.u32 n)
      | .i64, .i64 n => some (.i64 n)
      | .u64, .u64 n => some (.u64 n)
      | .f32, .f32 x => some (.f32 x)
      | .f64, .f64 x => some (.f64 x)
      | .decimal, .decimal d => some (.decimal d)
      | .timestamp, .u64 n => some (.timestamp n)
      | .void, _ => some .void
      | .utf8, .bytes b => (readBytes m b).map (.bytes .utf8)
      | .bytes, .bytes b => (readBytes m b).map (.bytes .bytes)
      | .array, .array a =>
          ((readSeq m Block.asValues a.numEntries.toNat a.entries).bind
            (·.mapM (decodeValue m fuel))).map .array
      | .table, .table t =>
          ((readSeq m Block.asEntries t.numEntries.toNat t.entries).bind
            (·.mapM (decodeEntry m (decodeValue m fuel)))).map .table
      | _, _ => none

/-- Reads a table in the storage of the moment.  Nesting can not be deeper than
there are blocks. -/
def decodeTable (m : Memory) (t : RawTable) : Option (List (ByteString × AmqpValue)) :=
  (readSeq m Block.asEntries t.numEntries.toNat t.entries).bind
    (·.mapM (decodeEntry m (decodeValue m (m.size + 1))))

/-! ## util.hpp: `bytes` -/

/-- A `std::string`, byte vector or the like: its size and where its data is. -/
structure Container where
  size : Nat
  data : Addr
  deriving DecidableEq, Repr

/-- `bytes(container)`: length and pointer, no copy. -/
def bytes (container : Container) : RawBytes := ⟨container.size, container.data⟩

/-- A container with these contents. -/
def Container.make (cs : ByteString) (m : Memory) : Container × Memory :=
  let (a, m) := m.alloc (.chars cs)
  (⟨cs.length, a⟩, m)

/-! ## FieldValue.hpp -/

/-- `class FieldValue`. -/
structure FieldValue where
  cache_ : RawFieldValue
  deriving DecidableEq, Repr

/-- `class Table`: the vector of entries and the structure that points into it. -/
structure Table where
  cache_ : Container
  value_ : RawTable
  deriving DecidableEq, Repr

/-- `static_cast<int>(n)` for a `size_t`. -/
def toInt (n : Nat) : Int := Int.bmod n (2 ^ 32)

namespace FieldValue

def ofBool (v : Bool) : FieldValue := ⟨⟨.boolean, .boolean v⟩⟩
def ofInt8 (v : Int8) : FieldValue := ⟨⟨.i8, .i8 v⟩⟩
def ofUInt8 (v : UInt8) : FieldValue := ⟨⟨.u8, .u8 v⟩⟩
def ofInt16 (v : Int16) : FieldValue := ⟨⟨.i16, .i16 v⟩⟩
def ofUInt16 (v : UInt16) : FieldValue := ⟨⟨.u16, .u16 v⟩⟩
def ofInt32 (v : Int32) : FieldValue := ⟨⟨.i32, .i32 v⟩⟩
def ofUInt32 (v : UInt32) : FieldValue := ⟨⟨.u32, .u32 v⟩⟩
def ofInt64 (v : Int64) : FieldValue := ⟨⟨.i64, .i64 v⟩⟩
def ofUInt64 (v : UInt64) : FieldValue := ⟨⟨.u64, .u64 v⟩⟩
def ofFloat (bits : UInt32) : FieldValue := ⟨⟨.f32, .f32 bits⟩⟩
def ofDouble (bits : UInt64) : FieldValue := ⟨⟨.f64, .f64 bits⟩⟩
def ofDecimal (v : Decimal) : FieldValue := ⟨⟨.decimal, .decimal v⟩⟩

/-- `FieldValue(const std::string& v, uint8_t kind)`. -/
def ofString (v : Container) (kind : FieldKind) : FieldValue := ⟨⟨kind, .bytes (bytes v)⟩⟩

/-- `FieldValue(const char* v, uint8_t kind) : FieldValue(std::string(v), kind)`.
The string holds the characters before the first NUL and is a temporary of the
mem-initializer: it dies with it. -/
def ofCString (v : ByteString) (kind : FieldKind) (m : Memory) : FieldValue × Memory :=
  let (string, m) := Container.make (v.takeWhile (· ≠ 0)) m
  (ofString string kind, m.free string.data)

/-- The constructor from a container of one-byte values. -/
def ofBytes (v : Container) : FieldValue := ⟨⟨.bytes, .bytes (bytes v)⟩⟩

/-- `FieldValue(::amqp_table_t v)`. -/
def ofAmqpTable (v : RawTable) : FieldValue := ⟨⟨.table, .table v⟩⟩

/-- `FieldValue(const Table& v)`. -/
def ofTable (v : Table) : FieldValue := ofAmqpTable v.value_

/-- The constructor from a container of `amqp_field_value_t`. -/
def ofArray (v : Container) : FieldValue := ⟨⟨.array, .array ⟨toInt v.size, v.data⟩⟩⟩

end FieldValue

/-! ## TableEntry.hpp and Table.hpp -/

/-- `class TableEntry`: owns its key, copies the field value's structure. -/
structure TableEntry where
  key_ : Container
  value_ : FieldValue
  deriving DecidableEq, Repr

/-- `TableEntry(std::string key, FieldValue value)`. -/
def TableEntry.make (key : ByteString) (value : FieldValue) (m : Memory) : TableEntry × Memory :=
  let (key_, m) := Container.make key m
  (⟨key_, value⟩, m)

/-- `operator ::amqp_table_entry_t()`. -/
def TableEntry.toRaw (e : TableEntry) : RawTableEntry := ⟨bytes e.key_, e.value_.cache_⟩

/-- `Table(Args&&... args)`.  `sizeof...(args)` is a constant; one that does not
fit an `int` does not compile. -/
def Table.make (args : List TableEntry) (m : Memory) : Table × Memory :=
  let (a, m) := m.alloc (.entries (args.map TableEntry.toRaw))
  (⟨⟨args.length, a⟩, ⟨args.length, a⟩⟩, m)

/-- `operator const amqp_table_t()`. -/
def Table.toRaw (t : Table) : RawTable := t.value_

/-! ## C++ expressions for arguments -/

/-- An argument as it is written: a call of one of the constructors, with what
its own argument holds. -/
inductive CppValue where
  | boolean (v : Bool)
  | i8 (v : Int8) | u8 (v : UInt8)
  | i16 (v : Int16) | u16 (v : UInt16)
  | i32 (v : Int32) | u32 (v : UInt32)
  | i64 (v : Int64) | u64 (v : UInt64)
  | f32 (bits : UInt32) | f64 (bits : UInt64)
  | decimal (v : Decimal)
  | string (v : ByteString) (kind : FieldKind)
  | cstring (v : ByteString) (kind : FieldKind)
  | container (v : ByteString)
  | array (vs : List CppValue)
  | table (es : List (ByteString × CppValue))

mutual
/-- Evaluates an argument.  Strings, containers, entries and tables that are
arguments themselves live on. -/
def evalValue : CppValue → Memory → FieldValue × Memory
  | .boolean v, m => (.ofBool v, m)
  | .i8 v, m => (.ofInt8 v, m)
  | .u8 v, m => (.ofUInt8 v, m)
  | .i16 v, m => (.ofInt16 v, m)
  | .u16 v, m => (.ofUInt16 v, m)
  | .i32 v, m => (.ofInt32 v, m)
  | .u32 v, m => (.ofUInt32 v, m)
  | .i64 v, m => (.ofInt64 v, m)
  | .u64 v, m => (.ofUInt64 v, m)
  | .f32 bits, m => (.ofFloat bits, m)
  | .f64 bits, m => (.ofDouble bits, m)
  | .decimal v, m => (.ofDecimal v, m)
  | .string v kind, m =>
      let (v, m) := Container.make v m
      (.ofString v kind, m)
  | .cstring v kind, m => FieldValue.ofCString v kind m
  | .container v, m =>
      let (v, m) := Container.make v m
      (.ofBytes v, m)
  | .array vs, m =>
      let (vs, m) := evalValues vs m
      let (a, m) := m.alloc (.values (vs.map FieldValue.cache_))
      (.ofArray ⟨vs.length, a⟩, m)
  | .table es, m =>
      let (es, m) := evalEntries es m
      let (t, m) := Table.make es m
      (.ofTable t, m)
/-- The elements of an array, first to last. -/
def evalValues : List CppValue → Memory → List FieldValue × Memory
  | [], m => ([], m)
  | v :: vs, m =>
      let (v, m) := evalValue v m
      let (vs, m) := evalValues vs m
      (v :: vs, m)
/-- The entries of a table, first to last. -/
def evalEntries : List (ByteString × CppValue) → Memory → List TableEntry × Memory
  | [], m => ([], m)
  | (key, v) :: es, m =>
      let (v, m) := evalValue v m
      let (e, m) := TableEntry.make key v m
      let (es, m) := evalEntries es m
      (e :: es, m)
end

mutual
/-- What the argument says. -/
def CppValue.denote : CppValue → AmqpValue
  | .boolean v => .boolean v
  | .i8 v => .i8 v
  | .u8 v => .u8 v
  | .i16 v => .i16 v
  | .u16 v => .u16 v
  | .i32 v => .i32 v
  | .u32 v => .u32 v
  | .i64 v => .i64 v
  | .u64 v => .u64 v
  | .f32 bits => .f32 bits
  | .f64 bits => .f64 bits
  | .decimal v => .decimal v
  | .string v kind => .bytes kind v
  | .cstring v kind => .bytes kind (v.takeWhile (· ≠ 0))
  | .container v => .bytes .bytes v
  | .array vs => .array (denoteValues vs)
  | .table es => .table (denoteEntries es)
def denoteValues : List CppValue → List AmqpValue
  | [] => []
  | v :: vs => v.denote :: denoteValues vs
def denoteEntries : List (ByteString × CppValue) → List (ByteString × AmqpValue)
  | [] => []
  | (key, v) :: es => (key, v.denote) :: denoteEntries es
end

end RmqCxx
