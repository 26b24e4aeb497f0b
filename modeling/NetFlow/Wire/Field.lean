import NetFlow.Address

/-! The four kinds of field a record can hold, the values they carry, and their
bytes: numbers with the most significant byte first, addresses octet by octet. -/
namespace NetFlow

namespace BigEndian

def value (bs : List UInt8) : Nat := bs.foldl (fun n b => n * 256 + b.toNat) 0

/-- The lowest `w` base-256 digits of `n`, most significant first. -/
def encode : Nat → Nat → List UInt8
  | 0, _ => []
  | w + 1, n => UInt8.ofNat (n / Nat.pow 256 w) :: encode w n

theorem encode_length (w n : Nat) : (encode w n).length = w := by
  induction w with
  | zero => rfl
  | succ w ih => simp [encode, ih]

end BigEndian

inductive Kind where
  | u8
  | u16
  | u32
  | addr
  deriving DecidableEq, Repr

def Kind.width : Kind → Nat
  | .u8 => 1
  | .u16 => 2
  | .u32 => 4
  | .addr => 4

@[reducible] def Kind.Carrier : Kind → Type
  | .u8 => UInt8
  | .u16 => UInt16
  | .u32 => UInt32
  | .addr => Address

structure Field where
  name : String
  kind : Kind
  deriving DecidableEq, Repr

def Field.width (f : Field) : Nat := f.kind.width

inductive FieldValue where
  | u8 (n : UInt8)
  | u16 (n : UInt16)
  | u32 (n : UInt32)
  | addr (x : Address)
  deriving DecidableEq, Repr

namespace FieldValue

def kind : FieldValue → Kind
  | .u8 _ => .u8
  | .u16 _ => .u16
  | .u32 _ => .u32
  | .addr _ => .addr

def ofCarrier : (k : Kind) → k.Carrier → FieldValue
  | .u8, n => .u8 n
  | .u16, n => .u16 n
  | .u32, n => .u32 n
  | .addr, x => .addr x

def asNat? : FieldValue → Option Nat
  | .u8 n => some n.toNat
  | .u16 n => some n.toNat
  | .u32 n => some n.toNat
  | .addr _ => none

def asAddress? : FieldValue → Option Address
  | .addr x => some x
  | _ => none

def bytes : FieldValue → List UInt8
  | .u8 n => BigEndian.encode 1 n.toNat
  | .u16 n => BigEndian.encode 2 n.toNat
  | .u32 n => BigEndian.encode 4 n.toNat
  | .addr x => x.octets

def text : FieldValue → String
  | .u8 n => s!"{n}"
  | .u16 n => s!"{n}"
  | .u32 n => s!"{n}"
  | .addr x => x.text

theorem kind_ofCarrier (k : Kind) (x : k.Carrier) : (ofCarrier k x).kind = k := by
  cases k <;> rfl

theorem bytes_length (v : FieldValue) : v.bytes.length = v.kind.width := by
  cases v with
  | u8 n => exact BigEndian.encode_length 1 _
  | u16 n => exact BigEndian.encode_length 2 _
  | u32 n => exact BigEndian.encode_length 4 _
  | addr x => rfl

end FieldValue

def Kind.zero : (k : Kind) → k.Carrier
  | .u8 => (0 : UInt8)
  | .u16 => (0 : UInt16)
  | .u32 => (0 : UInt32)
  | .addr => Address.zero

def Kind.encode : (k : Kind) → k.Carrier → List UInt8
  | .u8, n => BigEndian.encode 1 n.toNat
  | .u16, n => BigEndian.encode 2 n.toNat
  | .u32, n => BigEndian.encode 4 n.toNat
  | .addr, x => x.octets

/-- The value of a kind's own number of bytes; other lengths do not arise from a read. -/
def Kind.decode : (k : Kind) → List UInt8 → k.Carrier
  | .u8, bs => UInt8.ofNat (BigEndian.value bs)
  | .u16, bs => UInt16.ofNat (BigEndian.value bs)
  | .u32, bs => UInt32.ofNat (BigEndian.value bs)
  | .addr, bs => (Address.ofOctets? bs).getD Address.zero

theorem FieldValue.bytes_ofCarrier (k : Kind) (x : k.Carrier) :
    (ofCarrier k x).bytes = k.encode x := by
  cases k <;> rfl

theorem Kind.encode_length (k : Kind) (x : k.Carrier) : (k.encode x).length = k.width := by
  rw [← FieldValue.bytes_ofCarrier, FieldValue.bytes_length, FieldValue.kind_ofCarrier]

end NetFlow
