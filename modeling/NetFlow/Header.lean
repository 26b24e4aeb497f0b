import NetFlow.Record.Basic

/-! Packet headers. All versions begin with the same sixteen bytes, which are also the
whole header of version 1; versions 5 and 7 add fields of their own. -/
namespace NetFlow

/-- What every header begins with. The tag and the count are as they came over the
wire or as they were set; nothing ties them to the packet around them. -/
structure HeaderBase where
  version : UInt16
  count : UInt16
  sysUptime : UInt32
  unixSecs : UInt32
  unixNsecs : UInt32
  deriving DecidableEq, Repr

structure V5Header where
  base : HeaderBase
  flowSequence : UInt32
  engineType : UInt8
  engineId : UInt8
  samplingInterval : UInt16
  deriving DecidableEq, Repr

structure V7Header where
  base : HeaderBase
  flowSequence : UInt32
  reserved : UInt32
  deriving DecidableEq, Repr

@[reducible] def HeaderBase.schema : Schema :=
  .plain "HeaderBase" "NetFlow base header"
    [⟨"version", .u16⟩, ⟨"count", .u16⟩, ⟨"sys_uptime", .u32⟩, ⟨"unix_secs", .u32⟩,
      ⟨"unix_nsecs", .u32⟩]

@[reducible] def V5Header.own : List Field :=
  [⟨"flow_sequence", .u32⟩, ⟨"engine_type", .u8⟩, ⟨"engine_id", .u8⟩,
    ⟨"sampling_interval", .u16⟩]

@[reducible] def V7Header.own : List Field :=
  [⟨"flow_sequence", .u32⟩, ⟨"reserved", .u32⟩]

@[reducible] def V5Header.schema : Schema :=
  .extending HeaderBase.schema "base" "V5Header" "NetFlow v5 header" V5Header.own

@[reducible] def V7Header.schema : Schema :=
  .extending HeaderBase.schema "base" "V7Header" "NetFlow v7 header" V7Header.own

instance : Record HeaderBase where
  schema := HeaderBase.schema
  toRow h := (h.version, h.count, h.sysUptime, h.unixSecs, h.unixNsecs, ())
  ofRow r := ⟨r.1, r.2.1, r.2.2.1, r.2.2.2.1, r.2.2.2.2.1⟩
  ofRow_toRow _ := rfl
  toRow_ofRow _ := rfl

instance : Record V5Header where
  schema := V5Header.schema
  toRow h := (Record.toRow h.base, h.flowSequence, h.engineType, h.engineId,
    h.samplingInterval, ())
  ofRow r := ⟨Record.ofRow r.1, r.2.1, r.2.2.1, r.2.2.2.1, r.2.2.2.2.1⟩
  ofRow_toRow _ := rfl
  toRow_ofRow _ := rfl

instance : Record V7Header where
  schema := V7Header.schema
  toRow h := (Record.toRow h.base, h.flowSequence, h.reserved, ())
  ofRow r := ⟨Record.ofRow r.1, r.2.1, r.2.2.1⟩
  ofRow_toRow _ := rfl
  toRow_ofRow _ := rfl

def V5Header.readAfterBase (b : HeaderBase) : ReadM V5Header :=
  Record.ofRow (α := V5Header) <$> Schema.readAfterBase V5Header.own (Record.toRow b)

def V7Header.readAfterBase (b : HeaderBase) : ReadM V7Header :=
  Record.ofRow (α := V7Header) <$> Schema.readAfterBase V7Header.own (Record.toRow b)

/-- A header of any version. The variant is the version; the tag inside is data. -/
inductive Header where
  | v1 (h : HeaderBase)
  | v5 (h : V5Header)
  | v7 (h : V7Header)
  deriving DecidableEq, Repr

namespace Header

def kind : Header → Version
  | .v1 _ => .v1
  | .v5 _ => .v5
  | .v7 _ => .v7

def base : Header → HeaderBase
  | .v1 h => h
  | .v5 h => h.base
  | .v7 h => h.base

def mapBase (f : HeaderBase → HeaderBase) : Header → Header
  | .v1 h => .v1 (f h)
  | .v5 h => .v5 { h with base := f h.base }
  | .v7 h => .v7 { h with base := f h.base }

theorem kind_mapBase (f : HeaderBase → HeaderBase) (h : Header) : (h.mapBase f).kind = h.kind := by
  cases h <;> rfl

theorem base_mapBase (f : HeaderBase → HeaderBase) (h : Header) :
    (h.mapBase f).base = f h.base := by
  cases h <;> rfl

theorem mapBase_base {f : HeaderBase → HeaderBase} {h : Header} (hf : f h.base = h.base) :
    h.mapBase f = h := by
  cases h with
  | v1 h => exact congrArg Header.v1 hf
  | v5 h => exact congrArg (fun b => Header.v5 { h with base := b }) hf
  | v7 h => exact congrArg (fun b => Header.v7 { h with base := b }) hf

def version (h : Header) : UInt16 := h.base.version

def count (h : Header) : UInt16 := h.base.count

def sysUptime (h : Header) : UInt32 := h.base.sysUptime

def setVersion (n : UInt16) (h : Header) : Header := h.mapBase ({ · with version := n })

def setCount (n : UInt16) (h : Header) : Header := h.mapBase ({ · with count := n })

def setSysUptime (n : UInt32) (h : Header) : Header := h.mapBase ({ · with sysUptime := n })

def encode : Header → List UInt8
  | .v1 h => Record.encode h
  | .v5 h => Record.encode h
  | .v7 h => Record.encode h

def encodeInto (buffer : List UInt8) (h : Header) : List UInt8 :=
  match h with
  | .v1 h => Record.encodeInto buffer h
  | .v5 h => Record.encodeInto buffer h
  | .v7 h => Record.encodeInto buffer h

def encodedLen : Header → Nat
  | .v1 _ => (Record.layout HeaderBase).len
  | .v5 _ => (Record.layout V5Header).len
  | .v7 _ => (Record.layout V7Header).len

def readAs : Version → ReadM Header
  | .v1 => .v1 <$> Record.read HeaderBase
  | .v5 => .v5 <$> Record.read V5Header
  | .v7 => .v7 <$> Record.read V7Header

def readAfterBase (b : HeaderBase) : Version → ReadM Header
  | .v1 => pure (.v1 b)
  | .v5 => .v5 <$> V5Header.readAfterBase b
  | .v7 => .v7 <$> V7Header.readAfterBase b

def inspect (h : Header) : String :=
  let s := match h with
    | .v1 h => Record.inspect h
    | .v5 h => Record.inspect h
    | .v7 h => Record.inspect h
  s!"{h.kind.inspect}({s})"

end Header

def Version.headerLen : Version → Nat
  | .v1 => (Record.layout HeaderBase).len
  | .v5 => (Record.layout V5Header).len
  | .v7 => (Record.layout V7Header).len

end NetFlow
