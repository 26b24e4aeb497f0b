import NetFlow.Packet.Basic

/-! Versions, headers, flow records and packets as JSON documents. A header or record
stands under its version's name; nothing is checked against anything else. -/
namespace NetFlow

namespace Address

def toDocument (x : Address) : Document := .ofString x.text

def ofDocument (d : Document) : Except Problem Address := Json.address d

end Address

namespace Version

def toDocument (v : Version) : Document := .ofNat v.number.toNat

def ofDocument (x : Dialect) (d : Document) : Except Problem Version := do
  let n ← x.word16 d
  match ofNumber? n with
  | some v => return v
  | none => throw (.contents (.unsupportedVersion n))

def names : List String := all.map text

end Version

namespace Header

def toDocument (h : Header) : Document :=
  let d := match h with
    | .v1 h => Record.toDocument h
    | .v5 h => Record.toDocument h
    | .v7 h => Record.toDocument h
  .ofMembers [(h.kind.text, d)]

def ofDocument : Document → Except Problem Header :=
  Json.tagged Version.names fun name d =>
    match name with
    | "v1" => .v1 <$> Record.ofDocument HeaderBase d
    | "v5" => .v5 <$> Record.ofDocument V5Header d
    | _ => .v7 <$> Record.ofDocument V7Header d

end Header

namespace FlowRecord

def toDocument (r : FlowRecord) : Document :=
  let d := match r with
    | .v1 r => Record.toDocument r
    | .v5 r => Record.toDocument r
    | .v7 r => Record.toDocument r
  .ofMembers [(r.version.text, d)]

def ofDocument : Document → Except Problem FlowRecord :=
  Json.tagged Version.names fun name d =>
    match name with
    | "v1" => .v1 <$> Record.ofDocument V1FlowRecord d
    | "v5" => .v5 <$> Record.ofDocument V5FlowRecord d
    | _ => .v7 <$> Record.ofDocument V7FlowRecord d

end FlowRecord

namespace Packet

def toDocument (p : Packet) : Document :=
  .ofMembers [("header", p.header.toDocument),
    ("records", .array (p.records.map FlowRecord.toDocument))]

def readRecords : Document → Except Problem (List FlowRecord) :=
  Json.dialect.list FlowRecord.ofDocument

def ofDocument (d : Document) : Except Problem Packet := do
  let type := "struct Packet"
  let ms ← Json.dialect.members type
    [("header", fun d => discard (Header.ofDocument d)),
      ("records", fun d => discard (readRecords d))] d
  let h ← ms.require type 2 0 "header" Header.ofDocument
  let rs ← ms.require type 2 1 "records" readRecords
  Json.dialect.finish 2 ms
  return ⟨h, rs⟩

end Packet
end NetFlow
