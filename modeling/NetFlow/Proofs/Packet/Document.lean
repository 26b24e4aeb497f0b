import NetFlow.Packet.Document
import NetFlow.Proofs.Record.Document

/-! Addresses, versions, headers, flow records and packets are read from documents as they were
written into them. Whether a packet's parts agree with each other plays no part in it. -/
namespace NetFlow

theorem Address.transcribed : Transcribed toDocument ofDocument where
  isPlain _ := .ofString trivial
  ofDocument_toDocument := Json.address_text

theorem Version.transcribed {x : Dialect} (hx : ∀ n : UInt16, x.word16 (.ofNat n.toNat) = .ok n) :
    Transcribed toDocument (ofDocument x) where
  isPlain v := .ofNat v.number.toNat
  ofDocument_toDocument v := by
    simp only [ofDocument, toDocument, hx, bind, Except.bind, ofNumber?_number]
    rfl

theorem Version.text_mem_names (v : Version) : v.text ∈ names := by
  apply List.mem_map_of_mem
  cases v <;> decide

theorem Document.isPlain_single {name : String} {d : Document} (hd : d.IsPlain fun _ => True) :
    (ofMembers [(name, d)]).IsPlain fun _ => True := by
  refine .ofMembers (fun _ _ => trivial) ?_
  rwa [List.forall_mem_singleton]

theorem Json.tagged_single {α : Type} {known : List String} {name : String} {d : Document} {a : α}
    {payload : String → Document → Except Problem α} (hname : name ∈ known)
    (ha : payload name d = .ok a) : tagged known payload (.ofMembers [(name, d)]) = .ok a := by
  simp only [Document.ofMembers_eq, List.map_cons, List.map_nil, Document.keyed, tagged, variant,
    bind, Except.bind, List.contains_iff_mem.mpr hname, ha]
  rfl

theorem Version.text_eq (v : Version) :
    v.text = match v with
      | .v1 => "v1"
      | .v5 => "v5"
      | .v7 => "v7" := by
  cases v <;> decide

theorem Header.transcribed : Transcribed toDocument ofDocument where
  isPlain h := by
    apply Document.isPlain_single
    cases h with
    | v1 h => exact Record.isPlain_toDocument h
    | v5 h => exact Record.isPlain_toDocument h
    | v7 h => exact Record.isPlain_toDocument h
  ofDocument_toDocument h := by
    apply Json.tagged_single h.kind.text_mem_names
    cases h with
    | v1 h =>
      simp only [kind, Version.text_eq, Record.ofDocument_toDocument (by decide) h]
      rfl
    | v5 h =>
      simp only [kind, Version.text_eq, Record.ofDocument_toDocument (by decide) h]
      rfl
    | v7 h =>
      simp only [kind, Version.text_eq, Record.ofDocument_toDocument (by decide) h]
      rfl

theorem FlowRecord.transcribed : Transcribed toDocument ofDocument where
  isPlain r := by
    apply Document.isPlain_single
    cases r with
    | v1 r => exact Record.isPlain_toDocument r
    | v5 r => exact Record.isPlain_toDocument r
    | v7 r => exact Record.isPlain_toDocument r
  ofDocument_toDocument r := by
    apply Json.tagged_single r.version.text_mem_names
    cases r with
    | v1 r =>
      simp only [version, Version.text_eq, Record.ofDocument_toDocument (by decide) r]
      rfl
    | v5 r =>
      simp only [version, Version.text_eq, Record.ofDocument_toDocument (by decide) r]
      rfl
    | v7 r =>
      simp only [version, Version.text_eq, Record.ofDocument_toDocument (by decide) r]
      rfl

theorem Packet.transcribed : Transcribed toDocument ofDocument where
  isPlain p := by
    refine .ofMembers (fun _ _ => trivial) ?_
    simp only [List.forall_mem_cons]
    exact ⟨Header.transcribed.isPlain p.header,
      (FlowRecord.transcribed.list Json.dialect).isPlain p.records, List.forall_mem_nil _⟩
  ofDocument_toDocument p := by
    have hh := Header.transcribed.ofDocument_toDocument p.header
    have hr : readRecords (.array (p.records.map FlowRecord.toDocument)) = .ok p.records :=
      (FlowRecord.transcribed.list Json.dialect).ofDocument_toDocument p.records
    have hc : Checked
        [("header", fun d => discard (Header.ofDocument d)),
          ("records", fun d => discard (readRecords d))]
        [("header", p.header.toDocument),
          ("records", .array (p.records.map FlowRecord.toDocument))] :=
      .cons (by simp) (discard_ok hh) (.cons (by simp) (discard_ok hr) .nil)
    obtain ⟨all, hall, hfound, -⟩ :=
      Json.dialect.members_ofMembers "struct Packet" (by simp) hc
    simp only [List.forall_mem_cons] at hfound
    obtain ⟨hheader, hrecords, -⟩ := hfound
    simp only [ofDocument, toDocument, hall, bind, Except.bind,
      Members.require_named hheader, Members.require_named hrecords, hh, hr]
    rfl

end NetFlow
