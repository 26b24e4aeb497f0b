import NetFlow.Proofs.Packet.Body

/-! Packets that are made, not read. They are consistent and within the limit of their
version, and there are no others. What comes of a header and records does not depend on the tag
and the count in the header, which are set anew. -/
namespace NetFlow

namespace Header

/-- The header with the tag of its variant and a count of `n`. -/
def stamp (n : Nat) (h : Header) : Header :=
  (h.setVersion h.kind.number).setCount (UInt16.ofNat n)

theorem kind_stamp (n : Nat) (h : Header) : (h.stamp n).kind = h.kind := by
  rw [stamp, setCount, kind_mapBase, setVersion, kind_mapBase]

theorem version_stamp (n : Nat) (h : Header) : (h.stamp n).version = h.kind.number := by
  rw [stamp, version, setCount, base_mapBase, setVersion, base_mapBase]

theorem count_stamp (n : Nat) (h : Header) : (h.stamp n).count = UInt16.ofNat n := by
  rw [stamp, count, setCount, base_mapBase]

theorem stamp_self {n : Nat} {h : Header} (ht : h.version = h.kind.number)
    (hc : h.count.toNat = n) : h.stamp n = h := by
  have hv : h.setVersion h.kind.number = h := by
    apply mapBase_base
    rw [← ht]
    rfl
  rw [stamp, hv]
  apply mapBase_base
  rw [← hc, UInt16.ofNat_toNat]
  rfl

end Header

structure HeaderBase.Kindred (a b : HeaderBase) : Prop where
  sysUptime : a.sysUptime = b.sysUptime
  unixSecs : a.unixSecs = b.unixSecs
  unixNsecs : a.unixNsecs = b.unixNsecs

/-- Headers of one variant that are equal in all fields but tag and count. -/
inductive Header.Kindred : Header → Header → Prop where
  | v1 {a b : HeaderBase} : a.Kindred b → Kindred (.v1 a) (.v1 b)
  | v5 {a b : V5Header} : a.base.Kindred b.base → a.flowSequence = b.flowSequence →
      a.engineType = b.engineType → a.engineId = b.engineId →
      a.samplingInterval = b.samplingInterval → Kindred (.v5 a) (.v5 b)
  | v7 {a b : V7Header} : a.base.Kindred b.base → a.flowSequence = b.flowSequence →
      a.reserved = b.reserved → Kindred (.v7 a) (.v7 b)

namespace Header

theorem kindred_stamp (n : Nat) (h : Header) : h.Kindred (h.stamp n) := by
  cases h with
  | v1 h => exact .v1 ⟨rfl, rfl, rfl⟩
  | v5 h => exact .v5 ⟨rfl, rfl, rfl⟩ rfl rfl rfl rfl
  | v7 h => exact .v7 ⟨rfl, rfl, rfl⟩ rfl rfl

namespace Kindred
variable {h h' : Header}

theorem kind_eq (hk : h.Kindred h') : h.kind = h'.kind := by
  cases hk <;> rfl

theorem stamp_eq (hk : h.Kindred h') (n : Nat) : h.stamp n = h'.stamp n := by
  cases hk with
  | v1 hb =>
    obtain ⟨hu, hs, hn⟩ := hb
    simp only [stamp, setVersion, setCount, mapBase, kind, hu, hs, hn]
  | v5 hb hf ht hi hp =>
    obtain ⟨hu, hs, hn⟩ := hb
    simp only [stamp, setVersion, setCount, mapBase, kind, hu, hs, hn, hf, ht, hi, hp]
  | v7 hb hf hr =>
    obtain ⟨hu, hs, hn⟩ := hb
    simp only [stamp, setVersion, setCount, mapBase, kind, hu, hs, hn, hf, hr]

theorem eq_stamp {n : Nat} (hk : h.Kindred h') (ht : h'.version = h.kind.number)
    (hc : h'.count.toNat = n) : h' = h.stamp n := by
  rw [hk.kind_eq] at ht
  rw [hk.stamp_eq, stamp_self ht hc]

end Kindred
end Header

namespace Packet
variable {h : Header} {rs : List FlowRecord} {p : Packet}

theorem toNat_ofNat_length (v : Version) (hl : rs.length ≤ v.maxRecords.toNat) :
    (UInt16.ofNat rs.length).toNat = rs.length :=
  UInt16.toNat_ofNat_of_lt' (Nat.lt_of_le_of_lt hl v.maxRecords.toNat_lt)

theorem build_ok_iff : build h rs = .ok p ↔
    (∀ r ∈ rs, r.version = h.kind) ∧ rs.length ≤ h.kind.maxRecords.toNat ∧
      p = ⟨h.stamp rs.length, rs⟩ := by
  cases hf : rs.find? fun r => r.version != h.kind with
  | some r =>
    have hr : r.version ≠ h.kind := by simpa using List.find?_some hf
    have hm : r ∈ rs := List.mem_of_find?_eq_some hf
    simp only [build, hf, reduceCtorEq, false_iff]
    intro hall
    exact hr (hall.1 r hm)
  | none =>
    have hall : ∀ r ∈ rs, r.version = h.kind := by simpa using hf
    by_cases hl : h.kind.maxRecords.toNat < rs.length
    · simp only [build, hf, hl, ↓reduceIte, reduceCtorEq, false_iff]
      intro hp
      exact absurd hl (Nat.not_lt.mpr hp.2.1)
    · simp only [build, hf, hl, ↓reduceIte, Except.ok.injEq]
      constructor
      · intro hp
        exact ⟨hall, Nat.not_lt.mp hl, hp.symm⟩
      · intro hp
        exact hp.2.2.symm

theorem consistent_of_build (hb : build h rs = .ok p) :
    p.Consistent ∧ p.records.length ≤ p.version.maxRecords.toNat := by
  obtain ⟨hall, hl, rfl⟩ := build_ok_iff.mp hb
  have hk : (Packet.mk (h.stamp rs.length) rs).version = h.kind := h.kind_stamp rs.length
  refine ⟨⟨?_, ?_, ?_⟩, ?_⟩
  · rw [hk]
    exact h.version_stamp rs.length
  · dsimp only
    rw [h.count_stamp]
    exact toNat_ofNat_length h.kind hl
  · rw [hk]
    exact hall
  · rw [hk]
    exact hl

theorem build_self (hp : p.Consistent) (hl : p.records.length ≤ p.version.maxRecords.toNat) :
    build p.header p.records = .ok p := by
  refine build_ok_iff.mpr ⟨hp.records, hl, ?_⟩
  rw [Header.stamp_self hp.tag hp.count]

theorem exists_build_iff : (∃ h rs, build h rs = .ok p) ↔
    p.Consistent ∧ p.records.length ≤ p.version.maxRecords.toNat := by
  constructor
  · rintro ⟨h, rs, hb⟩
    exact consistent_of_build hb
  · rintro ⟨hp, hl⟩
    exact ⟨p.header, p.records, build_self hp hl⟩

/-- What comes of a header and records. A record of another version is refused before their
number is looked at, and the first one is named. The number is given as far as it can be. -/
inductive Built (h : Header) (rs : List FlowRecord) : Except Error Packet → Prop where
  | mismatch {before after : List FlowRecord} {r : FlowRecord} : rs = before ++ r :: after →
      (∀ q ∈ before, q.version = h.kind) → r.version ≠ h.kind →
      Built h rs (.error (.versionMismatch h.kind r.version))
  | tooMany {count : UInt16} : (∀ r ∈ rs, r.version = h.kind) →
      h.kind.maxRecords.toNat < rs.length → count.toNat = min rs.length 65535 →
      Built h rs (.error (.tooManyRecords h.kind count h.kind.maxRecords))
  | made {p : Packet} : (∀ r ∈ rs, r.version = h.kind) → rs.length ≤ h.kind.maxRecords.toNat →
      p.records = rs → h.Kindred p.header → p.header.version = h.kind.number →
      p.header.count.toNat = rs.length → Built h rs (.ok p)

theorem find?_eq_none_iff :
    (rs.find? fun r => r.version != h.kind) = none ↔ ∀ r ∈ rs, r.version = h.kind := by
  simp

theorem toNat_ofNat_min (n : Nat) :
    (UInt16.ofNat (min n (UInt16.size - 1))).toNat = min n 65535 := by
  apply UInt16.toNat_ofNat_of_lt'
  exact Nat.lt_of_le_of_lt (Nat.min_le_right _ _) (by decide)

theorem built_build (h : Header) (rs : List FlowRecord) : Built h rs (build h rs) := by
  cases hf : rs.find? fun r => r.version != h.kind with
  | some r =>
    obtain ⟨hr, before, after, hrs, hbefore⟩ := List.find?_eq_some_iff_append.mp hf
    simp only [build, hf]
    exact .mismatch hrs (by simpa using hbefore) (by simpa using hr)
  | none =>
    have hall := find?_eq_none_iff.mp hf
    by_cases hl : h.kind.maxRecords.toNat < rs.length
    · simp only [build, hf, hl, ↓reduceIte]
      exact .tooMany hall hl (toNat_ofNat_min _)
    · have hle := Nat.not_lt.mp hl
      have hb : build h rs = .ok ⟨h.stamp rs.length, rs⟩ := build_ok_iff.mpr ⟨hall, hle, rfl⟩
      rw [hb]
      refine .made hall hle rfl (h.kindred_stamp _) (h.version_stamp _) ?_
      rw [h.count_stamp, toNat_ofNat_length h.kind hle]

theorem Built.build_eq {x : Except Error Packet} (hx : Built h rs x) : build h rs = x := by
  cases hx with
  | mismatch hrs hbefore hr =>
    have hf : (rs.find? fun q => q.version != h.kind) = some _ :=
      List.find?_eq_some_iff_append.mpr
        ⟨by simpa using hr, _, _, hrs, by simpa using hbefore⟩
    simp only [build, hf]
  | tooMany hall hl hc =>
    have hf := find?_eq_none_iff.mpr hall
    have hcount := UInt16.toNat_inj.mp (hc.trans (toNat_ofNat_min rs.length).symm)
    simp only [build, hf, hl, ↓reduceIte, hcount]
  | @made p hall hl hrs hk ht hc =>
    refine build_ok_iff.mpr ⟨hall, hl, ?_⟩
    rw [← hk.eq_stamp ht hc, ← hrs]

/-- Building comes to exactly what the header and the records call for. The tag and the count
that the header had do not matter, and building a packet anew from its parts changes nothing. -/
theorem build_canonical (h : Header) (rs : List FlowRecord) :
    (∀ x, build h rs = x ↔ Built h rs x) ∧
    (∀ h', h.Kindred h' → build h' rs = build h rs) ∧
    ∀ p, build h rs = .ok p → build p.header p.records = .ok p := by
  refine ⟨?_, ?_, ?_⟩
  · intro x
    constructor
    · intro hx
      exact hx ▸ built_build h rs
    · intro hx
      exact hx.build_eq
  · intro h' hk
    have hstamp := hk.stamp_eq rs.length
    simp only [Header.stamp, hk.kind_eq] at hstamp
    simp only [build, hk.kind_eq, hstamp]
  · intro p hb
    obtain ⟨hp, hl⟩ := consistent_of_build hb
    exact build_self hp hl

def flood : List FlowRecord := List.replicate 70000 (.v1 (Record.zero _))

theorem build_canonical_flood :
    build (.v1 ⟨9, 9, 1, 2, 3⟩) (flood ++ [.v5 (Record.zero _)]) =
      .error (.versionMismatch .v1 .v5) ∧
    build (.v1 ⟨9, 9, 1, 2, 3⟩) flood = .error (.tooManyRecords .v1 65535 24) ∧
    build (.v1 ⟨7, 0, 1, 2, 3⟩) flood = build (.v1 ⟨9, 9, 1, 2, 3⟩) flood ∧
    build (.v1 ⟨1, 0, 1, 2, 3⟩) [] = .ok ⟨.v1 ⟨1, 0, 1, 2, 3⟩, []⟩ := by
  have hflood : ∀ r ∈ flood, r.version = .v1 := by
    intro r hr
    rw [List.eq_of_mem_replicate hr]
    rfl
  have hlen : flood.length = 70000 := List.length_replicate
  obtain ⟨hmixed, -, -⟩ := build_canonical (.v1 ⟨9, 9, 1, 2, 3⟩) (flood ++ [.v5 (Record.zero _)])
  obtain ⟨hmany, hkindred, -⟩ := build_canonical (.v1 ⟨9, 9, 1, 2, 3⟩) flood
  obtain ⟨-, -, hself⟩ := build_canonical (.v1 ⟨9, 9, 1, 2, 3⟩) []
  refine ⟨?_, ?_, ?_, ?_⟩
  · exact (hmixed _).mpr (.mismatch rfl hflood (by decide))
  · exact (hmany _).mpr (.tooMany hflood (by rw [hlen]; decide) (by rw [hlen]; decide))
  · exact hkindred _ (.v1 ⟨rfl, rfl, rfl⟩)
  · exact hself ⟨.v1 ⟨1, 0, 1, 2, 3⟩, []⟩ (by decide)

end Packet
end NetFlow
