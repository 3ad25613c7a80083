import IronicTemper.GoLibrary

set_option autoImplicit false

/-! # Forward DNS records

`CreateDNSRecordFor` names the record after the first two `-`-separated fields of the node name,
writes that name into `n.Host`, and creates an `A` recordset holding the node's IP. It takes every
409 as "record already exists", without looking at what the existing recordset holds
(`createDNSRecordFor_ok`), so two nodes whose names share those fields both succeed with one
`n.Host` (`createDNSRecordFor_same_host`). -/

namespace IronicTemper

/-! ## The DNS service -/

/-- A recordset, as `recordsets.CreateOpts` describes it. -/
structure RecordSet where
  name : String
  ttl : Nat
  type : String
  records : List String
  deriving DecidableEq, Repr

/-- A zone: its ID and its recordsets, keyed by name. -/
structure Zone where
  id : String
  recordsets : List RecordSet
  deriving DecidableEq, Repr

/-- `recordsets.Create`: a 409 when the zone has a recordset of that name, otherwise the zone
    with the new recordset. -/
def recordsetsCreate (z : Zone) (opts : RecordSet) : Zone × Option GoError :=
  if z.recordsets.any (·.name == opts.name) then (z, some .conflict)
  else ({ z with recordsets := z.recordsets ++ [opts] }, none)

/-- `Client.CreateDNSRecordFor`, with the zones the listing for `domain + "."` returns, or the
    error it fails with (an answer `ExtractZones` cannot read counts as no zone, since both end in
    the same error). The result is the returned error, the node as left, and the zones as left,
    or the panic of `na[1]` on a name without `-`. -/
def createDNSRecordFor (domain : String) (listing : Option GoError) (zones : List Zone)
    (n : IronicNode) : Except Panic (Option GoError × IronicNode × List Zone) :=
  match listing, zones with
  | some e, _ => .ok (some e, n, zones)
  | none, [] => .ok (some (.errorf "wrong dns zone"), n, zones)
  | none, z :: zs =>
    let na := stringsSplit n.name '-'
    if na.length < 1 then .ok (some (.errorf "wrong node name"), n, zones) else
    match na with
    | a :: b :: _ =>
      let recordName := a ++ "r-" ++ b ++ "." ++ domain ++ "."
      let n := { n with host := recordName }
      match recordsetsCreate z ⟨recordName, 3600, "A", [n.ip]⟩ with
      | (z', some .conflict) => .ok (none, n, z' :: zs)
      | (z', err) => .ok (err, n, z' :: zs)
    | _ => .error .indexOutOfRange

/-! ## What a `nil` result guarantees -/

theorem recordsetsCreate_cases (z : Zone) (opts : RecordSet) :
    (∃ r ∈ z.recordsets, r.name = opts.name) ∧ recordsetsCreate z opts = (z, some .conflict) ∨
      (∀ r ∈ z.recordsets, r.name ≠ opts.name) ∧
        recordsetsCreate z opts = ({ z with recordsets := z.recordsets ++ [opts] }, none) := by
  unfold recordsetsCreate
  split_ifs with h <;> simp_all

/-- What a `nil` result guarantees: the zone holds a recordset named `n.Host`, created by this
    call with exactly `n.IP`, or there before, whatever it holds. -/
theorem createDNSRecordFor_ok (domain : String) (z : Zone) (zs : List Zone) (n n' : IronicNode)
    (zones' : List Zone) (h : createDNSRecordFor domain none (z :: zs) n = .ok (none, n', zones')) :
    ∃ a b rest, stringsSplit n.name '-' = a :: b :: rest ∧
      n' = { n with host := a ++ "r-" ++ b ++ "." ++ domain ++ "." } ∧
      ((∃ r ∈ z.recordsets, r.name = n'.host) ∧ zones' = z :: zs ∨
        (∀ r ∈ z.recordsets, r.name ≠ n'.host) ∧
          zones' = { z with recordsets := z.recordsets ++ [⟨n'.host, 3600, "A", [n.ip]⟩] } :: zs) := by
  simp only [createDNSRecordFor] at h
  rcases hs : stringsSplit n.name '-' with _ | ⟨a, _ | ⟨b, rest⟩⟩
  · exact absurd hs (stringsSplit_ne_nil _ _)
  · simp [hs] at h
  · refine ⟨a, b, rest, rfl, ?_⟩
    simp only [hs, List.length_cons] at h
    rcases recordsetsCreate_cases z ⟨a ++ "r-" ++ b ++ "." ++ domain ++ ".", 3600, "A", [n.ip]⟩ with
      ⟨hex, hc⟩ | ⟨hnot, hc⟩ <;> simp only [hc] at h <;> simp at h <;> obtain ⟨rfl, rfl⟩ := h
    · exact ⟨rfl, .inl ⟨hex, rfl⟩⟩
    · exact ⟨rfl, .inr ⟨hnot, rfl⟩⟩

/-- The second of two nodes whose names share their first two fields meets the first node's
    recordset, and succeeds, its own IP recorded nowhere. -/
theorem createDNSRecordFor_ok_second_node :
    createDNSRecordFor "d" none [⟨"z", [⟨"ar-b.d.", 3600, "A", ["10.0.0.1"]⟩]⟩]
        { name := "a-b-2", ip := "10.0.0.2" } =
      .ok (none, { name := "a-b-2", ip := "10.0.0.2", host := "ar-b.d." },
        [⟨"z", [⟨"ar-b.d.", 3600, "A", ["10.0.0.1"]⟩]⟩]) ∧
    ∃ a b rest, stringsSplit "a-b-2" '-' = a :: b :: rest ∧
      ({ name := "a-b-2", ip := "10.0.0.2", host := "ar-b.d." } : IronicNode) =
        { name := "a-b-2", ip := "10.0.0.2", host := a ++ "r-" ++ b ++ "." ++ "d" ++ "." } ∧
      ((∃ r ∈ [(⟨"ar-b.d.", 3600, "A", ["10.0.0.1"]⟩ : RecordSet)], r.name = "ar-b.d.") ∧
          [(⟨"z", [⟨"ar-b.d.", 3600, "A", ["10.0.0.1"]⟩]⟩ : Zone)] =
            [⟨"z", [⟨"ar-b.d.", 3600, "A", ["10.0.0.1"]⟩]⟩] ∨
        (∀ r ∈ [(⟨"ar-b.d.", 3600, "A", ["10.0.0.1"]⟩ : RecordSet)], r.name ≠ "ar-b.d.") ∧
          [(⟨"z", [⟨"ar-b.d.", 3600, "A", ["10.0.0.1"]⟩]⟩ : Zone)] =
            [⟨"z", [⟨"ar-b.d.", 3600, "A", ["10.0.0.1"]⟩, ⟨"ar-b.d.", 3600, "A", ["10.0.0.2"]⟩]⟩]) :=
  ⟨by rfl, createDNSRecordFor_ok "d" ⟨"z", [⟨"ar-b.d.", 3600, "A", ["10.0.0.1"]⟩]⟩ []
    { name := "a-b-2", ip := "10.0.0.2" } _ _ (by rfl)⟩

/-- Two nodes whose names share their first two fields both succeed with one `n.Host`, whose
    recordset holds the first node's IP only. -/
theorem createDNSRecordFor_same_host :
    createDNSRecordFor "d" none [⟨"z", []⟩] { name := "a-b-1", ip := "10.0.0.1" } =
      .ok (none, { name := "a-b-1", ip := "10.0.0.1", host := "ar-b.d." },
        [⟨"z", [⟨"ar-b.d.", 3600, "A", ["10.0.0.1"]⟩]⟩]) ∧
    createDNSRecordFor "d" none [⟨"z", [⟨"ar-b.d.", 3600, "A", ["10.0.0.1"]⟩]⟩]
        { name := "a-b-2", ip := "10.0.0.2" } =
      .ok (none, { name := "a-b-2", ip := "10.0.0.2", host := "ar-b.d." },
        [⟨"z", [⟨"ar-b.d.", 3600, "A", ["10.0.0.1"]⟩]⟩]) :=
  ⟨by rfl, by rfl⟩

end IronicTemper
