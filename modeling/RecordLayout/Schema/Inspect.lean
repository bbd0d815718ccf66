import RecordLayout.Schema.Load
import RecordLayout.Catalog.Report
import RecordLayout.Render.Dump
import RecordLayout.Wit.Canonical

/-!
# Inspecting a schema

What a schema shows of itself: the reports of its records, and on request their WIT projection
checked against the canonical ABI, and a zeroed instance of each record.

Zeroed instances are made in one fresh one-page memory, each record allocated in turn with its
own size and alignment; the first failure stops them.
-/

namespace RecordLayout.Schema

/-- Renders a zeroed instance of each record, allocated in turn in memory `mid` of `h`.
Answers the renderings made and the failure that stopped them, if one did. -/
def dumpEach (c : Catalog) (h : Heap) (mid : MemoryId) :
    List RecordId → List String × Option Failure
  | [] => ([], none)
  | r :: rest =>
    match h.get? mid, c.record? r with
    | some m, some rec =>
      match m.alloc rec.size rec.align with
      | .error e => ([], some e)
      | .ok (addr, m) =>
        let h := h.set mid m
        match dump c h ⟨some r, some mid, addr⟩ with
        | .error e => ([], some e)
        | .ok line =>
          let (more, stop) := dumpEach c h mid rest
          (line :: more, stop)
    | _, _ => ([], some (Failure.nilPointer .memory [] "record"))

/-- **Zeroed instances of records** in one fresh one-page memory, with the failure that stopped
them, if one did. -/
def zeroDumps (c : Catalog) (recs : List RecordId) : List String × Option Failure :=
  match Memory.create 1 with
  | .error e => ([], some e)
  | .ok m =>
    let (h, mid) := ({} : Heap).add m
    dumpEach c h mid recs

/-- What a schema shows: its ABI, its records' reports, and what was asked for besides. -/
structure Inspection where
  abi : Abi
  records : List RecordReport
  /-- The projection of each record with a fresh projector, and the WIT text of all of them. -/
  wit : Option (List Wit.Outcome × String)
  /-- A zeroed instance of each record. -/
  dumps : Option (List String)

/-- **Inspects a schema text** read with `abi`: its records, and their WIT projection when
`wit` is set and zeroed instances when `zero` is set. -/
def inspect (text : String) (abi : Abi) (wit zero : Bool) : Except Failure Inspection := do
  let (c, s) ← parse {} text abi
  let reports := s.records.filterMap fun r => (c.record? r).map c.report
  let projected :=
    if wit then
      let (p, outcomes) := Wit.projectEach c {} s.records
      some (outcomes, Wit.render p.defs)
    else none
  let dumps ← if zero then
      match zeroDumps c s.records with
      | (_, some e) => throw e
      | (lines, none) => pure (some lines)
    else pure none
  pure { abi := s.abi, records := reports, wit := projected, dumps }

end RecordLayout.Schema
