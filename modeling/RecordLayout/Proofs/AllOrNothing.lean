import Mathlib
import RecordLayout.Proofs.Registry
import RecordLayout.Catalog.Report

/-!
# Calls that fail change nothing that is shown

A declaration makes the binding of each pointer field while it lowers the field, before it
checks the names and places the layout, so a declaration that fails late leaves bindings behind
in the catalog: `Call.run` is a call of the builder interface with every effect it makes, and
`Call.after` the catalog as the call leaves it, also when it fails.  What the builder interface
shows of a catalog through one builder is `Catalog.shown`: the record each name finds, the
records in declaration order, the open placeholders, each placeholder's waiting fields and
resolution, and the report on each pointer field of each record (its kind, target name and
target).

A failing call only adds bindings (`run_error_extends`), and in a catalog that keeps the
registry invariant nothing shown reads a binding that was not there before: every pointer field
has its binding and every open placeholder waits on bindings that exist (`shown_addBindings`).

**`call_keeps_shown_iff_fails`**: in every reachable catalog, a call leaves what the builder
shows as it was exactly when it fails.  A successful declaration makes its name find the new
record, where the name found none before (`lookup_of_declare_eq_ok`); a successful resolution
marks an open placeholder resolved (`placeholder?_of_resolve_eq_ok`).
-/

namespace RecordLayout

/-- What the builder interface shows through one builder. -/
structure Shown where
  /-- The record each name finds in the builder. -/
  lookup : String → Option RecordId
  /-- The builder's records in declaration order. -/
  records : List RecordId
  /-- The builder's open placeholders in creation order. -/
  pending : List PlaceholderId
  /-- Each placeholder's waiting fields, and the record it was resolved to. -/
  placeholders : PlaceholderId → Option (List String × Option RecordId)
  /-- The report on each pointer field of each record. -/
  pointers : RecordId → Option (List PointerReport)

namespace Catalog

/-- **What the builder interface shows** of a catalog through builder `b`. -/
def shown (c : Catalog) (b : BuilderId) : Shown where
  lookup := c.lookup b
  records := c.declared b
  pending := c.pending b
  placeholders p := (c.placeholder? p).map fun ph => (c.waiting ph, ph.resolved)
  pointers r := (c.record? r).map fun rec => rec.pointers.map c.pointerReport

variable {c c' : Catalog} {b : BuilderId}

/-- A successful declaration makes its name find the new record; before it the name found
none. -/
lemma lookup_of_declare_eq_ok (hb : (c.builder? b).isSome) {name : String}
    {bases : List (Option RecordId)} {decls : List Declaration} {r : RecordId}
    (h : c.declare b name bases decls = .ok (c', r)) :
    c.lookup b name = none ∧ c'.lookup b name = some r := by
  obtain ⟨inh, own, placed, -, hfree, -, -, -, -, -, hc⟩ := declare_eq_ok h
  refine ⟨Option.not_isSome_iff_eq_none.mp (by simp [hfree]), ?_⟩
  have hc' : c' = (c.commit b name bases (inh ++ own) placed).1 := congrArg Prod.fst hc
  have hr : r = (c.commit b name bases (inh ++ own) placed).2 := congrArg Prod.snd hc
  rw [hc', lookup_commit hb, if_pos ⟨rfl, rfl⟩, hr]
  rfl

/-- A successful resolution marks an open placeholder resolved. -/
lemma placeholder?_of_resolve_eq_ok {p : Option PlaceholderId} {r : Option RecordId}
    (h : c.resolve b p r = .ok c') :
    ∃ q ph t, c.placeholder? q = some ph ∧ ph.resolved = none ∧
      c'.placeholder? q = some { ph with resolved := some t, pending := [] } := by
  obtain ⟨q, ph, t, -, -, -, hq, -, hres, -, rfl⟩ := resolve_eq_ok h
  refine ⟨q, ph, t, hq, hres, ?_⟩
  rw [placeholder?_settle, if_pos rfl, hq]
  rfl

/-- The report on a pointer field whose binding is there does not see bindings added later. -/
lemma pointerReport_addBindings {pf : PointerField} (h : (c.binding? pf.binding).isSome)
    (bs : List Binding) : (c.addBindings bs).pointerReport pf = c.pointerReport pf := by
  unfold pointerReport
  rw [binding?_addBindings_of_isSome bs h]
  rfl

/-- The fields waiting on a placeholder do not see bindings added later, when every binding it
waits on is there. -/
lemma waiting_addBindings {ph : Placeholder} (h : ∀ id ∈ ph.pending, (c.binding? id).isSome)
    (bs : List Binding) : (c.addBindings bs).waiting ph = c.waiting ph := by
  unfold waiting
  refine List.filterMap_congr fun id hid => ?_
  rw [binding?_addBindings_of_isSome bs (h id hid)]
  rfl

/-- **Bindings that nothing refers to are not shown**: what a builder shows reads the bindings
of pointer fields and of waiting placeholders only, and in a catalog that keeps the invariant
those are all there already. -/
lemma shown_addBindings (hi : Inv c) (bs : List Binding) : (c.addBindings bs).shown b = c.shown b := by
  -- a resolved placeholder waits on nothing, an open one on bindings aiming at it
  have hwait : ∀ p ph, c.placeholder? p = some ph → ∀ id ∈ ph.pending, (c.binding? id).isSome := by
    intro p ph hph id hid
    cases hres : ph.resolved with
    | some t => simp [(hi.resolved p ph t hph hres).2] at hid
    | none =>
      obtain ⟨x, hx, -⟩ := ((hi.pending p ph hph hres).mem_iff id).mp hid
      simp [hx]
  simp only [shown, Shown.mk.injEq]
  refine ⟨rfl, rfl, rfl, funext fun p => ?_, funext fun r => ?_⟩
  · show ((c.placeholder? p).map fun ph => ((c.addBindings bs).waiting ph, ph.resolved)) =
      (c.placeholder? p).map fun ph => (c.waiting ph, ph.resolved)
    cases hph : c.placeholder? p with
    | none => rfl
    | some ph => simp [waiting_addBindings (hwait p ph hph) bs]
  · show ((c.record? r).map fun rec => rec.pointers.map (c.addBindings bs).pointerReport) =
      (c.record? r).map fun rec => rec.pointers.map c.pointerReport
    cases hrec : c.record? r with
    | none => rfl
    | some rec =>
      simp only [Option.map_some, Option.some.injEq]
      exact List.map_congr_left fun pf hpf =>
        pointerReport_addBindings (hi.pointerBinding r rec hrec pf hpf) bs

section Run

variable {name : String} {bases : List (Option RecordId)} {decls : List Declaration}

/-- **A declaration that fails** leaves the catalog with bindings added and nothing else
changed: the checks before lowering change nothing, and lowering only adds bindings. -/
lemma declareRun_error {e : Failure} (h : (c.declareRun b name bases decls).1 = .error e) :
    ∃ bs, (c.declareRun b name bases decls).2 = c.addBindings bs := by
  unfold declareRun at h ⊢
  cases hpre : c.precheck b name bases with
  | error e₀ => exact ⟨[], by simp⟩
  | ok inh =>
    cases hown : decls.mapM (c.lower b (c.abiOf b) name) with
    | error e₀ =>
      obtain ⟨bs, hl⟩ := lowerAll_eq_of_mapM_error b (c.abiOf b) name ⟨c.records.size⟩ hown
      exact ⟨bs, by simp only [hl]⟩
    | ok own =>
      simp only [hpre, lowerAll_eq_of_mapM b (c.abiOf b) name ⟨c.records.size⟩ hown] at h ⊢
      -- past lowering, only the names and the placement can fail
      cases hlate : (checkNames name (inh ++ own) >>= fun _ => place ((inh ++ own).map (·.slot))) with
      | error e₀ => exact ⟨own.filterMap (freshBinding ⟨c.records.size⟩), rfl⟩
      | ok placed => simp only [hlate, reduceCtorEq] at h

/-- **A declaration for a placeholder that fails** leaves the catalog with bindings added: the
placeholder is checked first, and the declaration fails as one made on its own. -/
lemma declareForRun_error {p : Option PlaceholderId} {e : Failure}
    (h : (c.declareForRun b p name bases decls).1 = .error e) :
    ∃ bs, (c.declareForRun b p name bases decls).2 = c.addBindings bs := by
  unfold declareForRun at h ⊢
  cases hres : c.checkResolvable b p with
  | error e₀ => exact ⟨[], by simp⟩
  | ok ph =>
    rcases hrun : c.declareRun b name bases decls with ⟨res, c'⟩
    cases res with
    | error e₀ =>
      -- the placeholder passed its check, and the declaration failed on its own
      obtain ⟨bs, hbs⟩ := declareRun_error (show (c.declareRun b name bases decls).1 = .error e₀ by
        rw [hrun])
      rw [hrun] at hbs
      exact ⟨bs, hbs⟩
    | ok r => cases p <;> simp [hres, hrun] at h

end Run

end Catalog

/-- A call of the builder interface that can fail. -/
inductive Call where
  | declare (name : String) (bases : List (Option RecordId)) (decls : List Declaration)
  | declareFor (p : Option PlaceholderId) (name : String) (bases : List (Option RecordId))
      (decls : List Declaration)
  | resolve (p : Option PlaceholderId) (r : Option RecordId)

namespace Call

/-- **A call on builder `b`**: its outcome, and the catalog as the call leaves it, also when it
fails. -/
def run (c : Catalog) (b : BuilderId) : Call → Except Failure Unit × Catalog
  | declare name bases decls =>
    let (res, c') := c.declareRun b name bases decls
    (res.map fun _ => (), c')
  | declareFor p name bases decls =>
    let (res, c') := c.declareForRun b p name bases decls
    (res.map fun _ => (), c')
  | resolve p r =>
    match c.resolve b p r with
    | .ok c' => (.ok (), c')
    | .error e => (.error e, c)

/-- The catalog as a call leaves it. -/
def after (c : Catalog) (b : BuilderId) (k : Call) : Catalog := (k.run c b).2

variable {c : Catalog} {b : BuilderId}

lemma map_eq_error {α : Type} {x : Except Failure α} {e : Failure}
    (h : x.map (fun _ => ()) = .error e) : x = .error e := by
  cases x with
  | error e' => cases h; rfl
  | ok v => cases h

lemma exists_of_map_eq_ok {α : Type} {x : Except Failure α} {u : Unit}
    (h : x.map (fun _ => ()) = .ok u) : ∃ a, x = .ok a := by
  cases x with
  | error e => cases h
  | ok v => exact ⟨v, rfl⟩

/-- **A call that fails only adds bindings.** -/
lemma run_error_extends {k : Call} {e : Failure} (h : (k.run c b).1 = .error e) :
    ∃ bs, (k.run c b).2 = c.addBindings bs := by
  cases k with
  | declare name bases decls => exact Catalog.declareRun_error (map_eq_error h)
  | declareFor p name bases decls => exact Catalog.declareForRun_error (map_eq_error h)
  | resolve p r =>
    simp only [run] at h ⊢
    split at h
    · cases h
    · exact ⟨[], by simp⟩

/-- **A call that succeeds changes what the builder shows.** -/
lemma shown_ne_of_run_ok (hb : (c.builder? b).isSome) {k : Call} {u : Unit}
    (h : (k.run c b).1 = .ok u) : (k.after c b).shown b ≠ c.shown b := by
  intro hsame
  cases k with
  | declare name bases decls =>
    -- the declared name finds the new record now, and found none before
    obtain ⟨r, hr⟩ := exists_of_map_eq_ok h
    have hl := congrArg (fun s => s.lookup name) hsame
    obtain ⟨hbefore, hafter⟩ := Catalog.lookup_of_declare_eq_ok hb (Catalog.declare_of_declareRun hr)
    simp only [after, run, Catalog.shown, hbefore, hafter] at hl
    cases hl
  | declareFor p name bases decls =>
    -- the record is declared first, and the resolution keeps what names find
    obtain ⟨r, hr⟩ := exists_of_map_eq_ok h
    obtain ⟨q, ph, c₁, -, -, -, -, hdecl, hc⟩ :=
      Catalog.declareFor_eq_ok (Catalog.declareFor_of_declareForRun hr)
    have hl := congrArg (fun s => s.lookup name) hsame
    obtain ⟨hbefore, hafter⟩ := Catalog.lookup_of_declare_eq_ok hb hdecl
    simp only [after, run, hc, Catalog.shown, lookup_settle, hbefore, hafter] at hl
    cases hl
  | resolve p r =>
    -- the placeholder resolved was open before
    simp only [run] at h
    split at h
    · rename_i c' hres
      obtain ⟨q, ph, t, hq, hopen, hq'⟩ := Catalog.placeholder?_of_resolve_eq_ok hres
      have hp := congrArg (fun s => s.placeholders q) hsame
      simp only [after, run, hres, Catalog.shown, hq, hq', hopen, Option.map_some,
        Option.some.injEq, Prod.mk.injEq] at hp
      cases hp.2
    · cases h

/-- **A call leaves what the builder shows as it was exactly when it fails**: in every catalog
the builder interface reaches, a failing `declare`, `declareFor` or `resolve` leaves every
lookup, the list of records, the open placeholders, every placeholder's waiting fields and
resolution, and the kind, target and target name of every pointer field as they were, even
where it made bindings before it failed, and a successful one changes them. -/
theorem call_keeps_shown_iff_fails (hc : Reachable c) (hb : (c.builder? b).isSome) (k : Call) :
    (k.after c b).shown b = c.shown b ↔ ∃ e, (k.run c b).1 = .error e := by
  cases hrun : (k.run c b).1 with
  | error e =>
    -- the bindings the call made are referred to by nothing shown
    obtain ⟨bs, hbs⟩ := run_error_extends hrun
    refine ⟨fun _ => ⟨e, rfl⟩, fun _ => ?_⟩
    rw [after, hbs]
    exact Catalog.shown_addBindings (Inv.of_reachable hc) bs
  | ok u =>
    refine ⟨fun hsame => absurd hsame (shown_ne_of_run_ok hb hrun), ?_⟩
    rintro ⟨e, he⟩
    cases he

/-- A declaration whose pointer field and plain field answer to the same name fails on the name
check, after lowering has made the pointer field's binding. -/
theorem call_keeps_shown_iff_fails_collision :
    Reachable (({} : Catalog).addBuilder Abi.native64).1 ∧
      ((({} : Catalog).addBuilder Abi.native64).1.builder? ⟨0⟩).isSome ∧
      ((((Call.declare "Node" [] [.pointer "next" .self, .field "next" (.scalar .uint8)]).after
          (({} : Catalog).addBuilder Abi.native64).1 ⟨0⟩).shown ⟨0⟩ =
          (({} : Catalog).addBuilder Abi.native64).1.shown ⟨0⟩) ↔
        ∃ e, ((Call.declare "Node" [] [.pointer "next" .self, .field "next" (.scalar .uint8)]).run
          (({} : Catalog).addBuilder Abi.native64).1 ⟨0⟩).1 = .error e) :=
  ⟨.newBuilder _ .empty, rfl, call_keeps_shown_iff_fails (.newBuilder _ .empty) rfl _⟩

/-- The failing declaration leaves its pointer field's binding behind. -/
example :
    ((Call.declare "Node" [] [.pointer "next" .self, .field "next" (.scalar .uint8)]).after
      (({} : Catalog).addBuilder Abi.native64).1 ⟨0⟩).bindings.size = 1 := by
  decide

end Call

end RecordLayout
