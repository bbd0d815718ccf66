import Mathlib
import RecordLayout.Proofs.AllOrNothing
import RecordLayout.Proofs.Linking
import RecordLayout.Schema.Load

/-!
# Loading a schema: pointers, forward references and the dangling names

A schema file names the targets of its pointers by record name.  The loader sends a pointer
of record `R` to `t` to `R` itself when `t` is `self` or `R`'s name, to the record named `t`
when one was declared, and otherwise to a forward reference shared by every pointer to `t`;
declaring the record named `t` resolves it.

* `Loader.Inv` is what the loader keeps while it reads the file: every own pointer field of a
  record declared so far aims where the loader's `target` would send it now (`Loader.aimOf`),
  every record shares the pointer fields of its bases (`Inherits`), the open forward references
  are the names referenced so far that no record declared so far has, once each in order of
  first reference, and they are the builder's open placeholders.
* `Loader.Inv.declare` and `Loader.Inv.declareAll`: declaring the records of a file keeps it.
* `build_resolves_pointers`: a file fails to build exactly when a pointer dangles, with the
  dangling names (`danglingNames`); otherwise every pointer is linked to its record.
-/

namespace RecordLayout

/-! ## Names once each, in order of first occurrence -/

section EraseDups

variable {α : Type} [DecidableEq α]

lemma eraseDups_append_singleton (l : List α) (a : α) :
    (l ++ [a]).eraseDups = if a ∈ l then l.eraseDups else l.eraseDups ++ [a] := by
  rw [List.eraseDups_append]
  by_cases ha : a ∈ l <;> simp [List.removeAll, List.eraseDups_cons, ha]

lemma nodup_eraseDups (l : List α) : l.eraseDups.Nodup := by
  induction l using List.reverseRecOn with
  | nil => simp
  | append_singleton l a ih =>
    rw [eraseDups_append_singleton]
    split
    · exact ih
    · rename_i ha
      refine List.nodup_append.mpr ⟨ih, List.nodup_singleton a, ?_⟩
      intro x hx y hy
      rw [List.mem_singleton] at hy
      subst hy
      rintro rfl
      exact ha (List.mem_eraseDups.mp hx)

/-- Keeping first occurrences commutes with filtering. -/
lemma eraseDups_filter (p : α → Bool) (l : List α) :
    (l.filter p).eraseDups = l.eraseDups.filter p := by
  induction l using List.reverseRecOn with
  | nil => simp
  | append_singleton l a ih =>
    by_cases hp : p a
    · have hmem : a ∈ l.filter p ↔ a ∈ l := by simp [hp]
      have hsplit : (l ++ [a]).filter p = l.filter p ++ [a] := by simp [hp]
      rw [hsplit, eraseDups_append_singleton, eraseDups_append_singleton, ih]
      by_cases ha : a ∈ l
      · rw [if_pos (hmem.mpr ha), if_pos ha]
      · rw [if_neg (mt hmem.mp ha), if_neg ha]
        simp [hp]
    · have hsplit : (l ++ [a]).filter p = l.filter p := by simp [hp]
      rw [hsplit, ih, eraseDups_append_singleton]
      split
      · rfl
      · simp [hp]

end EraseDups

/-- Dropping a key's entries leaves every other key's look-up as it was. -/
lemma lookup_filter_ne {β : Type} (l : List (String × β)) (k t : String) :
    (l.filter (·.1 ≠ k)).lookup t = if t = k then none else l.lookup t := by
  induction l with
  | nil => simp
  | cons x rest ih =>
    by_cases hx : x.1 = k
    · have hdrop : (x :: rest).filter (·.1 ≠ k) = rest.filter (·.1 ≠ k) := by simp [hx]
      rw [hdrop, ih]
      split_ifs with ht
      · rfl
      · rw [List.lookup_cons, beq_eq_false_iff_ne.mpr fun h => ht (h.trans hx)]
    · have hkeep : (x :: rest).filter (·.1 ≠ k) = x :: rest.filter (·.1 ≠ k) := by simp [hx]
      rw [hkeep, List.lookup_cons, List.lookup_cons, ih]
      by_cases ht : t = x.1
      · simp [ht, hx]
      · simp only [beq_eq_false_iff_ne.mpr ht]

/-- In a list whose keys and values are distinct, erasing a key's value from the values, read
backwards, drops the key's entry. -/
lemma erase_reverse_snd {β : Type} [DecidableEq β] {l : List (String × β)}
    (hkeys : (l.map Prod.fst).Nodup) (hvals : (l.map Prod.snd).Nodup) {k : String} {v : β}
    (hk : l.lookup k = some v) :
    (l.map Prod.snd).reverse.erase v = ((l.filter (·.1 ≠ k)).map Prod.snd).reverse := by
  have hkv : (k, v) ∈ l := by
    obtain ⟨l₁, l₂, rfl, -⟩ := List.lookup_eq_some_iff.mp hk
    simp
  -- an entry has the value exactly when it has the key
  have hsame : ∀ e ∈ l, e.2 = v ↔ e.1 = k := by
    intro e he
    constructor
    · intro hv
      rw [List.inj_on_of_nodup_map hvals he hkv hv]
    · intro hek
      have he' := lookup_of_mem hkeys he
      rw [hek, hk] at he'
      exact (Option.some.inj he').symm
  rw [(List.nodup_reverse.mpr hvals).erase_eq_filter, List.filter_reverse, List.filter_map]
  congr 2
  apply List.filter_congr
  intro e he
  by_cases hv : e.2 = v
  · simp [hv, (hsame e he).mp hv]
  · have hek : e.1 ≠ k := fun h => hv ((hsame e he).mpr h)
    simp [hv, hek]

/-- Two lists with one image pair up their entries. -/
lemma exists_mem_zip_of_map_eq {α β γ : Type} {f : β → γ} {g : α → γ} :
    ∀ {as : List α} {bs : List β}, bs.map f = as.map g → ∀ {b : β}, b ∈ bs →
      ∃ a, (a, b) ∈ as.zip bs ∧ g a = f b
  | [], [], _, _, hb => by cases hb
  | a :: as, b' :: bs, h, b, hb => by
    simp only [List.map_cons, List.cons.injEq] at h
    rcases List.mem_cons.mp hb with rfl | hb
    · exact ⟨a, by simp, h.1.symm⟩
    · obtain ⟨a', hz, ha'⟩ := exists_mem_zip_of_map_eq h.2 hb
      exact ⟨a', List.mem_cons_of_mem _ hz, ha'⟩
  | [], _ :: _, h, _, _ => by simp at h
  | _ :: _, [], h, _, _ => by simp at h

/-- The pairs of two lists of one length, each extended by one entry. -/
lemma mem_zip_append_singleton {α β : Type} {as : List α} {bs : List β}
    (hlen : as.length = bs.length) {a a' : α} {b b' : β} :
    (a, b) ∈ (as ++ [a']).zip (bs ++ [b']) ↔ (a, b) ∈ as.zip bs ∨ (a = a' ∧ b = b') := by
  rw [List.zip_append hlen, List.mem_append]
  simp

namespace Schema

/-- The names that the pointers of `owner`'s fields give for other records, in field order:
every pointer value but `self` and the owner's own name. -/
def references (owner : String) (fields : List FieldConfig) : List String :=
  (fields.map (·.pointer)).filter fun t => t ≠ "" ∧ t ≠ "self" ∧ t ≠ owner

/-- **The dangling names of a file**: the names its pointers give for other records that no
record of the file has, each once, in order of first reference. -/
def danglingNames (records : List RecordConfig) : List String :=
  ((records.flatMap fun rc => references rc.name rc.fields).filter
    (· ∉ records.map (·.name))).eraseDups

/-- A pointer field `fc` of the record `rc` that names no record of the file, other than by
`self` or `rc`'s own name. -/
def Dangles (records : List RecordConfig) (rc : RecordConfig) (fc : FieldConfig) : Prop :=
  fc.pointer ≠ "" ∧ fc.pointer ≠ "self" ∧ fc.pointer ≠ rc.name ∧ fc.pointer ∉ records.map (·.name)

/-- The dangling names are the values of the dangling pointers. -/
lemma mem_danglingNames {records : List RecordConfig} {t : String} :
    t ∈ danglingNames records ↔
      ∃ rc ∈ records, ∃ fc ∈ rc.fields, fc.pointer = t ∧ Dangles records rc fc := by
  simp only [danglingNames, references, Dangles, List.mem_eraseDups, List.mem_filter,
    List.mem_flatMap, List.mem_map, decide_eq_true_eq]
  constructor
  · rintro ⟨⟨rc, hrc, ⟨fc, hfc, rfl⟩, hne, hself, hown⟩, hout⟩
    exact ⟨rc, hrc, fc, hfc, rfl, hne, hself, hown, hout⟩
  · rintro ⟨rc, hrc, fc, hfc, rfl, hne, hself, hown, hout⟩
    exact ⟨⟨rc, hrc, ⟨fc, hfc, rfl⟩, hne, hself, hown⟩, hout⟩

example : danglingNames
    [{ name := "a", fields := [{ name := "p", pointer := "x" }, { name := "q", pointer := "a" },
        { name := "r", pointer := "self" }] },
     { name := "b", fields := [{ name := "s", pointer := "y" }, { name := "t", pointer := "x" },
        { name := "u", pointer := "a" }] }] = ["x", "y"] := by
  decide

lemma danglingNames_eq_nil_iff {records : List RecordConfig} :
    danglingNames records = [] ↔ ¬ ∃ rc ∈ records, ∃ fc ∈ rc.fields, Dangles records rc fc := by
  rw [List.eq_nil_iff_forall_not_mem]
  constructor
  · rintro h ⟨rc, hrc, fc, hfc, hd⟩
    exact h fc.pointer (mem_danglingNames.mpr ⟨rc, hrc, fc, hfc, rfl, hd⟩)
  · intro h t ht
    obtain ⟨rc, hrc, fc, hfc, -, hd⟩ := mem_danglingNames.mp ht
    exact h ⟨rc, hrc, fc, hfc, hd⟩

/-- Each record of `done`, declared as `rs`, takes over the pointer fields of the records its
bases name: the name of a base's pointer field finds a pointer field of the record with the
same binding. -/
def Inherits (c : Catalog) (b : BuilderId) (done : List RecordConfig) (rs : List RecordId) :
    Prop :=
  ∀ rc r, (rc, r) ∈ done.zip rs → ∀ bn ∈ rc.bases, ∃ rb, c.lookup b bn = some rb ∧
    ∀ n pfb, c.pointerField rb n = .ok pfb →
      ∃ pf, c.pointerField r n = .ok pf ∧ pf.binding = pfb.binding

/-- Inheritance stays while the builder's names and the records stay. -/
lemma Inherits.congr {c c' : Catalog} {b b' : BuilderId} {done : List RecordConfig}
    {rs : List RecordId} (h : Inherits c b done rs) (hlook : ∀ t, c'.lookup b' t = c.lookup b t)
    (hrec : ∀ r, c'.record? r = c.record? r) : Inherits c' b' done rs := by
  intro rc r hmem bn hbn
  obtain ⟨rb, hrb, hpfs⟩ := h rc r hmem bn hbn
  refine ⟨rb, (hlook bn).trans hrb, fun n pfb hpfb => ?_⟩
  rw [pointerField_congr (hrec rb)] at hpfb
  obtain ⟨pf, hpf, hbd⟩ := hpfs n pfb hpfb
  exact ⟨pf, (pointerField_congr (hrec r) n).trans hpf, hbd⟩

namespace Loader

/-- **Where the loader sends a pointer** of record `r`, named `owner`, to `t` now, making no
forward reference: to `r` for `self` and the owner's name, to the record named `t` once it is
declared, to the forward reference to `t` while one is open. -/
def aimOf (l : Loader) (r : RecordId) (owner t : String) : Option Aim :=
  if t = "self" ∨ t = owner then some (.self r)
  else match l.catalog.lookup l.builder t with
    | some r' => some (.record r')
    | none => (l.forwards.lookup t).map .forward

/-- The target the loader gave a pointer of `owner` to `t`, as it stands in state `l`. -/
def Sends (l : Loader) (owner t : String) : Target → Prop
  | .self => t = "self" ∨ t = owner
  | .record r => ¬ (t = "self" ∨ t = owner) ∧ ∃ r', r = some r' ∧
      l.catalog.lookup l.builder t = some r'
  | .placeholder p => ¬ (t = "self" ∨ t = owner) ∧ l.catalog.lookup l.builder t = none ∧
      ∃ p', p = some p' ∧ l.forwards.lookup t = some p'

/-- A state that reading fields leads to: the same builder, records, bindings and lookups, and
every open forward reference kept. -/
structure Grows (l l' : Loader) : Prop where
  builder : l'.builder = l.builder
  lookup : ∀ t, l'.catalog.lookup l'.builder t = l.catalog.lookup l.builder t
  record : ∀ r, l'.catalog.record? r = l.catalog.record? r
  binding : ∀ id, l'.catalog.binding? id = l.catalog.binding? id
  forwards : ∀ t p, l.forwards.lookup t = some p → l'.forwards.lookup t = some p

/-- Every own pointer field of the records `done`, declared as `rs`, aims where the loader
would send it now. -/
def Aimed (l : Loader) (done : List RecordConfig) (rs : List RecordId) : Prop :=
  ∀ rc r, (rc, r) ∈ done.zip rs → ∀ fc ∈ rc.fields, fc.pointer ≠ "" → ∃ pf x,
    l.catalog.pointerField r fc.name = .ok pf ∧ l.catalog.binding? pf.binding = some x ∧
      l.aimOf r rc.name fc.pointer = some x.aim

/-- **What the loader keeps** once it declared the records `done` as `rs`, having read the
references `refs`. -/
structure Inv (l : Loader) (done : List RecordConfig) (rs : List RecordId) (refs : List String) :
    Prop where
  reachable : Reachable l.catalog
  builder : (l.catalog.builder? l.builder).isSome
  /-- The builder's records are the records declared, in file order. -/
  declared : l.catalog.declared l.builder = rs
  names : rs.map l.catalog.recordName = done.map (·.name)
  /-- The open forward references, oldest first, are the names referenced that no record
  declared so far has, each once, in order of first reference. -/
  forwards : (l.forwards.map Prod.fst).reverse = (refs.filter (· ∉ done.map (·.name))).eraseDups
  /-- Each is an open placeholder of the builder, under its name. -/
  forward_open : ∀ t p, l.forwards.lookup t = some p → ∃ ph, l.catalog.placeholder? p = some ph ∧
    ph.builder = l.builder ∧ ph.resolved = none ∧ ph.name = t
  /-- They are the builder's open placeholders, in creation order. -/
  pending : l.catalog.pending l.builder = (l.forwards.map Prod.snd).reverse
  aimed : l.Aimed done rs
  inherited : Inherits l.catalog l.builder done rs

variable {l l' l'' : Loader}

lemma Grows.refl (l : Loader) : Grows l l := ⟨rfl, fun _ => rfl, fun _ => rfl, fun _ => rfl,
  fun _ _ h => h⟩

lemma Grows.trans (h₁ : Grows l l') (h₂ : Grows l' l'') : Grows l l'' where
  builder := h₂.builder.trans h₁.builder
  lookup t := (h₂.lookup t).trans (h₁.lookup t)
  record r := (h₂.record r).trans (h₁.record r)
  binding id := (h₂.binding id).trans (h₁.binding id)
  forwards t p h := h₂.forwards t p (h₁.forwards t p h)

/-- Where a pointer is sent stays so while fields are read. -/
lemma Grows.aimOf (hg : Grows l l') {r : RecordId} {owner t : String} {a : Aim}
    (h : l.aimOf r owner t = some a) : l'.aimOf r owner t = some a := by
  unfold Loader.aimOf at h ⊢
  rw [hg.lookup]
  split_ifs at h ⊢
  · exact h
  · split at h
    · exact h
    · obtain ⟨p, hp, rfl⟩ := Option.map_eq_some_iff.mp h
      rw [hg.forwards t p hp]
      rfl

lemma Grows.sends (hg : Grows l l') {owner t : String} {tgt : Target} (h : l.Sends owner t tgt) :
    l'.Sends owner t tgt := by
  cases tgt with
  | self => exact h
  | record r =>
    obtain ⟨hself, r', rfl, hr⟩ := h
    exact ⟨hself, r', rfl, (hg.lookup t).trans hr⟩
  | placeholder p =>
    obtain ⟨hself, hnone, p', rfl, hp⟩ := h
    exact ⟨hself, (hg.lookup t).trans hnone, p', rfl, hg.forwards t p' hp⟩

lemma Grows.aimed (hg : Grows l l') {done : List RecordConfig} {rs : List RecordId}
    (h : l.Aimed done rs) : l'.Aimed done rs := by
  intro rc r hr fc hfc hptr
  obtain ⟨pf, x, hpf, hx, haim⟩ := h rc r hr fc hfc hptr
  exact ⟨pf, x, (pointerField_congr (hg.record r) fc.name).trans hpf, (hg.binding _).trans hx,
    hg.aimOf haim⟩

lemma Grows.inherits (hg : Grows l l') {done : List RecordConfig} {rs : List RecordId}
    (h : Inherits l.catalog l.builder done rs) : Inherits l'.catalog l'.builder done rs :=
  h.congr hg.lookup hg.record

section Inv

variable {done : List RecordConfig} {rs : List RecordId} {refs : List String}

/-- A name belongs to a record declared so far exactly when the builder finds it. -/
lemma Inv.mem_names_iff (hi : l.Inv done rs refs) (t : String) :
    t ∈ done.map (·.name) ↔ (l.catalog.lookup l.builder t).isSome := by
  have hreg := RecordLayout.Inv.of_reachable hi.reachable
  rw [← hi.names]
  constructor
  · intro ht
    obtain ⟨r, hr, rfl⟩ := List.mem_map.mp ht
    rw [(hreg.lookup l.builder (l.catalog.recordName r) r).mpr ⟨hi.declared ▸ hr, rfl⟩]
    rfl
  · intro hs
    obtain ⟨r, hr⟩ := Option.isSome_iff_exists.mp hs
    obtain ⟨hmem, hname⟩ := (hreg.lookup _ _ _).mp hr
    exact List.mem_map.mpr ⟨r, hi.declared ▸ hmem, hname⟩

/-- A forward reference is open exactly for a name referenced that no record declared so far
has. -/
lemma Inv.mem_forwards_iff (hi : l.Inv done rs refs) (t : String) :
    t ∈ refs.filter (· ∉ done.map (·.name)) ↔ (l.forwards.lookup t).isSome := by
  calc t ∈ refs.filter (· ∉ done.map (·.name))
      ↔ t ∈ (refs.filter (· ∉ done.map (·.name))).eraseDups := List.mem_eraseDups.symm
    _ ↔ t ∈ (l.forwards.map Prod.fst).reverse := by rw [hi.forwards]
    _ ↔ (l.forwards.lookup t).isSome := by rw [List.mem_reverse, isSome_lookup_iff]

/-- **Opening a forward reference** to a name that neither a record nor an open reference has
keeps the invariant with the name referenced, and only grows the loader. -/
lemma Inv.forwardDeclare (hi : l.Inv done rs refs) {t : String}
    (hlook : l.catalog.lookup l.builder t = none) (hfw : l.forwards.lookup t = none) :
    ({ l with catalog := (l.catalog.forwardDeclare l.builder t).1,
              forwards := (t, (l.catalog.forwardDeclare l.builder t).2) :: l.forwards } :
        Loader).Inv done rs (refs ++ [t]) ∧
      Grows l { l with catalog := (l.catalog.forwardDeclare l.builder t).1,
                       forwards := (t, (l.catalog.forwardDeclare l.builder t).2) :: l.forwards } := by
  have hname : t ∉ done.map (·.name) := fun hm => by
    simpa [hlook] using (hi.mem_names_iff t).mp hm
  have hnew : t ∉ refs.filter (· ∉ done.map (·.name)) := fun hm => by
    simpa [hfw] using (hi.mem_forwards_iff t).mp hm
  have hkeep : ∀ t' p', l.forwards.lookup t' = some p' →
      ((t, (l.catalog.forwardDeclare l.builder t).2) :: l.forwards).lookup t' = some p' := by
    intro t' p' h'
    have hne : t' ≠ t := by
      rintro rfl
      rw [hfw] at h'
      cases h'
    rw [List.lookup_cons, beq_eq_false_iff_ne.mpr hne]
    exact h'
  have hg : Grows l
      { l with
        catalog := (l.catalog.forwardDeclare l.builder t).1
        forwards := (t, (l.catalog.forwardDeclare l.builder t).2) :: l.forwards } :=
    ⟨rfl, fun t' => lookup_forwardDeclare t l.builder t',
      fun r => Catalog.record?_forwardDeclare l.builder t r,
      fun id => Catalog.binding?_forwardDeclare l.builder t id, hkeep⟩
  refine ⟨⟨.forward t hi.reachable hi.builder, isSome_builder?_forwardDeclare t hi.builder,
    ?_, hi.names, ?_, ?_, ?_, hg.aimed hi.aimed, hg.inherits hi.inherited⟩, hg⟩
  · rw [declared_forwardDeclare]
    exact hi.declared
  · rw [List.filter_append]
    simp only [List.filter_cons, List.filter_nil, hname, not_false_eq_true, decide_true,
      if_true]
    rw [eraseDups_append_singleton, if_neg hnew, ← hi.forwards]
    simp
  · intro t' p' h'
    by_cases hne : t' = t
    · -- the reference just opened, to the placeholder just made
      subst hne
      simp only [List.lookup_cons, beq_self_eq_true, Option.some.injEq] at h'
      subst h'
      refine ⟨⟨l.builder, t', none, []⟩, ?_, rfl, rfl, rfl⟩
      simp [Catalog.placeholder?_forwardDeclare]
    · -- an older forward reference, to an older placeholder
      rw [List.lookup_cons, beq_eq_false_iff_ne.mpr hne] at h'
      obtain ⟨ph, hph, hrest⟩ := hi.forward_open t' p' h'
      exact ⟨ph, (placeholder?_forwardDeclare_of_lt t (Catalog.placeholder?_lt hph)).trans hph,
        hrest⟩
  · rw [pending_forwardDeclare t hi.builder, if_pos rfl, hi.pending]
    simp

/-- **Reading a pointer to `t`**: the loader sends it as `Sends` says and only grows, and it
keeps its invariant with `t` referenced, unless `t` is `self` or the owner's name. -/
lemma Inv.target (hi : l.Inv done rs refs) {owner t : String} {tgt : Target}
    (h : l.target owner t = (l', tgt)) :
    l'.Inv done rs (refs ++ if t = "self" ∨ t = owner then [] else [t]) ∧ Grows l l' ∧
      l'.Sends owner t tgt := by
  by_cases hself : t = "self" ∨ t = owner
  · have hcond : (decide (t = "self") || decide (t = owner)) = true := by simpa using hself
    simp only [Loader.target, hcond, if_true, Prod.mk.injEq] at h
    obtain ⟨rfl, rfl⟩ := h
    rw [if_pos hself, List.append_nil]
    exact ⟨hi, Grows.refl l, hself⟩
  · have hcond : (decide (t = "self") || decide (t = owner)) = false := by simpa using hself
    rw [if_neg hself]
    cases hlook : l.catalog.lookup l.builder t with
    | some r' =>
      -- a record of that name is declared: the reference is not a forward one
      simp only [Loader.target, hcond, hlook, Bool.false_eq_true, if_false, Prod.mk.injEq] at h
      obtain ⟨rfl, rfl⟩ := h
      have hname : t ∈ done.map (·.name) := (hi.mem_names_iff t).mpr (by simp [hlook])
      refine ⟨{ hi with forwards := ?_ }, Grows.refl l, hself, r', rfl, hlook⟩
      rw [hi.forwards, List.filter_append]
      simp only [List.filter_cons, List.filter_nil, hname, not_true_eq_false, decide_false,
        Bool.false_eq_true, if_false, List.append_nil]
    | none =>
      have hname : t ∉ done.map (·.name) := fun hm => by
        simpa [hlook] using (hi.mem_names_iff t).mp hm
      cases hfw : l.forwards.lookup t with
      | some p =>
        -- the forward reference to `t` is open already
        simp only [Loader.target, hcond, hlook, hfw, Bool.false_eq_true, if_false,
          Prod.mk.injEq] at h
        obtain ⟨rfl, rfl⟩ := h
        have hmem : t ∈ refs.filter (· ∉ done.map (·.name)) :=
          (hi.mem_forwards_iff t).mpr (by simp [hfw])
        refine ⟨{ hi with forwards := ?_ }, Grows.refl l, hself, hlook, p, rfl, hfw⟩
        rw [hi.forwards, List.filter_append]
        simp only [List.filter_cons, List.filter_nil, hname, not_false_eq_true, decide_true,
          if_true]
        rw [eraseDups_append_singleton, if_pos hmem]
      | none =>
        -- a new forward reference to `t`, the next placeholder of the builder
        simp only [Loader.target, hcond, hlook, hfw, Bool.false_eq_true, if_false,
          Prod.mk.injEq] at h
        obtain ⟨rfl, rfl⟩ := h
        obtain ⟨hi', hg⟩ := hi.forwardDeclare hlook hfw
        exact ⟨hi', hg, hself, (hg.lookup t).trans hlook, _, rfl, by simp⟩

/-- **Reading a field** of `owner`: a pointer field is sent as `Sends` says, any other field
leaves the loader as it was. -/
lemma field_eq_ok {owner : String} {fc : FieldConfig} {d : Declaration}
    (h : l.field owner fc = .ok (l', d)) :
    (fc.pointer ≠ "" ∧ ∃ tgt, l.target owner fc.pointer = (l', tgt) ∧ d = .pointer fc.name tgt) ∨
      (fc.pointer = "" ∧ l' = l) := by
  unfold Loader.field at h
  split at h
  · cases h
  · split at h
    · rename_i hptr
      split at h
      · cases h
      · left
        refine ⟨by simpa using hptr, (l.target owner fc.pointer).2, ?_, ?_⟩ <;>
          (simp only [Except.ok.injEq, Prod.mk.injEq] at h; obtain ⟨rfl, rfl⟩ := h; rfl)
    · rename_i hptr
      right
      refine ⟨by simpa using hptr, ?_⟩
      split at h
      · cases h
      · rw [bind_eq_ok_iff] at h
        obtain ⟨t, -, h⟩ := h
        cases h
        rfl

lemma references_cons (owner : String) (fc : FieldConfig) (rest : List FieldConfig) :
    references owner (fc :: rest) =
      (if fc.pointer = "" ∨ fc.pointer = "self" ∨ fc.pointer = owner then [] else [fc.pointer]) ++
        references owner rest := by
  by_cases h : fc.pointer = "" ∨ fc.pointer = "self" ∨ fc.pointer = owner
  · rw [if_pos h]
    simp only [references, List.map_cons, List.filter_cons]
    rw [if_neg (by rcases h with h | h | h <;> simp [h])]
    rfl
  · rw [if_neg h]
    simp only [references, List.map_cons, List.filter_cons]
    rw [if_pos (by simpa [not_or] using h)]
    rfl

/-- **Reading the fields of `owner`** keeps the invariant with their references read, only
grows, and gives each pointer field a pointer declaration sent as `Sends` says. -/
lemma Inv.fields {owner : String} :
    ∀ {fcs : List FieldConfig} {l l' : Loader} {refs : List String} {decls : List Declaration},
      l.Inv done rs refs → Loader.fields owner l fcs = .ok (l', decls) →
      l'.Inv done rs (refs ++ references owner fcs) ∧ Grows l l' ∧
        ∀ fc ∈ fcs, fc.pointer ≠ "" →
          ∃ tgt, Declaration.pointer fc.name tgt ∈ decls ∧ l'.Sends owner fc.pointer tgt
  | [], l, l', refs, decls, hi, h => by
    cases h
    simpa [references] using ⟨hi, Grows.refl l⟩
  | fc :: rest, l, l', refs, decls, hi, h => by
    simp only [Loader.fields, bind_eq_ok_iff] at h
    obtain ⟨⟨l₁, d⟩, hfield, ⟨l₂, ds⟩, hrest, h⟩ := h
    cases h
    -- the field first, then the fields after it
    have hstep : l₁.Inv done rs (refs ++ if fc.pointer = "" ∨ fc.pointer = "self" ∨
          fc.pointer = owner then [] else [fc.pointer]) ∧ Grows l l₁ ∧
        (fc.pointer ≠ "" → ∃ tgt, d = .pointer fc.name tgt ∧ l₁.Sends owner fc.pointer tgt) := by
      rcases field_eq_ok hfield with ⟨hptr, tgt, htgt, rfl⟩ | ⟨hptr, rfl⟩
      · obtain ⟨hi₁, hg, hs⟩ := hi.target htgt
        refine ⟨?_, hg, fun _ => ⟨tgt, rfl, hs⟩⟩
        simpa [hptr] using hi₁
      · exact ⟨by simpa [hptr] using hi, Grows.refl _, fun h => absurd hptr h⟩
    obtain ⟨hi₁, hg₁, hsend⟩ := hstep
    obtain ⟨hi₂, hg₂, hsends⟩ := Inv.fields hi₁ hrest
    refine ⟨?_, hg₁.trans hg₂, ?_⟩
    · rw [references_cons, ← List.append_assoc]
      exact hi₂
    · intro g hg hptr
      rcases List.mem_cons.mp hg with rfl | hg
      · obtain ⟨tgt, rfl, hs⟩ := hsend hptr
        exact ⟨tgt, List.mem_cons_self, hg₂.sends hs⟩
      · obtain ⟨tgt, hmem, hs⟩ := hsends g hg hptr
        exact ⟨tgt, List.mem_cons_of_mem _ hmem, hs⟩

/-- **A pointer sent by the loader binds where the loader would send it**, once the
declaration binds it. -/
lemma Inv.aimOf_of_bind (hi : l.Inv done rs refs) {owner t n : String} {tgt : Target}
    {aim : FreshAim} (hs : l.Sends owner t tgt)
    (hb : l.catalog.bind l.builder owner n tgt = .ok aim) (r : RecordId) :
    l.aimOf r owner t = some (aim.toAim r) := by
  cases tgt with
  | self =>
    cases hb
    have hself : t = "self" ∨ t = owner := hs
    simp [Loader.aimOf, hself, FreshAim.toAim]
  | record r₀ =>
    obtain ⟨hself, r', rfl, hlook⟩ := hs
    simp only [Catalog.bind] at hb
    split at hb
    · cases hb
      simp [Loader.aimOf, hself, hlook, FreshAim.toAim]
    · cases hb
  | placeholder p₀ =>
    obtain ⟨hself, hlook, p', rfl, hfw⟩ := hs
    obtain ⟨ph, hph, hbuilder, hres, -⟩ := hi.forward_open t p' hfw
    simp only [Catalog.bind, hph, hbuilder, ne_eq, not_true_eq_false, if_false, hres] at hb
    cases hb
    simp [Loader.aimOf, hself, hlook, hfw, FreshAim.toAim]

/-- A pointer that the loader sends to a forward reference names it. -/
lemma forwards_of_aimOf {r : RecordId} {owner t : String} {p : PlaceholderId}
    (h : l.aimOf r owner t = some (.forward p)) : l.forwards.lookup t = some p := by
  unfold Loader.aimOf at h
  split_ifs at h
  · cases h
  · split at h
    · cases h
    · obtain ⟨p', hp', hsame⟩ := Option.map_eq_some_iff.mp h
      cases hsame
      exact hp'

/-- Each name has one open forward reference at most. -/
lemma Inv.keys_nodup (hi : l.Inv done rs refs) : (l.forwards.map Prod.fst).Nodup := by
  have h := nodup_eraseDups (refs.filter (· ∉ done.map (·.name)))
  rwa [← hi.forwards, List.nodup_reverse] at h

/-- The builder's open placeholders carry the names of the open forward references. -/
lemma Inv.pending_names (hi : l.Inv done rs refs) :
    (l.catalog.pending l.builder).map l.catalog.placeholderName =
      (l.forwards.map Prod.fst).reverse := by
  rw [hi.pending, List.map_reverse, List.map_map]
  congr 1
  apply List.map_congr_left
  intro e he
  obtain ⟨ph, hph, -, -, hname⟩ := hi.forward_open e.1 e.2 (lookup_of_mem hi.keys_nodup he)
  simp [Catalog.placeholderName, hph, hname]

/-- Two names that the open forward references send to one placeholder are one name. -/
lemma Inv.forwards_inj (hi : l.Inv done rs refs) {t t' : String} {p : PlaceholderId}
    (h : l.forwards.lookup t = some p) (h' : l.forwards.lookup t' = some p) : t = t' := by
  obtain ⟨ph, hph, -, -, rfl⟩ := hi.forward_open t p h
  obtain ⟨ph', hph', -, -, rfl⟩ := hi.forward_open t' p h'
  rw [hph] at hph'
  cases hph'
  rfl

end Inv

/-- **Declaring a record of the file**: its fields are read, then it is declared, for its
forward reference when one is open. -/
lemma declare_eq_ok {i : Nat} {rc : RecordConfig} {r : RecordId}
    (h : l.declare i rc = .ok (l', r)) :
    ∃ bases l₁ decls,
      (∀ bn ∈ rc.bases, ∃ t, l.catalog.lookup l.builder bn = some t ∧ some t ∈ bases) ∧
      Loader.fields rc.name l rc.fields = .ok (l₁, decls) ∧
      ((l₁.forwards.lookup rc.name = none ∧ ∃ c₂,
          l₁.catalog.declare l₁.builder rc.name bases decls = .ok (c₂, r) ∧
          l' = { l₁ with catalog := c₂ }) ∨
        ∃ p c₂, l₁.forwards.lookup rc.name = some p ∧
          l₁.catalog.declareFor l₁.builder (some p) rc.name bases decls = .ok (c₂, r) ∧
          l' = { l₁ with catalog := c₂, forwards := l₁.forwards.filter (·.1 ≠ rc.name) }) := by
  unfold Loader.declare at h
  split at h
  · cases h
  · simp only [bind_eq_ok_iff] at h
    obtain ⟨bases, hbases, ⟨l₁, decls⟩, hfields, h⟩ := h
    -- each base is a record the builder finds by its name
    have hfound : ∀ bn ∈ rc.bases, ∃ t, l.catalog.lookup l.builder bn = some t ∧ some t ∈ bases := by
      intro bn hbn
      obtain ⟨y, hy, hbn'⟩ := exists_mem_of_mapM_eq_ok hbases hbn
      cases hlook : l.catalog.lookup l.builder bn with
      | none => simp [hlook] at hbn'
      | some t =>
        simp only [hlook, pure, Except.pure, Except.ok.injEq] at hbn'
        exact ⟨t, rfl, hbn' ▸ hy⟩
    refine ⟨bases, l₁, decls, hfound, hfields, ?_⟩
    split at h
    · rename_i p hp
      cases hdecl : l₁.catalog.declareFor l₁.builder (some p) rc.name bases decls with
      | error e => simp [hdecl] at h
      | ok v =>
        simp only [hdecl, pure, Except.pure] at h
        obtain ⟨c₂, r₂⟩ := v
        cases h
        exact .inr ⟨p, c₂, hp, by simp [hdecl], rfl⟩
    · rename_i hp
      cases hdecl : l₁.catalog.declare l₁.builder rc.name bases decls with
      | error e => simp [hdecl] at h
      | ok v =>
        simp only [hdecl, pure, Except.pure] at h
        obtain ⟨c₂, r₂⟩ := v
        cases h
        exact .inl ⟨hp, c₂, by simp, rfl⟩

/-- Where a pointer to `t` is sent hangs on what the builder and the forward references give
for `t` only. -/
lemma aimOf_congr {t : String} (hlook : l'.catalog.lookup l'.builder t = l.catalog.lookup l.builder t)
    (hfw : l'.forwards.lookup t = l.forwards.lookup t) (r : RecordId) (owner : String) :
    l'.aimOf r owner t = l.aimOf r owner t := by
  simp only [Loader.aimOf, hlook, hfw]

section Declare

variable {done : List RecordConfig} {rs : List RecordId} {refs : List String} {rc : RecordConfig}
  {bases : List (Option RecordId)} {decls : List Declaration} {c₁ c₂ : Catalog} {r : RecordId}

lemma Inv.length_eq (hi : l.Inv done rs refs) : done.length = rs.length := by
  simpa using (congrArg List.length hi.names).symm

lemma Inv.names_declare (hi : l.Inv done rs refs)
    (hdecl : l.catalog.declare l.builder rc.name bases decls = .ok (c₁, r)) :
    (rs ++ [r]).map c₁.recordName = (done ++ [rc]).map (·.name) := by
  have hreg := RecordLayout.Inv.of_reachable hi.reachable
  have hold : rs.map c₁.recordName = rs.map l.catalog.recordName := by
    refine List.map_congr_left fun r₀ hr₀ => ?_
    have hlt := hreg.declared_lt (by rw [hi.declared]; exact hr₀)
    simp only [Catalog.recordName, Catalog.record?_declare_of_lt hdecl hlt]
  rw [List.map_append, List.map_append, hold, hi.names, List.map_singleton, List.map_singleton,
    Catalog.recordName_declare hdecl]

/-- The open forward references but the one to the name declared are the names referenced
that no record declared so far, the new one included, has. -/
lemma Inv.forwards_declare (hi : l.Inv done rs refs) :
    (l.forwards.map Prod.fst).reverse.filter (· ≠ rc.name) =
      (refs.filter (· ∉ (done ++ [rc]).map (·.name))).eraseDups := by
  rw [hi.forwards, ← eraseDups_filter, List.filter_filter]
  congr 1
  apply List.filter_congr
  intro t _
  rw [List.map_append, List.map_singleton]
  by_cases ht : t = rc.name <;> simp [ht]

/-- **After the catalog declares the record**, every own pointer field of the records declared
so far, the new one included, has a binding aiming where the loader sent it. -/
lemma Inv.bound_of_declare (hi : l.Inv done rs refs)
    (hdecl : l.catalog.declare l.builder rc.name bases decls = .ok (c₁, r))
    (hsends : ∀ fc ∈ rc.fields, fc.pointer ≠ "" →
      ∃ tgt, Declaration.pointer fc.name tgt ∈ decls ∧ l.Sends rc.name fc.pointer tgt) :
    ∀ rc₀ r₀, (rc₀, r₀) ∈ (done ++ [rc]).zip (rs ++ [r]) → ∀ fc ∈ rc₀.fields, fc.pointer ≠ "" →
      ∃ pf x, c₁.pointerField r₀ fc.name = .ok pf ∧ c₁.binding? pf.binding = some x ∧
        l.aimOf r₀ rc₀.name fc.pointer = some x.aim := by
  have hreg := RecordLayout.Inv.of_reachable hi.reachable
  intro rc₀ r₀ hmem fc hfc hptr
  rcases (mem_zip_append_singleton hi.length_eq).mp hmem with hold | ⟨rfl, rfl⟩
  · -- a record declared before: its field and its binding are untouched
    obtain ⟨pf, x, hpf, hx, haim⟩ := hi.aimed rc₀ r₀ hold fc hfc hptr
    have hr₀ : r₀.index < l.catalog.records.size :=
      hreg.declared_lt (by rw [hi.declared]; exact (List.of_mem_zip hold).2)
    refine ⟨pf, x, ?_, ?_, haim⟩
    · rw [pointerField_congr (Catalog.record?_declare_of_lt hdecl hr₀)]
      exact hpf
    · rw [Catalog.binding?_declare_of_lt hdecl (Catalog.binding?_lt hx)]
      exact hx
  · -- the record just declared: its pointer binds where the loader sent it
    obtain ⟨tgt, hd, hs⟩ := hsends fc hfc hptr
    obtain ⟨aim, pf, hbind, hpf, hbd⟩ := Catalog.declare_pointer hdecl hd
    exact ⟨pf, _, hpf, hbd, hi.aimOf_of_bind hs hbind r₀⟩

/-- **After the catalog declares the record**, every record declared so far, the new one
included, takes over the pointer fields of its bases. -/
lemma Inv.inherits_declare (hi : l.Inv done rs refs)
    (hdecl : l.catalog.declare l.builder rc.name bases decls = .ok (c₁, r))
    (hbases : ∀ bn ∈ rc.bases, ∃ t, l.catalog.lookup l.builder bn = some t ∧ some t ∈ bases) :
    Inherits c₁ l.builder (done ++ [rc]) (rs ++ [r]) := by
  have hreg := RecordLayout.Inv.of_reachable hi.reachable
  have hnone := (Catalog.lookup_of_declare_eq_ok hi.builder hdecl).1
  -- a name the builder found before still finds the same record, an earlier one
  have hlook : ∀ bn t, l.catalog.lookup l.builder bn = some t →
      c₁.lookup l.builder bn = some t ∧ t.index < l.catalog.records.size := by
    intro bn t ht
    have hne : bn ≠ rc.name := by
      rintro rfl
      rw [hnone] at ht
      cases ht
    refine ⟨(Catalog.lookup_declare hi.builder hdecl bn).trans (by rw [if_neg hne]; exact ht), ?_⟩
    exact hreg.declared_lt ((hreg.lookup _ _ _).mp ht).1
  intro rc₀ r₀ hmem bn hbn
  rcases (mem_zip_append_singleton hi.length_eq).mp hmem with hold | ⟨rfl, rfl⟩
  · -- a record declared before: its base and both records are untouched
    obtain ⟨rb, hrb, hpfs⟩ := hi.inherited rc₀ r₀ hold bn hbn
    obtain ⟨hrb₁, hlt⟩ := hlook bn rb hrb
    have hr₀ : r₀.index < l.catalog.records.size :=
      hreg.declared_lt (by rw [hi.declared]; exact (List.of_mem_zip hold).2)
    refine ⟨rb, hrb₁, fun n pfb hpfb => ?_⟩
    rw [pointerField_congr (Catalog.record?_declare_of_lt hdecl hlt)] at hpfb
    obtain ⟨pf, hpf, hbd⟩ := hpfs n pfb hpfb
    exact ⟨pf, (pointerField_congr (Catalog.record?_declare_of_lt hdecl hr₀) n).trans hpf, hbd⟩
  · -- the record just declared takes over the pointer fields of each base
    obtain ⟨t, ht, htb⟩ := hbases bn hbn
    obtain ⟨ht₁, hlt⟩ := hlook bn t ht
    refine ⟨t, ht₁, fun n pfb hpfb => ?_⟩
    rw [pointerField_congr (Catalog.record?_declare_of_lt hdecl hlt)] at hpfb
    exact Catalog.declare_inherited_pointer hdecl htb hpfb

/-- **Declaring a record that no forward reference waits on sends every pointer where it was
sent**: no pointer was sent to its name, as neither a record nor a forward reference had it. -/
lemma aimOf_declare_new (hb : (l.catalog.builder? l.builder).isSome)
    (hdecl : l.catalog.declare l.builder rc.name bases decls = .ok (c₁, r))
    (hfw : l.forwards.lookup rc.name = none) {r₀ : RecordId} {owner t : String} {a : Aim}
    (h : l.aimOf r₀ owner t = some a) :
    ({ l with catalog := c₁ } : Loader).aimOf r₀ owner t = some a := by
  have hnone := (Catalog.lookup_of_declare_eq_ok hb hdecl).1
  by_cases hself : t = "self" ∨ t = owner
  · simpa [Loader.aimOf, hself] using h
  · have hne : t ≠ rc.name := by
      rintro rfl
      simp [Loader.aimOf, hself, hnone, hfw] at h
    have hc : ({ l with catalog := c₁ } : Loader).aimOf r₀ owner t = l.aimOf r₀ owner t :=
      aimOf_congr ((Catalog.lookup_declare hb hdecl t).trans (if_neg hne)) (by rfl) r₀ owner
    rw [hc]
    exact h

/-- **Declaring a record for the forward reference to its name moves exactly the bindings the
loader sent to that reference**, to the record; every other pointer is sent where it was. -/
lemma Inv.aimOf_declare_for (hi : l.Inv done rs refs) {p : PlaceholderId}
    (hdecl : l.catalog.declare l.builder rc.name bases decls = .ok (c₁, r))
    (hfw : l.forwards.lookup rc.name = some p) {id : BindingId} {x : Binding} {r₀ : RecordId}
    {owner t : String} (hx : c₁.binding? id = some x) (ha : l.aimOf r₀ owner t = some x.aim) :
    ∃ x', (c₁.settle l.builder p r).binding? id = some x' ∧
      ({ l with catalog := c₁.settle l.builder p r,
                forwards := l.forwards.filter (·.1 ≠ rc.name) } : Loader).aimOf r₀ owner t =
        some x'.aim := by
  have hreg₁ := RecordLayout.Inv.of_reachable (.declare hi.reachable hi.builder hdecl)
  have hnone := (Catalog.lookup_of_declare_eq_ok hi.builder hdecl).1
  obtain ⟨ph, hph, -, hres, -⟩ := hi.forward_open _ _ hfw
  obtain ⟨ph₁, hph₁, -, hres₁, -⟩ := Catalog.placeholder?_declare hdecl hph
  refine ⟨_, Catalog.binding?_settle_of_open hreg₁ hph₁ (hres₁.trans hres) hx r, ?_⟩
  by_cases hself : t = "self" ∨ t = owner
  · have hxa : x.aim = .self r₀ := by simpa [Loader.aimOf, hself] using ha.symm
    simp [Loader.aimOf, hself, hxa]
  · by_cases hne : t = rc.name
    · -- the pointer waited on the reference: it now aims at the record
      subst hne
      have hxa : x.aim = .forward p := by simpa [Loader.aimOf, hself, hnone, hfw] using ha.symm
      simp [Loader.aimOf, hself, hxa, lookup_settle, Catalog.lookup_declare hi.builder hdecl]
    · -- any other pointer: the reference to another name is another placeholder
      have hxa : x.aim ≠ .forward p := fun h =>
        hne (hi.forwards_inj (forwards_of_aimOf (h ▸ ha)) hfw)
      have hc : ({ l with catalog := c₁.settle l.builder p r,
                          forwards := l.forwards.filter (·.1 ≠ rc.name) } : Loader).aimOf
          r₀ owner t = l.aimOf r₀ owner t :=
        aimOf_congr (by rw [lookup_settle, Catalog.lookup_declare hi.builder hdecl, if_neg hne])
          (by rw [lookup_filter_ne, if_neg hne]) r₀ owner
      rw [hc, if_neg hxa]
      exact ha

/-- **Declaring a record that no forward reference waits on** keeps the invariant. -/
lemma Inv.declare_new (hi : l.Inv done rs refs)
    (hdecl : l.catalog.declare l.builder rc.name bases decls = .ok (c₁, r))
    (hfw : l.forwards.lookup rc.name = none)
    (hbases : ∀ bn ∈ rc.bases, ∃ t, l.catalog.lookup l.builder bn = some t ∧ some t ∈ bases)
    (hsends : ∀ fc ∈ rc.fields, fc.pointer ≠ "" →
      ∃ tgt, Declaration.pointer fc.name tgt ∈ decls ∧ l.Sends rc.name fc.pointer tgt) :
    { l with catalog := c₁ }.Inv (done ++ [rc]) (rs ++ [r]) refs := by
  refine ⟨.declare hi.reachable hi.builder hdecl, ?_, ?_, hi.names_declare hdecl, ?_, ?_, ?_, ?_,
    hi.inherits_declare hdecl hbases⟩
  · rw [Catalog.isSome_builder?_declare hdecl]
    exact hi.builder
  · rw [Catalog.declared_declare hi.builder hdecl, hi.declared]
  · rw [← hi.forwards_declare]
    refine (List.filter_eq_self.mpr fun t ht => ?_).symm
    have hne : t ≠ rc.name := by
      rintro rfl
      rw [List.mem_reverse, ← isSome_lookup_iff, hfw] at ht
      cases ht
    simpa using hne
  · intro t p h
    obtain ⟨ph, hph, hb, hres, hname⟩ := hi.forward_open t p h
    obtain ⟨ph', hph', hb', hres', hname'⟩ := Catalog.placeholder?_declare hdecl hph
    exact ⟨ph', hph', hb'.trans hb, hres'.trans hres, hname'.trans hname⟩
  · rw [Catalog.pending_declare hdecl]
    exact hi.pending
  · intro rc₀ r₀ hmem fc hfc hptr
    obtain ⟨pf, x, hpf, hx, ha⟩ := hi.bound_of_declare hdecl hsends rc₀ r₀ hmem fc hfc hptr
    exact ⟨pf, x, hpf, hx, aimOf_declare_new hi.builder hdecl hfw ha⟩

/-- **Declaring a record for the forward reference to its name** keeps the invariant: the
pointers that waited on the reference now aim at the record. -/
lemma Inv.declare_for (hi : l.Inv done rs refs) {p : PlaceholderId}
    (hdecl : l.catalog.declareFor l.builder (some p) rc.name bases decls = .ok (c₂, r))
    (hfw : l.forwards.lookup rc.name = some p)
    (hbases : ∀ bn ∈ rc.bases, ∃ t, l.catalog.lookup l.builder bn = some t ∧ some t ∈ bases)
    (hsends : ∀ fc ∈ rc.fields, fc.pointer ≠ "" →
      ∃ tgt, Declaration.pointer fc.name tgt ∈ decls ∧ l.Sends rc.name fc.pointer tgt) :
    { l with catalog := c₂, forwards := l.forwards.filter (·.1 ≠ rc.name) }.Inv
      (done ++ [rc]) (rs ++ [r]) refs := by
  obtain ⟨q, -, c₁, hq, -, -, -, hdecl₁, rfl⟩ := Catalog.declareFor_eq_ok hdecl
  cases hq
  have hreg := RecordLayout.Inv.of_reachable hi.reachable
  refine ⟨.declareFor hi.reachable hi.builder hdecl, ?_, ?_, ?_, ?_, ?_, ?_, ?_,
    (hi.inherits_declare hdecl₁ hbases).congr (fun t => lookup_settle _ t)
      (fun r₀ => Catalog.record?_settle _ _ _ r₀)⟩
  · rw [isSome_builder?_settle, Catalog.isSome_builder?_declare hdecl₁]
    exact hi.builder
  · rw [declared_settle, Catalog.declared_declare hi.builder hdecl₁, hi.declared]
  · rw [recordName_settle]
    exact hi.names_declare hdecl₁
  · rw [← hi.forwards_declare, List.filter_reverse, List.filter_map]
    rfl
  · intro t p' h
    rw [lookup_filter_ne] at h
    split_ifs at h with hne
    obtain ⟨ph', hph', hb', hres', hname'⟩ := hi.forward_open t p' h
    have hpp : p ≠ p' := fun heq => hne (hi.forwards_inj h (heq ▸ hfw))
    obtain ⟨ph'', hph'', hb'', hres'', hname''⟩ := Catalog.placeholder?_declare hdecl₁ hph'
    refine ⟨ph'', ?_, hb''.trans hb', hres''.trans hres', hname''.trans hname'⟩
    rw [Catalog.placeholder?_settle, if_neg hpp]
    exact hph''
  · -- the forward reference is the one placeholder that closes
    have hvals : (l.forwards.map Prod.snd).Nodup := by
      have h := (hreg.unresolved l.builder).nodup
      rwa [hi.pending, List.nodup_reverse] at h
    rw [pending_settle, if_pos rfl, Catalog.pending_declare hdecl₁, hi.pending]
    exact erase_reverse_snd hi.keys_nodup hvals hfw
  · intro rc₀ r₀ hmem fc hfc hptr
    obtain ⟨pf, x, hpf, hx, ha⟩ := hi.bound_of_declare hdecl₁ hsends rc₀ r₀ hmem fc hfc hptr
    obtain ⟨x', hx', ha'⟩ := hi.aimOf_declare_for hdecl₁ hfw hx ha
    exact ⟨pf, x', (pointerField_congr (Catalog.record?_settle _ _ _ r₀) fc.name).trans hpf, hx',
      ha'⟩

end Declare

/-- **Declaring a record of the file keeps the invariant**, with the references of its fields
read, in the same builder. -/
lemma Inv.declare {done : List RecordConfig} {rs : List RecordId} {refs : List String}
    (hi : l.Inv done rs refs) {i : Nat} {rc : RecordConfig} {r : RecordId}
    (h : l.declare i rc = .ok (l', r)) :
    l'.Inv (done ++ [rc]) (rs ++ [r]) (refs ++ references rc.name rc.fields) ∧
      l'.builder = l.builder := by
  obtain ⟨bases, l₁, decls, hbases, hfields, hcase⟩ := declare_eq_ok h
  obtain ⟨hi₁, hg, hsends⟩ := hi.fields hfields
  -- reading the fields kept the records the bases name
  have hbases₁ : ∀ bn ∈ rc.bases, ∃ t, l₁.catalog.lookup l₁.builder bn = some t ∧ some t ∈ bases :=
    fun bn hbn => (hbases bn hbn).imp fun t ht => ⟨(hg.lookup bn).trans ht.1, ht.2⟩
  rcases hcase with ⟨hfw, c₂, hdecl, rfl⟩ | ⟨p, c₂, hfw, hdecl, rfl⟩
  · exact ⟨hi₁.declare_new hdecl hfw hbases₁ hsends, hg.builder⟩
  · exact ⟨hi₁.declare_for hdecl hfw hbases₁ hsends, hg.builder⟩

/-- **Declaring the records of a file one after another keeps the invariant**, with the
references of all their fields read, in the same builder. -/
lemma Inv.declareAll : ∀ {records : List RecordConfig} {l l' : Loader} {i : Nat}
    {done : List RecordConfig} {rs rs' : List RecordId} {refs : List String},
    l.Inv done rs refs → l.declareAll i records = .ok (l', rs') →
    l'.Inv (done ++ records) (rs ++ rs')
        (refs ++ records.flatMap fun rc => references rc.name rc.fields) ∧
      l'.builder = l.builder
  | [], l, l', i, done, rs, rs', refs, hi, h => by
    cases h
    simpa using hi
  | rc :: rest, l, l', i, done, rs, rs', refs, hi, h => by
    simp only [Loader.declareAll, bind_eq_ok_iff] at h
    obtain ⟨⟨l₁, r⟩, hdecl, ⟨l₂, rs₂⟩, hrest, h⟩ := h
    cases h
    obtain ⟨hi₁, hb₁⟩ := hi.declare hdecl
    obtain ⟨hi₂, hb₂⟩ := Inv.declareAll hi₁ hrest
    refine ⟨?_, hb₂.trans hb₁⟩
    simpa [List.append_assoc] using hi₂

/-- A file starts in a new builder of a reachable catalog with nothing declared or referenced. -/
lemma inv_start {c : Catalog} (hc : Reachable c) (abi : Abi) :
    ({ catalog := (c.addBuilder abi).1, builder := (c.addBuilder abi).2 } : Loader).Inv [] [] []
    where
  reachable := .newBuilder abi hc
  builder := by simp [Catalog.addBuilder, Catalog.builder?]
  declared := by
    rw [declared_addBuilder]
    exact if_pos rfl
  names := rfl
  forwards := rfl
  forward_open := by simp
  pending := by
    rw [pending_addBuilder]
    exact if_pos rfl
  aimed := by simp [Aimed]
  inherited := by simp [Inherits]

lemma build_eq_of_declareAll {c : Catalog} {config : Config} {hasTarget : Bool} (path : String)
    {abi abi' : Abi} (habi : (if hasTarget then targetAbi config.target else .ok abi) = .ok abi')
    {l : Loader} {rs : List RecordId}
    (hrun : Loader.declareAll { catalog := (c.addBuilder abi').1, builder := (c.addBuilder abi').2 }
      0 config.records = .ok (l, rs)) :
    build c path abi ⟨config, [], hasTarget⟩ =
      ((l.catalog.finish (c.addBuilder abi').2).mapError (tag path)).map
        fun _ => (l.catalog, ⟨path, (c.addBuilder abi').2, abi', rs⟩) := by
  cases hasTarget with
  | false =>
    simp only [Bool.false_eq_true, if_false, Except.ok.injEq] at habi
    subst habi
    simp only [build, List.isEmpty_nil, Bool.not_true, Bool.false_eq_true, if_false, pure_bind]
    rw [hrun]
    rfl
  | true =>
    simp only [if_true] at habi
    simp only [build, List.isEmpty_nil, Bool.not_true, Bool.false_eq_true, if_false, if_true]
    rw [habi, show (Except.ok abi' : Except Failure Abi).mapError (tag path) = pure abi' from rfl,
      pure_bind, hrun]
    rfl

section Finish

variable {records : List RecordConfig} {rs : List RecordId}
  (hi : l.Inv records rs (records.flatMap fun rc => references rc.name rc.fields))
include hi

/-- Once the whole file is read, the open forward references are to the dangling names. -/
lemma Inv.forwards_dangling : (l.forwards.map Prod.fst).reverse = danglingNames records :=
  hi.forwards

/-- **Finishing the file's builder** fails exactly while a name is dangling, and lists the
dangling names. -/
lemma Inv.finish : l.catalog.finish l.builder =
    if danglingNames records = [] then .ok ()
    else .error (Failure.danglingForward (danglingNames records)) := by
  have hd : (l.catalog.pending l.builder).map l.catalog.placeholderName = danglingNames records :=
    hi.pending_names.trans hi.forwards_dangling
  unfold Catalog.finish
  cases hp : l.catalog.pending l.builder with
  | nil =>
    rw [hp] at hd
    rw [← hd]
    rfl
  | cons p ps =>
    rw [hp] at hd
    rw [← hd, if_neg (by simp)]

/-- With no dangling name, no forward reference is left open. -/
lemma Inv.forwards_eq_nil (hnil : danglingNames records = []) : l.forwards = [] := by
  have h := hi.forwards_dangling
  rwa [hnil, List.reverse_eq_nil_iff, List.map_eq_nil_iff] at h

/-- **With no dangling name, every own pointer field is linked**: to its record for `self` and
the record's own name, and otherwise to the record of the file with the name it gives. -/
lemma Inv.linked (hnil : danglingNames records = []) {rc : RecordConfig} {r : RecordId}
    (hmem : (rc, r) ∈ records.zip rs) {fc : FieldConfig} (hfc : fc ∈ rc.fields)
    (hptr : fc.pointer ≠ "") :
    ∃ pf bd, l.catalog.pointerField r fc.name = .ok pf ∧ l.catalog.binding? pf.binding = some bd ∧
      if fc.pointer = "self" ∨ fc.pointer = rc.name then l.catalog.target bd = .ok r
      else ∃ rc' r', (rc', r') ∈ records.zip rs ∧ rc'.name = fc.pointer ∧
        l.catalog.target bd = .ok r' := by
  obtain ⟨pf, x, hpf, hx, haim⟩ := hi.aimed rc r hmem fc hfc hptr
  refine ⟨pf, x, hpf, hx, ?_⟩
  split_ifs with hself
  · have hxa : x.aim = .self r := by simpa [Loader.aimOf, hself] using haim.symm
    simp [Catalog.target, hxa]
  · -- no forward reference is open, so the builder found the name
    cases hlook : l.catalog.lookup l.builder fc.pointer with
    | none => simp [Loader.aimOf, hself, hlook, hi.forwards_eq_nil hnil] at haim
    | some r' =>
      have hxa : x.aim = .record r' := by simpa [Loader.aimOf, hself, hlook] using haim.symm
      obtain ⟨hr', hname⟩ := ((RecordLayout.Inv.of_reachable hi.reachable).lookup _ _ _).mp hlook
      rw [hi.declared] at hr'
      obtain ⟨rc', hz, hrc'⟩ := exists_mem_zip_of_map_eq hi.names hr'
      exact ⟨rc', r', hz, hrc'.trans hname, by simp [Catalog.target, hxa]⟩

end Finish

end Loader

/-- **Building a schema file whose records all declare.**  When a pointer names, other than by
`self` or its own record's name, no record of the file, the build fails with the dangling
names, each once, in order of first reference.  Otherwise it succeeds: the file's records are
the builder's, in file order, no forward reference is left open, each pointer a record
declares links to that record for `self` and its own name, and otherwise to the record of the
file with the name it gives, declared before or after it, and each record shares the pointer
fields of its bases, bindings and so targets included. -/
theorem build_resolves_pointers {c : Catalog} (hc : Reachable c) {config : Config}
    {hasTarget : Bool} {path : String} {abi abi' : Abi}
    (habi : (if hasTarget then targetAbi config.target else .ok abi) = .ok abi')
    (hrun : ∃ l rs, Loader.declareAll
      { catalog := (c.addBuilder abi').1, builder := (c.addBuilder abi').2 } 0 config.records =
        .ok (l, rs)) :
    ((∃ rc ∈ config.records, ∃ fc ∈ rc.fields, Dangles config.records rc fc) →
      build c path abi ⟨config, [], hasTarget⟩ =
        .error (tag path (Failure.danglingForward (danglingNames config.records)))) ∧
    ((¬ ∃ rc ∈ config.records, ∃ fc ∈ rc.fields, Dangles config.records rc fc) →
      ∃ c' s, build c path abi ⟨config, [], hasTarget⟩ = .ok (c', s) ∧
        c'.declared s.builder = s.records ∧
        s.records.map c'.recordName = config.records.map (·.name) ∧
        c'.pending s.builder = [] ∧
        (∀ rc r, (rc, r) ∈ config.records.zip s.records → ∀ fc ∈ rc.fields, fc.pointer ≠ "" →
          ∃ pf bd, c'.pointerField r fc.name = .ok pf ∧ c'.binding? pf.binding = some bd ∧
            if fc.pointer = "self" ∨ fc.pointer = rc.name then c'.target bd = .ok r
            else ∃ rc' r', (rc', r') ∈ config.records.zip s.records ∧ rc'.name = fc.pointer ∧
              c'.target bd = .ok r') ∧
        Inherits c' s.builder config.records s.records) := by
  obtain ⟨l, rs, hrun⟩ := hrun
  obtain ⟨hi, hb⟩ := (Loader.inv_start hc abi').declareAll hrun
  simp only [List.nil_append] at hi
  have hb' : l.builder = (c.addBuilder abi').2 := hb
  have hbuild := Loader.build_eq_of_declareAll path habi hrun
  rw [← hb', hi.finish] at hbuild
  constructor
  · intro hd
    rw [hbuild, if_neg (mt danglingNames_eq_nil_iff.mp (not_not.mpr hd))]
    rfl
  · intro hnd
    have hnil := danglingNames_eq_nil_iff.mpr hnd
    refine ⟨l.catalog, ⟨path, l.builder, abi', rs⟩, ?_, hi.declared, hi.names, ?_,
      fun rc r hmem fc hfc hptr => hi.linked hnil hmem hfc hptr, hi.inherited⟩
    · rw [hbuild, if_pos hnil]
      rfl
    · rw [hi.pending, hi.forwards_eq_nil hnil]
      rfl

/-- A list whose head points forward to a node, a node that points to the next node by its own
name and holds a value, and a tagged node built on the node. -/
def nodeList : Config where
  records :=
    [{ name := "list", fields := [{ name := "head", pointer := "node" }] },
     { name := "node",
       fields := [{ name := "next", pointer := "node" }, { name := "value", type := "uint32_t" }] },
     { name := "tagged", bases := ["node"], fields := [{ name := "tag", type := "uint8_t" }] }]

/-- The list's head is declared before the node it points to, and the build links it. -/
theorem build_resolves_pointers_nodeList :
    Reachable {} ∧
      (if false then targetAbi nodeList.target else .ok Abi.native64) = .ok Abi.native64 ∧
      (∃ l rs, Loader.declareAll
        { catalog := (({} : Catalog).addBuilder Abi.native64).1,
          builder := (({} : Catalog).addBuilder Abi.native64).2 } 0 nodeList.records =
          .ok (l, rs)) ∧
      ((∃ rc ∈ nodeList.records, ∃ fc ∈ rc.fields, Dangles nodeList.records rc fc) →
        build {} "" Abi.native64 ⟨nodeList, [], false⟩ =
          .error (tag "" (Failure.danglingForward (danglingNames nodeList.records)))) ∧
      ((¬ ∃ rc ∈ nodeList.records, ∃ fc ∈ rc.fields, Dangles nodeList.records rc fc) →
        ∃ c' s, build {} "" Abi.native64 ⟨nodeList, [], false⟩ = .ok (c', s) ∧
          c'.declared s.builder = s.records ∧
          s.records.map c'.recordName = nodeList.records.map (·.name) ∧
          c'.pending s.builder = [] ∧
          (∀ rc r, (rc, r) ∈ nodeList.records.zip s.records → ∀ fc ∈ rc.fields, fc.pointer ≠ "" →
            ∃ pf bd, c'.pointerField r fc.name = .ok pf ∧ c'.binding? pf.binding = some bd ∧
              if fc.pointer = "self" ∨ fc.pointer = rc.name then c'.target bd = .ok r
              else ∃ rc' r', (rc', r') ∈ nodeList.records.zip s.records ∧
                rc'.name = fc.pointer ∧ c'.target bd = .ok r') ∧
          Inherits c' s.builder nodeList.records s.records) :=
  ⟨.empty, rfl, ⟨_, _, rfl⟩, build_resolves_pointers .empty rfl ⟨_, _, rfl⟩⟩

end Schema

end RecordLayout
