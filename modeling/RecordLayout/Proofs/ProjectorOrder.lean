import Mathlib
import RecordLayout.Proofs.Canonical

/-!
# The order of the record types a projector makes

A projector makes the WIT type of a record after the types of the records it holds by value, and
remembers each record it made a type for, so that a later call answers from memory.  A call that
fails keeps the types its nested records got before the failure.

* `Projector.Ordered` is what the projector keeps: each record remembered once, each type made
  remembered for one record, and the type of a record referring to each record it holds by value
  (`Refers`) through a type made before it.  From it, records held by value are remembered no
  later than their holders (`Projector.Ordered.held`), so a record on a cycle of records held by
  value is never remembered (`Projector.Ordered.not_mem_of_cycle`).
* `Projector.projectFields_step` and `Projector.projectWith_step`: projecting fields, and one
  projection, keep it (`Projector.Step`), by induction on the fields and on the fuel.
* **`Projector.run_defs_in_order`**: after any calls of `project` on a new projector, the types
  come in order (`Projector.DefsInOrder`).
-/

namespace RecordLayout

namespace Wit

/-- A field of a record beside the field of its WIT type made as type `i`: a record held by value
is referred to through its own type, made before `i`; any other field refers to no type. -/
def Refers (made : List (RecordId × Nat)) (i : Nat) (f : FieldInfo) (x : String × WitType) :
    Prop :=
  (∀ r, f.storage.record? = some r → ∃ j, x.2 = .defined j ∧ (r, j) ∈ made ∧ j < i) ∧
    (f.storage.record? = none → ∀ j, x.2 ≠ .defined j)

lemma Refers.mono {made made' : List (RecordId × Nat)} {i i' : Nat} {f : FieldInfo}
    {x : String × WitType} (h : Refers made i f x) (hmade : made ⊆ made') (hi : i ≤ i') :
    Refers made' i' f x := by
  refine ⟨fun r hr => ?_, h.2⟩
  obtain ⟨j, hx, hj, hlt⟩ := h.1 r hr
  exact ⟨j, hx, hmade hj, by omega⟩

/-- Each element of the left list of a `Forall₂` is related to an element of the right one. -/
lemma forall₂_exists_right {α β : Type} {R : α → β → Prop} {l₁ : List α} {l₂ : List β}
    (h : List.Forall₂ R l₁ l₂) {a : α} (ha : a ∈ l₁) : ∃ b ∈ l₂, R a b := by
  induction h with
  | nil => cases ha
  | cons hab _ ih =>
    rcases List.mem_cons.mp ha with rfl | ha
    · exact ⟨_, List.mem_cons_self, hab⟩
    · obtain ⟨b, hb, hr⟩ := ih ha
      exact ⟨b, List.mem_cons_of_mem _ hb, hr⟩

/-- Each element of the right list of a `Forall₂` is related to an element of the left one. -/
lemma forall₂_exists_left {α β : Type} {R : α → β → Prop} {l₁ : List α} {l₂ : List β}
    (h : List.Forall₂ R l₁ l₂) {b : β} (hb : b ∈ l₂) : ∃ a ∈ l₁, R a b := by
  induction h with
  | nil => cases hb
  | cons hab _ ih =>
    rcases List.mem_cons.mp hb with rfl | hb
    · exact ⟨_, List.mem_cons_self, hab⟩
    · obtain ⟨a, ha, hr⟩ := ih hb
      exact ⟨a, List.mem_cons_of_mem _ ha, hr⟩

namespace Projector

/-- **A projector whose record types come in order**, for a catalog `c` that holds every record
it was asked for. -/
structure Ordered (c : Catalog) (p : Projector) : Prop where
  /-- No record is remembered twice. -/
  keys_nodup : (p.made.map Prod.fst).Nodup
  /-- Each type made is remembered for one record, the newest first. -/
  indices : p.made.map Prod.snd = (List.range p.defs.size).reverse
  /-- The type made for a record has a field for each of the record's, and refers to each
  record held by value through that record's type, made before it. -/
  refers : ∀ r i, (r, i) ∈ p.made → ∃ rec d, c.record? r = some rec ∧ p.defs[i]? = some d ∧
    List.Forall₂ (Refers p.made i) rec.layout.fields d.fields

/-- A projector grows: it keeps what it remembers and every type it made. -/
structure Grows (p p' : Projector) : Prop where
  made : p.made ⊆ p'.made
  defs : ∀ (i : Nat) (d : WitRecord), p.defs[i]? = some d → p'.defs[i]? = some d

lemma Grows.refl (p : Projector) : Grows p p := ⟨List.Subset.refl _, fun _ _ h => h⟩

lemma Grows.trans {p p' p'' : Projector} (h : Grows p p') (h' : Grows p' p'') : Grows p p'' :=
  ⟨List.Subset.trans h.made h'.made, fun i d hd => h'.defs i d (h.defs i d hd)⟩

variable {c : Catalog} {p : Projector}

lemma ordered_empty : Ordered c {} :=
  ⟨List.nodup_nil, rfl, fun _ _ h => by cases h⟩

/-- A remembered type is one the projector made. -/
lemma Ordered.lt_size (h : p.Ordered c) {r : RecordId} {i : Nat} (hm : (r, i) ∈ p.made) :
    i < p.defs.size := by
  have hi : i ∈ p.made.map Prod.snd := List.mem_map_of_mem (f := Prod.snd) hm
  rw [h.indices, List.mem_reverse, List.mem_range] at hi
  exact hi

/-- A record is remembered with one type. -/
lemma Ordered.index_unique (h : p.Ordered c) {r : RecordId} {i j : Nat} (hi : (r, i) ∈ p.made)
    (hj : (r, j) ∈ p.made) : i = j :=
  (Prod.mk.inj (List.inj_on_of_nodup_map h.keys_nodup hi hj rfl)).2

/-- A record held by value in a remembered one is remembered with a type made before. -/
lemma Ordered.field_lt (h : p.Ordered c) {r s : RecordId} {i : Nat} (hm : (r, i) ∈ p.made)
    {rec : Record} (hrec : c.record? r = some rec) {f : FieldInfo} (hf : f ∈ rec.layout.fields)
    (hs : f.storage.record? = some s) : ∃ j < i, (s, j) ∈ p.made := by
  obtain ⟨rec', d, hrec', -, hfields⟩ := h.refers _ _ hm
  rw [hrec] at hrec'
  cases hrec'
  obtain ⟨x, -, hx⟩ := forall₂_exists_right hfields hf
  obtain ⟨j, -, hj, hlt⟩ := hx.1 s hs
  exact ⟨j, hlt, hj⟩

/-- **Records held by value come first**: a record held, at any depth, by a remembered one is
remembered with a type made no later. -/
lemma Ordered.held (h : p.Ordered c) {s t : RecordId} (hheld : HeldBy c s t) {k : Nat}
    (hs : (s, k) ∈ p.made) : ∃ k' ≤ k, (t, k') ∈ p.made := by
  induction hheld with
  | refl => exact ⟨k, le_rfl, hs⟩
  | field _ hrec hf ht ih =>
    obtain ⟨k₁, hk₁, hm₁⟩ := ih
    obtain ⟨j, hlt, hj⟩ := h.field_lt hm₁ hrec hf ht
    exact ⟨j, by omega, hj⟩

/-- **A record on a cycle of records held by value is never remembered**: its type would have to
be made before itself. -/
lemma Ordered.not_mem_of_cycle (h : p.Ordered c) {r s : RecordId} {rec : Record} {f : FieldInfo}
    (hrec : c.record? r = some rec) (hf : f ∈ rec.layout.fields) (hs : f.storage.record? = some s)
    (hsr : HeldBy c s r) (i : Nat) : (r, i) ∉ p.made := by
  intro hm
  obtain ⟨k, hlt, hk⟩ := h.field_lt hm hrec hf hs
  obtain ⟨k', hk', hm'⟩ := h.held hsr hk
  have := h.index_unique hm hm'
  omega

/-- Making a type keeps what a projector made and remembered. -/
lemma Grows.push (p : Projector) (r : RecordId) (w : WitRecord) :
    Grows p { defs := p.defs.push w, made := (r, p.defs.size) :: p.made } := by
  refine ⟨List.subset_cons_self _ _, fun i d hd => ?_⟩
  have hlt : i < p.defs.size := (Array.getElem?_eq_some_iff.mp hd).1
  rw [Array.getElem?_push, if_neg (by omega), hd]

/-- **Making the type of a record not yet remembered**, whose fields' types refer to types made
before, keeps the types in order. -/
lemma Ordered.push (hp : p.Ordered c) {r : RecordId} {rec : Record} (hrec : c.record? r = some rec)
    (hfresh : ∀ i, (r, i) ∉ p.made) {name : String} {zs : List (String × WitType)}
    (hrefers : List.Forall₂ (Refers p.made p.defs.size) rec.layout.fields zs) :
    Ordered c { defs := p.defs.push ⟨name, zs⟩, made := (r, p.defs.size) :: p.made } := by
  have hgrow := Grows.push p r ⟨name, zs⟩
  refine ⟨?_, ?_, fun r' i hm => ?_⟩
  · refine List.nodup_cons.mpr ⟨fun hr => ?_, hp.keys_nodup⟩
    obtain ⟨⟨r'', i⟩, hm, rfl⟩ := List.mem_map.mp hr
    exact hfresh i hm
  · rw [List.map_cons, hp.indices, Array.size_push, List.range_succ, List.reverse_append]
    rfl
  · rcases List.mem_cons.mp hm with hm | hm
    · -- the new type, made last
      obtain ⟨rfl, rfl⟩ := Prod.mk.inj hm
      exact ⟨rec, ⟨name, zs⟩, hrec, by simp,
        hrefers.imp fun f x h => h.mono hgrow.made le_rfl⟩
    · -- a type made before keeps its fields
      obtain ⟨rec', d, hrec', hd, hfields⟩ := hp.refers r' i hm
      exact ⟨rec', d, hrec', hgrow.defs i d hd, hfields.imp fun f x h => h.mono hgrow.made le_rfl⟩

/-- **What one projection does** to a projector whose types come in order, projecting record `r`
with outcome `out`: the types stay in order, the projector grows, every record it newly
remembers is held by `r`, and a success remembers `r` with the type it answers. -/
structure Step (c : Catalog) (r : RecordId) (p : Projector) (out : Except Failure Nat × Projector) :
    Prop where
  ordered : out.2.Ordered c
  grows : Grows p out.2
  held : ∀ t j, (t, j) ∈ out.2.made → (t, j) ∈ p.made ∨ HeldBy c r t
  made : ∀ i, out.1 = .ok i → (r, i) ∈ out.2.made

/-- A call that fails and leaves the projector as it was is a step. -/
lemma Step.of_error (hp : p.Ordered c) (r : RecordId) (e : Failure) : Step c r p (.error e, p) :=
  ⟨hp, Grows.refl p, fun _ _ hm => .inl hm, fun _ h => by cases h⟩

/-- The type of a scalar field is no record type. -/
lemma scalarType_ne_defined (k : StorageKind) (j : Nat) : (scalarType k).getD .u8 ≠ .defined j := by
  cases k <;> simp [scalarType]

section Fields

variable {rec : Record} {nested : Projector → RecordId → Except Failure Nat × Projector}
  (hnested : ∀ f ∈ rec.layout.fields, ∀ s, f.storage.record? = some s → ∀ p₀ : Projector,
    p₀.Ordered c → Step c s p₀ (nested p₀ s))
include hnested

/-- **Projecting the fields of a record**, each record held by value through `nested`, keeps the
types in order and grows the projector; every record newly remembered is held by a record that a
field holds, and on success the fields' types refer to the types of the records they hold. -/
lemma projectFields_step {fields : List FieldInfo} (hsub : ∀ f ∈ fields, f ∈ rec.layout.fields) :
    ∀ {p p' : Projector} {seen : List (String × String)} {acc : List (String × WitType)}
      {res : Except Failure (List (String × WitType))}, p.Ordered c →
      projectFields rec nested p seen acc fields = (res, p') →
      p'.Ordered c ∧ Grows p p' ∧
      (∀ t j, (t, j) ∈ p'.made → (t, j) ∈ p.made ∨
        ∃ f ∈ fields, ∃ s, f.storage.record? = some s ∧ HeldBy c s t) ∧
      (∀ ys, res = .ok ys → ∃ zs, ys = acc.reverse ++ zs ∧
        List.Forall₂ (Refers p'.made p'.defs.size) fields zs) := by
  induction fields with
  | nil =>
    intro p p' seen acc res hp h
    simp only [projectFields, Prod.mk.injEq] at h
    obtain ⟨rfl, rfl⟩ := h
    refine ⟨hp, Grows.refl p, fun t j hm => .inl hm, fun ys hys => ⟨[], ?_, .nil⟩⟩
    cases hys
    simp
  | cons f rest ih =>
    intro p p' seen acc res hp h
    have hf : f ∈ rec.layout.fields := hsub f List.mem_cons_self
    have hsub' : ∀ g ∈ rest, g ∈ rec.layout.fields := fun g hg => hsub g (List.mem_cons_of_mem f hg)
    -- a failure before any nested projection leaves the projector as it was
    have hstop : ∀ e, (Except.error e, p) = (res, p') → p'.Ordered c ∧ Grows p p' ∧
        (∀ t j, (t, j) ∈ p'.made → (t, j) ∈ p.made ∨
          ∃ g ∈ f :: rest, ∃ s, g.storage.record? = some s ∧ HeldBy c s t) ∧
        (∀ ys, res = .ok ys → ∃ zs, ys = acc.reverse ++ zs ∧
          List.Forall₂ (Refers p'.made p'.defs.size) (f :: rest) zs) := by
      intro e he
      obtain ⟨rfl, rfl⟩ := Prod.mk.inj he
      exact ⟨hp, Grows.refl p, fun t j hm => .inl hm, fun ys hys => by cases hys⟩
    -- the rest projected after the field's type `t`, from projector `p₁`
    have hnext : ∀ (p₁ : Projector) (t : WitType) seen', p₁.Ordered c → Grows p p₁ →
        (∀ t' j, (t', j) ∈ p₁.made → (t', j) ∈ p.made ∨
          ∃ s, f.storage.record? = some s ∧ HeldBy c s t') →
        (∀ p'' : Projector, p''.Ordered c → Grows p₁ p'' →
          Refers p''.made p''.defs.size f (kebab f.external, t)) →
        projectFields rec nested p₁ seen' ((kebab f.external, t) :: acc) rest = (res, p') →
        p'.Ordered c ∧ Grows p p' ∧
        (∀ t j, (t, j) ∈ p'.made → (t, j) ∈ p.made ∨
          ∃ g ∈ f :: rest, ∃ s, g.storage.record? = some s ∧ HeldBy c s t) ∧
        (∀ ys, res = .ok ys → ∃ zs, ys = acc.reverse ++ zs ∧
          List.Forall₂ (Refers p'.made p'.defs.size) (f :: rest) zs) := by
      intro p₁ t seen' hp₁ hg₁ hheld₁ hrefers hrest
      obtain ⟨hp', hg', hheld', hok'⟩ := ih hsub' hp₁ hrest
      refine ⟨hp', hg₁.trans hg', fun t' j hm => ?_, fun ys hys => ?_⟩
      · rcases hheld' t' j hm with hm | ⟨g, hg, s, hs, hst⟩
        · rcases hheld₁ t' j hm with hm | ⟨s, hs, hst⟩
          · exact .inl hm
          · exact .inr ⟨f, List.mem_cons_self, s, hs, hst⟩
        · exact .inr ⟨g, List.mem_cons_of_mem f hg, s, hs, hst⟩
      · obtain ⟨zs, rfl, hzs⟩ := hok' ys hys
        exact ⟨(kebab f.external, t) :: zs, by simp, .cons (hrefers p' hp' hg') hzs⟩
    simp only [projectFields] at h
    split at h
    · exact hstop _ h
    · split at h
      · exact hstop _ h
      · split at h
        · -- a record held by value: its type comes from the nested projection
          rename_i r n sz al hs
          have hr : f.storage.record? = some r := by simp [hs, Storage.record?]
          split at h
          · rename_i i p₁ hn
            have hstep := hnested f hf r hr p hp
            rw [hn] at hstep
            refine hnext p₁ (.defined i) _ hstep.ordered hstep.grows
              (fun t j hm => (hstep.held t j hm).imp_right fun hrt => ⟨r, hr, hrt⟩)
              (fun p'' hp'' hg'' => ⟨fun r' hr' => ?_, fun hnone => by simp [hr] at hnone⟩) h
            rw [hr] at hr'
            cases hr'
            have hmade := hg''.made (hstep.made i rfl)
            exact ⟨i, rfl, hmade, hp''.lt_size hmade⟩
          · rename_i e p₁ hn
            have hstep := hnested f hf r hr p hp
            rw [hn] at hstep
            obtain ⟨rfl, rfl⟩ := Prod.mk.inj h
            exact ⟨hstep.ordered, hstep.grows,
              fun t j hm => (hstep.held t j hm).imp_right fun hrt => ⟨f, List.mem_cons_self, r, hr, hrt⟩,
              fun ys hys => by cases hys⟩
        · -- a pointer slot
          rename_i n a hs
          exact hnext p _ _ hp (Grows.refl p) (fun t j hm => .inl hm)
            (fun _ _ _ => ⟨fun r hr => by simp [hs, Storage.record?] at hr,
              fun _ j => by split <;> simp⟩) h
        · -- a scalar
          rename_i sc hs
          exact hnext p _ _ hp (Grows.refl p) (fun t j hm => .inl hm)
            (fun _ _ _ => ⟨fun r hr => by simp [hs, Storage.record?] at hr,
              fun _ j => scalarType_ne_defined sc.kind j⟩) h

end Fields

/-- **One projection keeps the types in order**, projecting with a catalog `d` that holds its
records as `c` does.  By induction on the fuel: nested records are projected with one level
less. -/
lemma projectWith_step {d : Catalog} (hd : ∀ t rec, d.record? t = some rec → c.record? t = some rec) :
    ∀ (fuel : Nat) (p : Projector) (r : RecordId), p.Ordered c → Step c r p (projectWith d fuel p r)
  | 0, p, r, hp => by
    simp only [projectWith]
    exact Step.of_error hp r _
  | fuel + 1, p, r, hp => by
    simp only [projectWith]
    split
    · -- projected before: answered from what the projector remembers
      rename_i i hi
      exact ⟨hp, Grows.refl p, fun t j hm => .inl hm,
        fun i' h => by cases h; exact mem_of_lookup_eq_some hi⟩
    · rename_i hnone
      split
      · exact Step.of_error hp r _
      · rename_i rec hrec
        have hrec' := hd r rec hrec
        have hnested : ∀ f ∈ rec.layout.fields, ∀ s, f.storage.record? = some s →
            ∀ p₀ : Projector, p₀.Ordered c → Step c s p₀ (projectWith d fuel p₀ s) :=
          fun _ _ s _ p₀ hp₀ => projectWith_step hd fuel p₀ s hp₀
        -- what the fields newly remember is held by the record
        have hheld : ∀ {p₁ : Projector}, (∀ t j, (t, j) ∈ p₁.made → (t, j) ∈ p.made ∨
            ∃ f ∈ rec.layout.fields, ∃ s, f.storage.record? = some s ∧ HeldBy c s t) →
            ∀ t j, (t, j) ∈ p₁.made → (t, j) ∈ p.made ∨ HeldBy c r t :=
          fun hheld₁ t j hm => (hheld₁ t j hm).imp_right fun ⟨_, hf, _, hs, hst⟩ =>
            HeldBy.trans (.field .refl hrec' hf hs) hst
        split
        · rename_i fields p₁ hfields
          obtain ⟨hp₁, hg₁, hheld₁, hok₁⟩ := projectFields_step hnested (fun _ hf => hf) hp hfields
          obtain ⟨zs, hzs, hrefers⟩ := hok₁ fields rfl
          rw [List.reverse_nil, List.nil_append] at hzs
          subst hzs
          -- the record was not remembered before, and it is on no cycle, so its fields did
          -- not remember it either
          have hfresh : ∀ i, (r, i) ∉ p₁.made := by
            intro i hm
            rcases hheld₁ r i hm with hm | ⟨f, hf, s, hs, hsr⟩
            · simpa using List.lookup_eq_none_iff.mp hnone (r, i) hm
            · exact hp₁.not_mem_of_cycle hrec' hf hs hsr i hm
          refine ⟨hp₁.push hrec' hfresh hrefers, hg₁.trans (Grows.push p₁ r _),
            fun t j hm => ?_, fun i h => ?_⟩
          · rcases List.mem_cons.mp hm with hm | hm
            · obtain ⟨rfl, rfl⟩ := Prod.mk.inj hm
              exact .inr .refl
            · exact hheld hheld₁ t j hm
          · cases h
            exact List.mem_cons_self
        · rename_i e p₁ hfields
          obtain ⟨hp₁, hg₁, hheld₁, -⟩ := projectFields_step hnested (fun _ hf => hf) hp hfields
          exact ⟨hp₁, hg₁, hheld hheld₁, fun i h => by cases h⟩

/-- A type refers only to types made before it. -/
lemma Ordered.defined_lt (hp : p.Ordered c) {i : Nat} {d : WitRecord} (hd : p.defs[i]? = some d)
    {x : String × WitType} (hx : x ∈ d.fields) {j : Nat} (hj : x.2 = .defined j) : j < i := by
  -- the type is the one made for some record
  have hi : i ∈ p.made.map Prod.snd := by
    rw [hp.indices, List.mem_reverse, List.mem_range]
    exact (Array.getElem?_eq_some_iff.mp hd).1
  obtain ⟨⟨r, i'⟩, hm, rfl⟩ := List.mem_map.mp hi
  obtain ⟨rec, d', -, hd', hfields⟩ := hp.refers r _ hm
  rw [hd] at hd'
  cases hd'
  obtain ⟨f, -, hfx⟩ := forall₂_exists_left hfields hx
  cases hs : f.storage.record? with
  | none => exact absurd hj (hfx.2 hs j)
  | some s =>
    obtain ⟨j', hj', -, hlt⟩ := hfx.1 s hs
    rw [hj] at hj'
    cases hj'
    exact hlt

/-- A remembered record is answered from memory, with its type, leaving the projector as it is. -/
lemma Ordered.project_of_mem (hp : p.Ordered c) {r : RecordId} {i : Nat} (hm : (r, i) ∈ p.made)
    (d : Catalog) : project d p r = (.ok i, p) := by
  have hlook : p.made.lookup r = some i := lookup_of_mem hp.keys_nodup hm
  simp [project, projectWith, hlook]

/-- The projectors that calls of `project` reach from `p`, each call with a catalog that holds
its records as `c` does. -/
inductive Run (c : Catalog) (p : Projector) : Projector → Prop
  | refl : Run c p p
  | project {q : Projector} {d : Catalog} (r : RecordId) : Run c p q →
      (∀ t rec, d.record? t = some rec → c.record? t = some rec) → Run c p (project d q r).2

lemma Run.trans {q q' : Projector} (h : Run c p q) (h' : Run c q q') : Run c p q' := by
  induction h' with
  | refl => exact h
  | project r _ hd ih => exact .project r ih hd

/-- **Along a run the types stay in order** and the projector grows. -/
lemma Run.ordered {q : Projector} (h : Run c p q) (hp : p.Ordered c) : q.Ordered c ∧ Grows p q := by
  induction h with
  | refl => exact ⟨hp, Grows.refl p⟩
  | @project q d r _ hd ih =>
    have hstep := projectWith_step hd (d.records.size + 1) q r ih.1
    exact ⟨hstep.ordered, ih.2.trans hstep.grows⟩

/-- **What the record types of a projector promise** after calls of `project`, for a catalog `c`
that holds every record asked for. -/
structure DefsInOrder (c : Catalog) (p : Projector) : Prop where
  /-- Each record is remembered once, each type made is remembered for one record, and a type
  refers to each record its record holds by value through that record's type, made before. -/
  ordered : p.Ordered c
  /-- A type refers only to types made before it, so the text of the types, written in the
  order they were made, names each record type after its definition. -/
  defined_before : ∀ (i : Nat) (d : WitRecord), p.defs[i]? = some d → ∀ x ∈ d.fields,
    ∀ j, x.2 = .defined j → j < i
  /-- A call that succeeds remembers the record with the type it answers. -/
  success_made : ∀ (d : Catalog) (r : RecordId) (i : Nat) (q : Projector),
    (∀ t rec, d.record? t = some rec → c.record? t = some rec) →
    project d p r = (.ok i, q) → (r, i) ∈ q.made
  /-- Every later call for a remembered record answers its type and changes nothing. -/
  later : ∀ (r : RecordId) (i : Nat), (r, i) ∈ p.made → ∀ (d : Catalog) (q : Projector),
    Run c p q → project d q r = (.ok i, q)

/-- **The record types a projector makes come in order.**  After any calls of `project` on a
new projector, in any order and with any records, some of them failing, with catalogs that hold
their records as `c` does: each record projected is remembered once, with the one type it got,
and each type made is one record's; every later call for it answers that type; and each type
refers to the record types it uses through types made before it, so the WIT text of the types
never names a record type before its definition. -/
theorem run_defs_in_order {c : Catalog} {p : Projector} (hp : Run c {} p) : DefsInOrder c p := by
  have hord := (hp.ordered ordered_empty).1
  refine ⟨hord, fun i d hd x hx j hj => hord.defined_lt hd hx hj,
    fun d r i q hd hproj => ?_, fun r i hm d q hq => ?_⟩
  · have hstep := projectWith_step hd (d.records.size + 1) p r hord
    rw [show projectWith d (d.records.size + 1) p r = (.ok i, q) from hproj] at hstep
    exact hstep.made i rfl
  · obtain ⟨hq', hgrow⟩ := hq.ordered hord
    exact hq'.project_of_mem (hgrow.made hm) d

/-- A record holding another by value twice, projected on a new projector. -/
theorem run_defs_in_order_shared :
    ∃ c₁ r₁ c₂ r₂, (({} : Catalog).addBuilder Abi.native64).1.declare ⟨0⟩ "Inner" []
        [.field "x" (.scalar .uint8)] = .ok (c₁, r₁) ∧
      c₁.declare ⟨0⟩ "Outer" [] [.field "a" (.record r₁ "Inner" 1 1),
        .field "b" (.record r₁ "Inner" 1 1)] = .ok (c₂, r₂) ∧
      Run c₂ {} (project c₂ {} r₂).2 ∧ DefsInOrder c₂ (project c₂ {} r₂).2 := by
  have hinner : (({} : Catalog).addBuilder Abi.native64).1.declare ⟨0⟩ "Inner" []
      [.field "x" (.scalar .uint8)] = .ok (_, _) := rfl
  refine ⟨_, _, _, _, hinner, rfl, ?_⟩
  exact ⟨.project _ .refl fun _ _ h => h, run_defs_in_order (.project _ .refl fun _ _ h => h)⟩

end Projector

end Wit

end RecordLayout
