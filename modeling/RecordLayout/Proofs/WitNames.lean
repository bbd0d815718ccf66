import Mathlib
import RecordLayout.Wit.Name

/-!
# WIT names in kebab normal form

`Wit.kebab` carries a name into WIT kebab case.  A list of characters is in *kebab normal form*
(`KebabForm`) when it holds no underscore and no ASCII capital, does not start with a dash, and
never has two dashes side by side.

The conversion is a loop over the characters with two pieces of state: the output so far (kept
last first) and whether the last character written was kept as it is.

* `KebabForm.snoc`: which character may follow a normal form.
* `kebabStep_state` is the step lemma: one character keeps the output in normal form, and the
  flag is only raised right after a character that is not a dash.  `foldl_kebabStep_state`
  carries it over a whole run.
* `kebabStep_of_form` and `foldl_kebabStep_of_form`: on an input already in normal form, every
  step writes its own character, so the run writes the input back.
* **`kebab_normal_form`**: every name converts to a valid string in normal form; a name is its
  own conversion exactly when it is in normal form; hence converting twice is converting once.
-/

namespace RecordLayout.Wit

/-- **Kebab normal form**: what the conversion writes, and exactly what it leaves alone. -/
structure KebabForm (cs : List Char) : Prop where
  no_underscore : '_' ∉ cs
  no_upper : ∀ c ∈ cs, c.isUpper = false
  no_leading_dash : cs.head? ≠ some '-'
  no_double_dash : cs.IsChain fun a b => ¬(a = '-' ∧ b = '-')

instance (cs : List Char) : Decidable (KebabForm cs) :=
  decidable_of_iff ('_' ∉ cs ∧ (∀ c ∈ cs, c.isUpper = false) ∧ cs.head? ≠ some '-' ∧
      cs.IsChain fun a b => ¬(a = '-' ∧ b = '-'))
    ⟨fun ⟨h₁, h₂, h₃, h₄⟩ => ⟨h₁, h₂, h₃, h₄⟩, fun h => ⟨h.1, h.2, h.3, h.4⟩⟩

/-- A character the conversion writes as a letter: no separator and no ASCII capital. -/
def Plain (c : Char) : Prop := c ≠ '_' ∧ c ≠ '-' ∧ c.isUpper = false

lemma isUpper_iff (c : Char) : c.isUpper = true ↔ 65 ≤ c.toNat ∧ c.toNat ≤ 90 := by
  simp only [Char.isUpper, ge_iff_le, decide_eq_true_eq, UInt32.le_iff_toNat_le]
  rfl

/-- The conversion's test for a capital is Lean's `Char.isUpper`. -/
lemma capital_iff (c : Char) : ('A' ≤ c ∧ c ≤ 'Z') ↔ c.isUpper = true := by
  rw [isUpper_iff, Char.le_def, Char.le_def, UInt32.le_iff_toNat_le, UInt32.le_iff_toNat_le]
  rfl

lemma plain_of_not_sep_upper {c : Char} (hs : ¬(c = '_' ∨ c = '-')) (hu : ¬('A' ≤ c ∧ c ≤ 'Z')) :
    Plain c :=
  ⟨fun h => hs (.inl h), fun h => hs (.inr h),
    Bool.eq_false_iff.2 fun h => hu ((capital_iff c).2 h)⟩

/-- The small letter written for an ASCII capital is plain. -/
lemma plain_lower {c : Char} (hu : 'A' ≤ c ∧ c ≤ 'Z') : Plain (Char.ofNat (c.toNat + 32)) := by
  have hc := (isUpper_iff c).1 ((capital_iff c).1 hu)
  have hn : (Char.ofNat (c.toNat + 32)).toNat = c.toNat + 32 := by
    rw [Char.toNat_ofNat, if_pos (by simp [Nat.isValidChar]; omega)]
  refine ⟨fun h => ?_, fun h => ?_, Bool.eq_false_iff.2 fun h => ?_⟩
  · have : c.toNat + 32 = 95 := hn ▸ congrArg Char.toNat h
    omega
  · have : c.toNat + 32 = 45 := hn ▸ congrArg Char.toNat h
    omega
  · rw [isUpper_iff, hn] at h
    omega

namespace KebabForm

lemma nil : KebabForm [] := ⟨List.not_mem_nil, by simp, by simp, .nil⟩

/-- **One more character** keeps the normal form when it is no underscore and no capital, and,
if it is a dash, follows a character that is not. -/
lemma snoc {l : List Char} {c : Char} (h : KebabForm l) (hu : c ≠ '_') (hup : c.isUpper = false)
    (hdash : c = '-' → ∃ d ∈ l.getLast?, d ≠ '-') : KebabForm (l ++ [c]) where
  no_underscore hx := by
    rcases List.mem_append.1 hx with hx | hx
    · exact h.no_underscore hx
    · exact hu (List.mem_singleton.1 hx).symm
  no_upper x hx := by
    rcases List.mem_append.1 hx with hx | hx
    · exact h.no_upper x hx
    · rw [List.mem_singleton.1 hx]
      exact hup
  no_leading_dash := by
    cases l with
    | nil =>
      intro hc
      obtain ⟨d, hd, -⟩ := hdash (by simpa using hc)
      simp at hd
    | cons a l => simpa using h.no_leading_dash
  no_double_dash := by
    refine List.isChain_append.2 ⟨h.no_double_dash, List.isChain_singleton c, ?_⟩
    intro x hx y hy hxy
    rw [List.head?_cons, Option.mem_def, Option.some.injEq] at hy
    subst hy
    obtain ⟨d, hd, hdd⟩ := hdash hxy.2
    rw [Option.mem_def] at hx hd
    rw [hx, Option.some.injEq] at hd
    exact hdd (hd ▸ hxy.1)

/-- A plain character may follow any normal form. -/
lemma snoc_plain {l : List Char} {c : Char} (h : KebabForm l) (hc : Plain c) :
    KebabForm (l ++ [c]) :=
  h.snoc hc.1 hc.2.2 fun hd => absurd hd hc.2.1

/-- A dash may follow a normal form that ends in something other than a dash. -/
lemma snoc_dash {l : List Char} {d : Char} (h : KebabForm l) (hl : l.getLast? = some d)
    (hd : d ≠ '-') : KebabForm (l ++ ['-']) :=
  h.snoc (by decide) rfl fun _ => ⟨d, hl, hd⟩

end KebabForm

/-- **What one step keeps**: the output written so far (last first) is in normal form, and the
flag that asks for a dash before a capital is raised only right after a character that is not a
dash. -/
structure KebabState (st : List Char × Bool) : Prop where
  form : KebabForm st.1.reverse
  after_letter : st.2 = true → ∃ d ∈ st.1.head?, d ≠ '-'

lemma kebabState_start : KebabState ([], false) := ⟨KebabForm.nil, by simp⟩

/-- The state after writing a plain character. -/
lemma KebabState.push_plain {out : List Char} {c : Char} (h : KebabForm out.reverse)
    (hc : Plain c) (flag : Bool) : KebabState (c :: out, flag) :=
  ⟨by simpa using h.snoc_plain hc, fun _ => ⟨c, rfl, hc.2.1⟩⟩

/-- **Step lemma**: one character keeps the conversion's state. -/
lemma kebabStep_state {st : List Char × Bool} (h : KebabState st) (c : Char) :
    KebabState (kebabStep st c) := by
  obtain ⟨out, prevLower⟩ := st
  by_cases hs : c = '_' ∨ c = '-'
  · -- a separator: a dash unless the output is empty or already ends in one
    refine ⟨?_, by simp [kebabStep, hs]⟩
    rcases out with _ | ⟨d, rest⟩
    · simpa [kebabStep, hs] using KebabForm.nil
    · by_cases hd : d = '-'
      · subst hd
        simpa [kebabStep, hs] using h.form
      · have hf := h.form.snoc_dash (by simp) hd
        simpa [kebabStep, hs, hd] using hf
  · by_cases hu : 'A' ≤ c ∧ c ≤ 'Z'
    · -- a capital: its small letter, after a dash when it follows a letter
      have hl := plain_lower hu
      cases prevLower with
      | false => simpa [kebabStep, hs, hu] using KebabState.push_plain h.form hl false
      | true =>
        obtain ⟨d, hd, hdd⟩ := h.after_letter rfl
        rcases out with _ | ⟨d', rest⟩
        · simp at hd
        · obtain rfl : d' = d := by simpa using hd
          have hf := h.form.snoc_dash (by simp) hdd
          have hst := KebabState.push_plain
            (show KebabForm ('-' :: d' :: rest).reverse by simpa using hf) hl false
          simpa [kebabStep, hs, hu] using hst
    · simpa [kebabStep, hs, hu] using
        KebabState.push_plain h.form (plain_of_not_sep_upper hs hu) true

/-- **Run lemma**: the state is kept over any input. -/
lemma foldl_kebabStep_state (cs : List Char) {st : List Char × Bool} (h : KebabState st) :
    KebabState (cs.foldl kebabStep st) := by
  induction cs generalizing st with
  | nil => exact h
  | cons c cs ih => exact ih (kebabStep_state h c)

/-- On an input in normal form, a step writes the character read. -/
lemma kebabStep_of_form {p r : List Char} {c : Char} (h : KebabForm (p ++ c :: r))
    (prevLower : Bool) : (kebabStep (p.reverse, prevLower) c).1 = c :: p.reverse := by
  have hc : c ∈ p ++ c :: r := by simp
  by_cases hs : c = '_' ∨ c = '-'
  · rcases hs with rfl | rfl
    · exact absurd hc h.no_underscore
    · -- a dash in a normal form has a letter before it
      rcases hp : p.reverse with _ | ⟨d, rest⟩
      · have : p = [] := List.reverse_eq_nil_iff.1 hp
        subst this
        exact absurd rfl h.no_leading_dash
      · have hlast : p.getLast? = some d := by
          rw [← List.head?_reverse, hp, List.head?_cons]
        have hd : d ≠ '-' := by
          intro hd
          have hch := (List.isChain_append.1 h.no_double_dash).2.2 d (by simpa using hlast)
            '-' (by simp)
          exact hch ⟨hd, rfl⟩
        simp [kebabStep, hd]
  · have hu : ¬('A' ≤ c ∧ c ≤ 'Z') := by
      rw [capital_iff, h.no_upper c hc]
      exact Bool.false_ne_true
    simp [kebabStep, hs, hu]

/-- On an input in normal form, the run writes the input back. -/
lemma foldl_kebabStep_of_form (r : List Char) :
    ∀ (p : List Char) (prevLower : Bool), KebabForm (p ++ r) →
      (r.foldl kebabStep (p.reverse, prevLower)).1 = (p ++ r).reverse := by
  induction r with
  | nil => intro p _ _; simp
  | cons c r ih =>
    intro p prevLower h
    rw [List.foldl_cons]
    have hstep : kebabStep (p.reverse, prevLower) c =
        ((p ++ [c]).reverse, (kebabStep (p.reverse, prevLower) c).2) :=
      Prod.ext (by simp [kebabStep_of_form h prevLower]) rfl
    rw [hstep, ih (p ++ [c]) _ (by simpa using h)]
    simp

lemma trimUnderscores_of_not_mem {cs : List Char} (h : '_' ∉ cs) : trimUnderscores cs = cs := by
  have hkeep : ∀ l : List Char, '_' ∉ l → l.dropWhile (· = '_') = l := by
    intro l hl
    cases l with
    | nil => rfl
    | cons a l => simp [show a ≠ '_' from fun ha => hl (by simp [ha])]
  unfold trimUnderscores
  rw [hkeep cs h, hkeep cs.reverse (by simpa using h), List.reverse_reverse]

/-- Every conversion is in normal form. -/
lemma kebab_form (s : String) : KebabForm (kebab s).toList := by
  have h := foldl_kebabStep_state (trimUnderscores s.toList) kebabState_start
  simpa [kebab] using h.form

/-- A name in normal form is its own conversion. -/
lemma kebab_of_form {t : String} (h : KebabForm t.toList) : kebab t = t := by
  have hrun := foldl_kebabStep_of_form t.toList [] false (by simpa using h)
  simp only [List.reverse_nil, List.nil_append] at hrun
  rw [kebab, trimUnderscores_of_not_mem h.no_underscore, hrun, List.reverse_reverse,
    String.ofList_toList]

/-- **The WIT name of every name is a valid string in kebab normal form; the names that are
their own WIT names are exactly those in normal form; so the conversion is idempotent.** -/
theorem kebab_normal_form (s t : String) :
    (kebab s).toByteArray.IsValidUTF8 ∧ KebabForm (kebab s).toList ∧
      (kebab t = t ↔ KebabForm t.toList) ∧ kebab (kebab s) = kebab s := by
  refine ⟨(kebab s).isValidUTF8, kebab_form s, ⟨fun h => ?_, kebab_of_form⟩,
    kebab_of_form (kebab_form s)⟩
  rw [← h]
  exact kebab_form t

/-- Separators at the ends: leading underscores go, a trailing dash stays. -/
example : kebab "_Linked__Node-" = "linked-node-" := by decide

end RecordLayout.Wit
