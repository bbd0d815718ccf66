import Mathlib
import RecordLayout.Proofs.Declare
import RecordLayout.Render.Enum

/-!
# Enumerations: values, labels and look-ups

A caller makes an enumeration from labels, each with a 64-bit value or none.  An entry without
a value takes the one after the previous entry's value, in 64-bit two's complement, so the value
after the largest is the smallest; before the first entry the previous value is -1.

* `resolvedValues` states that rule with the wrapping addition of `Int64`; `Enum.settle_of64`
  shows the entries settle to it, or are refused when a label is empty or repeats one before it.
* `lookup_zip_of_nodup`, `find?_zip_first` and `find?_zip_none`: looking a label up, and
  searching for the first label of a value, among labels listed beside their values.
* **`enum_make_answers`**: making an enumeration fails exactly on an empty or repeated label;
  otherwise the enumeration answers as `Enum.Answers` says.
-/

namespace RecordLayout

/-- An entry as a caller gives it: a label and, possibly, a 64-bit value. -/
def EnumEntry.of64 (e : String × Option Int64) : EnumEntry := ⟨e.1, e.2.map Int64.toInt⟩

/-- **The values entries resolve to**: an entry's own value, or else the value after the one
before it in 64-bit two's complement, the value before the first being -1. -/
def resolvedValues (prev : Int64) : List (Option Int64) → List Int64
  | [] => []
  | v :: rest => v.getD (prev + 1) :: resolvedValues (v.getD (prev + 1)) rest

/-- The value after the largest 64-bit value is the smallest. -/
example : resolvedValues (-1) [some 9223372036854775807, none] =
    [9223372036854775807, -9223372036854775808] := by decide

@[simp] lemma length_resolvedValues (prev : Int64) (vs : List (Option Int64)) :
    (resolvedValues prev vs).length = vs.length := by
  induction vs generalizing prev with
  | nil => rfl
  | cons v rest ih => simp [resolvedValues, ih]

/-- Wrapping the value after a 64-bit value is adding one in 64-bit two's complement. -/
lemma wrapInt64_toInt_add_one (r : Int64) : wrapInt64 (r.toInt + 1) = (r + 1).toInt := by
  have hlo := r.le_toInt
  have hhi := r.toInt_lt
  have hone : (1 : Int64).toInt = 1 := rfl
  rw [Int64.toInt_add, hone, Int.bmod_def]
  show (r.toInt + 1 + 2 ^ 63) % 2 ^ 64 - 2 ^ 63 = _
  norm_num at hlo hhi ⊢
  split_ifs <;> omega

namespace Enum

/-- **Settling entries after the labels `seen`** (newest first, distinct): it succeeds exactly
when no label is empty and none repeats one before it, and then lists the labels with their
resolved values; otherwise it fails with an invalid declaration. -/
lemma settle_of64 (enum : String) (es : List (String × Option Int64)) :
    ∀ (seen : List (String × Int)) (prev : Int64), (seen.map (·.1)).Nodup →
      ("" ∉ es.map (·.1) ∧ (seen.map (·.1) ++ es.map (·.1)).Nodup ∧
          settle enum seen (prev + 1).toInt (es.map EnumEntry.of64) =
            .ok (seen.reverse ++
              (es.map (·.1)).zip ((resolvedValues prev (es.map (·.2))).map Int64.toInt))) ∨
        (¬ ("" ∉ es.map (·.1) ∧ (seen.map (·.1) ++ es.map (·.1)).Nodup) ∧
          ∃ err, settle enum seen (prev + 1).toInt (es.map EnumEntry.of64) = .error err ∧
            err.kind = .invalidDeclaration) := by
  induction es with
  | nil =>
    intro seen prev hseen
    exact .inl ⟨List.not_mem_nil, by simpa using hseen, by simp [settle]⟩
  | cons e rest ih =>
    intro seen prev hseen
    obtain ⟨n, v⟩ := e
    by_cases hn : n = ""
    · -- an empty label is refused at once
      subst hn
      have herr : settle enum seen (prev + 1).toInt ((("", v) :: rest).map EnumEntry.of64) =
          .error (Failure.invalidDeclaration enum [] "enum entry without a name") := by
        simp [settle, EnumEntry.of64]
      exact .inr ⟨fun h => h.1 (by simp), _, herr, rfl⟩
    · by_cases hdup : n ∈ seen.map (·.1)
      · -- a label met before is refused at once
        have hsome : (seen.lookup n).isSome := isSome_lookup_iff.mpr hdup
        have herr : settle enum seen (prev + 1).toInt (((n, v) :: rest).map EnumEntry.of64) =
            .error (Failure.invalidDeclaration enum [n] "duplicate enum label") := by
          simp [settle, EnumEntry.of64, hn, hsome]
        refine .inr ⟨fun h => ?_, _, herr, rfl⟩
        have := h.2
        rw [List.map_cons, List.nodup_middle, List.nodup_cons] at this
        exact this.1 (List.mem_append_left _ hdup)
      · -- a fresh label takes its value and the rest is settled after it
        have hnone : (seen.lookup n).isSome = false :=
          Bool.eq_false_iff.mpr (mt isSome_lookup_iff.mp hdup)
        have hstep : settle enum seen (prev + 1).toInt (((n, v) :: rest).map EnumEntry.of64) =
            settle enum ((n, (v.getD (prev + 1)).toInt) :: seen) (v.getD (prev + 1) + 1).toInt
              (rest.map EnumEntry.of64) := by
          simp only [List.map_cons, settle, EnumEntry.of64, hn, hnone, if_false, Bool.false_eq_true,
            Option.getD_map, wrapInt64_toInt_add_one]
        have hseen' : (((n, (v.getD (prev + 1)).toInt) :: seen).map (·.1)).Nodup := by
          rw [List.map_cons, List.nodup_cons]
          exact ⟨hdup, hseen⟩
        have hfresh : ("" ∉ ((n, v) :: rest).map (·.1) ∧
            (seen.map (·.1) ++ ((n, v) :: rest).map (·.1)).Nodup) ↔
            ("" ∉ rest.map (·.1) ∧
              ((((n, (v.getD (prev + 1)).toInt) :: seen).map (·.1)) ++ rest.map (·.1)).Nodup) := by
          rw [List.map_cons, List.map_cons, List.nodup_middle, List.mem_cons, List.cons_append]
          exact ⟨fun ⟨h1, h2⟩ => ⟨fun h => h1 (.inr h), h2⟩,
            fun ⟨h1, h2⟩ => ⟨fun h => h.elim (fun h => hn h.symm) h1, h2⟩⟩
        rw [hstep]
        rcases ih _ (v.getD (prev + 1)) hseen' with ⟨hgood, hnd, hok⟩ | ⟨hbad, err, herr, hk⟩
        · obtain ⟨hgood', hnd'⟩ := hfresh.mpr ⟨hgood, hnd⟩
          refine .inl ⟨hgood', hnd', ?_⟩
          rw [hok]
          simp [resolvedValues]
        · exact .inr ⟨mt hfresh.mp hbad, err, herr, hk⟩

end Enum

/-! ## Looking up labels and values -/

/-- In labels listed once each beside their values, each label looks up its own value. -/
lemma lookup_zip_of_nodup {β : Type} {labels : List String} {xs : List β} (hnd : labels.Nodup)
    (hlen : labels.length = xs.length) {i : Nat} {l : String} {x : β}
    (hl : labels[i]? = some l) (hx : xs[i]? = some x) : (labels.zip xs).lookup l = some x := by
  have hkeys : ((labels.zip xs).map Prod.fst).Nodup := by
    rwa [List.map_fst_zip hlen.le]
  have hmem : (l, x) ∈ labels.zip xs :=
    List.mem_of_getElem? (List.getElem?_zip_eq_some.mpr ⟨hl, hx⟩)
  exact lookup_of_mem hkeys hmem

/-- **The first entry with a value** is the one whose value no entry before it has. -/
lemma find?_zip_first {labels : List String} {xs : List Int} {i : Nat} {l : String} {x : Int}
    (hl : labels[i]? = some l) (hx : xs[i]? = some x) (hfirst : ∀ j < i, xs[j]? ≠ some x) :
    (labels.zip xs).find? (·.2 == x) = some (l, x) := by
  induction i generalizing labels xs with
  | zero =>
    cases labels with
    | nil => cases hl
    | cons l₀ ls =>
      cases xs with
      | nil => cases hx
      | cons x₀ xs' =>
        simp only [List.getElem?_cons_zero, Option.some.injEq] at hl hx
        subst hl hx
        simp
  | succ k ih =>
    cases labels with
    | nil => cases hl
    | cons l₀ ls =>
      cases xs with
      | nil => cases hx
      | cons x₀ xs' =>
        -- the head's value is not `x`, so the search goes on past it
        have hhead : (x₀ == x) = false :=
          beq_eq_false_iff_ne.mpr fun h => hfirst 0 (Nat.zero_lt_succ k) (by simp [h])
        rw [List.zip_cons_cons, List.find?_cons, hhead]
        exact ih hl hx fun j hj => by simpa using hfirst (j + 1) (by omega)

/-- A value no entry has is found by no search. -/
lemma find?_zip_none {labels : List String} {xs : List Int} {x : Int} (hx : x ∉ xs) :
    (labels.zip xs).find? (·.2 == x) = none := by
  rw [List.find?_eq_none]
  rintro ⟨l, y⟩ hmem hy
  rw [beq_iff_eq] at hy
  exact hx (hy ▸ (List.of_mem_zip hmem).2)

/-- **What an enumeration answers**, given its labels and their values in order. -/
structure Enum.Answers (e : Enum) (labels : List String) (values : List Int64) : Prop where
  /-- Its entries are the labels with their values, in order. -/
  entries : e.entries = labels.zip (values.map Int64.toInt)
  /-- Each label looks up its value. -/
  lookup : ∀ (i : Nat) (l : String) (v : Int64), labels[i]? = some l → values[i]? = some v → e.value? l = some v.toInt
  /-- A value is shown by the label of the first entry that has it. -/
  label_first : ∀ (i : Nat) (l : String) (v : Int64), labels[i]? = some l → values[i]? = some v →
    (∀ j < i, values[j]? ≠ some v) → e.label v.toInt = .ok l
  /-- A value that no entry has is refused as an invalid enum value. -/
  label_none : ∀ v : Int64, v ∉ values → ∃ err, e.label v.toInt = .error err ∧
    err.kind = .invalidEnum
  /-- An integer field is shown by the label of the integer it reads. -/
  field : ∀ c h v n, e.fieldLabel c h v n = (View.getSigned c h v n).bind e.label

/-- An enumeration whose entries are distinct labels beside 64-bit values answers as they say. -/
lemma Enum.answers_of_entries {e : Enum} {labels : List String} {values : List Int64}
    (hnd : labels.Nodup) (hlen : labels.length = values.length)
    (hentries : e.entries = labels.zip (values.map Int64.toInt)) : e.Answers labels values where
  entries := hentries
  lookup i l v hl hv := by
    rw [Enum.value?, hentries]
    exact lookup_zip_of_nodup hnd (by simpa using hlen) hl (by simp [hv])
  label_first i l v hl hv hfirst := by
    have hfind := @find?_zip_first labels (values.map Int64.toInt) i l v.toInt hl (by simp [hv])
      fun j hj => by simpa [Int64.toInt_inj] using hfirst j hj
    simp only [Enum.label, Enum.label?, hentries, hfind, Option.map_some]
  label_none v hv := by
    have hnot : v.toInt ∉ values.map Int64.toInt := by
      simpa [Int64.toInt_inj] using hv
    have hlabel : e.label v.toInt = .error (Failure.invalidEnum .format (toString v.toInt) e.name) := by
      simp only [Enum.label, Enum.label?, hentries, @find?_zip_none labels _ _ hnot, Option.map_none]
    exact ⟨_, hlabel, rfl⟩
  field _ _ _ _ := rfl

/-- **Making an enumeration** from labels with optional 64-bit values fails, with an invalid
declaration, exactly when a label is empty or repeats an earlier one.  Otherwise each entry
takes its own value or the one after the value before it, wrapping in 64-bit two's complement
from -1 before the first; the enumeration lists the labels with these values, each label looks
up its value, each value shows the label of its first entry and any other value is an invalid
enum value, and a field shows the label of the integer it reads. -/
theorem enum_make_answers (name : String) (es : List (String × Option Int64)) :
    ((∃ err, Enum.make name (es.map EnumEntry.of64) = .error err ∧
        err.kind = .invalidDeclaration) ↔ "" ∈ es.map (·.1) ∨ ¬ (es.map (·.1)).Nodup) ∧
    ((∃ e, Enum.make name (es.map EnumEntry.of64) = .ok e ∧ e.name = name ∧
        e.Answers (es.map (·.1)) (resolvedValues (-1) (es.map (·.2)))) ↔
      "" ∉ es.map (·.1) ∧ (es.map (·.1)).Nodup) := by
  have hstart : ((-1 : Int64) + 1).toInt = 0 := rfl
  rcases Enum.settle_of64 name es [] (-1) List.nodup_nil with ⟨hgood, hnd, hok⟩ | ⟨hbad, err, herr, hk⟩
  · rw [hstart] at hok
    simp only [List.map_nil, List.nil_append, List.reverse_nil] at hnd hok
    have hmake : Enum.make name (es.map EnumEntry.of64) = .ok ⟨name,
        (es.map (·.1)).zip ((resolvedValues (-1) (es.map (·.2))).map Int64.toInt)⟩ := by
      rw [Enum.make, hok]
      rfl
    refine ⟨⟨fun ⟨e, he, _⟩ => (by rw [hmake] at he; cases he), fun h => ?_⟩,
      ⟨fun _ => ⟨hgood, hnd⟩, fun _ => ⟨_, hmake, rfl, ?_⟩⟩⟩
    · rcases h with h | h
      · exact absurd h hgood
      · exact absurd hnd h
    · exact Enum.answers_of_entries hnd (by simp) rfl
  · rw [hstart] at herr
    simp only [List.map_nil, List.nil_append] at hbad
    have hmake : Enum.make name (es.map EnumEntry.of64) = .error err := by
      rw [Enum.make, herr]
      rfl
    refine ⟨⟨fun _ => ?_, fun _ => ⟨err, hmake, hk⟩⟩,
      ⟨fun ⟨e, he, _⟩ => (by rw [hmake] at he; cases he), fun h => absurd h hbad⟩⟩
    by_cases hempty : "" ∈ es.map (·.1)
    · exact .inl hempty
    · exact .inr fun hnd => hbad ⟨hempty, hnd⟩

/-- The labels of the enumeration test: automatic values count on from an explicit one, and an
alias shares a value with an earlier label. -/
example : (Enum.make "Mode" [⟨"UseConfigDefault", none⟩, ⟨"AlwaysUpdate", none⟩,
    ⟨"Never", some 10⟩, ⟨"Later", none⟩, ⟨"Alias", some 1⟩]).map (·.entries) =
    .ok [("UseConfigDefault", 0), ("AlwaysUpdate", 1), ("Never", 10), ("Later", 11),
      ("Alias", 1)] := rfl

end RecordLayout
