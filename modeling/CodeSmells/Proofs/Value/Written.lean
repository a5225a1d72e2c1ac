import CodeSmells.Proofs.Model.Description
import CodeSmells.Value.Json

/-!
# Which values have a text

A value has no text as data when a whole number somewhere in it is too long to be written. The
numbers are listed by `Value.wholes`, and `Writes` says of a writer that they decide whether it
succeeds: it gives a result when none of them is long, and the error on long numbers when one is.

A writer that goes through parts one after the other breaks off at the first long number, so that
the numbers of all parts decide together (`Writes.bind`, `Writes.mapM`). From there `writes_render`
follows the parts of a value.
-/

set_option autoImplicit false
set_option relaxedAutoImplicit false

namespace CodeSmells

/-! ### The numbers in a value -/

namespace Value

mutual

/-- The whole numbers in a value, in order. -/
def wholes : Value → List ℤ
  | whole n => [n]
  | list xs => wholesOfAll xs
  | row xs => wholesOfAll xs
  | table es => wholesOfEntries es
  | null | flag _ | real _ | text _ | moment _ => []

/-- The whole numbers in a sequence of values. -/
def wholesOfAll : List Value → List ℤ
  | [] => []
  | x :: xs => wholes x ++ wholesOfAll xs

/-- The whole numbers in the entries of a table. -/
def wholesOfEntries : List (String × Value) → List ℤ
  | [] => []
  | (_, v) :: es => wholes v ++ wholesOfEntries es

end

theorem wholesOfAll_eq (xs : List Value) : wholesOfAll xs = xs.flatMap wholes := by
  induction xs with
  | nil => rfl
  | cons x xs ih => rw [wholesOfAll, ih, List.flatMap_cons]

end Value

/-! ### Writers -/

/-- Some whole numbers decide whether something is written: it is when none of them is too long, and
when one is, that is the error. -/
structure Writes {α : Type} (ns : List ℤ) (written : Except String α) : Prop where
  ok : (∀ n ∈ ns, isLongNumber n = false) → ∃ a, written = .ok a
  error : (∃ n ∈ ns, isLongNumber n = true) → written = .error unwrittenNumber

namespace Writes

variable {α β : Type} {ns ms : List ℤ} {written : Except String α}

theorem pure (a : α) : Writes [] (Pure.pure a : Except String α) :=
  ⟨fun _ ↦ ⟨a, rfl⟩, fun ⟨_, hn, _⟩ ↦ absurd hn List.not_mem_nil⟩

theorem whole (n : ℤ) : Writes [n] (writeWhole n) := by
  refine ⟨fun h ↦ ⟨toString n, ?_⟩, fun ⟨m, hm, hlong⟩ ↦ ?_⟩
  · rw [writeWhole, h n List.mem_cons_self, if_neg Bool.false_ne_true]
  · rw [List.mem_singleton.mp hm] at hlong
    rw [writeWhole, hlong, if_pos rfl]

/-- The numbers of two parts decide whether both are written. -/
theorem bind {f : α → Except String β} (h : Writes ns written) (hf : ∀ a, Writes ms (f a)) :
    Writes (ns ++ ms) (written >>= f) := by
  constructor
  · intro hshort
    rw [List.forall_mem_append] at hshort
    obtain ⟨a, rfl⟩ := h.ok hshort.1
    exact (hf a).ok hshort.2
  · rintro ⟨n, hn, hlong⟩
    cases hwritten : written with
    | error e =>
      have hsome : ∃ n ∈ ns, isLongNumber n = true := by
        by_contra hnone
        obtain ⟨a, ha⟩ := h.ok fun n hn ↦ Bool.eq_false_iff.mpr fun hlong ↦ hnone ⟨n, hn, hlong⟩
        cases hwritten.symm.trans ha
      rw [← hwritten, h.error hsome]
      rfl
    | ok a =>
      rcases List.mem_append.mp hn with hfirst | hsecond
      · cases hwritten.symm.trans (h.error ⟨n, hfirst, hlong⟩)
      · exact (hf a).error ⟨n, hsecond, hlong⟩

/-- What is done with a written text does not matter. -/
theorem bind_pure (h : Writes ns written) (f : α → β) :
    Writes ns (written >>= fun a ↦ Pure.pure (f a)) := by
  simpa only [List.append_nil] using h.bind fun a ↦ .pure (f a)

/-- The numbers of all members decide whether all are written. -/
theorem mapM {f : α → Except String β} {numbers : α → List ℤ} {xs : List α}
    (h : ∀ x ∈ xs, Writes (numbers x) (f x)) : Writes (xs.flatMap numbers) (xs.mapM f) := by
  induction xs with
  | nil => exact .pure []
  | cons x xs ih =>
    rw [List.forall_mem_cons] at h
    rw [List.mapM_cons, List.flatMap_cons]
    exact h.1.bind fun y ↦ (ih h.2).bind_pure (y :: ·)

theorem exists_ok_iff (h : Writes ns written) :
    (∃ a, written = .ok a) ↔ ∀ n ∈ ns, isLongNumber n = false := by
  refine ⟨fun ⟨a, ha⟩ n hn ↦ Bool.eq_false_iff.mpr fun hlong ↦ ?_, h.ok⟩
  cases ha.symm.trans (h.error ⟨n, hn, hlong⟩)

end Writes

/-! ### Values as data -/

namespace Json

mutual

/-- A value has a text exactly when no whole number in it is too long. -/
theorem writes_render (l : Layout) : (v : Value) → Writes v.wholes (render l v)
  | .null => .pure _
  | .flag true => .pure _
  | .flag false => .pure _
  | .whole n => .whole n
  | .real _ => .pure _
  | .text _ => .pure _
  | .moment _ => .pure _
  | .list xs => (writes_renderAll l.deeper xs).bind_pure _
  | .row xs => (writes_renderAll l.deeper xs).bind_pure _
  | .table es => (writes_renderEntries l.deeper es).bind_pure _

theorem writes_renderAll (l : Layout) : (xs : List Value) →
    Writes (Value.wholesOfAll xs) (renderAll l xs)
  | [] => .pure _
  | x :: xs => (writes_render l x).bind fun s ↦ (writes_renderAll l xs).bind_pure (s :: ·)

theorem writes_renderEntries (l : Layout) : (es : List (String × Value)) →
    Writes (Value.wholesOfEntries es) (renderEntries l es)
  | [] => .pure _
  | (k, v) :: es =>
    (writes_render l v).bind fun s ↦
      (writes_renderEntries l es).bind_pure ((quote k ++ ": " ++ s) :: ·)

end

theorem writes_indented (v : Value) : Writes v.wholes (indented v) :=
  writes_render (.indented 0) v

end Json

end CodeSmells
