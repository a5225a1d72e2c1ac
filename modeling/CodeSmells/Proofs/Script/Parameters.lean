import CodeSmells.Proofs.Text.Blank
import CodeSmells.Proofs.Text.Scan
import CodeSmells.Script.Naming

/-!
# Declared parameters are read as they are written

A parameter is declared by its name, its type after a colon and its default after an equals sign.
The reader divides a declaration at the first equals sign, what stands before that at the first
colon, and drops the blanks around each part. `Parameter.WellWritten` says which parts keep clear of
this: the type holds no equals sign and does not end in a colon, and no part has blanks around it.
Colons in a type and both signs in a default do no harm.

`ofText?_signature` shows that a well written parameter is read off its declaration as it is. What
stands before the default is `Parameter.front`. It is trimmed (`trim_front`), so that the blank in
front of the equals sign is all that is lost, it holds no equals sign (`equals_not_mem_front`), and
it divides into name and type at its first colon (`takeWhile_front`, `dropWhile_front`).
-/

set_option autoImplicit false
set_option relaxedAutoImplicit false

namespace CodeSmells

open Text

/-! ### Names and divided texts -/

namespace Text

/-- A letter that a name may start with is a character of a word. -/
theorem isWord_of_isNameStart {c : Char} (h : isNameStart c = true) : isWord c = true := by
  rw [isNameStart, Bool.or_eq_true] at h
  rw [isWord, Bool.or_eq_true]
  refine h.imp_left fun halpha ↦ ?_
  have hascii : c.toNat < 128 := by
    have hrange : (decide (65 ≤ c.val ∧ c.val ≤ 90) ||
        decide (97 ≤ c.val) && decide (c.val ≤ 122)) = true := halpha
    simp only [Bool.or_eq_true, Bool.and_eq_true, decide_eq_true_eq] at hrange
    rcases hrange with ⟨-, hhigh⟩ | ⟨-, hhigh⟩
    · exact Nat.lt_of_le_of_lt (UInt32.le_iff_toNat_le.mp hhigh) (by decide)
    · exact Nat.lt_of_le_of_lt (UInt32.le_iff_toNat_le.mp hhigh) (by decide)
  rw [isAlphanumeric, if_pos hascii, Char.isAlphanum, halpha, Bool.true_or]

/-- A name is a word that is not empty. -/
theorem ne_nil_and_isWord_of_isName {cs : List Char} (h : isName cs = true) :
    cs ≠ [] ∧ ∀ c ∈ cs, isWord c = true := by
  cases cs with
  | nil => cases h
  | cons c cs =>
    rw [isName, name?] at h
    split at h
    · next heq =>
      split at heq
      · next hstart =>
        cases heq
        have hrest : ∀ d ∈ cs, isWord d = true :=
          List.dropWhile_eq_nil_iff.mp (List.isEmpty_iff.mp h)
        exact ⟨nofun, List.forall_mem_cons.mpr ⟨isWord_of_isNameStart hstart, hrest⟩⟩
      · cases heq
    · cases h

/-- A character outside the words stands in no name. -/
theorem not_mem_of_isName {cs : List Char} (h : isName cs = true) {c : Char}
    (hc : isWord c = false) : c ∉ cs := fun hin ↦
  Bool.false_ne_true (hc.symm.trans ((ne_nil_and_isWord_of_isName h).2 c hin))

theorem trim_of_isName {cs : List Char} (h : isName cs = true) : trim cs = cs := by
  have hwords := (ne_nil_and_isWord_of_isName h).2
  rw [trim_eq_self_iff]
  exact ⟨fun c hc ↦ isBlank_of_isWord (hwords c (List.mem_of_mem_head? hc)),
    fun c hc ↦ isBlank_of_isWord (hwords c (List.mem_of_mem_getLast? hc))⟩

section Division

variable {sign : Char} {front : List Char}

theorem bne_of_not_mem (h : sign ∉ front) : ∀ c ∈ front, (c != sign) = true := by
  intro c hc
  rw [bne_iff_ne]
  rintro rfl
  exact h hc

/-- What stands before the first occurrence of a character. -/
theorem takeWhile_ne_append (h : sign ∉ front) (rest : List Char) :
    (front ++ sign :: rest).takeWhile (· != sign) = front :=
  takeWhile_append_cons (bne_of_not_mem h) (bne_self_eq_false sign)

/-- What stands from the first occurrence of a character on. -/
theorem dropWhile_ne_append (h : sign ∉ front) (rest : List Char) :
    (front ++ sign :: rest).dropWhile (· != sign) = sign :: rest :=
  dropWhile_append_cons (bne_of_not_mem h) (bne_self_eq_false sign)

theorem takeWhile_ne_of_not_mem (h : sign ∉ front) : front.takeWhile (· != sign) = front :=
  List.takeWhile_eq_self_iff.mpr (bne_of_not_mem h)

theorem dropWhile_ne_of_not_mem (h : sign ∉ front) : front.dropWhile (· != sign) = [] :=
  List.dropWhile_eq_nil_iff.mpr (bne_of_not_mem h)

end Division

end Text

/-! ### What a declaration is put together from -/

namespace Parameter

/-- A parameter whose parts can be told apart in its declaration. The name is a name; the type, if
there is one, is not empty, has no blanks around it, holds no equals sign and does not end in a
colon; the default, if there is one, has no blanks around it. -/
structure WellWritten (p : Parameter) : Prop where
  name : isName p.name.toList = true
  type : ∀ t ∈ p.typeName, t ≠ "" ∧ trimmed t = t ∧ '=' ∉ t.toList ∧ t.toList.getLast? ≠ some ':'
  default : ∀ d ∈ p.defaultValue, trimmed d = d

theorem trim_toList {s : String} (h : trimmed s = s) : trim s.toList = s.toList := by
  have hlists := congrArg String.toList h
  rwa [trimmed, String.toList_ofList] at hlists

theorem toList_ne_nil {s : String} (h : s ≠ "") : s.toList ≠ [] := fun hnil ↦
  h (String.toList_inj.mp hnil)

/-- The name and the type of a parameter as they are declared. -/
def front (p : Parameter) : List Char :=
  p.name.toList ++ match p.typeName with
    | some t => ':' :: ' ' :: t.toList
    | none => []

theorem toList_signature (p : Parameter) :
    p.signature.toList = p.front ++ match p.defaultValue with
      | some d => ' ' :: '=' :: ' ' :: d.toList
      | none => [] := by
  unfold signature front
  cases p.typeName <;> cases p.defaultValue <;> simp

section Front

variable {p : Parameter}

theorem trim_front (h : p.WellWritten) : trim p.front = p.front := by
  have hname := trim_of_isName h.name
  unfold front
  cases htype : p.typeName with
  | none => rwa [List.append_nil]
  | some t =>
    obtain ⟨hne, htrimmed, -, -⟩ := h.type t htype
    have hboth := trim_append_append hname (trim_toList htrimmed)
      (ne_nil_and_isWord_of_isName h.name).1 (toList_ne_nil hne) [':', ' ']
    rwa [List.append_assoc] at hboth

theorem equals_not_mem_front (h : p.WellWritten) : '=' ∉ p.front := by
  have hname : '=' ∉ p.name.toList := not_mem_of_isName h.name (by decide)
  unfold front
  rw [List.mem_append, not_or]
  refine ⟨hname, ?_⟩
  cases htype : p.typeName with
  | none => exact List.not_mem_nil
  | some t =>
    obtain ⟨-, -, hequals, -⟩ := h.type t htype
    simpa using hequals

/-- Without a colon at its end, what stands before the default is not taken for a declaration that
leaves its type to the default. -/
theorem getLast?_front_ne (h : p.WellWritten) : p.front.getLast? ≠ some ':' := by
  unfold front
  cases htype : p.typeName with
  | none =>
    rw [List.append_nil]
    exact fun hlast ↦ not_mem_of_isName h.name (by decide) (List.mem_of_getLast? hlast)
  | some t =>
    obtain ⟨hne, -, -, hcolon⟩ := h.type t htype
    have hlast : (p.name.toList ++ ([':', ' '] ++ t.toList)).getLast? = t.toList.getLast? := by
      rw [← List.append_assoc, List.getLast?_append_of_ne_nil _ (toList_ne_nil hne)]
    exact hlast ▸ hcolon

/-- No colon at the end is taken away. -/
theorem dropTrailing_front (h : p.WellWritten) : dropTrailing (· == ':') p.front = p.front := by
  refine List.rdropWhile_eq_self_iff.mpr fun hne hcolon ↦ getLast?_front_ne h ?_
  rw [List.getLast?_eq_some_getLast hne, beq_iff_eq.mp hcolon]

theorem takeWhile_front (h : p.WellWritten) :
    p.front.takeWhile (· != ':') = p.name.toList := by
  have hname : ':' ∉ p.name.toList := not_mem_of_isName h.name (by decide)
  unfold front
  cases p.typeName with
  | none => rw [List.append_nil, takeWhile_ne_of_not_mem hname]
  | some t => exact takeWhile_ne_append hname _

theorem dropWhile_front (h : p.WellWritten) :
    trim ((p.front.dropWhile (· != ':')).drop 1) = (p.typeName.map String.toList).getD [] := by
  have hname : ':' ∉ p.name.toList := not_mem_of_isName h.name (by decide)
  unfold front
  cases htype : p.typeName with
  | none =>
    rw [List.append_nil, dropWhile_ne_of_not_mem hname]
    rfl
  | some t =>
    rw [dropWhile_ne_append hname]
    show trim (' ' :: t.toList) = t.toList
    rw [trim_cons_blank (by decide), trim_toList (h.type t htype).2.1]

/-- What is read off what stands before the default. -/
theorem ofText?_of_front (h : p.WellWritten) {text : List Char}
    (hfront : trim (text.takeWhile (· != '=')) = p.front) :
    ofText? text = some { p with
      defaultValue := if text.contains '=' then
        some (String.ofList (trim ((text.dropWhile (· != '=')).drop 1))) else none } := by
  have hcolon : (p.front.getLast? == some ':') = false :=
    beq_eq_false_iff_ne.mpr (getLast?_front_ne h)
  simp only [ofText?, hfront, hcolon, Bool.and_false, dropTrailing_front h, trim_front h,
    takeWhile_front h, dropWhile_front h, trim_of_isName h.name, h.name, ↓reduceIte,
    String.ofList_toList, Bool.false_eq_true]
  cases htype : p.typeName with
  | none => rfl
  | some t =>
    have hne : t.toList.isEmpty = false := Bool.eq_false_iff.mpr fun hempty ↦
      toList_ne_nil (h.type t htype).1 (List.isEmpty_iff.mp hempty)
    simp [hne]

end Front

/-- A parameter is read off its declaration as it is. Assumes: a name that is one, a type that is
not empty, without blanks around it and without an equals sign, that does not end in a colon, and a
default without blanks around it. -/
theorem ofText?_signature {p : Parameter} (h : p.WellWritten) :
    ofText? p.signature.toList = some p := by
  have hequals := equals_not_mem_front h
  rw [toList_signature]
  cases hdefault : p.defaultValue with
  | none =>
    rw [List.append_nil, ofText?_of_front h]
    · simp [hequals, ← hdefault]
    · rw [takeWhile_ne_of_not_mem hequals, trim_front h]
  | some d =>
    -- The blank in front of the sign goes with what stands before it.
    have hsign : '=' ∉ p.front ++ [' '] := by simpa using hequals
    have htext : p.front ++ ' ' :: '=' :: ' ' :: d.toList =
        (p.front ++ [' ']) ++ '=' :: (' ' :: d.toList) := by
      rw [List.append_assoc, List.singleton_append]
    have hwritten : trim (' ' :: d.toList) = d.toList := by
      rw [trim_cons_blank (by decide), trim_toList (h.default d hdefault)]
    show ofText? (p.front ++ ' ' :: '=' :: ' ' :: d.toList) = some p
    rw [htext, ofText?_of_front h]
    · rw [dropWhile_ne_append hsign, List.drop_one, List.tail_cons, hwritten, if_pos (by simp),
        String.ofList_toList, ← hdefault]
    · rw [takeWhile_ne_append hsign, trim_concat_blank (by decide), trim_front h]

/-- A type with a colon in it and a default with both signs in it. -/
theorem ofText?_signature_punctuated :
    WellWritten ⟨"on_hit", some "Array:int", some "f(a == b, c::d)"⟩ ∧
    signature ⟨"on_hit", some "Array:int", some "f(a == b, c::d)"⟩ =
      "on_hit: Array:int = f(a == b, c::d)" ∧
    ofText? "on_hit: Array:int = f(a == b, c::d)".toList =
      some ⟨"on_hit", some "Array:int", some "f(a == b, c::d)"⟩ := by
  have hwritten : WellWritten ⟨"on_hit", some "Array:int", some "f(a == b, c::d)"⟩ :=
    ⟨by decide, by rintro _ ⟨⟩; decide, by rintro _ ⟨⟩; decide⟩
  have hsignature : signature ⟨"on_hit", some "Array:int", some "f(a == b, c::d)"⟩ =
      "on_hit: Array:int = f(a == b, c::d)" := by decide
  refine ⟨hwritten, hsignature, ?_⟩
  rw [← hsignature]
  exact ofText?_signature hwritten

end Parameter

end CodeSmells
