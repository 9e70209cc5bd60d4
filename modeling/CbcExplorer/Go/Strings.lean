import Mathlib.Data.List.Infix
import Mathlib.Data.String.Basic

set_option autoImplicit false

namespace CbcExplorer.Go

def len (s : String) : Nat := s.utf8ByteSize

def sliceTo (s : String) (n : Nat) : String := ⟨s.data.take n⟩

def sliceFrom (s : String) (n : Nat) : String := ⟨s.data.drop n⟩

def hasPrefix (s pre : String) : Bool := decide (pre.data <+: s.data)

def hasSuffix (s suf : String) : Bool := suf.data.isSuffixOf s.data

def contains (s sub : String) : Bool := decide (sub.data <:+: s.data)

def toLower (s : String) : String := ⟨s.data.map Char.toLower⟩

def replaceFirst (old new : List Char) : List Char → List Char
  | [] => if old = [] then new else []
  | c :: cs =>
    if old <+: c :: cs then new ++ (c :: cs).drop old.length
    else c :: replaceFirst old new cs

def replace (s old new : String) : String := ⟨replaceFirst old.data new.data s.data⟩

theorem hasPrefix_eq_true (s pre : String) :
    hasPrefix s pre = true ↔ pre.data <+: s.data := by
  simp [hasPrefix]

theorem contains_eq_true (s sub : String) :
    contains s sub = true ↔ sub.data <:+: s.data := by
  simp [contains]

@[simp] theorem len_empty : len "" = 0 := rfl

theorem len_append (s t : String) : len (s ++ t) = len s + len t :=
  String.utf8Len_append s.data t.data

theorem len_pos {s : String} : 0 < len s ↔ s ≠ "" := by
  obtain ⟨cs⟩ := s
  simp [len, String.ext_iff, Nat.pos_iff_ne_zero]

theorem sliceTo_append_sliceFrom (s : String) (n : Nat) : sliceTo s n ++ sliceFrom s n = s :=
  String.ext (List.take_append_drop n s.data)

theorem sliceTo_append (pre rest : String) (n : Nat) (h : pre.length = n) :
    sliceTo (pre ++ rest) n = pre := by
  subst h; exact String.ext (List.take_left ..)

theorem sliceFrom_append (pre rest : String) (n : Nat) (h : pre.length = n) :
    sliceFrom (pre ++ rest) n = rest := by
  subst h; exact String.ext (List.drop_left ..)

theorem eq_append_sliceFrom {s pre : String} {n : Nat} (long : len s > n)
    (starts : sliceTo s n = pre) (sized : len pre = n) :
    sliceFrom s n ≠ "" ∧ s = pre ++ sliceFrom s n := by
  have whole := sliceTo_append_sliceFrom s n
  rw [starts] at whole
  refine ⟨fun empty => ?_, whole.symm⟩
  have := congrArg len whole
  rw [len_append, empty, len_empty] at this
  omega

theorem replaceFirst_append (old new rest : List Char) :
    replaceFirst old new (old ++ rest) = new ++ rest := by
  cases h : old ++ rest with
  | nil =>
    obtain ⟨rfl, rfl⟩ := List.append_eq_nil.mp h
    simp [replaceFirst]
  | cons c cs =>
    rw [replaceFirst, if_pos (h ▸ List.prefix_append old rest), ← h, List.drop_left]

theorem replaceFirst_cons_of_not_prefix {old new cs : List Char} {c : Char}
    (h : ¬ old <+: c :: cs) : replaceFirst old new (c :: cs) = c :: replaceFirst old new cs :=
  if_neg h

theorem replaceFirst_append_of_not_mem (old new pre rest : List Char) (o : Char)
    (starts : old.head? = some o) (absent : o ∉ pre) :
    replaceFirst old new (pre ++ rest) = pre ++ replaceFirst old new rest := by
  induction pre with
  | nil => rfl
  | cons c pre ih =>
    obtain ⟨ne, absent⟩ := not_or.mp ((not_congr List.mem_cons).mp absent)
    have skip : ¬ old <+: c :: (pre ++ rest) := by
      rintro ⟨t, ht⟩
      cases old with
      | nil => cases starts
      | cons a as => exact ne ((Option.some.inj starts).symm.trans (List.cons.inj ht).1)
    rw [List.cons_append, replaceFirst_cons_of_not_prefix skip, ih absent, List.cons_append]

theorem replaceFirst_of_absent (old new : List Char) (s : List Char)
    (absent : ¬ old <:+: s) : replaceFirst old new s = s := by
  induction s with
  | nil => simp_all [replaceFirst]
  | cons c cs ih =>
    have notPrefix : ¬ old <+: c :: cs := fun h => absent h.isInfix
    have notInner : ¬ old <:+: cs := fun h => absent (h.trans (List.suffix_cons c cs).isInfix)
    simp [replaceFirst, notPrefix, ih notInner]

theorem replace_prefix (old new rest : String) : replace (old ++ rest) old new = new ++ rest :=
  String.ext (replaceFirst_append old.data new.data rest.data)

theorem replace_of_contains_eq_false {s old : String} (new : String)
    (absent : contains s old = false) : replace s old new = s :=
  String.ext (replaceFirst_of_absent _ _ _ (by simpa [contains] using absent))

theorem replace_append_of_not_mem (pre rest old new : String) (o : Char)
    (starts : old.data.head? = some o) (absent : o ∉ pre.data) :
    replace (pre ++ rest) old new = pre ++ replace rest old new :=
  String.ext (replaceFirst_append_of_not_mem _ _ _ rest.data o starts absent)

end CbcExplorer.Go
