import Mathlib

/-!
# Cutting a text at byte offsets

A text is a list of characters.  Its length and the offsets into it count the
bytes of the UTF-8 encoding, so an offset can lie inside a character, and a
slice there is not a text.  `splitAt?` and `slice?` say so with `none`.

A slice exists exactly between two places where a character starts or the text
ends (`slice?_eq_some_iff`).  In an ASCII text these are all offsets up to the
end, and bytes are characters (`slice?_ascii`).
-/

namespace Text

/-- How many bytes the characters take. -/
def byteLength (cs : List Char) : Nat := (cs.map Char.utf8Size).sum

@[simp] theorem byteLength_nil : byteLength [] = 0 := rfl

@[simp] theorem byteLength_cons (c : Char) (cs : List Char) :
    byteLength (c :: cs) = c.utf8Size + byteLength cs := rfl

@[simp] theorem byteLength_append (l r : List Char) :
    byteLength (l ++ r) = byteLength l + byteLength r := by
  simp [byteLength]

/-- The text before and from an offset on; `none` inside a character and behind
the end. -/
def splitAt? : List Char → Nat → Option (List Char × List Char)
  | cs, 0 => some ([], cs)
  | [], _ + 1 => none
  | c :: cs, n + 1 =>
      if c.utf8Size ≤ n + 1 then
        (splitAt? cs (n + 1 - c.utf8Size)).map fun (l, r) => (c :: l, r)
      else none

/-- The text between two offsets. -/
def slice? (cs : List Char) (first last : Nat) : Option (List Char) :=
  if first ≤ last then
    (splitAt? cs first).bind fun (_, r) => (splitAt? r (last - first)).map Prod.fst
  else none

/-! ## Where a text can be cut -/

theorem splitAt?_eq_some_iff {cs : List Char} {n : Nat} {l r : List Char} :
    splitAt? cs n = some (l, r) ↔ cs = l ++ r ∧ byteLength l = n := by
  induction cs generalizing n l with
  | nil =>
      cases n with
      | zero =>
          cases l with
          | nil => simp [splitAt?, eq_comm]
          | cons d l => simp [splitAt?]
      | succ n =>
          constructor
          · intro h
            cases h
          · rintro ⟨heq, hlen⟩
            have hl : l = [] := (List.append_eq_nil_iff.mp heq.symm).1
            subst hl
            cases hlen
  | cons c cs ih =>
      have hpos := Char.utf8Size_pos c
      cases n with
      | zero =>
          cases l with
          | nil => simp [splitAt?, eq_comm]
          | cons d l =>
              have hd := Char.utf8Size_pos d
              simp [splitAt?]
              omega
      | succ n =>
          cases l with
          | nil =>
              by_cases hfit : c.utf8Size ≤ n + 1 <;> simp [splitAt?, hfit]
          | cons d l =>
              by_cases hfit : c.utf8Size ≤ n + 1
              · have hstep : splitAt? (c :: cs) (n + 1) = some (d :: l, r) ↔
                    c = d ∧ splitAt? cs (n + 1 - c.utf8Size) = some (l, r) := by
                  simp [splitAt?, hfit]
                  tauto
                rw [hstep, ih]
                constructor
                · rintro ⟨rfl, rfl, hlen⟩
                  refine ⟨rfl, ?_⟩
                  rw [byteLength_cons]
                  omega
                · rintro ⟨heq, hlen⟩
                  obtain ⟨rfl, rfl⟩ := List.cons.inj heq
                  rw [byteLength_cons] at hlen
                  exact ⟨rfl, rfl, by omega⟩
              · constructor
                · intro h
                  simp [splitAt?, hfit] at h
                · rintro ⟨heq, hlen⟩
                  obtain ⟨rfl, rfl⟩ := List.cons.inj heq
                  rw [byteLength_cons] at hlen
                  omega

/-- **A slice is what stands between two places where the text can be cut.** -/
theorem slice?_eq_some_iff {cs mid : List Char} {first last : Nat} :
    slice? cs first last = some mid ↔
      ∃ l r, cs = l ++ mid ++ r ∧ byteLength l = first ∧ byteLength (l ++ mid) = last := by
  constructor
  · intro h
    unfold slice? at h
    by_cases horder : first ≤ last
    · rw [if_pos horder] at h
      obtain ⟨⟨l, rest⟩, hl, hrest⟩ := Option.bind_eq_some_iff.mp h
      obtain ⟨⟨m, r⟩, hm, rfl⟩ := Option.map_eq_some_iff.mp hrest
      obtain ⟨rfl, hfirst⟩ := splitAt?_eq_some_iff.mp hl
      obtain ⟨rfl, hlast⟩ := splitAt?_eq_some_iff.mp hm
      refine ⟨l, r, (List.append_assoc ..).symm, hfirst, ?_⟩
      rw [byteLength_append, hfirst, hlast]
      omega
    · rw [if_neg horder] at h
      cases h
  · rintro ⟨l, r, rfl, rfl, rfl⟩
    have hl : splitAt? (l ++ mid ++ r) (byteLength l) = some (l, mid ++ r) :=
      splitAt?_eq_some_iff.mpr ⟨List.append_assoc .., rfl⟩
    have hm : splitAt? (mid ++ r) (byteLength (l ++ mid) - byteLength l) = some (mid, r) :=
      splitAt?_eq_some_iff.mpr ⟨rfl, by rw [byteLength_append]; omega⟩
    unfold slice?
    rw [if_pos (by rw [byteLength_append]; omega), hl]
    simp only [Option.bind_some, hm, Option.map_some]

/-- Behind a first part, a slice starts with what is left. -/
theorem slice?_append (l r : List Char) (n : Nat) :
    slice? (l ++ r) (byteLength l) (byteLength l + n) = (splitAt? r n).map Prod.fst := by
  have hl : splitAt? (l ++ r) (byteLength l) = some (l, r) :=
    splitAt?_eq_some_iff.mpr ⟨rfl, rfl⟩
  unfold slice?
  rw [if_pos (by omega), hl, Option.bind_some, Nat.add_sub_cancel_left]

/-! ## ASCII texts -/

/-- Every character takes one byte. -/
def Ascii (cs : List Char) : Prop := ∀ c ∈ cs, c.toNat < 128

theorem utf8Size_ascii {c : Char} (h : c.toNat < 128) : c.utf8Size = 1 := by
  refine Char.utf8Size_eq_one_iff.mpr (UInt32.le_iff_toNat_le.mpr ?_)
  change c.toNat ≤ 127
  omega

theorem Ascii.byteLength {cs : List Char} (h : Ascii cs) : byteLength cs = cs.length := by
  induction cs with
  | nil => rfl
  | cons c cs ih =>
      have hc := utf8Size_ascii (h c (List.mem_cons_self ..))
      have hrest := ih fun d hd => h d (List.mem_cons_of_mem _ hd)
      rw [byteLength_cons, hc, hrest, List.length_cons]
      omega

theorem Ascii.sublist {cs ds : List Char} (h : Ascii cs) (hsub : ds.Sublist cs) : Ascii ds :=
  fun c hc => h c (hsub.subset hc)

/-- In an ASCII text, offsets count characters. -/
theorem slice?_ascii {cs : List Char} (h : Ascii cs) {first last : Nat}
    (horder : first ≤ last) (hend : last ≤ cs.length) :
    slice? cs first last = some ((cs.drop first).take (last - first)) := by
  have hbefore : byteLength (cs.take first) = first := by
    rw [(h.sublist (List.take_sublist ..)).byteLength, List.length_take]
    omega
  have hmid : byteLength ((cs.drop first).take (last - first)) = last - first := by
    rw [(h.sublist ((List.take_sublist ..).trans (List.drop_sublist ..))).byteLength,
      List.length_take, List.length_drop]
    omega
  refine slice?_eq_some_iff.mpr ⟨cs.take first, (cs.drop first).drop (last - first), ?_, hbefore, ?_⟩
  · rw [List.append_assoc, List.take_append_drop, List.take_append_drop]
  · rw [byteLength_append, hbefore, hmid]
    omega

end Text
