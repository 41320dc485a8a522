import AsterYggdrasil.Frontend.PixelBuffer
import AsterYggdrasil.Frontend.Search

/-!
# The bucket

`floodFillSkinPixels` searches the masked pixels that have the colour of the first one, and
marks what it has found by its new colour.  The indices of the queue are `u32`s.

**`floodFill_exact`**: where the indices of all pixels are `u32`s, the pixels that are recoloured
are exactly those that are connected to the first one.
-/

namespace AsterYggdrasil.SkinPixels

open Relation Search

/-- The variables of the search. -/
structure Fill where
  pixels : List UInt8
  queue : List UInt32
  head : Nat
  tail : Nat
  deriving DecidableEq, Repr

/-- `enqueue`; a write past the capacity of the queue is `none`. -/
def Fill.enqueue (mask : List UInt8) (target replacement : Color) (index : Nat) (s : Fill) :
    Option Fill :=
  if mask.getD index 0 = 0 then some s
  else if colorAt s.pixels index ≠ target then some s
  else if s.tail < s.queue.length then
    some { s with
      pixels := setColor s.pixels index replacement
      queue := s.queue.set s.tail (UInt32.ofNat index)
      tail := s.tail + 1 }
  else none

/-- `enqueue` under a condition. -/
def Fill.enqueueIf (condition : Bool) (mask : List UInt8) (target replacement : Color)
    (index : Nat) (s : Fill) : Option Fill :=
  if condition then s.enqueue mask target replacement index else some s

/-- The body of the loop. -/
def Fill.round (skinSize : Nat) (mask : List UInt8) (target replacement : Color) (s : Fill) :
    Option Fill := do
  let index := (s.queue.getD s.head 0).toNat
  let s := { s with head := s.head + 1 }
  let x := index % skinSize
  let y := index / skinSize
  let s ← s.enqueueIf (0 < x) mask target replacement (index - 1)
  let s ← s.enqueueIf (x + 1 < skinSize) mask target replacement (index + 1)
  let s ← s.enqueueIf (0 < y) mask target replacement (index - skinSize)
  s.enqueueIf (y + 1 < skinSize) mask target replacement (index + skinSize)

/-- `while (head < tail)`; a loop of more rounds is `none`. -/
def Fill.loop (skinSize : Nat) (mask : List UInt8) (target replacement : Color) :
    Nat → Fill → Option Fill
  | 0, _ => none
  | rounds + 1, s =>
      if s.head < s.tail then do
        let s ← s.round skinSize mask target replacement
        loop skinSize mask target replacement rounds s
      else some s

/-- The index of the start; `none` if it is outside of the canvas.  A position that is not an
integer is `none`. -/
def startIndex (skinSize : Nat) (startX startY : Option Int) : Option Nat := do
  let x ← startX
  let y ← startY
  if x.natAbs < 2 ^ 53 ∧ y.natAbs < 2 ^ 53 ∧ 0 ≤ x ∧ x < skinSize ∧ 0 ≤ y ∧ y < skinSize then
    some (y.toNat * skinSize + x.toNat)
  else none

/-- `floodFillSkinPixels`: what it throws, or the pixels and what it returns. -/
def floodFillSkinPixels (rounds : Nat) (pixels : List UInt8) (skinSize : Nat) (mask : List UInt8)
    (startX startY : Option Int) (replacement : Color) :
    Option (Except String (List UInt8 × Bool)) :=
  match skinScale skinSize with
  | .error error => some (.error error)
  | .ok _ =>
      if pixels.length ≠ skinSize * skinSize * 4 ∨ mask.length ≠ skinSize * skinSize then
        some (.error "invalid_skin_buffer")
      else
        match startIndex skinSize startX startY with
        | none => some (.ok (pixels, false))
        | some start =>
            if mask.getD start 0 = 0 then some (.ok (pixels, false))
            else
              let target := colorAt pixels start
              if target = replacement then some (.ok (pixels, false))
              else do
                let s ← Fill.enqueue mask target replacement start
                  ⟨pixels, List.replicate (skinSize * skinSize) 0, 0, 0⟩
                let s ← s.loop skinSize mask target replacement rounds
                some (.ok (s.pixels, decide (0 < s.tail)))

/-! ## What is connected -/

/-- Two pixels that share an edge. -/
def Neighbours (skinSize i j : Nat) : Prop :=
  (i / skinSize = j / skinSize ∧ (i % skinSize + 1 = j % skinSize ∨ j % skinSize + 1 = i % skinSize)) ∨
    (i % skinSize = j % skinSize ∧ (i / skinSize + 1 = j / skinSize ∨ j / skinSize + 1 = i / skinSize))

section Canvas

variable (pixels : List UInt8) (skinSize : Nat) (mask : List UInt8) (start : Nat)

/-- A masked pixel with the colour of the start. -/
def Fillable (i : Nat) : Prop :=
  i < skinSize * skinSize ∧ mask.getD i 0 ≠ 0 ∧ colorAt pixels i = colorAt pixels start

/-- From a pixel to a neighbour that can be filled. -/
def Edge (i j : Nat) : Prop := Neighbours skinSize i j ∧ Fillable pixels skinSize mask start j

/-- The component of the start. -/
def Component (i : Nat) : Prop :=
  Fillable pixels skinSize mask start start ∧
    ReflTransGen (Edge pixels skinSize mask start) start i

theorem fillable_of_component {i : Nat} (h : Component pixels skinSize mask start i) :
    Fillable pixels skinSize mask start i := by
  obtain ⟨hstart, hreach⟩ := h
  cases hreach with
  | refl => exact hstart
  | tail _ hedge => exact hedge.2

end Canvas

/-- The coordinates of an index. -/
theorem coordinates {n x y i : Nat} (hx : x < n) (h : i = n * y + x) : i / n = y ∧ i % n = x := by
  have hn : 0 < n := Nat.lt_of_le_of_lt (Nat.zero_le x) hx
  constructor
  · rw [h, Nat.mul_add_div hn, Nat.div_eq_of_lt hx, Nat.add_zero]
  · rw [h, Nat.mul_add_mod, Nat.mod_eq_of_lt hx]

/-- **The four neighbours.** -/
theorem neighbours_iff {n i j : Nat} (hi : i < n * n) (hj : j < n * n) :
    Neighbours n i j ↔
      (0 < i % n ∧ j = i - 1) ∨ (i % n + 1 < n ∧ j = i + 1) ∨ (0 < i / n ∧ j = i - n) ∨
        (i / n + 1 < n ∧ j = i + n) := by
  have hn : 0 < n := Nat.pos_of_mul_pos_right (Nat.lt_of_le_of_lt (Nat.zero_le i) hi)
  have hix := Nat.mod_lt i hn
  have hjx := Nat.mod_lt j hn
  have hjy : j / n < n := Nat.div_lt_of_lt_mul hj
  have hi' := Nat.div_add_mod i n
  have hj' := Nat.div_add_mod j n
  unfold Neighbours
  constructor
  · rintro (⟨hy, hx | hx⟩ | ⟨hx, hy | hy⟩)
    · rw [← hy] at hj'
      exact Or.inr (Or.inl (by omega))
    · rw [← hy] at hj'
      exact Or.inl (by omega)
    · rw [← hy, Nat.mul_succ] at hj'
      exact Or.inr (Or.inr (Or.inr (by omega)))
    · rw [← hy, Nat.mul_succ] at hi'
      exact Or.inr (Or.inr (Or.inl ⟨hy ▸ Nat.succ_pos (j / n), by omega⟩))
  · rintro (⟨hx, rfl⟩ | ⟨hx, rfl⟩ | ⟨hy, rfl⟩ | ⟨hy, rfl⟩)
    · obtain ⟨hdiv, hmod⟩ := coordinates (n := n) (x := i % n - 1) (y := i / n) (i := i - 1)
        (by omega) (by omega)
      exact Or.inl ⟨hdiv.symm, by omega⟩
    · obtain ⟨hdiv, hmod⟩ := coordinates (n := n) (x := i % n + 1) (y := i / n) (i := i + 1)
        (by omega) (by omega)
      exact Or.inl ⟨hdiv.symm, by omega⟩
    · obtain ⟨k, hk⟩ : ∃ k, i / n = k + 1 := ⟨i / n - 1, by omega⟩
      rw [hk, Nat.mul_succ] at hi'
      obtain ⟨hdiv, hmod⟩ := coordinates (n := n) (x := i % n) (y := k) (i := i - n)
        (by omega) (by omega)
      exact Or.inr ⟨hmod.symm, by omega⟩
    · have hnext : n * (i / n + 1) = n * (i / n) + n := Nat.mul_succ ..
      obtain ⟨hdiv, hmod⟩ := coordinates (n := n) (x := i % n) (y := i / n + 1) (i := i + n)
        (by omega) (by omega)
      exact Or.inr ⟨hmod.symm, by omega⟩

/-! ## The search -/

section Loop

variable {pixels : List UInt8} {n : Nat} {mask : List UInt8} {start : Nat} {replacement : Color}
  {s : Fill} {visited : List Nat} {head : Nat}

/-- The variables of a search that has recoloured what it has visited. -/
structure Tracks (pixels : List UInt8) (n : Nat) (mask : List UInt8) (start : Nat)
    (replacement : Color) (s : Fill) (visited : List Nat) : Prop where
  queue : s.queue.take s.tail = visited.map UInt32.ofNat
  tail : s.tail = visited.length
  capacity : s.queue.length = n * n
  length : s.pixels.length = n * n * 4
  nodup : visited.Nodup
  fillable : ∀ i ∈ visited, Fillable pixels n mask start i
  colors : ∀ i < n * n,
    colorAt s.pixels i = if i ∈ visited then replacement else colorAt pixels i

/-- A pixel that is not to be filled, or has been, is left. -/
theorem enqueue_old {j : Nat} (htarget : colorAt pixels start ≠ replacement)
    (h : Tracks pixels n mask start replacement s visited) (hj : j < n * n)
    (hold : ¬Fillable pixels n mask start j ∨ j ∈ visited) :
    s.enqueue mask (colorAt pixels start) replacement j = some s := by
  unfold Fill.enqueue
  by_cases hmask : mask.getD j 0 = 0
  · rw [if_pos hmask]
  · rw [if_neg hmask, if_pos]
    rw [h.colors j hj]
    by_cases hvisited : j ∈ visited
    · rw [if_pos hvisited]
      exact fun heq => htarget heq.symm
    · rw [if_neg hvisited]
      intro heq
      exact hold.elim (fun hnot => hnot ⟨hj, hmask, heq⟩) hvisited

/-- The queue after a write. -/
theorem take_set {queue : List UInt32} {tail : Nat} (a : UInt32) (h : tail < queue.length) :
    (queue.set tail a).take (tail + 1) = queue.take tail ++ [a] := by
  rw [List.take_succ_eq_append_getElem (by rwa [List.length_set]), List.getElem_set_self,
    List.take_set, List.set_eq_of_length_le (by rw [List.length_take]; omega)]

/-- **A pixel that is to be filled** is recoloured and queued, and there is room for it. -/
theorem enqueue_new {j : Nat} (h : Tracks pixels n mask start replacement s visited)
    (hfillable : Fillable pixels n mask start j) (hnew : j ∉ visited) :
    ∃ s', s.enqueue mask (colorAt pixels start) replacement j = some s' ∧
      Tracks pixels n mask start replacement s' (visited ++ [j]) ∧ s'.head = s.head := by
  obtain ⟨hj, hmask, hcolor⟩ := id hfillable
  have hnodup : (visited ++ [j]).Nodup :=
    List.nodup_append.mpr ⟨h.nodup, List.nodup_singleton j, fun a ha b hb => by
      rw [List.mem_singleton.mp hb]
      exact fun heq => hnew (heq ▸ ha)⟩
  have hall : ∀ i ∈ visited ++ [j], Fillable pixels n mask start i := by
    intro i hi
    rcases List.mem_append.mp hi with hold | hlast
    · exact h.fillable i hold
    · rwa [List.mem_singleton.mp hlast]
  have hroom := length_le_of_nodup hnodup fun i hi => (hall i hi).1
  rw [List.length_append, List.length_singleton] at hroom
  have htail : s.tail < s.queue.length := by
    rw [h.tail, h.capacity]
    exact hroom
  have hcurrent : colorAt s.pixels j = colorAt pixels start := by
    rw [h.colors j hj, if_neg hnew, hcolor]
  have hbytes : j * 4 + 3 < s.pixels.length := by
    rw [h.length]
    omega
  rw [Fill.enqueue, if_neg hmask, if_neg (not_not_intro hcurrent), if_pos htail]
  refine ⟨_, rfl, ⟨?_, ?_, ?_, ?_, hnodup, hall, fun i hi => ?_⟩, rfl⟩
  · rw [take_set _ htail, h.queue, List.map_append]
    rfl
  · rw [List.length_append, List.length_singleton, ← h.tail]
  · rw [List.length_set, h.capacity]
  · rw [length_setColor, h.length]
  · rw [colorAt_setColor replacement hbytes, h.colors i hi]
    by_cases hsame : i = j
    · rw [if_pos hsame, if_pos (List.mem_append_right _ (List.mem_singleton.mpr hsame))]
    · rw [if_neg hsame]
      exact if_congr (by simp [hsame]) rfl rfl

/-- The state of the loop: the search, and the variables that track it. -/
structure Filling (pixels : List UInt8) (n : Nat) (mask : List UInt8) (start : Nat)
    (replacement : Color) (s : Fill) (visited : List Nat) (head : Nat) : Prop where
  search : Searching (Edge pixels n mask start) start visited head
  tracks : Tracks pixels n mask start replacement s visited
  le : head ≤ visited.length

/-- **Enqueueing a neighbour.**  Afterwards the neighbour has been visited, if it is to be
filled. -/
theorem enqueue_neighbour {v j : Nat} (c : Prop) [Decidable c]
    (htarget : colorAt pixels start ≠ replacement)
    (h : Filling pixels n mask start replacement s visited head) (hv : v ∈ visited)
    (hj : c → j < n * n ∧ Neighbours n v j) :
    ∃ s' visited',
      s.enqueueIf c mask (colorAt pixels start) replacement j = some s' ∧
      Filling pixels n mask start replacement s' visited' head ∧ visited <+: visited' ∧
      s'.head = s.head ∧ (c → Fillable pixels n mask start j → j ∈ visited') := by
  by_cases hc : c
  · obtain ⟨hlt, hneighbour⟩ := hj hc
    rw [Fill.enqueueIf, if_pos (decide_eq_true hc)]
    by_cases hnew : Fillable pixels n mask start j ∧ j ∉ visited
    · obtain ⟨s', henqueue, htracks, hhead⟩ := enqueue_new h.tracks hnew.1 hnew.2
      have hsearch := h.search.visit hv ⟨hneighbour, hnew.1⟩ hnew.2 h.le
      have hle : head ≤ (visited ++ [j]).length := by
        rw [List.length_append]
        exact Nat.le_trans h.le (Nat.le_add_right _ _)
      exact ⟨s', visited ++ [j], henqueue, ⟨hsearch, htracks, hle⟩, List.prefix_append _ _, hhead,
        fun _ _ => List.mem_append_right _ (List.mem_singleton_self j)⟩
    · have hold : ¬Fillable pixels n mask start j ∨ j ∈ visited := by
        by_cases hfillable : Fillable pixels n mask start j
        · exact Or.inr (by_contra fun hnot => hnew ⟨hfillable, hnot⟩)
        · exact Or.inl hfillable
      exact ⟨s, visited, enqueue_old htarget h.tracks hlt hold, h, List.prefix_refl _, rfl,
        fun _ hfillable => hold.resolve_left (not_not_intro hfillable)⟩
  · rw [Fill.enqueueIf, if_neg (Bool.not_eq_true _ ▸ decide_eq_false hc)]
    exact ⟨s, visited, rfl, h, List.prefix_refl _, rfl, fun hc' => absurd hc' hc⟩

/-- The index that is read from the queue. -/
theorem queue_getD (h : Tracks pixels n mask start replacement s visited) (h32 : n * n ≤ 2 ^ 32)
    (hhead : head < visited.length) : (s.queue.getD head 0).toNat = visited[head] := by
  have hlt : visited[head] < 2 ^ 32 :=
    Nat.lt_of_lt_of_le (h.fillable _ (List.getElem_mem hhead)).1 h32
  have htail : head < s.tail := by rwa [h.tail]
  have hread : s.queue[head]? = some (UInt32.ofNat visited[head]) := by
    rw [← List.getElem?_take_of_lt htail, h.queue, List.getElem?_map,
      List.getElem?_eq_getElem hhead]
    rfl
  rw [List.getD_eq_getElem?_getD, hread, Option.getD_some]
  exact UInt32.toNat_ofNat_of_lt' hlt

/-- **One round** looks at the four neighbours of the next pixel. -/
theorem round_ok (htarget : colorAt pixels start ≠ replacement) (h32 : n * n ≤ 2 ^ 32)
    (h : Filling pixels n mask start replacement s visited s.head)
    (hhead : s.head < visited.length) :
    ∃ s' visited', s.round n mask (colorAt pixels start) replacement = some s' ∧
      Filling pixels n mask start replacement s' visited' s'.head ∧ s'.head = s.head + 1 := by
  have hv := List.getElem_mem hhead
  have hlt := (h.tracks.fillable _ hv).1
  have hread := queue_getD h.tracks h32 hhead
  unfold Fill.round
  dsimp only
  rw [hread]
  generalize hvertex : visited[s.head] = v at *
  have hn : 0 < n := Nat.pos_of_mul_pos_right (Nat.lt_of_le_of_lt (Nat.zero_le v) hlt)
  have hdiv := Nat.div_add_mod v n
  have hy : v / n < n := Nat.div_lt_of_lt_mul hlt
  have hstart : Filling pixels n mask start replacement { s with head := s.head + 1 } visited
      s.head := ⟨h.search, ⟨h.tracks.queue, h.tracks.tail, h.tracks.capacity, h.tracks.length,
        h.tracks.nodup, h.tracks.fillable, h.tracks.colors⟩, h.le⟩
  have hright : v % n + 1 < n → v + 1 < n * n := by
    intro hx
    have hrow : n * (v / n + 1) ≤ n * n := Nat.mul_le_mul_left n hy
    rw [Nat.mul_succ] at hrow
    omega
  have hbelow : v / n + 1 < n → v + n < n * n := by
    intro hnext
    have hrow : n * (v / n + 1 + 1) ≤ n * n := Nat.mul_le_mul_left n hnext
    rw [Nat.mul_succ, Nat.mul_succ] at hrow
    have hx := Nat.mod_lt v hn
    omega
  obtain ⟨s₁, visited₁, hleft, h₁, hsub₁, hhead₁, hmem₁⟩ := enqueue_neighbour (0 < v % n) htarget
    hstart hv (fun hx => ⟨by omega, (neighbours_iff hlt (by omega)).mpr (Or.inl ⟨hx, rfl⟩)⟩)
  have hv₁ := hsub₁.subset hv
  obtain ⟨s₂, visited₂, hrightward, h₂, hsub₂, hhead₂, hmem₂⟩ :=
    enqueue_neighbour (v % n + 1 < n) htarget h₁ hv₁
      (fun hx => ⟨hright hx, (neighbours_iff hlt (hright hx)).mpr (Or.inr (Or.inl ⟨hx, rfl⟩))⟩)
  have hv₂ := hsub₂.subset hv₁
  obtain ⟨s₃, visited₃, hup, h₃, hsub₃, hhead₃, hmem₃⟩ := enqueue_neighbour (0 < v / n) htarget
    h₂ hv₂ (fun hy => ⟨by omega,
      (neighbours_iff hlt (by omega)).mpr (Or.inr (Or.inr (Or.inl ⟨hy, rfl⟩)))⟩)
  have hv₃ := hsub₃.subset hv₂
  obtain ⟨s₄, visited₄, hdown, h₄, hsub₄, hhead₄, hmem₄⟩ :=
    enqueue_neighbour (v / n + 1 < n) htarget h₃ hv₃
      (fun hy => ⟨hbelow hy,
        (neighbours_iff hlt (hbelow hy)).mpr (Or.inr (Or.inr (Or.inr ⟨hy, rfl⟩)))⟩)
  have hhead' : s₄.head = s.head + 1 := by rw [hhead₄, hhead₃, hhead₂, hhead₁]
  have hall := ((hsub₁.trans hsub₂).trans hsub₃).trans hsub₄
  have hlong : s.head < visited₄.length := Nat.lt_of_lt_of_le hhead hall.length_le
  have hsame : visited₄[s.head] = v := by
    rw [← hvertex]
    exact (hall.getElem hhead).symm
  have hadvance := h₄.search.advance hlong (by
    rintro w ⟨hneighbour, hfillable⟩
    rw [hsame] at hneighbour
    rcases (neighbours_iff hlt hfillable.1).mp hneighbour with
      ⟨hc, rfl⟩ | ⟨hc, rfl⟩ | ⟨hc, rfl⟩ | ⟨hc, rfl⟩
    · exact ((hsub₂.trans hsub₃).trans hsub₄).subset (hmem₁ hc hfillable)
    · exact (hsub₃.trans hsub₄).subset (hmem₂ hc hfillable)
    · exact hsub₄.subset (hmem₃ hc hfillable)
    · exact hmem₄ hc hfillable)
  refine ⟨s₄, visited₄, ?_, ⟨hhead' ▸ hadvance, h₄.tracks, hhead' ▸ hlong⟩, hhead'⟩
  simp only [hleft, hrightward, hup, Option.bind_eq_bind, Option.bind_some]
  exact hdown

/-- **The loop ends**, and then the search has looked at everything. -/
theorem loop_ok (htarget : colorAt pixels start ≠ replacement) (h32 : n * n ≤ 2 ^ 32)
    (rounds : Nat) (h : Filling pixels n mask start replacement s visited s.head)
    (hrounds : n * n - s.head < rounds) :
    ∃ s' visited', s.loop n mask (colorAt pixels start) replacement rounds = some s' ∧
      Filling pixels n mask start replacement s' visited' visited'.length := by
  induction rounds generalizing s visited with
  | zero => exact absurd hrounds (Nat.not_lt_zero _)
  | succ rounds ih =>
      unfold Fill.loop
      by_cases hmore : s.head < s.tail
      · rw [if_pos hmore]
        have hhead : s.head < visited.length := by rwa [h.tracks.tail] at hmore
        obtain ⟨s', visited', hround, h', hhead'⟩ := round_ok htarget h32 h hhead
        have hbound := length_le_of_nodup h.tracks.nodup fun i hi => (h.tracks.fillable i hi).1
        rw [hround]
        exact ih h' (by omega)
      · rw [if_neg hmore]
        have hdone : s.head = visited.length := by
          have htail := h.tracks.tail
          have hle := h.le
          omega
        exact ⟨s, visited, rfl, hdone ▸ h⟩

end Loop

/-! ## The bucket -/

/-- The pixels of a fill: the component of the start, where the start is a masked pixel of the
canvas. -/
def Filled (pixels : List UInt8) (skinSize : Nat) (mask : List UInt8) (startX startY : Option Int)
    (i : Nat) : Prop :=
  ∃ start, startIndex skinSize startX startY = some start ∧
    Component pixels skinSize mask start i

/-- What an exact fill does. -/
structure FillsExactly (pixels : List UInt8) (skinSize : Nat) (mask : List UInt8)
    (startX startY : Option Int) (replacement : Color) (pixels' : List UInt8) (changed : Bool) :
    Prop where
  length : pixels'.length = pixels.length
  filled : ∀ i, Filled pixels skinSize mask startX startY i → colorAt pixels' i = replacement
  kept : ∀ i < skinSize * skinSize, ¬Filled pixels skinSize mask startX startY i →
    colorAt pixels' i = colorAt pixels i
  changed : changed = true ↔ pixels' ≠ pixels

/-- The start is a pixel of the canvas. -/
theorem startIndex_lt {n start : Nat} {startX startY : Option Int}
    (h : startIndex n startX startY = some start) : start < n * n := by
  obtain ⟨x, -, h⟩ := Option.bind_eq_some_iff.mp h
  obtain ⟨y, -, h⟩ := Option.bind_eq_some_iff.mp h
  split at h
  · next hinside =>
      cases h
      have hrow : (y.toNat + 1) * n ≤ n * n := Nat.mul_le_mul_right n (by omega)
      rw [Nat.succ_mul] at hrow
      omega
  · cases h

section Bucket

variable {pixels : List UInt8} {n : Nat} {mask : List UInt8} {startX startY : Option Int}
  {replacement : Color}

/-- Without a pixel to fill, or with nothing to change, the pixels are kept. -/
theorem fillsExactly_self
    (h : ∀ i, Filled pixels n mask startX startY i → colorAt pixels i = replacement) :
    FillsExactly pixels n mask startX startY replacement pixels false where
  length := rfl
  filled := h
  kept _ _ _ := rfl
  changed := iff_of_false Bool.false_ne_true fun hne => hne rfl

/-- **The bucket is exact**, where the indices of all pixels are `u32`s. -/
theorem floodFill_exact (hsize : ValidSize n) (h32 : n * n ≤ 2 ^ 32)
    (hpixels : pixels.length = n * n * 4) (hmask : mask.length = n * n)
    (startX startY : Option Int) (replacement : Color) {rounds : Nat} (hrounds : n * n < rounds) :
    ∃ pixels' changed,
      floodFillSkinPixels rounds pixels n mask startX startY replacement =
        some (.ok (pixels', changed)) ∧
      FillsExactly pixels n mask startX startY replacement pixels' changed := by
  obtain ⟨scale, hscale⟩ := hsize
  unfold floodFillSkinPixels
  rw [hscale]
  dsimp only
  rw [if_neg (by simp [hpixels, hmask])]
  cases hstart : startIndex n startX startY with
  | none =>
      refine ⟨pixels, false, rfl, fillsExactly_self ?_⟩
      rintro i ⟨start, hsome, -⟩
      rw [hstart] at hsome
      cases hsome
  | some start =>
      dsimp only
      have hfilled : ∀ i, Filled pixels n mask startX startY i ↔ Component pixels n mask start i := by
        intro i
        constructor
        · rintro ⟨start', hsome, hcomponent⟩
          rw [hstart] at hsome
          cases hsome
          exact hcomponent
        · exact fun hcomponent => ⟨start, hstart, hcomponent⟩
      by_cases hmasked : mask.getD start 0 = 0
      · rw [if_pos hmasked]
        refine ⟨pixels, false, rfl, fillsExactly_self fun i hi => ?_⟩
        exact absurd hmasked ((hfilled i).mp hi).1.2.1
      · rw [if_neg hmasked]
        by_cases htarget : colorAt pixels start = replacement
        · rw [if_pos htarget]
          refine ⟨pixels, false, rfl, fillsExactly_self fun i hi => ?_⟩
          have hcolor := (fillable_of_component _ _ _ _ ((hfilled i).mp hi)).2.2
          exact hcolor.trans htarget
        · rw [if_neg htarget]
          have hlt := startIndex_lt hstart
          have hfillable : Fillable pixels n mask start start := ⟨hlt, hmasked, rfl⟩
          have hempty : Tracks pixels n mask start replacement
              ⟨pixels, List.replicate (n * n) 0, 0, 0⟩ [] :=
            ⟨rfl, rfl, List.length_replicate, hpixels, List.nodup_nil,
              fun i hi => absurd hi List.not_mem_nil, fun i _ => (if_neg List.not_mem_nil).symm⟩
          obtain ⟨s, henqueue, htracks, hhead⟩ :=
            enqueue_new hempty hfillable List.not_mem_nil
          have hfilling : Filling pixels n mask start replacement s [start] s.head := by
            rw [hhead]
            exact ⟨Searching.init, htracks, Nat.zero_le _⟩
          obtain ⟨s', visited, hloop, hdone⟩ := loop_ok htarget h32 rounds hfilling (by omega)
          have hmem : ∀ i, i ∈ visited ↔ Component pixels n mask start i := fun i =>
            hdone.search.complete.trans ⟨fun hreach => ⟨hfillable, hreach⟩, And.right⟩
          refine ⟨s'.pixels, decide (0 < s'.tail), ?_, ?_, fun i hi => ?_, fun i hi hnot => ?_, ?_⟩
          · rw [henqueue, Option.bind_eq_bind, Option.bind_some, hloop]
            rfl
          · rw [hdone.tracks.length, hpixels]
          · have hvisited := (hmem i).mpr ((hfilled i).mp hi)
            rw [hdone.tracks.colors i (hdone.tracks.fillable i hvisited).1, if_pos hvisited]
          · rw [hdone.tracks.colors i hi,
              if_neg fun hvisited => hnot ((hfilled i).mpr ((hmem i).mp hvisited))]
          · have hvisited := hdone.search.start_mem
            have htail : 0 < s'.tail := by
              rw [hdone.tracks.tail]
              exact List.length_pos_of_mem hvisited
            refine iff_of_true (decide_eq_true htail) fun heq => htarget ?_
            have hcolor := hdone.tracks.colors start hlt
            rw [heq, if_pos hvisited] at hcolor
            exact hcolor

/-- A single pixel that is in the way. -/
theorem enqueueIf_unmasked {target : Color} {s : Fill} {j : Nat} (condition : Bool)
    (h : mask.getD j 0 = 0) : s.enqueueIf condition mask target replacement j = some s := by
  unfold Fill.enqueueIf Fill.enqueue
  rw [if_pos h, ite_self]

/-- On a canvas of 65600 pixels a side the index of the last pixel is no `u32`, and the
neighbours of another pixel are looked at. -/
theorem floodFill_wraps (hpixels : pixels.length = 65600 * 65600 * 4)
    (hmask : mask.length = 65600 * 65600) (hunmasked : ∀ j < 4303359998, mask.getD j 0 = 0)
    (hmasked : mask.getD 4303359999 0 ≠ 0) (htarget : colorAt pixels 4303359999 ≠ replacement) :
    floodFillSkinPixels 2 pixels 65600 mask (some 65599) (some 65599) replacement =
      some (.ok (setColor pixels 4303359999 replacement, true)) := by
  have hscale : skinScale 65600 = .ok 1025 := by decide
  have hstart : startIndex 65600 (some 65599) (some 65599) = some 4303359999 := by decide
  unfold floodFillSkinPixels
  rw [hscale]
  dsimp only
  rw [if_neg (by simp only [hpixels, hmask, ne_eq, not_true_eq_false, or_self, not_false_eq_true]),
    hstart]
  dsimp only
  rw [if_neg hmasked, if_neg htarget]
  generalize hqueue : List.replicate (65600 * 65600) (0 : UInt32) = queue
  have hroom : 0 < queue.length := by
    rw [← hqueue, List.length_replicate]
    decide
  have henqueue : Fill.enqueue mask (colorAt pixels 4303359999) replacement 4303359999
      ⟨pixels, queue, 0, 0⟩ = some ⟨setColor pixels 4303359999 replacement,
        queue.set 0 (UInt32.ofNat 4303359999), 0, 1⟩ := by
    rw [Fill.enqueue, if_neg hmasked, if_neg (not_not_intro rfl), if_pos hroom]
  have hread : ((queue.set 0 (UInt32.ofNat 4303359999)).getD 0 0).toNat = 8392703 := by
    rw [List.getD_eq_getElem?_getD, List.getElem?_set_self hroom, Option.getD_some]
    decide
  have hround : Fill.round 65600 mask (colorAt pixels 4303359999) replacement
      ⟨setColor pixels 4303359999 replacement, queue.set 0 (UInt32.ofNat 4303359999), 0, 1⟩ =
      some ⟨setColor pixels 4303359999 replacement, queue.set 0 (UInt32.ofNat 4303359999), 1,
        1⟩ := by
    unfold Fill.round
    dsimp only
    rw [hread, enqueueIf_unmasked _ (hunmasked _ (by decide)), Option.bind_eq_bind,
      Option.bind_some, enqueueIf_unmasked _ (hunmasked _ (by decide))]
    simp only [Option.bind_some]
    rw [enqueueIf_unmasked _ (hunmasked _ (by decide)), Option.bind_some,
      enqueueIf_unmasked _ (hunmasked _ (by decide))]
  simp only [henqueue, Option.bind_eq_bind, Option.bind_some]
  rw [Fill.loop, if_pos Nat.zero_lt_one]
  simp only [hround, Option.bind_eq_bind, Option.bind_some]
  rw [Fill.loop, if_neg (Nat.lt_irrefl 1)]
  rfl

end Bucket

/-- A transparent canvas, all of which may be filled. -/
theorem smallCanvas_filled :
    ∃ pixels' changed,
      floodFillSkinPixels 4097 (List.replicate (64 * 64 * 4) 0) 64 (List.replicate (64 * 64) 1)
        (some 3) (some 5) ⟨1, 2, 3, 255⟩ = some (.ok (pixels', changed)) ∧
      FillsExactly (List.replicate (64 * 64 * 4) 0) 64 (List.replicate (64 * 64) 1) (some 3)
        (some 5) ⟨1, 2, 3, 255⟩ pixels' changed :=
  floodFill_exact (validSize_iff.mpr (by decide)) (by decide) List.length_replicate
    List.length_replicate (some 3) (some 5) ⟨1, 2, 3, 255⟩ (by decide)

/-- **On a canvas of 65600 pixels a side** a masked neighbour of the start keeps its colour. -/
theorem largeCanvas_missed :
    ValidSize 65600 ∧ ∃ pixels',
      floodFillSkinPixels 2 (List.replicate (65600 * 65600 * 4) 0) 65600
        (List.replicate 4303359998 0 ++ [1, 1]) (some 65599) (some 65599) ⟨255, 0, 0, 255⟩ =
          some (.ok (pixels', true)) ∧
      ¬FillsExactly (List.replicate (65600 * 65600 * 4) 0) 65600
        (List.replicate 4303359998 0 ++ [1, 1]) (some 65599) (some 65599) ⟨255, 0, 0, 255⟩
        pixels' true := by
  have hlength : (List.replicate 4303359998 (0 : UInt8) ++ [1, 1]).length = 65600 * 65600 := by
    rw [List.length_append, List.length_replicate]
    decide
  have hunmasked : ∀ j < 4303359998,
      (List.replicate 4303359998 (0 : UInt8) ++ [1, 1]).getD j 0 = 0 := by
    intro j hj
    rw [List.getD_eq_getElem?_getD, List.getElem?_append_left (by rwa [List.length_replicate]),
      List.getElem?_replicate, if_pos hj]
    rfl
  have hmasked : ∀ j, j = 4303359998 ∨ j = 4303359999 →
      (List.replicate 4303359998 (0 : UInt8) ++ [1, 1]).getD j 0 ≠ 0 := by
    intro j hj
    rw [List.getD_eq_getElem?_getD,
      List.getElem?_append_right (by rw [List.length_replicate]; omega), List.length_replicate]
    rcases hj with rfl | rfl <;> decide
  generalize hmask : List.replicate 4303359998 (0 : UInt8) ++ [1, 1] = mask at *
  have hcolor := colorAt_replicate (65600 * 65600 * 4)
  have hpixels : (List.replicate (65600 * 65600 * 4) (0 : UInt8)).length = 65600 * 65600 * 4 :=
    List.length_replicate
  generalize List.replicate (65600 * 65600 * 4) (0 : UInt8) = pixels at *
  have hblack : ∀ i, colorAt pixels i ≠ ⟨255, 0, 0, 255⟩ := by
    intro i
    rw [hcolor]
    decide
  refine ⟨validSize_iff.mpr (by decide), _, floodFill_wraps hpixels hlength hunmasked
    (hmasked _ (Or.inr rfl)) (hblack _), fun hexact => ?_⟩
  have hstart : startIndex 65600 (some 65599) (some 65599) = some 4303359999 := by decide
  have hneighbours : Neighbours 65600 4303359999 4303359998 :=
    Or.inl ⟨by decide, Or.inr (by decide)⟩
  have hfillable : ∀ j, j = 4303359998 ∨ j = 4303359999 →
      Fillable pixels 65600 mask 4303359999 j := fun j hj =>
    ⟨by omega, hmasked j hj, by rw [hcolor, hcolor]⟩
  have hfilled := hexact.filled 4303359998 ⟨_, hstart, hfillable _ (Or.inr rfl),
    ReflTransGen.single ⟨hneighbours, hfillable _ (Or.inl rfl)⟩⟩
  rw [colorAt_setColor _ (by rw [hpixels]; decide), if_neg (by decide)] at hfilled
  exact hblack _ hfilled

end AsterYggdrasil.SkinPixels
