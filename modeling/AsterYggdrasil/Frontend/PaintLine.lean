import AsterYggdrasil.Frontend.Doubles
import AsterYggdrasil.Raster.Walk

/-!
# The line between two pixels

`paintLine` paints the pixels that a pointer has skipped.  Its loop ends when it
is exactly at the second point; by `Raster.walk_onCourse` it gets there, and the
pixels it has painted make a line without gaps (`line_drawn`).

The numbers are doubles, so the result of every operation passes `round`.  On
integers of 53 bits this changes nothing.
-/

namespace AsterYggdrasil.SkinPixels

open Raster

/-! ## The loop -/

/-- What `paintLine` computes before its loop. -/
structure Slope where
  x1 : Int
  y1 : Int
  deltaX : Int
  deltaY : Int
  stepX : Int
  stepY : Int
  deriving DecidableEq, Repr

/-- The variables of the loop. -/
structure Pen where
  x0 : Int
  y0 : Int
  error : Int
  deriving DecidableEq, Repr

variable (round : Int → Int)

def Slope.between (start goal : Int × Int) : Slope where
  x1 := goal.1
  y1 := goal.2
  deltaX := |round (goal.1 - start.1)|
  deltaY := |round (goal.2 - start.2)|
  stepX := if start.1 < goal.1 then 1 else -1
  stepY := if start.2 < goal.2 then 1 else -1

/-- The first `if` of the loop. -/
def Pen.moveX (s : Slope) (doubledError : Int) (p : Pen) : Pen :=
  if doubledError > -s.deltaY then
    { p with error := round (p.error - s.deltaY), x0 := round (p.x0 + s.stepX) }
  else p

/-- The second `if` of the loop. -/
def Pen.moveY (s : Slope) (doubledError : Int) (p : Pen) : Pen :=
  if doubledError < s.deltaX then
    { p with error := round (p.error + s.deltaX), y0 := round (p.y0 + s.stepY) }
  else p

/-- `while (true)`: the calls of `paintPixel`, in order; a loop of more rounds is
`none`. -/
def lineLoop (s : Slope) : Nat → Pen → Option (List (Int × Int))
  | 0, _ => none
  | rounds + 1, p =>
      if p.x0 = s.x1 ∧ p.y0 = s.y1 then some [(p.x0, p.y0)]
      else
        let doubledError := round (p.error * 2)
        let p' := (p.moveX round s doubledError).moveY round s doubledError
        (lineLoop s rounds p').map ((p.x0, p.y0) :: ·)

/-- `paintLine`. -/
def paintLine (rounds : Nat) (start goal : Int × Int) : Option (List (Int × Int)) :=
  let s := Slope.between round start goal
  lineLoop round s rounds ⟨start.1, start.2, round (s.deltaX - s.deltaY)⟩

/-! ## The loop is a walk -/

/-- `round` changes no integer up to `n`. -/
def ExactUpTo (round : Int → Int) (n : Nat) : Prop := ∀ z : Int, z.natAbs ≤ n → round z = z

/-- Neither coordinate is larger than `n`. -/
def InSquare (n : Nat) (p : Int × Int) : Prop := p.1.natAbs ≤ n ∧ p.2.natAbs ≤ n

section Run

variable {round : Int → Int} {start goal : Int × Int} {n : Nat}

/-- The two sides of the line. -/
def acrossOf (start goal : Int × Int) : Nat := (goal.1 - start.1).natAbs

def upOf (start goal : Int × Int) : Nat := (goal.2 - start.2).natAbs

/-- The pen after `w`. -/
def penAt (start goal : Int × Int) (w : Walk) : Pen where
  x0 := along start.1 goal.1 w.across
  y0 := along start.2 goal.2 w.up
  error := w.error

@[simp] theorem penAt_error (start goal : Int × Int) (w : Walk) :
    (penAt start goal w).error = w.error := rfl

theorem slope_eq (hround : ExactUpTo round (6 * n)) (hstart : InSquare n start)
    (hgoal : InSquare n goal) :
    Slope.between round start goal =
      { x1 := goal.1, y1 := goal.2
        deltaX := acrossOf start goal, deltaY := upOf start goal
        stepX := if start.1 < goal.1 then 1 else -1
        stepY := if start.2 < goal.2 then 1 else -1 } := by
  obtain ⟨hsx, hsy⟩ := hstart
  obtain ⟨hgx, hgy⟩ := hgoal
  unfold Slope.between acrossOf upOf
  rw [hround _ (by omega), hround _ (by omega), Int.abs_eq_natAbs, Int.abs_eq_natAbs]

/-- A step in either direction stays between the two ends. -/
theorem along_succ (p q : Int) (m : Nat) :
    along p q m + (if p < q then 1 else -1) = along p q (m + 1) := by
  unfold along
  push_cast
  ring

theorem natAbs_le_of_between {p q z : Int} (hz : z ∈ Set.uIcc p q) (hp : p.natAbs ≤ n)
    (hq : q.natAbs ≤ n) : z.natAbs ≤ n := by
  rcases Set.mem_uIcc.mp hz with ⟨_, _⟩ | ⟨_, _⟩ <;> omega

theorem round_along (hround : ExactUpTo round (6 * n)) {p q : Int} (hp : p.natAbs ≤ n)
    (hq : q.natAbs ≤ n) {m : Nat} (hm : m + 1 ≤ (q - p).natAbs) :
    round (along p q m + (if p < q then 1 else -1)) = along p q (m + 1) := by
  have hsmall := natAbs_le_of_between (along_mem_box hm) hp hq
  rw [along_succ]
  exact hround _ (by omega)

/-- The longer side is at most twice the size of the square. -/
theorem sides_le (hstart : InSquare n start) (hgoal : InSquare n goal) :
    acrossOf start goal ≤ 2 * n ∧ upOf start goal ≤ 2 * n := by
  obtain ⟨hsx, hsy⟩ := hstart
  obtain ⟨hgx, hgy⟩ := hgoal
  unfold acrossOf upOf
  omega

/-- **One round of the loop is one step of the walk.** -/
theorem pen_next (hround : ExactUpTo round (6 * n)) (hstart : InSquare n start)
    (hgoal : InSquare n goal) {k : Nat} {w : Walk}
    (hw : OnCourse (acrossOf start goal) (upOf start goal) k w)
    (hw' : OnCourse (acrossOf start goal) (upOf start goal) (k + 1)
      (w.next (acrossOf start goal) (upOf start goal))) :
    ((penAt start goal w).moveX round (Slope.between round start goal)
        (round (w.error * 2))).moveY round (Slope.between round start goal)
        (round (w.error * 2)) =
      penAt start goal (w.next (acrossOf start goal) (upOf start goal)) := by
  obtain ⟨ha, hb⟩ := sides_le hstart hgoal
  have hhigh := hw.error_le
  have hlow := hw.le_error
  have hdouble : round (w.error * 2) = 2 * w.error := by
    rw [hround _ (by omega), mul_comm]
  have hx : -(upOf start goal : Int) < 2 * w.error →
      round (along start.1 goal.1 w.across + (if start.1 < goal.1 then 1 else -1)) =
        along start.1 goal.1 (w.across + 1) := by
    intro hacross
    have hle := hw'.across_le
    rw [Walk.next, if_pos hacross] at hle
    exact round_along hround hstart.1 hgoal.1 hle
  have hy : 2 * w.error < (acrossOf start goal : Int) →
      round (along start.2 goal.2 w.up + (if start.2 < goal.2 then 1 else -1)) =
        along start.2 goal.2 (w.up + 1) := by
    intro hup
    have hle := hw'.up_le
    rw [Walk.next, if_pos hup] at hle
    exact round_along hround hstart.2 hgoal.2 hle
  rw [slope_eq hround hstart hgoal, hdouble]
  by_cases hacross : -(upOf start goal : Int) < 2 * w.error
  · have hmoved : round (w.error - upOf start goal) = w.error - upOf start goal :=
      hround _ (by omega)
    by_cases hup : 2 * w.error < (acrossOf start goal : Int)
    · have hraised : round (w.error - upOf start goal + acrossOf start goal) =
          w.error - upOf start goal + acrossOf start goal := hround _ (by omega)
      simp only [Pen.moveX, Pen.moveY, penAt, Walk.next, gt_iff_lt, if_pos hacross, if_pos hup,
        hx hacross, hy hup, hmoved, hraised]
    · simp only [Pen.moveX, Pen.moveY, penAt, Walk.next, gt_iff_lt, if_pos hacross, if_neg hup,
        hx hacross, hmoved]
  · by_cases hup : 2 * w.error < (acrossOf start goal : Int)
    · have hraised : round (w.error + acrossOf start goal) = w.error + acrossOf start goal :=
        hround _ (by omega)
      simp only [Pen.moveX, Pen.moveY, penAt, Walk.next, gt_iff_lt, if_neg hacross, if_pos hup,
        hy hup, hraised]
    · simp only [Pen.moveX, Pen.moveY, penAt, Walk.next, gt_iff_lt, if_neg hacross, if_neg hup]

/-- The rest of the loop paints the rest of the line. -/
theorem lineLoop_eq (hround : ExactUpTo round (6 * n)) (hstart : InSquare n start)
    (hgoal : InSquare n goal) (m : Nat) :
    ∀ k rounds, k + m = max (acrossOf start goal) (upOf start goal) → m < rounds →
      lineLoop round (Slope.between round start goal) rounds
          (penAt start goal (walk (acrossOf start goal) (upOf start goal) k)) =
        some ((List.range' k (m + 1)).map (lineAt start goal)) := by
  induction m with
  | zero =>
      intro k rounds hk hrounds
      obtain ⟨rounds, rfl⟩ : ∃ r, rounds = r + 1 := ⟨rounds - 1, by omega⟩
      have hend := (lineAt_eq_iff (p := start) (q := goal) (Nat.le_of_eq hk)).mpr hk
      have hstop := Prod.ext_iff.mp hend
      rw [lineLoop, if_pos (by rw [slope_eq hround hstart hgoal]; exact hstop)]
      rfl
  | succ m ih =>
      intro k rounds hk hrounds
      obtain ⟨rounds, rfl⟩ : ∃ r, rounds = r + 1 := ⟨rounds - 1, by omega⟩
      have hle : k ≤ max (acrossOf start goal) (upOf start goal) := by omega
      have hgo : ¬ lineAt start goal k = goal := by
        intro hend
        have hk' : k = max (acrossOf start goal) (upOf start goal) := (lineAt_eq_iff hle).mp hend
        omega
      rw [Prod.ext_iff] at hgo
      have hround' := pen_next hround hstart hgoal (walk_onCourse hle)
        (walk_onCourse (by omega : k + 1 ≤ max (acrossOf start goal) (upOf start goal)))
      have hrest := ih (k + 1) rounds (by omega) (by omega)
      rw [lineLoop, if_neg (by rw [slope_eq hround hstart hgoal]; exact hgo)]
      dsimp only
      rw [penAt_error, hround', ← walk, hrest, List.range'_succ, List.map_cons]
      rfl

/-- The loop ends, and paints the pixels of the walk. -/
theorem paintLine_eq (hround : ExactUpTo round (6 * n)) (hstart : InSquare n start)
    (hgoal : InSquare n goal) {rounds : Nat}
    (hrounds : max (acrossOf start goal) (upOf start goal) < rounds) :
    paintLine round rounds start goal = some (linePixels start goal) := by
  obtain ⟨ha, hb⟩ := sides_le hstart hgoal
  have hloop := lineLoop_eq hround hstart hgoal (max (acrossOf start goal) (upOf start goal)) 0
    rounds (Nat.zero_add _) hrounds
  have hpen : (⟨start.1, start.2, round ((Slope.between round start goal).deltaX -
      (Slope.between round start goal).deltaY)⟩ : Pen) =
      penAt start goal (walk (acrossOf start goal) (upOf start goal) 0) := by
    rw [slope_eq hround hstart hgoal]
    dsimp only
    rw [hround _ (by omega)]
    simp [penAt, walk, Walk.start, along]
  unfold paintLine
  dsimp only
  rw [hpen, hloop, ← List.range_eq_range']
  rfl

end Run

/-! ## The line -/

/-- **The loop ends after `max |dx| |dy| + 1` calls of `paintPixel`, which draw a
line from the first point to the second.**  Doubles paint the same pixels
wherever six times a coordinate still has 53 bits. -/
theorem line_drawn (start goal : Int × Int) :
    ∃ pixels, IsLine start goal pixels ∧
      (∀ rounds, pixels.length ≤ rounds → paintLine id rounds start goal = some pixels) ∧
      ((∀ z ∈ [start.1, start.2, goal.1, goal.2], z.natAbs ≤ 2 ^ 50) →
        ∀ rounds, pixels.length ≤ rounds →
          paintLine Doubles.nearestInt rounds start goal = some pixels) := by
  have hline := isLine_linePixels start goal
  have hlength : ∀ rounds, (linePixels start goal).length ≤ rounds →
      max (acrossOf start goal) (upOf start goal) < rounds := by
    intro rounds hrounds
    have hsame := hline.length
    unfold acrossOf upOf
    omega
  refine ⟨linePixels start goal, hline, fun rounds hrounds => ?_, fun hsmall rounds hrounds => ?_⟩
  · let n := max (max start.1.natAbs start.2.natAbs) (max goal.1.natAbs goal.2.natAbs)
    have hstart : InSquare n start := ⟨by omega, by omega⟩
    have hgoal : InSquare n goal := ⟨by omega, by omega⟩
    exact paintLine_eq (fun _ _ => rfl) hstart hgoal (hlength rounds hrounds)
  · have hexact : ExactUpTo Doubles.nearestInt (6 * 2 ^ 50) := by
      intro z hz
      exact Doubles.nearestInt_exact (by omega)
    have hstart : InSquare (2 ^ 50) start := ⟨hsmall _ (by simp), hsmall _ (by simp)⟩
    have hgoal : InSquare (2 ^ 50) goal := ⟨hsmall _ (by simp), hsmall _ (by simp)⟩
    exact paintLine_eq hexact hstart hgoal (hlength rounds hrounds)

end AsterYggdrasil.SkinPixels
