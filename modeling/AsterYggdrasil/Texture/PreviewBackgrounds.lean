import AsterYggdrasil.External.NameGrammar
import AsterYggdrasil.Text.Hex
import AsterYggdrasil.Texture.Previews

/-!
# The backgrounds of previews

A background is given by name or in hexadecimal digits.  `parse_background`
checks the length of the digits in bytes, cuts them at byte offsets and hands
each pair to the integer parser of the standard library.

The parser also takes a plus sign, so `#+1+2+3` is a colour, and a cut inside a
character panics.  **Nothing else goes wrong**: every other text is read as the
documentation says (`parsedExactly_iff`), and what a background is printed as is
read back.
-/

namespace AsterYggdrasil.Textures

open External Text

/-! ## Parsing -/

/-- A call that does not return a value panics or returns an error. -/
inductive ConfigFailure
  | panic
  | error (e : AsterError)
  deriving DecidableEq, Repr

abbrev Checked (α : Type) := Except ConfigFailure α

def rejected {α : Type} (message : String) : Checked α :=
  .error (.error (.validation none message))

/-- `parse_hex_byte`. -/
def parseHexByte (hex : List Char) (start : Nat) : Checked UInt8 :=
  match slice? hex start (start + 2) with
  | none => .error .panic
  | some pair =>
      match readByte pair with
      | none => rejected "texture preview background contains invalid hex digits"
      | some b => .ok b

/-- `parse_hex_background`. -/
def parseHexBackground (value : String) : Checked (UInt8 × UInt8 × UInt8 × UInt8) :=
  match (trim value).toList with
  | '#' :: hex =>
      if byteLength hex ≠ 6 ∧ byteLength hex ≠ 8 then
        rejected "texture preview background hex must be #RRGGBB or #RRGGBBAA"
      else do
        let red ← parseHexByte hex 0
        let green ← parseHexByte hex 2
        let blue ← parseHexByte hex 4
        let alpha ← (if byteLength hex = 8 then parseHexByte hex 6 else .ok 255)
        .ok (red, green, blue, alpha)
  | _ =>
      rejected ("texture preview background must be transparent, none, white, black, " ++
        "#RRGGBB, or #RRGGBBAA")

/-- `parse_background`. -/
def parseBackground (value : String) : Checked TexturePreviewBackground :=
  let name := toAsciiLowercase (trim value)
  if name = "transparent" ∨ name = "none" then .ok .transparent
  else if name = "white" then .ok (.solid 255 255 255 255)
  else if name = "black" then .ok (.solid 0 0 0 255)
  else (parseHexBackground value).map fun (red, green, blue, alpha) =>
    .solid red green blue alpha

/-- `TexturePreviewBackground::wire_value`. -/
def TexturePreviewBackground.wireValue : TexturePreviewBackground → String
  | .transparent => "transparent"
  | .solid red green blue alpha =>
      String.ofList ('#' :: (printByte red ++ printByte green ++ printByte blue ++ printByte alpha))

/-! ## What a text denotes -/

/-- The background that the documentation gives a text. -/
inductive Denotes (text : String) : TexturePreviewBackground → Prop
  | transparent (h : toAsciiLowercase text = "transparent" ∨ toAsciiLowercase text = "none") :
      Denotes text .transparent
  | white (h : toAsciiLowercase text = "white") : Denotes text (.solid 255 255 255 255)
  | black (h : toAsciiLowercase text = "black") : Denotes text (.solid 0 0 0 255)
  | rgb {r r' g g' b b' : Char} (h : text.toList = ['#', r, r', g, g', b, b'])
      (hhex : ∀ c ∈ [r, r', g, g', b, b'], IsHex c) :
      Denotes text (.solid (digitPair r r') (digitPair g g') (digitPair b b') 255)
  | rgba {r r' g g' b b' a a' : Char} (h : text.toList = ['#', r, r', g, g', b, b', a, a'])
      (hhex : ∀ c ∈ [r, r', g, g', b, b', a, a'], IsHex c) :
      Denotes text (.solid (digitPair r r') (digitPair g g') (digitPair b b') (digitPair a a'))

/-- Every pair can be read. -/
def Legible : List Char → Prop
  | [] => True
  | [_] => False
  | c :: d :: rest => Readable c d ∧ Legible rest

/-- Behind pairs that can be read, two bytes end inside a character. -/
def CutInside : List Char → Prop
  | [] => False
  | [c] => 3 ≤ c.utf8Size
  | c :: d :: rest =>
      3 ≤ c.utf8Size ∨ c.utf8Size = 1 ∧ 2 ≤ d.utf8Size ∨ Readable c d ∧ CutInside rest

/-- The digits have the right number of bytes, and a character is cut, or they
can be read with a plus sign among them. -/
def Spoiled (text : List Char) : Prop :=
  ∃ hex, text = '#' :: hex ∧ (byteLength hex = 6 ∨ byteLength hex = 8) ∧
    (CutInside hex ∨ Legible hex ∧ '+' ∈ hex)

/-! ## Pair by pair -/

/-- The values of the pairs. -/
def pairBytes : List Char → List UInt8
  | c :: d :: rest => digitPair c d :: pairBytes rest
  | _ => []

/-- The bytes at the first `n` even offsets. -/
def readPairs : Nat → List Char → Checked (List UInt8)
  | 0, _ => .ok []
  | n + 1, rest => do
      let b ← parseHexByte rest 0
      match splitAt? rest 2 with
      | none => .error .panic
      | some (_, rest) => (readPairs n rest).map (b :: ·)

theorem parseHexByte_append (l r : List Char) :
    parseHexByte (l ++ r) (byteLength l) = parseHexByte r 0 := by
  have hshift : slice? (l ++ r) (byteLength l) (byteLength l + 2) = slice? r 0 2 := by
    have hzero := slice?_append [] r 2
    rw [slice?_append]
    exact hzero.symm
  unfold parseHexByte
  rw [hshift]

section FirstPair

variable {c d : Char} {rest : List Char}

theorem parseHexByte_zero (cs : List Char) :
    parseHexByte cs 0 =
      match (splitAt? cs 2).map Prod.fst with
      | none => .error .panic
      | some pair =>
          match readByte pair with
          | none => rejected "texture preview background contains invalid hex digits"
          | some b => .ok b := by
  have hzero := slice?_append [] cs 2
  unfold parseHexByte
  rw [← hzero]
  rfl

/-- A pair that can be read is one, and the rest follows. -/
theorem readPairs_readable (h : Readable c d) (n : Nat) :
    readPairs (n + 1) (c :: d :: rest) = (readPairs n rest).map (digitPair c d :: ·) := by
  obtain ⟨hc, hd⟩ := h.utf8Size
  have hsplit : splitAt? (c :: d :: rest) 2 = some ([c, d], rest) :=
    splitAt?_eq_some_iff.mpr ⟨rfl, by simp [hc, hd]⟩
  rw [readPairs, parseHexByte_zero, hsplit]
  simp only [Option.map_some, (readByte_pair c d).1 h]
  rfl

theorem readPairs_cut {cs : List Char} (h : splitAt? cs 2 = none) (n : Nat) :
    readPairs (n + 1) cs = .error .panic := by
  rw [readPairs, parseHexByte_zero, h]
  rfl

theorem readPairs_rejected {cs pair : List Char} (h : splitAt? cs 2 = some (pair, rest))
    (hread : readByte pair = none) (n : Nat) :
    readPairs (n + 1) cs = rejected "texture preview background contains invalid hex digits" := by
  rw [readPairs, parseHexByte_zero, h]
  simp only [Option.map_some, hread]
  rfl

theorem splitAt?_wide (h : 3 ≤ c.utf8Size) : splitAt? (c :: rest) 2 = none := by
  rw [splitAt?, if_neg (by omega)]

theorem splitAt?_second (hc : c.utf8Size = 1) (hd : 2 ≤ d.utf8Size) :
    splitAt? (c :: d :: rest) 2 = none := by
  rw [splitAt?, if_pos (by omega), hc, splitAt?, if_neg (by omega)]
  rfl

theorem splitAt?_two (h : c.utf8Size = 2) : splitAt? (c :: rest) 2 = some ([c], rest) :=
  splitAt?_eq_some_iff.mpr ⟨rfl, by simp [h]⟩

end FirstPair

/-- What becomes of the digits: they are read, a cut panics, or they are
rejected. -/
inductive PairsOutcome (rest : List Char) (n : Nat) : Prop
  | legible (h : Legible rest) (hread : readPairs n rest = .ok (pairBytes rest))
  | cut (h : CutInside rest) (hread : readPairs n rest = .error .panic)
  | rejected (hnot : ¬ Legible rest) (hnocut : ¬ CutInside rest)
      (hread : readPairs n rest =
        rejected "texture preview background contains invalid hex digits")

/-- What can be read is not cut. -/
theorem CutInside.not_legible : ∀ {rest : List Char}, CutInside rest → ¬ Legible rest
  | [], h, _ => h
  | [_], _, h => h
  | c :: d :: rest, hcut, ⟨hreadable, hrest⟩ => by
      obtain ⟨hc, hd⟩ := hreadable.utf8Size
      rcases hcut with hcut | hcut | hcut
      · omega
      · omega
      · exact CutInside.not_legible hcut.2 hrest

theorem pairsOutcome (n : Nat) :
    ∀ rest : List Char, byteLength rest = 2 * n → PairsOutcome rest n := by
  induction n with
  | zero =>
      intro rest hlength
      cases rest with
      | nil => exact .legible trivial rfl
      | cons c rest =>
          have hpos := Char.utf8Size_pos c
          rw [byteLength_cons] at hlength
          omega
  | succ n ih =>
      intro rest hlength
      cases rest with
      | nil =>
          rw [byteLength_nil] at hlength
          omega
      | cons c rest =>
          have hpos := Char.utf8Size_pos c
          rw [byteLength_cons] at hlength
          by_cases hwide : 3 ≤ c.utf8Size
          · -- the first character is longer than a pair
            have hsplit : splitAt? (c :: rest) 2 = none := splitAt?_wide hwide
            have hread := readPairs_cut hsplit n
            cases rest with
            | nil => exact .cut hwide hread
            | cons d rest => exact .cut (Or.inl hwide) hread
          · by_cases htwo : c.utf8Size = 2
            · -- one character is the whole pair, and no digit
              have hsplit : splitAt? (c :: rest) 2 = some ([c], rest) := splitAt?_two htwo
              have hread := readPairs_rejected hsplit (readByte_wide htwo) n
              cases rest with
              | nil => exact .rejected id hwide hread
              | cons d rest =>
                  have hnot : ¬ Readable c d := by
                    intro h
                    have hone := h.utf8Size.1
                    omega
                  refine .rejected (fun h => hnot h.1) ?_ hread
                  rintro (h | h | h)
                  · exact hwide h
                  · omega
                  · exact hnot h.1
            · have hone : c.utf8Size = 1 := by omega
              cases rest with
              | nil =>
                  rw [byteLength_nil] at hlength
                  omega
              | cons d rest =>
                  have hdpos := Char.utf8Size_pos d
                  rw [byteLength_cons] at hlength
                  by_cases hcut : 2 ≤ d.utf8Size
                  · exact .cut (Or.inr (Or.inl ⟨hone, hcut⟩))
                      (readPairs_cut (splitAt?_second hone hcut) n)
                  · have hdone : d.utf8Size = 1 := by omega
                    by_cases hreadable : Readable c d
                    · have hnext : readPairs (n + 1) (c :: d :: rest) =
                          (readPairs n rest).map (digitPair c d :: ·) :=
                        readPairs_readable hreadable n
                      have hskip : CutInside (c :: d :: rest) → CutInside rest := by
                        rintro (h | h | h)
                        · exact absurd h hwide
                        · omega
                        · exact h.2
                      cases ih rest (by omega) with
                      | legible h hread =>
                          refine .legible ⟨hreadable, h⟩ ?_
                          rw [hnext, hread]
                          rfl
                      | cut h hread =>
                          refine .cut (Or.inr (Or.inr ⟨hreadable, h⟩)) ?_
                          rw [hnext, hread]
                          rfl
                      | rejected hnot hnocut hread =>
                          refine .rejected (fun h => hnot h.2) (fun h => hnocut (hskip h)) ?_
                          rw [hnext, hread]
                          rfl
                    · have hsplit : splitAt? (c :: d :: rest) 2 = some ([c, d], rest) :=
                        splitAt?_eq_some_iff.mpr ⟨rfl, by simp [hone, hdone]⟩
                      have hread := readPairs_rejected hsplit ((readByte_pair c d).2 hreadable) n
                      refine .rejected (fun h => hreadable h.1) ?_ hread
                      rintro (h | h | h)
                      · exact hwide h
                      · omega
                      · exact hreadable h.1

/-! ## The whole value -/

/-- The bytes at `n` offsets, two apart. -/
def readOffsets (hex : List Char) : Nat → Nat → Checked (List UInt8)
  | 0, _ => .ok []
  | n + 1, start => do
      let b ← parseHexByte hex start
      (readOffsets hex n (start + 2)).map (b :: ·)

theorem splitAt?_of_parseHexByte {cs : List Char} {b : UInt8} (h : parseHexByte cs 0 = .ok b) :
    ∃ pair rest, splitAt? cs 2 = some (pair, rest) ∧ cs = pair ++ rest ∧ byteLength pair = 2 := by
  rw [parseHexByte_zero] at h
  cases hsplit : splitAt? cs 2 with
  | none =>
      rw [hsplit] at h
      cases h
  | some parts =>
      obtain ⟨heq, hlength⟩ := splitAt?_eq_some_iff.mp hsplit
      exact ⟨parts.1, parts.2, rfl, heq, hlength⟩

/-- Reading at offsets is reading pair by pair. -/
theorem readOffsets_append (n : Nat) :
    ∀ l rest : List Char, readOffsets (l ++ rest) n (byteLength l) = readPairs n rest := by
  induction n with
  | zero =>
      intro l rest
      rfl
  | succ n ih =>
      intro l rest
      rw [readOffsets, readPairs, parseHexByte_append]
      cases hb : parseHexByte rest 0 with
      | error e => rfl
      | ok b =>
          obtain ⟨pair, rest', hsplit, rfl, hlength⟩ := splitAt?_of_parseHexByte hb
          have hnext := ih (l ++ pair) rest'
          rw [byteLength_append, hlength, List.append_assoc] at hnext
          rw [hsplit]
          dsimp only [bind, Except.bind]
          rw [hnext]

theorem readOffsets_zero (hex : List Char) (n : Nat) : readOffsets hex n 0 = readPairs n hex :=
  readOffsets_append n [] hex

/-- Three or four bytes as a colour. -/
def channels (bytes : List UInt8) : UInt8 × UInt8 × UInt8 × UInt8 :=
  (bytes.getD 0 0, bytes.getD 1 0, bytes.getD 2 0, bytes.getD 3 255)

theorem parseHexBackground_eq {value : String} {hex : List Char} {n : Nat}
    (htext : (trim value).toList = '#' :: hex) (hlength : byteLength hex = 2 * n)
    (hn : n = 3 ∨ n = 4) : parseHexBackground value = (readPairs n hex).map channels := by
  rw [← readOffsets_zero]
  unfold parseHexBackground
  rw [htext]
  split
  · next heq =>
    cases heq
    rw [if_neg (by omega)]
    rcases hn with rfl | rfl
    · rw [if_neg (by omega)]
      cases h0 : parseHexByte hex 0 <;> cases h2 : parseHexByte hex 2 <;>
        cases h4 : parseHexByte hex 4 <;>
        simp [readOffsets, h0, h2, h4, bind, Except.bind, Except.map, channels]
    · rw [if_pos hlength]
      cases h0 : parseHexByte hex 0 <;> cases h2 : parseHexByte hex 2 <;>
        cases h4 : parseHexByte hex 4 <;> cases h6 : parseHexByte hex 6 <;>
        simp [readOffsets, h0, h2, h4, h6, bind, Except.bind, Except.map, channels]
  · next hno => exact absurd rfl (hno hex)

/-- A text that is one of the four names. -/
def IsName (text : String) : Prop :=
  toAsciiLowercase text ∈ ["transparent", "none", "white", "black"]

theorem not_isName_hash {text : String} {hex : List Char} (h : text.toList = '#' :: hex) :
    ¬ IsName text := by
  have hlower : (toAsciiLowercase text).toList = '#' :: hex.map Char.toLower := by
    rw [toAsciiLowercase, String.toList_ofList, h, List.map_cons]
    rfl
  intro hname
  simp only [IsName, List.mem_cons, List.not_mem_nil, or_false] at hname
  rcases hname with heq | heq | heq | heq <;>
  · rw [heq] at hlower
    cases hlower

theorem parseBackground_of_not_name {value : String} (h : ¬ IsName (trim value)) :
    parseBackground value = (parseHexBackground value).map fun (red, green, blue, alpha) =>
      .solid red green blue alpha := by
  simp only [IsName, List.mem_cons, List.not_mem_nil, or_false, not_or] at h
  unfold parseBackground
  dsimp only
  rw [if_neg (not_or.mpr ⟨h.1, h.2.1⟩), if_neg h.2.2.1, if_neg h.2.2.2]

/-! ## Digits and their value -/

def solidOf (bytes : List UInt8) : TexturePreviewBackground :=
  let (red, green, blue, alpha) := channels bytes
  .solid red green blue alpha

theorem Legible.ascii : ∀ {hex : List Char}, Legible hex → Ascii hex
  | [], _ => fun _ h => by cases h
  | [_], h => False.elim h
  | c :: d :: rest, h => by
      intro e he
      rcases List.mem_cons.mp he with rfl | he
      · rcases h.1.1 with hhex | rfl
        · exact hhex.lt
        · decide
      · rcases List.mem_cons.mp he with rfl | he
        · exact h.1.2.lt
        · exact Legible.ascii h.2 e he

/-- Pairs that can be read have a sign or digits only. -/
theorem legible_iff (n : Nat) : ∀ hex : List Char, hex.length = 2 * n →
    ((∀ c ∈ hex, IsHex c) ↔ Legible hex ∧ '+' ∉ hex) := by
  induction n with
  | zero =>
      intro hex hlength
      have hnil : hex = [] := List.length_eq_zero_iff.mp hlength
      subst hnil
      simp [Legible]
  | succ n ih =>
      intro hex hlength
      cases hex with
      | nil => cases hlength
      | cons c rest =>
          cases rest with
          | nil =>
              rw [List.length_singleton] at hlength
              omega
          | cons d rest =>
              have hrest := ih rest (by simp only [List.length_cons] at hlength; omega)
              have hplus : ¬ IsHex '+' := by decide
              constructor
              · intro hall
                have hc := hall c (by simp)
                have hd := hall d (by simp)
                obtain ⟨hlegible, hnone⟩ := hrest.mp fun e he => hall e (by simp [he])
                refine ⟨⟨⟨Or.inl hc, hd⟩, hlegible⟩, fun hmem => ?_⟩
                exact hplus (hall _ hmem)
              · rintro ⟨⟨⟨hc, hd⟩, hlegible⟩, hnone⟩
                have hall := hrest.mpr ⟨hlegible, fun hmem => hnone (by simp [hmem])⟩
                intro e he
                rcases List.mem_cons.mp he with rfl | he
                · exact hc.resolve_right fun heq => hnone (by simp [heq])
                · rcases List.mem_cons.mp he with rfl | he
                  · exact hd
                  · exact hall e he

/-- What the documentation says of a text with a number sign. -/
theorem denotes_hash_iff {text : String} {hex : List Char} (htext : text.toList = '#' :: hex)
    (c : TexturePreviewBackground) :
    Denotes text c ↔
      (hex.length = 6 ∨ hex.length = 8) ∧ (∀ d ∈ hex, IsHex d) ∧ c = solidOf (pairBytes hex) := by
  have hname := not_isName_hash htext
  simp only [IsName, List.mem_cons, List.not_mem_nil, or_false, not_or] at hname
  constructor
  · intro h
    cases h with
    | transparent h =>
        rcases h with h | h
        · exact absurd h hname.1
        · exact absurd h hname.2.1
    | white h => exact absurd h hname.2.2.1
    | black h => exact absurd h hname.2.2.2
    | rgb h hhex =>
        rw [htext] at h
        obtain ⟨-, rfl⟩ := List.cons.inj h
        exact ⟨Or.inl rfl, hhex, rfl⟩
    | rgba h hhex =>
        rw [htext] at h
        obtain ⟨-, rfl⟩ := List.cons.inj h
        exact ⟨Or.inr rfl, hhex, rfl⟩
  · rintro ⟨hlength | hlength, hhex, rfl⟩
    · match hex, hlength, hhex, htext with
      | [_, _, _, _, _, _], _, hhex, htext => exact .rgb htext hhex
    · match hex, hlength, hhex, htext with
      | [_, _, _, _, _, _, _, _], _, hhex, htext => exact .rgba htext hhex

/-! ## Exactly -/

/-- `parse_background` does not panic and gives what the trimmed text denotes. -/
structure ParsedExactly (value : String) : Prop where
  returns : parseBackground value ≠ .error .panic
  exact : ∀ c, parseBackground value = .ok c ↔ Denotes (trim value) c

/-- A value that is rejected and denotes nothing is parsed exactly. -/
theorem ParsedExactly.of_rejected {value message : String}
    (h : parseBackground value = rejected message) (hnone : ∀ c, ¬ Denotes (trim value) c) :
    ParsedExactly value where
  returns := by
    rw [h]
    intro heq
    cases heq
  exact := by
    intro c
    rw [h]
    constructor
    · intro heq
      cases heq
    · intro hdenotes
      exact absurd hdenotes (hnone c)

/-- So is a value that gives the one background it denotes. -/
theorem ParsedExactly.of_denoted {value : String} {c : TexturePreviewBackground}
    (h : parseBackground value = .ok c) (honly : ∀ d, Denotes (trim value) d ↔ d = c) :
    ParsedExactly value where
  returns := by
    rw [h]
    intro heq
    cases heq
  exact := by
    intro d
    rw [h, honly, Except.ok.injEq]
    exact eq_comm

theorem parsedExactly_of_name {value : String} (h : IsName (trim value)) :
    ParsedExactly value := by
  have hhash : ∀ hex, (trim value).toList ≠ '#' :: hex :=
    fun hex htext => not_isName_hash htext h
  have hdenotes : ∀ c, Denotes (trim value) c → parseBackground value = .ok c := by
    intro c hc
    unfold parseBackground
    cases hc with
    | transparent hlower => rw [if_pos hlower]
    | white hlower => rw [if_neg (by rw [hlower]; decide), if_pos hlower]
    | black hlower =>
        rw [if_neg (by rw [hlower]; decide), if_neg (by rw [hlower]; decide), if_pos hlower]
    | rgb htext => exact absurd htext (hhash _)
    | rgba htext => exact absurd htext (hhash _)
  have hsome : ∃ c, Denotes (trim value) c := by
    simp only [IsName, List.mem_cons, List.not_mem_nil, or_false] at h
    rcases h with h | h | h | h
    · exact ⟨_, .transparent (Or.inl h)⟩
    · exact ⟨_, .transparent (Or.inr h)⟩
    · exact ⟨_, .white h⟩
    · exact ⟨_, .black h⟩
  obtain ⟨c, hc⟩ := hsome
  have hparse := hdenotes c hc
  refine .of_denoted hparse fun d => ⟨fun hd => ?_, fun heq => heq ▸ hc⟩
  have hsame := (hdenotes d hd).symm.trans hparse
  exact Except.ok.inj hsame

/-- Without a number sign, there are only names. -/
theorem parsedExactly_of_no_hash {value : String} (hname : ¬ IsName (trim value))
    (hhash : ∀ hex, (trim value).toList ≠ '#' :: hex) : ParsedExactly value := by
  have hparse : parseBackground value =
      rejected ("texture preview background must be transparent, none, white, black, " ++
        "#RRGGBB, or #RRGGBBAA") := by
    rw [parseBackground_of_not_name hname]
    unfold parseHexBackground
    split
    · next hex heq => exact absurd heq (hhash hex)
    · rfl
  simp only [IsName, List.mem_cons, List.not_mem_nil, or_false, not_or] at hname
  refine .of_rejected hparse fun c hc => ?_
  cases hc with
  | transparent hlower =>
      rcases hlower with hlower | hlower
      · exact hname.1 hlower
      · exact hname.2.1 hlower
  | white hlower => exact hname.2.2.1 hlower
  | black hlower => exact hname.2.2.2 hlower
  | rgb htext => exact hhash _ htext
  | rgba htext => exact hhash _ htext

/-- Digits have as many bytes as characters. -/
theorem byteLength_of_denotes {text : String} {hex : List Char} {c : TexturePreviewBackground}
    (htext : text.toList = '#' :: hex) (h : Denotes text c) :
    byteLength hex = 6 ∨ byteLength hex = 8 := by
  obtain ⟨hlength, hhex, -⟩ := (denotes_hash_iff htext c).mp h
  have hascii : Ascii hex := fun d hd => (hhex d hd).lt
  rwa [hascii.byteLength]

theorem parsedExactly_of_length {value : String} {hex : List Char}
    (htext : (trim value).toList = '#' :: hex)
    (hlength : ¬ (byteLength hex = 6 ∨ byteLength hex = 8)) : ParsedExactly value := by
  have hparse : parseBackground value =
      rejected "texture preview background hex must be #RRGGBB or #RRGGBBAA" := by
    rw [parseBackground_of_not_name (not_isName_hash htext)]
    unfold parseHexBackground
    rw [htext]
    split
    · next heq =>
      cases heq
      rw [if_pos (not_or.mp hlength)]
      rfl
    · next hno => exact absurd rfl (hno hex)
  exact .of_rejected hparse fun c hc => hlength (byteLength_of_denotes htext hc)

/-- Six or eight bytes behind a number sign. -/
theorem parsedExactly_hex_iff {value : String} {hex : List Char} {n : Nat}
    (htext : (trim value).toList = '#' :: hex) (hlength : byteLength hex = 2 * n)
    (hn : n = 3 ∨ n = 4) :
    ParsedExactly value ↔ ¬ (CutInside hex ∨ Legible hex ∧ '+' ∈ hex) := by
  have hparse : parseBackground value = (readPairs n hex).map solidOf := by
    rw [parseBackground_of_not_name (not_isName_hash htext),
      parseHexBackground_eq htext hlength hn]
    cases readPairs n hex <;> rfl
  have hdenotes : ∀ c, Denotes (trim value) c → Legible hex ∧ '+' ∉ hex := by
    intro c hc
    obtain ⟨hchars, hhex, -⟩ := (denotes_hash_iff htext c).mp hc
    rcases hchars with hchars | hchars
    · exact (legible_iff 3 hex hchars).mp hhex
    · exact (legible_iff 4 hex hchars).mp hhex
  have hok : ∀ c, parseBackground value = .ok c → Legible hex := by
    intro c hc
    rw [hparse] at hc
    cases pairsOutcome n hex hlength with
    | legible h _ => exact h
    | cut _ hread =>
        rw [hread] at hc
        cases hc
    | rejected _ _ hread =>
        rw [hread] at hc
        cases hc
  cases pairsOutcome n hex hlength with
  | legible h hread =>
      have hvalue : parseBackground value = .ok (solidOf (pairBytes hex)) := by
        rw [hparse, hread]
        rfl
      constructor
      · rintro hexact (hcut | ⟨-, hplus⟩)
        · exact hcut.not_legible h
        · exact (hdenotes _ ((hexact.exact _).mp hvalue)).2 hplus
      · intro hfine
        have hnone : '+' ∉ hex := fun hplus => hfine (Or.inr ⟨h, hplus⟩)
        have hchars : hex.length = 2 * n := by rw [← h.ascii.byteLength, hlength]
        have hhex := (legible_iff n hex hchars).mpr ⟨h, hnone⟩
        refine .of_denoted hvalue fun c => ?_
        rw [denotes_hash_iff htext]
        constructor
        · intro hdenoted
          exact hdenoted.2.2
        · intro heq
          exact ⟨by omega, hhex, heq⟩
  | cut h hread =>
      constructor
      · intro hexact
        refine absurd ?_ hexact.returns
        rw [hparse, hread]
        rfl
      · intro hfine
        exact absurd (Or.inl h) hfine
  | rejected hnot hnocut hread =>
      have hvalue : parseBackground value =
          rejected "texture preview background contains invalid hex digits" := by
        rw [hparse, hread]
        rfl
      constructor
      · rintro - (hcut | ⟨h, -⟩)
        · exact hnocut hcut
        · exact hnot h
      · intro _
        exact .of_rejected hvalue fun c hc => hnot (hdenotes c hc).1

/-- **A value is parsed exactly unless a character is cut, or a plus sign is
read.** -/
theorem parsedExactly_iff (value : String) :
    ParsedExactly value ↔ ¬ Spoiled (trim value).toList := by
  by_cases hhash : ∃ hex, (trim value).toList = '#' :: hex
  · obtain ⟨hex, htext⟩ := hhash
    have hspoiled : Spoiled (trim value).toList ↔
        (byteLength hex = 6 ∨ byteLength hex = 8) ∧
          (CutInside hex ∨ Legible hex ∧ '+' ∈ hex) := by
      constructor
      · rintro ⟨hex', heq, hrest⟩
        rw [htext] at heq
        cases heq
        exact hrest
      · intro h
        exact ⟨hex, htext, h⟩
    rw [hspoiled]
    by_cases hlength : byteLength hex = 6 ∨ byteLength hex = 8
    · obtain ⟨n, hn, hbytes⟩ : ∃ n, (n = 3 ∨ n = 4) ∧ byteLength hex = 2 * n := by
        rcases hlength with h | h
        · exact ⟨3, Or.inl rfl, h⟩
        · exact ⟨4, Or.inr rfl, h⟩
      rw [parsedExactly_hex_iff htext hbytes hn]
      exact not_congr ⟨fun h => ⟨hlength, h⟩, fun h => h.2⟩
    · exact iff_of_true (parsedExactly_of_length htext hlength) fun h => hlength h.1
  · have hnone : ∀ hex, (trim value).toList ≠ '#' :: hex := fun hex heq => hhash ⟨hex, heq⟩
    refine iff_of_true ?_ fun ⟨hex, heq, _⟩ => hnone hex heq
    by_cases hname : IsName (trim value)
    · exact parsedExactly_of_name hname
    · exact parsedExactly_of_no_hash hname hnone

/-! ## Printing -/

section Solid

variable (red green blue alpha : UInt8)

/-- The digits of a colour. -/
def wireDigits : List Char :=
  printByte red ++ printByte green ++ printByte blue ++ printByte alpha

theorem wireValue_toList :
    (TexturePreviewBackground.solid red green blue alpha).wireValue.toList =
      '#' :: wireDigits red green blue alpha := String.toList_ofList

theorem isHex_wireDigits : ∀ c ∈ wireDigits red green blue alpha, IsHex c := by
  obtain ⟨hr, hr', -⟩ := readable_printByte red
  obtain ⟨hg, hg', -⟩ := readable_printByte green
  obtain ⟨hb, hb', -⟩ := readable_printByte blue
  obtain ⟨ha, ha', -⟩ := readable_printByte alpha
  simp only [wireDigits, printByte, List.cons_append, List.nil_append, List.forall_mem_cons]
  exact ⟨hr, hr', hg, hg', hb, hb', ha, ha', fun c hc => by cases hc⟩

theorem solidOf_wireDigits :
    solidOf (pairBytes (wireDigits red green blue alpha)) = .solid red green blue alpha := by
  obtain ⟨-, -, hr⟩ := readable_printByte red
  obtain ⟨-, -, hg⟩ := readable_printByte green
  obtain ⟨-, -, hb⟩ := readable_printByte blue
  obtain ⟨-, -, ha⟩ := readable_printByte alpha
  simp only [wireDigits, printByte, List.cons_append, List.nil_append, pairBytes, hr, hg, hb, ha]
  rfl

end Solid

theorem denotes_wireValue (bg : TexturePreviewBackground) : Denotes bg.wireValue bg := by
  cases bg with
  | transparent => exact .transparent (Or.inl (by decide))
  | solid red green blue alpha =>
      have htext := wireValue_toList red green blue alpha
      rw [denotes_hash_iff htext, solidOf_wireDigits]
      exact ⟨Or.inr rfl, isHex_wireDigits red green blue alpha, rfl⟩

theorem isWhitespace_hex {c : Char} (h : IsHex c) : isWhitespace c = false := by
  have hrange := h.range
  unfold isWhitespace
  simp only [Bool.or_eq_false_iff, Bool.and_eq_false_imp, decide_eq_true_eq,
    decide_eq_false_iff_not]
  omega

theorem trim_wireValue (bg : TexturePreviewBackground) : trim bg.wireValue = bg.wireValue := by
  apply trim_eq_self
  cases bg with
  | transparent =>
      have hall : ("transparent".toList.all fun c => !isWhitespace c) = true := by decide
      intro c hc
      have hblank := List.all_eq_true.mp hall c hc
      rwa [Bool.not_eq_true'] at hblank
  | solid red green blue alpha =>
      intro c hc
      rw [wireValue_toList] at hc
      rcases List.mem_cons.mp hc with rfl | hc
      · decide
      · exact isWhitespace_hex (isHex_wireDigits red green blue alpha c hc)

/-- What is printed is never spoiled. -/
theorem not_spoiled_wireValue (bg : TexturePreviewBackground) :
    ¬ Spoiled bg.wireValue.toList := by
  rintro ⟨hex, htext, -, hbad⟩
  cases bg with
  | transparent =>
      have hfirst : (TexturePreviewBackground.transparent.wireValue.toList).head? = some 't' := by
        decide
      rw [htext] at hfirst
      cases hfirst
  | solid red green blue alpha =>
      rw [wireValue_toList] at htext
      obtain ⟨-, rfl⟩ := List.cons.inj htext
      have hlegible := (legible_iff 4 (wireDigits red green blue alpha) rfl).mp
        (isHex_wireDigits red green blue alpha)
      rcases hbad with hcut | ⟨-, hplus⟩
      · exact hcut.not_legible hlegible.1
      · exact hlegible.2 hplus

/-- **What a background is printed as is read back.** -/
theorem parse_wireValue (bg : TexturePreviewBackground) :
    parseBackground bg.wireValue = .ok bg := by
  have hexact : ParsedExactly bg.wireValue := by
    rw [parsedExactly_iff, trim_wireValue]
    exact not_spoiled_wireValue bg
  rw [hexact.exact, trim_wireValue]
  exact denotes_wireValue bg

end AsterYggdrasil.Textures
