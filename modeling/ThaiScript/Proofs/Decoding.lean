import Mathlib.Tactic.SplitIfs
import ThaiScript.CommandLine.Run
import ThaiScript.Text.Points

/-!
# What decoding recovers

A script is the text that was saved, in each of the encodings that a byte order mark announces and
in bare UTF-8: `CommandLine.scriptText_of_saved`. For UTF-8 this rests on one lemma about a
character at the head of the bytes, `Utf8.decode_encodeChar_append`, and for UTF-16 on one about its
units. A bare text can be taken for a marked one only if it begins with the mark itself, since
neither byte of the marks of UTF-16 occurs in UTF-8.

Bytes that encode nothing are replaced. `Utf8.Decodes` says what a decoder may do: it reads a whole
character, or gives up a byte that is not ASCII and some tails behind it. Whatever it gives up, the
ASCII characters of the text are the ASCII bytes.
-/

namespace ThaiScript

/-- The numbers below 128, which are ASCII both as bytes and as code points. -/
def ascii (ns : List Nat) : List Nat := ns.filter (· < 0x80)

theorem ascii_append (ms ns : List Nat) : ascii (ms ++ ns) = ascii ms ++ ascii ns :=
  List.filter_append ..

theorem ascii_eq_nil {ns : List Nat} : ascii ns = [] ↔ ∀ n ∈ ns, 0x80 ≤ n := by
  simp [ascii, List.filter_eq_nil_iff]

namespace Utf8

/-! ## UTF-8: characters -/

theorem encodeChar_one {c : Char} (h : c.toNat < 0x80) : encodeChar c = [c.toNat] :=
  if_pos h

theorem encodeChar_two {c : Char} (h : 0x80 ≤ c.toNat) (h' : c.toNat < 0x800) :
    encodeChar c = [0xC0 + c.toNat / 0x40, 0x80 + c.toNat % 0x40] := by
  unfold encodeChar
  rw [if_neg (by omega), if_pos h']

theorem encodeChar_three {c : Char} (h : 0x800 ≤ c.toNat) (h' : c.toNat < 0x10000) :
    encodeChar c =
      [0xE0 + c.toNat / 0x1000, 0x80 + c.toNat / 0x40 % 0x40, 0x80 + c.toNat % 0x40] := by
  unfold encodeChar
  rw [if_neg (by omega), if_neg (by omega), if_pos h']

theorem encodeChar_four {c : Char} (h : 0x10000 ≤ c.toNat) :
    encodeChar c = [0xF0 + c.toNat / 0x40000, 0x80 + c.toNat / 0x1000 % 0x40,
      0x80 + c.toNat / 0x40 % 0x40, 0x80 + c.toNat % 0x40] := by
  unfold encodeChar
  rw [if_neg (by omega), if_neg (by omega), if_neg (by omega)]

theorem isTail_iff {b : Nat} : isTail b = true ↔ 0x80 ≤ b ∧ b ≤ 0xBF := by
  simp [isTail]

/-- A second byte is a tail, and four first bytes leave out some tails. -/
theorem isSecond_iff {a b : Nat} :
    isSecond a b = true ↔ (0x80 ≤ b ∧ b ≤ 0xBF) ∧ (a = 0xE0 → 0xA0 ≤ b) ∧ (a = 0xED → b ≤ 0x9F) ∧
      (a = 0xF0 → 0x90 ≤ b) ∧ (a = 0xF4 → b ≤ 0x8F) := by
  unfold isSecond
  split_ifs <;> simp only [isTail_iff, Bool.and_eq_true, decide_eq_true_eq] <;> omega

theorem isTail_of_isSecond {a b : Nat} (h : isSecond a b = true) : isTail b = true :=
  isTail_iff.mpr (isSecond_iff.mp h).1

theorem decode_one {a : Nat} (ha : a < 0x80) (bs : Bytes) :
    decode (a :: bs) = Char.ofNat a :: decode bs := by
  rw [decode.eq_def]
  exact if_pos ha

theorem decode_two {a b : Nat} (ha : 0xC2 ≤ a ∧ a ≤ 0xDF) (hb : isTail b = true) (bs : Bytes) :
    decode (a :: b :: bs) = Char.ofNat ((a - 0xC0) * 0x40 + (b - 0x80)) :: decode bs := by
  rw [decode.eq_def]
  dsimp only
  rw [if_neg (by omega), if_pos ha, if_pos hb]

theorem decode_three {a b c : Nat} (ha : 0xE0 ≤ a ∧ a ≤ 0xEF) (hb : isSecond a b = true)
    (hc : isTail c = true) (bs : Bytes) :
    decode (a :: b :: c :: bs) =
      Char.ofNat ((a - 0xE0) * 0x1000 + (b - 0x80) * 0x40 + (c - 0x80)) :: decode bs := by
  rw [decode.eq_def]
  dsimp only
  rw [if_neg (by omega), if_neg (by omega), if_pos ha, if_pos hb, if_pos hc]

theorem decode_four {a b c d : Nat} (ha : 0xF0 ≤ a ∧ a ≤ 0xF4) (hb : isSecond a b = true)
    (hc : isTail c = true) (hd : isTail d = true) (bs : Bytes) :
    decode (a :: b :: c :: d :: bs) =
      Char.ofNat ((a - 0xF0) * 0x40000 + (b - 0x80) * 0x1000 + (c - 0x80) * 0x40 + (d - 0x80)) ::
        decode bs := by
  rw [decode.eq_def]
  dsimp only
  rw [if_neg (by omega), if_neg (by omega), if_neg (by omega), if_pos ha, if_pos hb, if_pos hc,
    if_pos hd]

/-- A character at the head of the bytes is read back. -/
theorem decode_encodeChar_append (c : Char) (bs : Bytes) :
    decode (encodeChar c ++ bs) = c :: decode bs := by
  have hbounds := toNat_bounds c
  have hof {n : Nat} (h : n = c.toNat) : Char.ofNat n :: decode bs = c :: decode bs := by
    rw [h, Char.ofNat_toNat]
  rcases Nat.lt_or_ge c.toNat 0x80 with h1 | h1
  · rw [encodeChar_one h1]
    exact (decode_one h1 bs).trans (hof rfl)
  rcases Nat.lt_or_ge c.toNat 0x800 with h2 | h2
  · rw [encodeChar_two h1 h2]
    exact (decode_two (by omega) (isTail_iff.mpr (by omega)) bs).trans (hof (by omega))
  rcases Nat.lt_or_ge c.toNat 0x10000 with h3 | h3
  · rw [encodeChar_three h2 h3]
    exact (decode_three (by omega) (isSecond_iff.mpr (by omega))
      (isTail_iff.mpr (by omega)) bs).trans (hof (by omega))
  · rw [encodeChar_four h3]
    exact (decode_four (by omega) (isSecond_iff.mpr (by omega)) (isTail_iff.mpr (by omega))
      (isTail_iff.mpr (by omega)) bs).trans (hof (by omega))

theorem decode_encode (t : Text) : decode (encode t) = t := by
  induction t with
  | nil => rfl
  | cons c t ih =>
    rw [encode, List.flatMap_cons, decode_encodeChar_append]
    exact congrArg (c :: ·) ih

theorem bounds_of_mem_encodeChar {c : Char} {b : Nat} (h : b ∈ encodeChar c) :
    b < 0xF5 ∧ (0x80 ≤ c.toNat → 0x80 ≤ b) := by
  have hbounds := toNat_bounds c
  simp only [encodeChar] at h
  split_ifs at h <;> simp only [List.mem_cons, List.not_mem_nil, or_false] at h <;> omega

theorem lt_of_mem_encode {t : Text} {b : Nat} (h : b ∈ encode t) : b < 0xF5 := by
  obtain ⟨c, -, hb⟩ := List.mem_flatMap.mp h
  exact (bounds_of_mem_encodeChar hb).1

theorem ascii_encodeChar (c : Char) : ascii (encodeChar c) = ascii [c.toNat] := by
  rcases Nat.lt_or_ge c.toNat 0x80 with h | h
  · rw [encodeChar_one h]
  · have hchar : ascii [c.toNat] = [] := ascii_eq_nil.mpr (by simpa using h)
    rw [hchar, ascii_eq_nil]
    exact fun b hb => (bounds_of_mem_encodeChar hb).2 h

/-! ## UTF-8: malformed bytes -/

theorem encodeChar_ofNat_one {a : Nat} (ha : a < 0x80) : encodeChar (Char.ofNat a) = [a] := by
  have h := toNat_ofNat_of_isValidChar (n := a) (.inl (by omega))
  rw [encodeChar_one (by omega), h]

theorem encodeChar_ofNat_two {a b : Nat} (ha : 0xC2 ≤ a ∧ a ≤ 0xDF) (hb : isTail b = true) :
    encodeChar (Char.ofNat ((a - 0xC0) * 0x40 + (b - 0x80))) = [a, b] := by
  rw [isTail_iff] at hb
  have h := toNat_ofNat_of_isValidChar (n := (a - 0xC0) * 0x40 + (b - 0x80)) (.inl (by omega))
  rw [encodeChar_two (by omega) (by omega), h]
  simp only [List.cons.injEq, and_true]
  omega

theorem encodeChar_ofNat_three {a b c : Nat} (ha : 0xE0 ≤ a ∧ a ≤ 0xEF) (hb : isSecond a b = true)
    (hc : isTail c = true) :
    encodeChar (Char.ofNat ((a - 0xE0) * 0x1000 + (b - 0x80) * 0x40 + (c - 0x80))) =
      [a, b, c] := by
  rw [isSecond_iff] at hb
  rw [isTail_iff] at hc
  have h := toNat_ofNat_of_isValidChar
    (n := (a - 0xE0) * 0x1000 + (b - 0x80) * 0x40 + (c - 0x80))
    (by simp only [Nat.isValidChar]; omega)
  rw [encodeChar_three (by omega) (by omega), h]
  simp only [List.cons.injEq, and_true]
  omega

theorem encodeChar_ofNat_four {a b c d : Nat} (ha : 0xF0 ≤ a ∧ a ≤ 0xF4)
    (hb : isSecond a b = true) (hc : isTail c = true) (hd : isTail d = true) :
    encodeChar (Char.ofNat ((a - 0xF0) * 0x40000 + (b - 0x80) * 0x1000 + (c - 0x80) * 0x40 +
      (d - 0x80))) = [a, b, c, d] := by
  rw [isSecond_iff] at hb
  rw [isTail_iff] at hc hd
  have h := toNat_ofNat_of_isValidChar
    (n := (a - 0xF0) * 0x40000 + (b - 0x80) * 0x1000 + (c - 0x80) * 0x40 + (d - 0x80))
    (.inr (by omega))
  rw [encodeChar_four (by omega), h]
  simp only [List.cons.injEq, and_true]
  omega

/-- A text that a decoder may give for some bytes. -/
inductive Decodes : Bytes → Text → Prop
  | nil : Decodes [] []
  | char {c : Char} {used bs : Bytes} {t : Text} :
      encodeChar c = used → Decodes bs t → Decodes (used ++ bs) (c :: t)
  | broken {a : Nat} (tails : Bytes) {bs : Bytes} {t : Text} :
      0x80 ≤ a → (∀ b ∈ tails, isTail b = true) → Decodes bs t →
      Decodes (a :: (tails ++ bs)) (replacement :: t)

namespace Decodes

variable {bs : Bytes} {t : Text}

theorem broken_nil {a : Nat} (ha : 0x80 ≤ a) (h : Decodes bs t) :
    Decodes (a :: bs) (replacement :: t) :=
  .broken [] ha (by simp) h

theorem ascii_eq (h : Decodes bs t) : ascii t.points = ascii bs := by
  induction h with
  | nil => rfl
  | @char c used bs t hused _ ih =>
    calc ascii (Text.points (c :: t))
      _ = ascii [c.toNat] ++ ascii t.points := ascii_append [c.toNat] t.points
      _ = ascii used ++ ascii bs := by rw [← hused, ascii_encodeChar, ih]
      _ = ascii (used ++ bs) := (ascii_append used bs).symm
  | @broken a tails bs t ha htails _ ih =>
    have hgiven : ascii (a :: tails) = [] := by
      refine ascii_eq_nil.mpr (List.forall_mem_cons.mpr ⟨ha, fun b hb => ?_⟩)
      exact (isTail_iff.mp (htails b hb)).1
    have hreplaced : ascii [replacement.toNat] = [] := rfl
    calc ascii (Text.points (replacement :: t))
      _ = ascii [replacement.toNat] ++ ascii t.points := ascii_append [replacement.toNat] t.points
      _ = ascii (a :: tails) ++ ascii bs := by rw [hreplaced, hgiven, ih]
      _ = ascii (a :: (tails ++ bs)) := (ascii_append (a :: tails) bs).symm

end Decodes

/-- Each case reads a character, or gives up the bytes before the one that broke them off. -/
theorem decodes_decode (bs : Bytes) : Decodes bs (decode bs) := by
  fun_induction decode bs with
  | case1 => exact .nil
  | case2 a bs ha ih => exact .char (encodeChar_ofNat_one ha) ih
  | case4 a _ ha b bs hb ih => exact .char (encodeChar_ofNat_two ha hb) ih
  | case8 a _ _ ha b hb c bs hc ih => exact .char (encodeChar_ofNat_three ha hb hc) ih
  | case14 a _ _ _ ha b hb c hc d bs hd ih => exact .char (encodeChar_ofNat_four ha hb hc hd) ih
  -- the bytes come to an end
  | case3 a ha | case6 a ha | case11 a ha => exact .broken_nil (by omega) .nil
  | case7 a ha _ _ b hb | case12 a ha _ _ _ b hb =>
    exact .broken [b] (by omega) (by simp [isTail_of_isSecond hb]) .nil
  | case13 a ha _ _ _ b hb c hc =>
    exact .broken [b, c] (by omega) (by simp [isTail_of_isSecond hb, hc]) .nil
  -- a byte breaks off what stands before it
  | case18 a bs ha _ _ _ ih => exact .broken_nil (by omega) ih
  | case5 a ha _ b bs _ ih | case10 a ha _ _ b bs _ ih | case17 a ha _ _ _ b bs _ ih =>
    exact .broken_nil (by omega) ih
  | case9 a ha _ _ b hb c bs _ ih | case16 a ha _ _ _ b hb c bs _ ih =>
    exact .broken [b] (by omega) (by simp [isTail_of_isSecond hb]) ih
  | case15 a ha _ _ _ b hb c hc d bs _ ih =>
    exact .broken [b, c] (by omega) (by simp [isTail_of_isSecond hb, hc]) ih

theorem ascii_decode (bs : Bytes) : ascii (decode bs).points = ascii bs :=
  (decodes_decode bs).ascii_eq

end Utf8

namespace Utf16

/-! ## UTF-16 -/

theorem ofBytes_flatMap_encodeUnit (o : Order) (us : List Nat) :
    ofBytes o (us.flatMap (encodeUnit o)) = (us, false) := by
  induction us with
  | nil => rfl
  | cons u us ih =>
    have hunit : u / 0x100 * 0x100 + u % 0x100 = u := Nat.div_add_mod' u 0x100
    cases o <;>
      simp only [List.flatMap_cons, encodeUnit, List.cons_append, List.nil_append, ofBytes] at ih ⊢ <;>
      rw [ih, hunit]

theorem units_one {c : Char} (h : c.toNat < 0x10000) : units c = [c.toNat] := if_pos h

theorem units_two {c : Char} (h : 0x10000 ≤ c.toNat) :
    units c = [0xD800 + (c.toNat - 0x10000) / 0x400, 0xDC00 + (c.toNat - 0x10000) % 0x400] :=
  if_neg (by omega)

/-- A unit that is no half of a pair is a character, and so are a high and a low half. -/
theorem decodeUnits_units_append (odd : Bool) (c : Char) (us : List Nat) :
    decodeUnits odd (units c ++ us) = c :: decodeUnits odd us := by
  have hbounds := toNat_bounds c
  rcases Nat.lt_or_ge c.toNat 0x10000 with h | h
  · have hhigh : isHigh c.toNat = false := by simp [isHigh]; omega
    have hlow : isLow c.toNat = false := by simp [isLow]; omega
    rw [units_one h, List.singleton_append, decodeUnits.eq_def]
    simp only [hhigh, hlow, Char.ofNat_toNat, Bool.false_eq_true, if_false]
  · have hhigh : isHigh (0xD800 + (c.toNat - 0x10000) / 0x400) = true := by simp [isHigh]; omega
    have hlow : isLow (0xDC00 + (c.toNat - 0x10000) % 0x400) = true := by simp [isLow]; omega
    have hpair : 0x10000 + (0xD800 + (c.toNat - 0x10000) / 0x400 - 0xD800) * 0x400 +
        (0xDC00 + (c.toNat - 0x10000) % 0x400 - 0xDC00) = c.toNat := by omega
    rw [units_two h, List.cons_append, List.singleton_append, decodeUnits.eq_def]
    simp only [hhigh, hlow, hpair, Char.ofNat_toNat, if_true]

theorem decode_encode (o : Order) (t : Text) : decode o (encode o t) = t := by
  simp only [decode, encode, ofBytes_flatMap_encodeUnit]
  induction t with
  | nil => rfl
  | cons c t ih => rw [List.flatMap_cons, decodeUnits_units_append, ih]

/-- The mark of UTF-16 before the units. -/
def mark : Order → Bytes
  | .little => [0xFF, 0xFE]
  | .big => [0xFE, 0xFF]

end Utf16

/-! ## Scripts -/

/-- The ways to save a text. A bare text must not begin with what would be taken for its mark. -/
inductive SavedAs (t : Text) : Bytes → Prop
  | markedUtf8 : SavedAs t (0xEF :: 0xBB :: 0xBF :: Utf8.encode t)
  | markedUtf16 (o : Utf16.Order) : SavedAs t (Utf16.mark o ++ Utf16.encode o t)
  | bare : t.head? ≠ some '\ufeff' → SavedAs t (Utf8.encode t)

/-- Without a mark of UTF-16 a script is UTF-8, with or without the mark of UTF-8. -/
theorem decodeScript_cases {bs : Bytes} (h : ∀ o, ¬ Utf16.mark o <+: bs) :
    decodeScript bs = Utf8.decode bs ∨
      ∃ bs', bs = 0xEF :: 0xBB :: 0xBF :: bs' ∧ decodeScript bs = Utf8.decode bs' := by
  fun_cases decodeScript bs with
  | case1 bs' => exact .inr ⟨bs', rfl, rfl⟩
  | case2 bs' => exact absurd ⟨bs', rfl⟩ (h .little)
  | case3 bs' => exact absurd ⟨bs', rfl⟩ (h .big)
  | case4 => exact .inl rfl

theorem not_mark_isPrefix_encode (o : Utf16.Order) (t : Text) :
    ¬ Utf16.mark o <+: Utf8.encode t := by
  intro h
  have hmem : 0xFF ∈ Utf16.mark o := by cases o <;> decide
  have hlt := Utf8.lt_of_mem_encode (h.subset hmem)
  omega

theorem decodeScript_of_savedAs {t : Text} {bs : Bytes} (h : SavedAs t bs) :
    decodeScript bs = t := by
  cases h with
  | markedUtf8 => exact Utf8.decode_encode t
  | markedUtf16 o =>
    cases o with
    | little => exact Utf16.decode_encode .little t
    | big => exact Utf16.decode_encode .big t
  | bare hhead =>
    rcases decodeScript_cases fun o => not_mark_isPrefix_encode o t with h | ⟨bs, hbs, -⟩
    · rw [h, Utf8.decode_encode]
    · -- the mark is how its character is encoded, so the text begins with that character
      have ht : t = '\ufeff' :: Utf8.decode bs := by
        rw [← Utf8.decode_encode t, hbs]
        exact Utf8.decode_encodeChar_append '\ufeff' bs
      exact absurd (by rw [ht]; rfl) hhead

theorem ascii_decodeScript {bs : Bytes} (h : ∀ o, ¬ Utf16.mark o <+: bs) :
    ascii (decodeScript bs).points = ascii bs := by
  rcases decodeScript_cases h with h | ⟨bs', rfl, h⟩
  · rw [h, Utf8.ascii_decode]
  · rw [h, Utf8.ascii_decode]
    rfl

namespace CommandLine

/-- However a text is saved, it is read back. Any bytes without a mark of UTF-16 are read as some
text, whose ASCII characters are the ASCII bytes in their order. -/
theorem scriptText_of_saved (path : Text) :
    (∀ t bs, SavedAs t bs → scriptText path (.ok bs) = .ok t) ∧
      ∀ bs, (∀ o, ¬ Utf16.mark o <+: bs) →
        ∃ t, scriptText path (.ok bs) = .ok t ∧ ascii t.points = ascii bs := by
  refine ⟨fun t bs h => ?_, fun bs h => ⟨decodeScript bs, rfl, ascii_decodeScript h⟩⟩
  rw [scriptText, decodeScript_of_savedAs h]

/-- A text in bare UTF-8, the same text in UTF-16 with its mark doubled, and a file whose characters
are broken off by a line feed, by a quote and by its end. -/
theorem scriptText_of_saved_broken :
    ("ก😀".toList.head? ≠ some '\ufeff' ∧
      scriptText "a" (.ok [0xE0, 0xB8, 0x81, 0xF0, 0x9F, 0x98, 0x80]) = .ok "ก😀".toList) ∧
    scriptText "a" (.ok [0xFE, 0xFF, 0xFE, 0xFF, 0x0E, 0x01, 0xD8, 0x3D, 0xDE, 0x00]) =
      .ok "\ufeffก😀".toList ∧
    ∃ t, scriptText "a" (.ok [0xE0, 0xB8, 0x0A, 0xF0, 0x9F, 0x22, 0x41, 0xC2]) = .ok t ∧
      ascii t.points = [0x0A, 0x22, 0x41] :=
  have hhead : "ก😀".toList.head? ≠ some '\ufeff' := by decide
  ⟨⟨hhead, (scriptText_of_saved "a").1 _ _ (.bare hhead)⟩,
    (scriptText_of_saved "a").1 _ _ (.markedUtf16 .big),
    (scriptText_of_saved "a").2 _ fun o => by cases o <;> decide⟩

end CommandLine

end ThaiScript
