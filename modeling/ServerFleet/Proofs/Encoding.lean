import ServerFleet.Store
import ServerFleet.Text.Lines
import ServerFleet.Text.Utf8

/-!
# Text is read back from its bytes

A character is written as a first byte, which tells how many bytes follow, and bytes
that carry six bits each. The second byte is never below what the first one asks for,
because a character is not written longer than it need be, and never above it, because
there are no surrogates among characters and none beyond U+10FFFF.

Whatever text is cut into lines, there is no line break left in them (`Unbroken`), nor in
the hosts that they name. Such lines are read back as they were written.

* `readHead_encodeChar`: a character is read from its bytes, and no byte more;
* `decode_encode`: a text is read from its bytes;
* `unbroken_lines`, `unbroken_host`: lines and their hosts hold no break;
* `lines_uniform_unlines`: lines without breaks are read from their text.
-/

namespace ServerFleet.Text.Utf8

theorem toNat_toUInt8 {n : Nat} (h : n < 256) : n.toUInt8.toNat = n := by
  simp [Nat.toUInt8, Nat.mod_eq_of_lt h]

/-- A byte that carries the six bits `k` is read, if it lies in the range asked for. -/
theorem continueChar_cons {k low high : Nat} (hk : k < 64) (hlow : low ≤ 0x80 + k)
    (hhigh : 0x80 + k ≤ high) (acc seen more : Nat) (bs : List UInt8) :
    continueChar acc seen low high (more + 1) ((0x80 + k).toUInt8 :: bs) =
      continueChar (acc * 64 + k) (seen + 1) 0x80 0xbf more bs := by
  have hbyte : (0x80 + k).toUInt8.toNat = 0x80 + k := toNat_toUInt8 (by omega)
  have hbits : (0x80 + k) % 64 = k := by omega
  rw [continueChar, hbyte, hbits]
  simp [hlow, hhigh]

theorem continueChar_tail {k : Nat} (hk : k < 64) (acc seen more : Nat) (bs : List UInt8) :
    continueChar acc seen 0x80 0xbf (more + 1) ((0x80 + k).toUInt8 :: bs) =
      continueChar (acc * 64 + k) (seen + 1) 0x80 0xbf more bs :=
  continueChar_cons hk (by omega) (by omega) acc seen more bs

/-! ## First bytes -/

variable {n : Nat}

theorem lead_two (h : 0x80 ≤ n) (h' : n < 0x800) :
    lead (0xc0 + n / 64) = some (1, 0x80, 0xbf) := by
  rw [lead, if_neg (by omega), if_pos (by omega)]

/-- What the first of three bytes asks of the second. -/
theorem lead_three (h : 0x800 ≤ n) (h' : n < 0x10000) (hs : n < 0xd800 ∨ 0xdfff < n) :
    ∃ low high, lead (0xe0 + n / 4096) = some (2, low, high) ∧
      low ≤ 0x80 + n / 64 % 64 ∧ 0x80 + n / 64 % 64 ≤ high := by
  rw [lead, if_neg (by omega), if_neg (by omega)]
  split
  · exact ⟨_, _, rfl, by omega, by omega⟩
  split
  · exact ⟨_, _, rfl, by omega, by omega⟩
  rw [if_pos (by omega)]
  exact ⟨_, _, rfl, by omega, by omega⟩

/-- What the first of four bytes asks of the second. -/
theorem lead_four (h : 0x10000 ≤ n) (h' : n < 0x110000) :
    ∃ low high, lead (0xf0 + n / 262144) = some (3, low, high) ∧
      low ≤ 0x80 + n / 4096 % 64 ∧ 0x80 + n / 4096 % 64 ≤ high := by
  rw [lead, if_neg (by omega), if_neg (by omega), if_neg (by omega), if_neg (by omega),
    if_neg (by omega)]
  split
  · exact ⟨_, _, rfl, by omega, by omega⟩
  split
  · exact ⟨_, _, rfl, by omega, by omega⟩
  rw [if_pos (by omega)]
  exact ⟨_, _, rfl, by omega, by omega⟩

/-! ## Characters and texts -/

/-- The code point of a character is none of the surrogates. -/
theorem toNat_bounds (c : Char) :
    c.toNat < 0xd800 ∨ (0xdfff < c.toNat ∧ c.toNat < 0x110000) := c.valid

/-- A first byte that asks for more of them is read with those that follow. -/
theorem readHead_of_lead {b more low high : Nat} (hb : b < 256)
    (hlead : lead b = some (more, low, high)) (bs : List UInt8) :
    readHead b.toUInt8 bs = continueChar (leadBits b more) 1 low high more bs := by
  have hhigh : ¬b < 0x80 := by
    intro hlow
    rw [lead, if_pos (by omega)] at hlead
    cases hlead
  rw [readHead, toNat_toUInt8 hb, if_neg hhigh, hlead]

theorem readHead_encodeChar (c : Char) (rest : List UInt8) :
    ∃ b bs, encodeChar c = b :: bs ∧ readHead b (bs ++ rest) = (.char c, rest) := by
  have hvalid := toNat_bounds c
  have hchar : Char.ofNat c.toNat = c := Char.ofNat_toNat c
  unfold encodeChar
  generalize c.toNat = n at hvalid hchar
  dsimp only
  split
  -- one byte
  · refine ⟨_, _, rfl, ?_⟩
    rw [readHead, toNat_toUInt8 (by omega), if_pos (by omega), hchar]
    rfl
  split
  -- two bytes
  · have hlead := lead_two (n := n) (by omega) (by omega)
    have hbits : leadBits (0xc0 + n / 64) 1 = n / 64 := by simp [leadBits]; omega
    have hall : n / 64 * 64 + n % 64 = n := by omega
    refine ⟨_, _, rfl, ?_⟩
    rw [readHead_of_lead (by omega) hlead, hbits]
    simp only [List.cons_append, List.nil_append]
    rw [continueChar_tail (by omega), continueChar, hall, hchar]
  split
  -- three bytes
  · obtain ⟨low, high, hlead, hlow, hhigh⟩ := lead_three (n := n) (by omega) (by omega) (by omega)
    have hbits : leadBits (0xe0 + n / 4096) 2 = n / 4096 := by simp [leadBits]; omega
    have hall : (n / 4096 * 64 + n / 64 % 64) * 64 + n % 64 = n := by omega
    refine ⟨_, _, rfl, ?_⟩
    rw [readHead_of_lead (by omega) hlead, hbits]
    simp only [List.cons_append, List.nil_append]
    rw [continueChar_cons (by omega) hlow hhigh, continueChar_tail (by omega), continueChar, hall,
      hchar]
  -- four bytes
  · obtain ⟨low, high, hlead, hlow, hhigh⟩ := lead_four (n := n) (by omega) (by omega)
    have hbits : leadBits (0xf0 + n / 262144) 3 = n / 262144 := by simp [leadBits]; omega
    have hall : ((n / 262144 * 64 + n / 4096 % 64) * 64 + n / 64 % 64) * 64 + n % 64 = n := by
      omega
    refine ⟨_, _, rfl, ?_⟩
    rw [readHead_of_lead (by omega) hlead, hbits]
    simp only [List.cons_append, List.nil_append]
    rw [continueChar_cons (by omega) hlow hhigh, continueChar_tail (by omega),
      continueChar_tail (by omega), continueChar, hall, hchar]

theorem decodeFrom_encode (pos : Nat) (cs : List Char) :
    decodeFrom pos (cs.flatMap encodeChar) = .ok cs := by
  induction cs generalizing pos with
  | nil => rw [List.flatMap_nil, decodeFrom]
  | cons c cs ih =>
    obtain ⟨b, bs, hbytes, hread⟩ := readHead_encodeChar c (cs.flatMap encodeChar)
    rw [List.flatMap_cons, hbytes, List.cons_append, decodeFrom]
    split
    · rename_i hfault
      cases hread.symm.trans hfault
    · rename_i hchar
      cases hread.symm.trans hchar
      rw [ih]
      rfl

/-- A text is read from its bytes. -/
theorem decode_encode (s : String) : decode (encode s) = .ok s := by
  rw [decode, encode, decodeFrom_encode]
  exact congrArg Except.ok (String.ofList_toList ..)

end ServerFleet.Text.Utf8

/-! ## Lines without breaks -/

namespace ServerFleet.Text

/-- No character of a line ends it. -/
def Unbroken (line : String) : Prop := ∀ c ∈ line.toList, isLineBreak c = false

instance (line : String) : Decidable (Unbroken line) :=
  decidable_of_iff (line.toList.all fun c => !isLineBreak c) (by simp [Unbroken])

theorem linesFrom_unbroken (afterReturn : Bool) (line cs : List Char)
    (hline : ∀ c ∈ line, isLineBreak c = false) :
    ∀ l ∈ linesFrom afterReturn line cs, ∀ c ∈ l, isLineBreak c = false := by
  induction cs generalizing afterReturn line with
  | nil =>
    intro l hl c hc
    rw [linesFrom] at hl
    split at hl
    · cases hl
    · rw [List.mem_singleton.mp hl] at hc
      exact hline c (List.mem_reverse.mp hc)
  | cons c cs ih =>
    rw [linesFrom]
    split
    · exact ih false [] (by simp)
    split
    · intro l hl
      rcases List.mem_cons.mp hl with rfl | hl
      · simpa using hline
      · exact ih (c = '\r') [] (by simp) l hl
    · rename_i hc
      refine ih false (c :: line) fun d hd => ?_
      rcases List.mem_cons.mp hd with rfl | hd
      · simpa using hc
      · exact hline d hd

/-- No break is left in the lines that a text is cut into. -/
theorem unbroken_lines {s line : String} (h : line ∈ lines s) : Unbroken line := by
  obtain ⟨l, hl, rfl⟩ := List.mem_map.mp h
  intro c hc
  exact linesFrom_unbroken false [] s.toList (by simp) l hl c (by simpa using hc)

theorem mem_of_mem_trim {cs : List Char} {c : Char} (h : c ∈ trim cs) : c ∈ cs := by
  obtain ⟨tail, htail⟩ := trim_append cs
  have : c ∈ cs.dropWhile isBlank := htail ▸ List.mem_append_left tail h
  exact (List.dropWhile_sublist _).subset this

/-- The host that a line names holds no break if the line holds none. -/
theorem unbroken_host {line host : String} (hline : Unbroken line)
    (h : hostOfLine? line = some host) : Unbroken host := by
  simp only [hostOfLine?, Option.ite_none_left_eq_some, Option.some.injEq] at h
  obtain ⟨-, rfl⟩ := h
  intro c hc
  exact hline c (mem_of_mem_trim (by simpa using hc))

/-- Lines without breaks are read from their text, as a file is read. -/
theorem lines_uniform_unlines {ls : List String} (h : ∀ l ∈ ls, Unbroken l) :
    lines (uniform (unlines ls)) = ls := by
  have hreturn : '\r' ∉ (unlines ls).toList := by
    rw [toList_unlines]
    simp only [List.mem_flatMap, List.mem_append, List.mem_singleton, not_exists, not_and, not_or]
    intro l hl
    refine ⟨fun hc => ?_, by decide⟩
    exact absurd (h l hl _ hc) (by decide)
  rw [uniform_of_no_return hreturn]
  exact lines_unlines h

end ServerFleet.Text
