import PluginHost.Text.Utf8

/-!
# Texts and their bytes

The bytes of a text are read as the text again.  A character is encoded as a leading byte, which
tells how many bytes there are, and bytes that carry six bits each.
-/

namespace PluginHost.Text

variable {lead second third fourth : UInt8} {c : Char}

/-! ### One character -/

theorem toNat_ofNat_of_lt {byte : Nat} (small : byte < 256) : (UInt8.ofNat byte).toNat = byte := by
  simpa using small

theorem isContinuation_ofNat (bits : Nat) :
    isContinuation (UInt8.ofNat (bits % 64 + 0x80)) = true := by
  have value := toNat_ofNat_of_lt (show bits % 64 + 0x80 < 256 by omega)
  simp only [isContinuation, Bool.and_eq_true, decide_eq_true_eq, UInt8.le_iff_toNat_le, value,
    UInt8.reduceToNat]
  omega

theorem continuationBits_ofNat (bits : Nat) :
    continuationBits (UInt8.ofNat (bits % 64 + 0x80)) = bits % 64 := by
  rw [continuationBits, toNat_ofNat_of_lt (by omega)]
  omega

theorem charOfCode?_eq_some {least code : Nat} (same : code = c.toNat) (enough : least ≤ code) :
    charOfCode? least code = some c := by
  have valid : code.isValidChar := same ▸ c.valid
  have char : Char.ofNat code = c := by rw [same, Char.ofNat_toNat]
  simp [charOfCode?, enough, valid, char]

theorem firstSymbol_one (single : lead.toNat < 0x80) (rest : List UInt8) :
    firstSymbol lead rest = (some (Char.ofNat lead.toNat), 1) := by
  simp [firstSymbol, single]

theorem firstSymbol_two (opens : 0xc0 ≤ lead.toNat ∧ lead.toNat < 0xe0)
    (goesOn : isContinuation second = true)
    (encodes : charOfCode? 0x80 (lead.toNat % 32 * 64 + continuationBits second) = some c)
    (rest : List UInt8) : firstSymbol lead (second :: rest) = (some c, 2) := by
  have several : ¬ lead.toNat < 0x80 := by omega
  simp [firstSymbol, several, opens, goesOn, encodes]

theorem firstSymbol_three (opens : 0xe0 ≤ lead.toNat ∧ lead.toNat < 0xf0)
    (goesOn : isContinuation second = true ∧ isContinuation third = true)
    (encodes : charOfCode? 0x800
      ((lead.toNat % 16 * 64 + continuationBits second) * 64 + continuationBits third) = some c)
    (rest : List UInt8) : firstSymbol lead (second :: third :: rest) = (some c, 3) := by
  have several : ¬ lead.toNat < 0x80 ∧ ¬ lead.toNat < 0xe0 := by omega
  simp [firstSymbol, several, opens, goesOn, encodes]

theorem firstSymbol_four (opens : 0xf0 ≤ lead.toNat ∧ lead.toNat < 0xf8)
    (goesOn : isContinuation second = true ∧ isContinuation third = true ∧
      isContinuation fourth = true)
    (encodes : charOfCode? 0x10000
      (((lead.toNat % 8 * 64 + continuationBits second) * 64 + continuationBits third) * 64 +
        continuationBits fourth) = some c)
    (rest : List UInt8) : firstSymbol lead (second :: third :: fourth :: rest) = (some c, 4) := by
  have several : ¬ lead.toNat < 0x80 ∧ ¬ lead.toNat < 0xe0 ∧ ¬ lead.toNat < 0xf0 := by omega
  simp [firstSymbol, several, opens, goesOn, encodes]

/-- The bytes of a character are read as the character, whatever follows them. -/
theorem firstSymbol_utf8EncodeChar (c : Char) :
    ∃ lead more, String.utf8EncodeChar c = lead :: more ∧
      ∀ rest, firstSymbol lead (more ++ rest) = (some c, more.length + 1) := by
  have bound : c.toNat < 0x110000 := by
    rcases c.valid with below | ⟨-, below⟩
    · exact Nat.lt_trans below (by decide)
    · exact below
  unfold String.utf8EncodeChar
  generalize same : c.val.toNat = code
  rw [show c.toNat = code from same] at bound
  have same : code = c.toNat := same.symm
  -- The cases are the lengths of the encoding.
  dsimp only
  split
  · have value := toNat_ofNat_of_lt (show code < 256 by omega)
    refine ⟨_, [], rfl, fun rest => ?_⟩
    rw [List.nil_append, firstSymbol_one (by omega), value, same, Char.ofNat_toNat]
    rfl
  · split
    · have value := toNat_ofNat_of_lt (show code / 64 % 32 + 192 < 256 by omega)
      refine ⟨_, _, rfl, firstSymbol_two ?_ (isContinuation_ofNat _) (charOfCode?_eq_some ?_ ?_)⟩
      · omega
      all_goals
        rw [value, continuationBits_ofNat]
        omega
    · split
      · have value := toNat_ofNat_of_lt (show code / 4096 % 16 + 224 < 256 by omega)
        refine ⟨_, _, rfl, firstSymbol_three ?_
          ⟨isContinuation_ofNat _, isContinuation_ofNat _⟩ (charOfCode?_eq_some ?_ ?_)⟩
        · omega
        all_goals
          rw [value, continuationBits_ofNat, continuationBits_ofNat]
          omega
      · have value := toNat_ofNat_of_lt (show code / 262144 % 8 + 240 < 256 by omega)
        refine ⟨_, _, rfl, firstSymbol_four ?_
          ⟨isContinuation_ofNat _, isContinuation_ofNat _, isContinuation_ofNat _⟩
          (charOfCode?_eq_some ?_ ?_)⟩
        · omega
        all_goals
          rw [value, continuationBits_ofNat, continuationBits_ofNat, continuationBits_ofNat]
          omega

/-! ### Whole texts -/

/-- The bytes that a character still takes are passed over. -/
theorem decodeOnto_append (passed rest : List UInt8) (read : List Symbol) :
    decodeOnto (passed ++ rest) passed.length read = decodeOnto rest 0 read := by
  induction passed with
  | nil => rfl
  | cons byte passed ih => exact ih

theorem decodeOnto_encode (text : List Char) (read : List Symbol) :
    decodeOnto (text.flatMap String.utf8EncodeChar) 0 read = read.reverse ++ text.map some := by
  induction text generalizing read with
  | nil => simp [decodeOnto]
  | cons c text ih =>
      obtain ⟨lead, more, encoded, first⟩ := firstSymbol_utf8EncodeChar c
      rw [List.flatMap_cons, encoded, List.cons_append, decodeOnto]
      simp only [first, Nat.add_sub_cancel]
      rw [decodeOnto_append, ih]
      simp

theorem charsOnto?_map_some (text read : List Char) :
    charsOnto? (text.map some) read = some (read.reverse ++ text) := by
  induction text generalizing read with
  | nil => simp [charsOnto?]
  | cons c text ih => simp [charsOnto?, ih]

/-- A text has no more characters than bytes. -/
theorem length_le_length_encode (text : String) : text.toList.length ≤ (encode text).length := by
  rw [encode]
  induction text.toList with
  | nil => exact Nat.zero_le _
  | cons c rest ih =>
      obtain ⟨lead, more, encoded, -⟩ := firstSymbol_utf8EncodeChar c
      rw [List.flatMap_cons, encoded, List.length_append, List.length_cons, List.length_cons]
      omega

theorem decodeText?_encode (text : String) : decodeText? (encode text) = some text := by
  rw [decodeText?, decode, encode, decodeOnto_encode, List.reverse_nil, List.nil_append,
    charsOnto?_map_some]
  simp

end PluginHost.Text
