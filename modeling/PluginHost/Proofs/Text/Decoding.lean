import PluginHost.Proofs.Text.Utf8

/-!
# Bytes that are texts

Only the bytes of a text are read as a text: no other spelling of a character is taken, neither one
with more bytes than it needs nor one of a code point that is no character.
-/

namespace PluginHost.Text

variable {lead second third fourth : UInt8} {c : Char}

/-! ### Characters from their bytes -/

theorem toNat_val_ofNat {code : Nat} (valid : code.isValidChar) :
    (Char.ofNat code).val.toNat = code := by
  rw [Char.ofNat, dif_pos valid]
  rfl

theorem toNat_of_charOfCode? {least code : Nat} (encodes : charOfCode? least code = some c) :
    least ≤ code ∧ c.val.toNat = code := by
  rw [charOfCode?] at encodes
  split at encodes
  · next conditions =>
      obtain ⟨enough, valid⟩ : least ≤ code ∧ code.isValidChar := by simpa using conditions
      obtain rfl := Option.some.inj encodes
      exact ⟨enough, toNat_val_ofNat valid⟩
  · cases encodes

theorem toNat_of_isContinuation (goesOn : isContinuation second = true) :
    second.toNat = continuationBits second + 0x80 := by
  simp only [isContinuation, Bool.and_eq_true, decide_eq_true_eq, UInt8.le_iff_toNat_le,
    UInt8.reduceToNat] at goesOn
  rw [continuationBits]
  omega

theorem ofNat_eq_of_toNat_eq {byte : Nat} (same : lead.toNat = byte) : UInt8.ofNat byte = lead := by
  rw [← same, UInt8.ofNat_toNat]

theorem continuationBits_lt (byte : UInt8) : continuationBits byte < 64 :=
  Nat.mod_lt _ (by decide)

theorem utf8EncodeChar_one {c : Char} (value : c.val.toNat = lead.toNat)
    (single : lead.toNat < 0x80) : String.utf8EncodeChar c = [lead] := by
  simp only [String.utf8EncodeChar, value]
  rw [if_pos (by omega), UInt8.ofNat_toNat]

theorem utf8EncodeChar_two (opens : 0xc0 ≤ lead.toNat ∧ lead.toNat < 0xe0)
    (goesOn : isContinuation second = true)
    (encodes : charOfCode? 0x80 (lead.toNat % 32 * 64 + continuationBits second) = some c) :
    String.utf8EncodeChar c = [lead, second] := by
  obtain ⟨enough, value⟩ := toNat_of_charOfCode? encodes
  have secondValue := toNat_of_isContinuation goesOn
  have secondBits := continuationBits_lt second
  simp only [String.utf8EncodeChar, value]
  rw [if_neg (by omega), if_pos (by omega)]
  congr
  all_goals
    apply ofNat_eq_of_toNat_eq
    omega

theorem utf8EncodeChar_three (opens : 0xe0 ≤ lead.toNat ∧ lead.toNat < 0xf0)
    (goesOn : isContinuation second = true ∧ isContinuation third = true)
    (encodes : charOfCode? 0x800
      ((lead.toNat % 16 * 64 + continuationBits second) * 64 + continuationBits third) = some c) :
    String.utf8EncodeChar c = [lead, second, third] := by
  obtain ⟨enough, value⟩ := toNat_of_charOfCode? encodes
  have secondValue := toNat_of_isContinuation goesOn.1
  have secondBits := continuationBits_lt second
  have thirdValue := toNat_of_isContinuation goesOn.2
  have thirdBits := continuationBits_lt third
  simp only [String.utf8EncodeChar, value]
  rw [if_neg (by omega), if_neg (by omega), if_pos (by omega)]
  congr
  all_goals
    apply ofNat_eq_of_toNat_eq
    omega

theorem utf8EncodeChar_four (opens : 0xf0 ≤ lead.toNat ∧ lead.toNat < 0xf8)
    (goesOn : isContinuation second = true ∧ isContinuation third = true ∧
      isContinuation fourth = true)
    (encodes : charOfCode? 0x10000
      (((lead.toNat % 8 * 64 + continuationBits second) * 64 + continuationBits third) * 64 +
        continuationBits fourth) = some c) :
    String.utf8EncodeChar c = [lead, second, third, fourth] := by
  obtain ⟨enough, value⟩ := toNat_of_charOfCode? encodes
  have secondValue := toNat_of_isContinuation goesOn.1
  have secondBits := continuationBits_lt second
  have thirdValue := toNat_of_isContinuation goesOn.2.1
  have thirdBits := continuationBits_lt third
  have fourthValue := toNat_of_isContinuation goesOn.2.2
  have fourthBits := continuationBits_lt fourth
  simp only [String.utf8EncodeChar, value]
  rw [if_neg (by omega), if_neg (by omega), if_neg (by omega)]
  congr
  all_goals
    apply ofNat_eq_of_toNat_eq
    omega

/-- What several bytes that belong together were read as. -/
theorem read_of_ite_eq {goesOn : Bool} {read : Option Char} {length size : Nat}
    (same : (if goesOn then
        match read with
        | some found => ((some found, length) : Symbol × Nat)
        | none => (none, 1)
      else (none, 1)) = (some c, size)) :
    goesOn = true ∧ read = some c ∧ size = length := by
  cases goesOn with
  | false => cases same
  | true =>
      cases read with
      | none => cases same
      | some found =>
          cases same
          exact ⟨rfl, rfl, rfl⟩

/-- The first character of a stream takes the bytes that encode it. -/
theorem utf8EncodeChar_of_firstSymbol {rest : List UInt8} {size : Nat}
    (first : firstSymbol lead rest = (some c, size)) :
    ∃ more after, rest = more ++ after ∧ String.utf8EncodeChar c = lead :: more ∧
      size = more.length + 1 := by
  simp only [firstSymbol] at first
  -- The cases are the ranges of the leading byte.
  split at first
  · next single =>
      obtain ⟨rfl, rfl⟩ : Char.ofNat lead.toNat = c ∧ 1 = size := by simpa using first
      have valid : lead.toNat.isValidChar := .inl (Nat.lt_trans single (by decide))
      exact ⟨[], rest, rfl, utf8EncodeChar_one (toNat_val_ofNat valid) single, rfl⟩
  · split at first
    · next opens =>
        split at first
        · next second after =>
            obtain ⟨goesOn, encodes, rfl⟩ := read_of_ite_eq first
            exact ⟨[second], after, rfl, utf8EncodeChar_two (by simpa using opens) goesOn encodes,
              rfl⟩
        · cases first
    · split at first
      · next opens =>
          split at first
          · next second third after =>
              obtain ⟨goesOn, encodes, rfl⟩ := read_of_ite_eq first
              exact ⟨[second, third], after, rfl,
                utf8EncodeChar_three (by simpa using opens) (by simpa using goesOn) encodes, rfl⟩
          · cases first
      · split at first
        · next opens =>
            split at first
            · next second third fourth after =>
                obtain ⟨goesOn, encodes, rfl⟩ := read_of_ite_eq first
                exact ⟨[second, third, fourth], after, rfl,
                  utf8EncodeChar_four (by simpa using opens)
                    (by simpa [and_assoc] using goesOn) encodes, rfl⟩
            · cases first
        · cases first

/-! ### Whole texts -/

theorem decodeOnto_eq_append (bytes : List UInt8) (skip : Nat) (read : List Symbol) :
    decodeOnto bytes skip read = read.reverse ++ decodeOnto bytes skip [] := by
  induction bytes generalizing skip read with
  | nil => simp [decodeOnto]
  | cons lead rest ih =>
      cases skip with
      | succ skip => exact ih skip read
      | zero =>
          simp only [decodeOnto]
          rw [ih, ih _ [_], List.reverse_cons, List.append_assoc]
          rfl

theorem map_some_of_charsOnto? {symbols : List Symbol} {read text : List Char}
    (chars : charsOnto? symbols read = some text) :
    text.map some = read.reverse.map some ++ symbols := by
  induction symbols generalizing read with
  | nil =>
      rw [charsOnto?, Option.some.injEq] at chars
      simp [← chars]
  | cons symbol rest ih =>
      cases symbol with
      | none => cases chars
      | some c => simpa using ih chars

/-- Symbols that are all characters stand for bytes that encode them. -/
theorem flatMap_utf8EncodeChar_of_decode {bytes : List UInt8} {text : List Char}
    (decoded : decode bytes = text.map some) : text.flatMap String.utf8EncodeChar = bytes := by
  -- A character takes its bytes from the front, so the induction is on how many are left.
  induction length : bytes.length using Nat.strongRecOn generalizing bytes text with
  | ind size ih =>
    cases bytes with
    | nil =>
        obtain rfl : text = [] := by simpa [decode, decodeOnto] using decoded.symm
        rfl
    | cons lead rest =>
        rw [decode, decodeOnto] at decoded
        split at decoded
        next symbol taken first =>
          rw [decodeOnto_eq_append] at decoded
          cases text with
          | nil => simp at decoded
          | cons c text =>
              obtain ⟨rfl, later⟩ : symbol = some c ∧
                  decodeOnto rest (taken - 1) [] = text.map some := by simpa using decoded
              obtain ⟨more, after, rfl, encoded, rfl⟩ := utf8EncodeChar_of_firstSymbol first
              rw [Nat.add_sub_cancel, decodeOnto_append] at later
              have fewer : after.length < size := by
                rw [← length, List.length_cons, List.length_append]
                omega
              rw [List.flatMap_cons, encoded, ih after.length fewer later rfl]
              rfl

theorem encode_of_decodeText? {bytes : List UInt8} {text : String}
    (decoded : decodeText? bytes = some text) : encode text = bytes := by
  obtain ⟨letters, chars, rfl⟩ := Option.map_eq_some_iff.mp decoded
  rw [encode, String.toList_ofList]
  exact flatMap_utf8EncodeChar_of_decode (map_some_of_charsOnto? chars).symm

theorem encode_eq_iff {bytes : List UInt8} {text : String} :
    encode text = bytes ↔ text.toByteArray = bytes.toByteArray := by
  have whole : text.toByteArray = (encode text).toByteArray := by
    rw [← String.utf8Encode_toList, List.utf8Encode, encode]
  rw [whole]
  constructor
  · rintro rfl
    rfl
  · intro same
    have lists := congrArg (fun array => array.data.toList) same
    simpa using lists

/-- A text is read from its bytes and from no others. -/
theorem decodeText?_eq_some_iff {bytes : List UInt8} {text : String} :
    decodeText? bytes = some text ↔ text.toByteArray = bytes.toByteArray := by
  rw [← encode_eq_iff]
  constructor
  · exact encode_of_decodeText?
  · rintro rfl
    exact decodeText?_encode text

theorem isSome_decodeText?_iff {bytes : List UInt8} :
    (decodeText? bytes).isSome ↔ bytes.toByteArray.IsValidUTF8 := by
  rw [Option.isSome_iff_exists]
  constructor
  · rintro ⟨text, decoded⟩
    exact decodeText?_eq_some_iff.mp decoded ▸ text.isValidUTF8
  · intro valid
    exact ⟨String.fromUTF8 bytes.toByteArray valid, decodeText?_eq_some_iff.mpr rfl⟩

end PluginHost.Text
