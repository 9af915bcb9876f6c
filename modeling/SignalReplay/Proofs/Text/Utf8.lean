import SignalReplay.Text.Utf8

/-!
UTF-8 read back. Each character is spelled by one to four bytes that the machine takes back to the
character, and the machine takes no other bytes to it, so that exactly the bytes of a text are
decoded as that text.
-/

namespace SignalReplay.Utf8

/-! ## Bytes of texts -/

theorem toList_loop (bytes : ByteArray) (index : Nat) (taken : List UInt8) :
    ByteArray.toList.loop bytes index taken = taken.reverse ++ bytes.data.toList.drop index := by
  fun_induction ByteArray.toList.loop bytes index taken with
  | case1 index taken inside induction =>
      have bounded : index < bytes.data.toList.length := by simpa using inside
      have byte : bytes.get! index = bytes.data.toList[index] :=
        getElem!_pos bytes.data index inside
      rw [induction, byte, List.reverse_cons, List.append_assoc, List.singleton_append,
        List.getElem_cons_drop]
  | case2 index taken outside =>
      have beyond : bytes.data.toList.length ≤ index := by simpa using outside
      rw [List.drop_eq_nil_of_le beyond, List.append_nil]

theorem encode_eq_flatMap (text : String) :
    encode text = text.toList.flatMap String.utf8EncodeChar := by
  have bytes : text.toByteArray = text.toList.utf8Encode := by
    conv => lhs; rw [← String.ofList_toList (s := text), String.toByteArray_ofList]
  rw [encode, String.toUTF8_eq_toByteArray, bytes, ByteArray.toList, toList_loop,
    List.reverse_nil, List.nil_append, List.drop_zero, List.utf8Encode,
    List.toList_data_toByteArray]

/-- Bytes below 0x80 stand only for the characters of the same code. -/
theorem eq_of_mem_utf8EncodeChar {character : Char} {byte : UInt8} (low : byte.toNat < 0x80)
    (member : byte ∈ String.utf8EncodeChar character) : character.toNat = byte.toNat := by
  have bytes (number : Nat) : (UInt8.ofNat number).toNat = number % 256 := UInt8.toNat_ofNat'
  rw [String.utf8EncodeChar] at member
  change character.val.toNat = byte.toNat
  generalize character.val.toNat = code at *
  split at member
  · rw [List.mem_singleton.mp member, bytes]
    omega
  split at member
  · simp only [List.mem_cons, List.not_mem_nil, or_false] at member
    rcases member with equal | equal <;> rw [equal, bytes] at low <;> omega
  split at member
  · simp only [List.mem_cons, List.not_mem_nil, or_false] at member
    rcases member with equal | equal | equal <;> rw [equal, bytes] at low <;> omega
  · simp only [List.mem_cons, List.not_mem_nil, or_false] at member
    rcases member with equal | equal | equal | equal <;> rw [equal, bytes] at low <;> omega

/-! ## Machine -/

theorem toNat_ofNat {number : Nat} (fits : number < 256) : (UInt8.ofNat number).toNat = number := by
  rw [UInt8.toNat_ofNat']
  exact Nat.mod_eq_of_lt fits

theorem start_ofNat {number : Nat} (fits : number < 256) :
    start (UInt8.ofNat number) =
      if number < 0x80 then .inl (.character (Char.ofNat number) 1)
      else if number < 0xC2 then .inl (.broken 1)
      else if number < 0xE0 then .inr ⟨1, number % 0x20, 1, 0x80, 0xBF⟩
      else if number = 0xE0 then .inr ⟨1, 0, 2, 0xA0, 0xBF⟩
      else if number = 0xED then .inr ⟨1, 0xD, 2, 0x80, 0x9F⟩
      else if number < 0xF0 then .inr ⟨1, number % 0x10, 2, 0x80, 0xBF⟩
      else if number = 0xF0 then .inr ⟨1, 0, 3, 0x90, 0xBF⟩
      else if number < 0xF4 then .inr ⟨1, number % 0x8, 3, 0x80, 0xBF⟩
      else if number = 0xF4 then .inr ⟨1, 4, 3, 0x80, 0x8F⟩
      else .inl (.broken 1) := by
  have equal (other : UInt8) : (UInt8.ofNat number == other) = decide (number = other.toNat) := by
    change decide (UInt8.ofNat number = other) = _
    simp only [← UInt8.toNat_inj, toNat_ofNat fits]
  simp only [start, UInt8.lt_iff_toNat_lt, equal, toNat_ofNat fits, decide_eq_true_eq]
  rfl

theorem continue?_ofNat {unfinished : Unfinished} {number : Nat} (fits : number < 256)
    (low : unfinished.low.toNat ≤ number) (high : number ≤ unfinished.high.toNat) :
    unfinished.continue? (UInt8.ofNat number) =
      match unfinished.owed with
      | 0 | 1 => some (.inl (.character
          (Char.ofNat (unfinished.code * 0x40 + number % 0x40)) (unfinished.taken + 1)))
      | owed + 1 => some (.inr
          ⟨unfinished.taken + 1, unfinished.code * 0x40 + number % 0x40, owed, 0x80, 0xBF⟩) := by
  have inside : (unfinished.low ≤ UInt8.ofNat number && UInt8.ofNat number ≤ unfinished.high) =
      true := by
    rw [Bool.and_eq_true, decide_eq_true_eq, decide_eq_true_eq, UInt8.le_iff_toNat_le,
      UInt8.le_iff_toNat_le, toNat_ofNat fits]
    exact ⟨low, high⟩
  rcases unfinished with ⟨taken, code, owed, least, most⟩
  rcases owed with _ | _ | owed
  all_goals simp only [Unfinished.continue?, inside, if_true, toNat_ofNat fits]

theorem scan_last {taken code number : Nat} {low high : UInt8} (fits : number < 256)
    (least : low.toNat ≤ number) (most : number ≤ high.toNat) (rest : List UInt8) :
    scan (some ⟨taken, code, 1, low, high⟩) (UInt8.ofNat number :: rest) =
      .character (Char.ofNat (code * 0x40 + number % 0x40)) (taken + 1) :: scan none rest := by
  have continued := @continue?_ofNat ⟨taken, code, 1, low, high⟩ number fits least most
  simp only [scan, continued]

theorem scan_more {taken code owed number : Nat} {low high : UInt8} (fits : number < 256)
    (least : low.toNat ≤ number) (most : number ≤ high.toNat) (rest : List UInt8) :
    scan (some ⟨taken, code, owed + 2, low, high⟩) (UInt8.ofNat number :: rest) =
      scan (some ⟨taken + 1, code * 0x40 + number % 0x40, owed + 1, 0x80, 0xBF⟩) rest := by
  have continued := @continue?_ofNat ⟨taken, code, owed + 2, low, high⟩ number fits least most
  simp only [scan, continued]

theorem scan_start {byte : UInt8} {unfinished : Unfinished}
    (begun : start byte = .inr unfinished) (rest : List UInt8) :
    scan none (byte :: rest) = scan (some unfinished) rest := by
  rw [scan, begun]

/-! ## Characters -/

/-- The first of three bytes. Its bounds for the second byte keep out overlong spellings and
surrogates, so the second byte of a character lies between them. -/
theorem start_three {code : Nat} (least : 0x7FF < code) (most : code ≤ 0xFFFF)
    (valid : code < 0xD800 ∨ 0xDFFF < code) :
    ∃ low high : UInt8,
      start (UInt8.ofNat (code / 4096 % 16 + 0xE0)) = .inr ⟨1, code / 4096, 2, low, high⟩ ∧
        low.toNat ≤ code / 64 % 64 + 0x80 ∧ code / 64 % 64 + 0x80 ≤ high.toNat := by
  rw [start_ofNat (by omega), if_neg (by omega), if_neg (by omega), if_neg (by omega)]
  by_cases first : code / 4096 = 0
  · rw [if_pos (by omega), first]
    exact ⟨0xA0, 0xBF, rfl, by change 0xA0 ≤ _; omega, by change _ ≤ 0xBF; omega⟩
  rw [if_neg (by omega)]
  by_cases surrogate : code / 4096 = 0xD
  · rw [if_pos (by omega), surrogate]
    exact ⟨0x80, 0x9F, rfl, by change 0x80 ≤ _; omega, by change _ ≤ 0x9F; omega⟩
  rw [if_neg (by omega), if_pos (by omega), show (code / 4096 % 16 + 224) % 16 = code / 4096 by omega]
  exact ⟨0x80, 0xBF, rfl, by change 0x80 ≤ _; omega, by change _ ≤ 0xBF; omega⟩

theorem start_four {code : Nat} (least : 0xFFFF < code) (most : code < 0x110000) :
    ∃ low high : UInt8,
      start (UInt8.ofNat (code / 262144 % 8 + 0xF0)) = .inr ⟨1, code / 262144, 3, low, high⟩ ∧
        low.toNat ≤ code / 4096 % 64 + 0x80 ∧ code / 4096 % 64 + 0x80 ≤ high.toNat := by
  rw [start_ofNat (by omega), if_neg (by omega), if_neg (by omega), if_neg (by omega),
    if_neg (by omega), if_neg (by omega), if_neg (by omega)]
  by_cases first : code / 262144 = 0
  · rw [if_pos (by omega), first]
    exact ⟨0x90, 0xBF, rfl, by change 0x90 ≤ _; omega, by change _ ≤ 0xBF; omega⟩
  rw [if_neg (by omega)]
  by_cases last : code / 262144 = 4
  · rw [if_neg (by omega), if_pos (by omega), last]
    exact ⟨0x80, 0x8F, rfl, by change 0x80 ≤ _; omega, by change _ ≤ 0x8F; omega⟩
  rw [if_pos (by omega), show (code / 262144 % 8 + 240) % 8 = code / 262144 by omega]
  exact ⟨0x80, 0xBF, rfl, by change 0x80 ≤ _; omega, by change _ ≤ 0xBF; omega⟩

/-- The machine takes the bytes of a character back to the character. -/
@[simp]
theorem scan_utf8EncodeChar (character : Char) (rest : List UInt8) :
    scan none (String.utf8EncodeChar character ++ rest) =
      .character character character.utf8Size :: scan none rest := by
  have valid : character.val.toNat < 0xD800 ∨
      0xDFFF < character.val.toNat ∧ character.val.toNat < 0x110000 := character.valid
  have back : Char.ofNat character.val.toNat = character := Char.ofNat_toNat character
  rw [← String.length_utf8EncodeChar]
  unfold String.utf8EncodeChar
  dsimp only
  generalize character.val.toNat = code at *
  have tail (digits : Nat) : digits % 64 + 128 < 256 ∧
      (0x80 : UInt8).toNat ≤ digits % 64 + 128 ∧ digits % 64 + 128 ≤ (0xBF : UInt8).toNat := by
    change _ ∧ 0x80 ≤ _ ∧ _ ≤ 0xBF
    omega
  split
  · rw [List.singleton_append, scan, start_ofNat (by omega), if_pos (by omega), back]
    rfl
  split
  · have begun : start (UInt8.ofNat (code / 64 % 32 + 192)) =
        .inr ⟨1, code / 64, 1, 0x80, 0xBF⟩ := by
      rw [start_ofNat (by omega), if_neg (by omega), if_neg (by omega), if_pos (by omega),
        show (code / 64 % 32 + 192) % 32 = code / 64 by omega]
    rw [List.cons_append, List.singleton_append, scan_start begun,
      scan_last (tail code).1 (tail code).2.1 (tail code).2.2,
      show code / 64 * 64 + (code % 64 + 128) % 64 = code by omega, back]
    rfl
  split
  · rcases start_three (show 0x7FF < code by omega) (by omega) (by omega) with ⟨low, high, begun, least, most⟩
    rw [List.cons_append, List.cons_append, List.singleton_append, scan_start begun,
      scan_more (tail (code / 64)).1 least most,
      scan_last (tail code).1 (tail code).2.1 (tail code).2.2,
      show (code / 4096 * 64 + (code / 64 % 64 + 128) % 64) * 64 + (code % 64 + 128) % 64 = code
        by omega, back]
    rfl
  · rcases start_four (show 0xFFFF < code by omega) (by omega) with ⟨low, high, begun, least, most⟩
    rw [List.cons_append, List.cons_append, List.cons_append, List.singleton_append,
      scan_start begun, scan_more (tail (code / 4096)).1 least most,
      scan_more (tail (code / 64)).1 (tail (code / 64)).2.1 (tail (code / 64)).2.2,
      scan_last (tail code).1 (tail code).2.1 (tail code).2.2,
      show ((code / 262144 * 64 + (code / 4096 % 64 + 128) % 64) * 64 +
        (code / 64 % 64 + 128) % 64) * 64 + (code % 64 + 128) % 64 = code by omega, back]
    rfl

/-! ## Bytes that are read as characters -/

theorem utf8EncodeChar_ofNat {code : Nat} (valid : code.isValidChar) :
    String.utf8EncodeChar (Char.ofNat code) =
      if code ≤ 0x7F then [UInt8.ofNat code]
      else if code ≤ 0x7FF then
        [UInt8.ofNat (code / 64 % 32 + 0xC0), UInt8.ofNat (code % 64 + 0x80)]
      else if code ≤ 0xFFFF then
        [UInt8.ofNat (code / 4096 % 16 + 0xE0), UInt8.ofNat (code / 64 % 64 + 0x80),
          UInt8.ofNat (code % 64 + 0x80)]
      else
        [UInt8.ofNat (code / 262144 % 8 + 0xF0), UInt8.ofNat (code / 4096 % 64 + 0x80),
          UInt8.ofNat (code / 64 % 64 + 0x80), UInt8.ofNat (code % 64 + 0x80)] := by
  have same : (Char.ofNat code).val.toNat = code := by
    rw [Char.ofNat, dif_pos valid]
    rfl
  unfold String.utf8EncodeChar
  rw [same]

theorem ofNat_eq {number : Nat} (byte : UInt8) (equal : number = byte.toNat) :
    UInt8.ofNat number = byte := by
  rw [equal, UInt8.ofNat_toNat]

/-- Whatever bytes within their bounds end a character that was begun, the character is spelled by
the bytes taken before and by these. -/
def Spells : Nat → List UInt8 → Nat → UInt8 → UInt8 → Prop
  | 0, taken, code, low, high | 1, taken, code, low, high =>
    ∀ byte, low ≤ byte → byte ≤ high →
      String.utf8EncodeChar (Char.ofNat (code * 0x40 + byte.toNat % 0x40)) = taken ++ [byte]
  | owed + 2, taken, code, low, high =>
    ∀ byte, low ≤ byte → byte ≤ high →
      Spells (owed + 1) (taken ++ [byte]) (code * 0x40 + byte.toNat % 0x40) 0x80 0xBF

theorem spells_two {first : UInt8} (least : 0xC2 ≤ first.toNat) (most : first.toNat < 0xE0) :
    Spells 1 [first] (first.toNat % 0x20) 0x80 0xBF := by
  intro byte low high
  have low : 0x80 ≤ byte.toNat := low
  have high : byte.toNat ≤ 0xBF := high
  rw [utf8EncodeChar_ofNat (.inl (by omega)), if_neg (by omega), if_pos (by omega),
    ofNat_eq first (by omega), ofNat_eq byte (by omega)]
  rfl

theorem spells_three {first low high : UInt8} {code : Nat} (carried : first.toNat = code + 0xE0)
    (most : code < 0x10) (least : 0x80 ≤ low.toNat) (bound : high.toNat ≤ 0xBF)
    (long : code = 0 → 0xA0 ≤ low.toNat) (scalar : code = 0xD → high.toNat ≤ 0x9F) :
    Spells 2 [first] code low high := by
  intro second lowSecond highSecond third lowThird highThird
  have lowSecond : low.toNat ≤ second.toNat := lowSecond
  have highSecond : second.toNat ≤ high.toNat := highSecond
  have lowThird : 0x80 ≤ third.toNat := lowThird
  have highThird : third.toNat ≤ 0xBF := highThird
  rw [utf8EncodeChar_ofNat (by unfold Nat.isValidChar; omega), if_neg (by omega), if_neg (by omega),
    if_pos (by omega), ofNat_eq first (by omega), ofNat_eq second (by omega),
    ofNat_eq third (by omega)]
  rfl

theorem spells_four {first low high : UInt8} {code : Nat} (carried : first.toNat = code + 0xF0)
    (most : code < 5) (least : 0x80 ≤ low.toNat) (bound : high.toNat ≤ 0xBF)
    (long : code = 0 → 0x90 ≤ low.toNat) (scalar : code = 4 → high.toNat ≤ 0x8F) :
    Spells 3 [first] code low high := by
  intro second lowSecond highSecond third lowThird highThird fourth lowFourth highFourth
  have lowSecond : low.toNat ≤ second.toNat := lowSecond
  have highSecond : second.toNat ≤ high.toNat := highSecond
  have lowThird : 0x80 ≤ third.toNat := lowThird
  have highThird : third.toNat ≤ 0xBF := highThird
  have lowFourth : 0x80 ≤ fourth.toNat := lowFourth
  have highFourth : fourth.toNat ≤ 0xBF := highFourth
  rw [utf8EncodeChar_ofNat (by unfold Nat.isValidChar; omega), if_neg (by omega), if_neg (by omega),
    if_neg (by omega), ofNat_eq first (by omega), ofNat_eq second (by omega),
    ofNat_eq third (by omega), ofNat_eq fourth (by omega)]
  rfl


theorem spells_of_start {byte : UInt8} {unfinished : Unfinished}
    (begun : start byte = .inr unfinished) :
    Spells unfinished.owed [byte] unfinished.code unfinished.low unfinished.high := by
  have equal (other : UInt8) : (byte == other) = decide (byte.toNat = other.toNat) := by
    change decide (byte = other) = _
    simp only [← UInt8.toNat_inj]
  simp only [start, UInt8.lt_iff_toNat_lt, equal, decide_eq_true_eq, UInt8.reduceToNat] at begun
  split at begun
  · cases begun
  split at begun
  · cases begun
  split at begun
  · cases begun
    dsimp only
    exact spells_two (by omega) (by omega)
  split at begun
  · cases begun
    dsimp only
    exact spells_three (by omega) (by omega) (by decide) (by decide) (by decide) (by decide)
  split at begun
  · cases begun
    dsimp only
    exact spells_three (by omega) (by omega) (by decide) (by decide) (by decide) (by decide)
  split at begun
  · cases begun
    dsimp only
    exact spells_three (by omega) (by omega) (by decide) (by decide) (by omega) (by omega)
  split at begun
  · cases begun
    dsimp only
    exact spells_four (by omega) (by omega) (by decide) (by decide) (by decide) (by decide)
  split at begun
  · cases begun
    dsimp only
    exact spells_four (by omega) (by omega) (by decide) (by decide) (by omega) (by omega)
  split at begun
  · cases begun
    dsimp only
    exact spells_four (by omega) (by omega) (by decide) (by decide) (by decide) (by decide)
  · cases begun

/-- Characters that are read from bytes begin with one whose spelling the bytes begin with. -/
def ReadsFirst (bytes : List UInt8) (text : List Char) : Prop :=
  ∃ character later rest position, text = character :: later ∧
    bytes = String.utf8EncodeChar character ++ rest ∧
    characters position (scan none rest) = .ok later

theorem readsFirst_of_character {position width : Nat} {character : Char}
    {spelled rest : List UInt8} {text : List Char}
    (spells : String.utf8EncodeChar character = spelled)
    (read : characters position (.character character width :: scan none rest) = .ok text) :
    ReadsFirst (spelled ++ rest) text := by
  rw [characters] at read
  cases later : characters (position + width) (scan none rest) with
  | error fault =>
      rw [later] at read
      cases read
  | ok found =>
      rw [later] at read
      cases read
      exact ⟨character, found, rest, position + width, rfl, by rw [spells], later⟩

theorem readsFirst_of_begun {owed taken code position : Nat} {low high : UInt8}
    {spelled rest : List UInt8} {text : List Char} (spells : Spells owed spelled code low high)
    (read : characters position (scan (some ⟨taken, code, owed, low, high⟩) rest) = .ok text) :
    ReadsFirst (spelled ++ rest) text := by
  induction rest generalizing owed taken code low high spelled with
  | nil => cases read
  | cons byte rest induction =>
      have moved : spelled ++ byte :: rest = (spelled ++ [byte]) ++ rest := by simp
      rw [moved]
      rw [scan, Unfinished.continue?] at read
      by_cases inside : (low ≤ byte && byte ≤ high) = true
      · rw [if_pos inside] at read
        rw [Bool.and_eq_true, decide_eq_true_eq, decide_eq_true_eq] at inside
        match owed, spells, read with
        | 0, spells, read => exact readsFirst_of_character (spells byte inside.1 inside.2) read
        | 1, spells, read => exact readsFirst_of_character (spells byte inside.1 inside.2) read
        | owed + 2, spells, read => exact induction (spells byte inside.1 inside.2) read
      · rw [if_neg inside] at read
        cases read

theorem piece_of_start {byte : UInt8} {piece : Piece} (begun : start byte = .inl piece) :
    piece = .broken 1 ∨
      piece = .character (Char.ofNat byte.toNat) 1 ∧
        String.utf8EncodeChar (Char.ofNat byte.toNat) = [byte] := by
  unfold start at begun
  split at begun
  · next low =>
      cases begun
      have low : byte.toNat < 0x80 := low
      rw [utf8EncodeChar_ofNat (.inl (by omega)), if_pos (by omega), UInt8.ofNat_toNat]
      exact .inr ⟨rfl, rfl⟩
  · left
    repeat' split at begun
    all_goals cases begun
    all_goals rfl

theorem readsFirst_of_scan {byte : UInt8} {rest : List UInt8} {text : List Char} {position : Nat}
    (read : characters position (scan none (byte :: rest)) = .ok text) :
    ReadsFirst (byte :: rest) text := by
  rw [scan] at read
  cases begun : start byte with
  | inr unfinished =>
      rw [begun] at read
      exact readsFirst_of_begun (spells_of_start begun) read
  | inl piece =>
      rw [begun] at read
      rcases piece_of_start begun with rfl | ⟨rfl, spells⟩
      · cases read
      · exact readsFirst_of_character spells read

theorem eq_flatMap_of_characters {bytes : List UInt8} {text : List Char} {position : Nat}
    (read : characters position (scan none bytes) = .ok text) :
    bytes = text.flatMap String.utf8EncodeChar := by
  induction text generalizing bytes position with
  | nil =>
      cases bytes with
      | nil => rfl
      | cons byte rest =>
          rcases readsFirst_of_scan read with ⟨_, _, _, _, equal, _⟩
          cases equal
  | cons character later induction =>
      cases bytes with
      | nil => cases read
      | cons byte rest =>
          rcases readsFirst_of_scan read with ⟨_, _, rest, position, equal, spelled, read⟩
          cases equal
          rw [spelled, induction read, List.flatMap_cons]

/-! ## Texts -/

theorem characters_scan_encode (position : Nat) (text : List Char) :
    characters position (scan none (text.flatMap String.utf8EncodeChar)) = .ok text := by
  induction text generalizing position with
  | nil => rfl
  | cons character rest induction =>
      rw [List.flatMap_cons, scan_utf8EncodeChar, characters, induction]
      rfl

@[simp]
theorem decode_encode (text : String) : decode (encode text) = .ok text := by
  rw [decode, encode_eq_flatMap, characters_scan_encode]
  exact congrArg Except.ok String.ofList_toList

/-- Exactly the bytes of a text are decoded as that text. -/
theorem decode_eq_ok_iff {bytes : List UInt8} {text : String} :
    decode bytes = .ok text ↔ bytes = encode text := by
  constructor
  · intro decoded
    rw [decode] at decoded
    cases read : characters 0 (scan none bytes) with
    | error fault =>
        rw [read] at decoded
        cases decoded
    | ok found =>
        rw [read] at decoded
        cases decoded
        rw [encode_eq_flatMap, String.toList_ofList]
        exact eq_flatMap_of_characters read
  · rintro rfl
    exact decode_encode text

theorem encode_injective {left right : String} (equal : encode left = encode right) :
    left = right := by
  have decoded := congrArg decode equal
  rw [decode_encode, decode_encode] at decoded
  exact Except.ok.inj decoded

theorem isPrefix_of_flatMap {part whole : List Char}
    (isPrefix : part.flatMap String.utf8EncodeChar <+: whole.flatMap String.utf8EncodeChar) :
    part <+: whole := by
  induction part generalizing whole with
  | nil => exact List.nil_prefix
  | cons character part induction =>
      rcases isPrefix with ⟨rest, joined⟩
      rw [List.flatMap_cons, List.append_assoc] at joined
      have pieces := congrArg (scan none) joined
      rw [scan_utf8EncodeChar] at pieces
      cases whole with
      | nil => cases pieces
      | cons first whole =>
          rw [List.flatMap_cons] at joined pieces
          rw [scan_utf8EncodeChar] at pieces
          cases (List.cons.inj pieces).1
          exact List.cons_prefix_cons.mpr
            ⟨rfl, induction ⟨rest, List.append_cancel_left joined⟩⟩

theorem isPrefix_of_encode {part whole : String} (isPrefix : encode part <+: encode whole) :
    part.toList <+: whole.toList := by
  rw [encode_eq_flatMap, encode_eq_flatMap] at isPrefix
  exact isPrefix_of_flatMap isPrefix

end SignalReplay.Utf8
