import Mathlib.Tactic.IntervalCases
import XdpFirewall.Lib.Json

/-!
# JsonText — values as compact texts

The writer leaves no blanks between the tokens of a value and escapes what a string may not hold.
The reader takes a value from the front of a text. It takes what the writer has written, whatever
follows, unless a digit follows a number.
-/

namespace XdpFirewall
namespace Lib
namespace Json

/-! ## Strings -/

/-- The letter that stands for a character after a backslash. -/
def escapeLetter (c : Char) : Option Char :=
  match c.toNat with
  | 8 => some 'b'
  | 9 => some 't'
  | 10 => some 'n'
  | 12 => some 'f'
  | 13 => some 'r'
  | 34 => some '"'
  | 92 => some '\\'
  | _ => none

def unescape : Char → Option Char
  | 'b' => some (Char.ofNat 8)
  | 't' => some '\t'
  | 'n' => some '\n'
  | 'f' => some (Char.ofNat 12)
  | 'r' => some '\r'
  | '"' => some '"'
  | '\\' => some '\\'
  | '/' => some '/'
  | _ => none

def escape (c : Char) : List Char :=
  match escapeLetter c with
  | some letter => ['\\', letter]
  | none =>
      if c.toNat < 32 then
        ['\\', 'u', '0', '0', Nat.digitChar (c.toNat / 16), Nat.digitChar (c.toNat % 16)]
      else
        [c]

def hexValue (c : Char) : Option Nat :=
  (List.range 16).find? fun n => Nat.digitChar n = c.toLower

/-- The character of a number. Halves of a surrogate pair are refused. -/
def unescapeHex (a b c d : Char) : Option Char := do
  let n := ((← hexValue a) * 16 + (← hexValue b)) * 256 + (← hexValue c) * 16 + (← hexValue d)
  if n.isValidChar then some (Char.ofNat n) else none

def push (c : Char) (found : List Char × List Char) : List Char × List Char :=
  (c :: found.1, found.2)

/-- The characters of a string, up to the quote that closes it. -/
def readChars : List Char → Option (List Char × List Char)
  | [] => none
  | '"' :: rest => some ([], rest)
  | '\\' :: 'u' :: a :: b :: c :: d :: rest => do
      return push (← unescapeHex a b c d) (← readChars rest)
  | '\\' :: c :: rest => do
      return push (← unescape c) (← readChars rest)
  | c :: rest => do
      if c.toNat < 32 then none else return push c (← readChars rest)

/-- The quote that closes a string included. -/
def writeChars (s : List Char) : List Char :=
  s.flatMap escape ++ ['"']

theorem eq_ofNat_of_toNat {c : Char} {n : Nat} (h : c.toNat = n) : c = Char.ofNat n := by
  rw [← h, c.ofNat_toNat]

/-- The letters are read as the characters for which they stand. -/
theorem unescape_escapeLetter {c letter : Char} (h : escapeLetter c = some letter) :
    unescape letter = some c ∧ letter ≠ 'u' := by
  unfold escapeLetter at h
  split at h
  all_goals
    first
    | rename_i hc
      cases h
      rw [eq_ofNat_of_toNat hc]
      exact ⟨rfl, by decide⟩
    | cases h

theorem unescapeHex_digits : ∀ n < 32,
    unescapeHex '0' '0' (Nat.digitChar (n / 16)) (Nat.digitChar (n % 16)) =
      some (Char.ofNat n) := by
  decide

theorem readChars_letter {letter c : Char} (h : unescape letter = some c) (hletter : letter ≠ 'u')
    (s : List Char) : readChars ('\\' :: letter :: s) = (readChars s).map (push c) := by
  rw [readChars, h]
  · cases readChars s <;> rfl
  · rintro _ _ _ _ _ rfl
    exact absurd rfl hletter

theorem readChars_hex {a b c d found : Char} (h : unescapeHex a b c d = some found)
    (s : List Char) :
    readChars ('\\' :: 'u' :: a :: b :: c :: d :: s) = (readChars s).map (push found) := by
  rw [readChars, h]
  cases readChars s <;> rfl

theorem readChars_plain {c : Char} (hquote : c ≠ '"') (hslash : c ≠ '\\') (hcontrol : 32 ≤ c.toNat)
    (s : List Char) : readChars (c :: s) = (readChars s).map (push c) := by
  rw [readChars, if_neg (Nat.not_lt.mpr hcontrol)]
  · cases readChars s <;> rfl
  · exact hquote
  · rintro _ _ _ _ _ rfl
    exact absurd rfl hslash
  · rintro _ _ rfl
    exact absurd rfl hslash

theorem readChars_escape (c : Char) (s : List Char) :
    readChars (escape c ++ s) = (readChars s).map (push c) := by
  unfold escape
  cases hletter : escapeLetter c with
  | some letter =>
      obtain ⟨hc, hne⟩ := unescape_escapeLetter hletter
      exact readChars_letter hc hne s
  | none =>
      dsimp only
      split
      · rename_i hcontrol
        have hhex := unescapeHex_digits c.toNat hcontrol
        rw [c.ofNat_toNat] at hhex
        exact readChars_hex hhex s
      · rename_i hcontrol
        refine readChars_plain ?_ ?_ (Nat.not_lt.mp hcontrol) s
        · rintro rfl
          cases hletter
        · rintro rfl
          cases hletter

theorem readChars_writeChars (s rest : List Char) :
    readChars (writeChars s ++ rest) = some (s, rest) := by
  induction s with
  | nil => rfl
  | cons c s ih =>
      rw [writeChars, List.flatMap_cons, List.append_assoc, List.append_assoc, readChars_escape]
      rw [writeChars, List.append_assoc] at ih
      rw [ih]
      rfl

/-! ## Numbers -/

def readNat (s : List Char) : Option (Nat × List Char) :=
  let digits := s.takeWhile Char.isDigit
  if digits = [] then none else some (Nat.ofDigitChars 10 digits 0, s.drop digits.length)

def readInt : List Char → Option (Int × List Char)
  | '-' :: rest => (readNat rest).map fun found => (-(found.1 : Int), found.2)
  | s => (readNat s).map fun found => ((found.1 : Int), found.2)

def writeInt : Int → List Char
  | .ofNat n => Nat.toDigits 10 n
  | .negSucc n => '-' :: Nat.toDigits 10 (n + 1)

/-- What follows a number does not go on with it. -/
def NoDigit (s : List Char) : Prop :=
  s.takeWhile Char.isDigit = []

theorem readNat_toDigits (n : Nat) {rest : List Char} (hrest : NoDigit rest) :
    readNat (Nat.toDigits 10 n ++ rest) = some (n, rest) := by
  have hdigits : ∀ c ∈ Nat.toDigits 10 n, c.isDigit = true := fun c hc =>
    Nat.isDigit_of_mem_toDigits (by decide) (by decide) hc
  have htake : (Nat.toDigits 10 n ++ rest).takeWhile Char.isDigit = Nat.toDigits 10 n := by
    rw [List.takeWhile_append_of_pos hdigits, hrest, List.append_nil]
  rw [readNat]
  simp only [htake, if_neg Nat.toDigits_ne_nil, Nat.ofDigitChars_ten_toDigits, List.drop_left]

theorem toDigits_eq_cons (n : Nat) :
    ∃ c s, Nat.toDigits 10 n = c :: s ∧ c.isDigit = true := by
  obtain ⟨c, s, hs⟩ := List.exists_cons_of_ne_nil (@Nat.toDigits_ne_nil n 10)
  have hmem : c ∈ Nat.toDigits 10 n := by
    rw [hs]
    exact List.mem_cons_self
  exact ⟨c, s, hs, Nat.isDigit_of_mem_toDigits (by decide) (by decide) hmem⟩

/-- A number begins with a digit or a sign. -/
theorem writeInt_eq_cons (n : Int) :
    ∃ c s, writeInt n = c :: s ∧ (c = '-' ∨ c.isDigit = true) := by
  cases n with
  | ofNat n =>
      obtain ⟨c, s, hs, hc⟩ := toDigits_eq_cons n
      exact ⟨c, s, hs, Or.inr hc⟩
  | negSucc n => exact ⟨'-', _, rfl, Or.inl rfl⟩

theorem readInt_writeInt (n : Int) {rest : List Char} (hrest : NoDigit rest) :
    readInt (writeInt n ++ rest) = some (n, rest) := by
  cases n with
  | ofNat n =>
      obtain ⟨c, s, hs, hc⟩ := toDigits_eq_cons n
      have hread := readNat_toDigits n hrest
      rw [hs, List.cons_append] at hread
      rw [writeInt, hs, List.cons_append, readInt, hread]
      · rfl
      · intro _ hsign
        cases hsign
        cases hc
  | negSucc n =>
      change (readNat (Nat.toDigits 10 (n + 1) ++ rest)).map _ = _
      rw [readNat_toDigits _ hrest]
      rfl

/-! ## Values -/

mutual

/-- The first `fuel` levels of a value at the front of a text. -/
def readValue : Nat → List Char → Option (Json × List Char)
  | 0, _ => none
  | _ + 1, 'n' :: 'u' :: 'l' :: 'l' :: rest => some (.null, rest)
  | _ + 1, 't' :: 'r' :: 'u' :: 'e' :: rest => some (.bool true, rest)
  | _ + 1, 'f' :: 'a' :: 'l' :: 's' :: 'e' :: rest => some (.bool false, rest)
  | _ + 1, '"' :: rest => do
      let (value, rest) ← readChars rest
      return (.str (String.ofList value), rest)
  | _ + 1, '[' :: ']' :: rest => some (.arr [], rest)
  | fuel + 1, '[' :: rest => do
      let (item, rest) ← readValue fuel rest
      let (items, rest) ← readItems fuel rest
      return (.arr (item :: items), rest)
  | _ + 1, '\x7b' :: '\x7d' :: rest => some (.obj [], rest)
  | fuel + 1, '\x7b' :: rest => do
      let (field, rest) ← readField fuel rest
      let (fields, rest) ← readFieldList fuel rest
      return (.obj (field :: fields), rest)
  | _ + 1, s => do
      let (value, rest) ← readInt s
      return (.num value, rest)

/-- The items that follow one, up to the bracket that closes the list. -/
def readItems : Nat → List Char → Option (List Json × List Char)
  | _ + 1, ']' :: rest => some ([], rest)
  | fuel + 1, ',' :: rest => do
      let (item, rest) ← readValue fuel rest
      let (items, rest) ← readItems fuel rest
      return (item :: items, rest)
  | _, _ => none

def readField : Nat → List Char → Option ((String × Json) × List Char)
  | fuel + 1, '"' :: rest => do
      let (name, rest) ← readChars rest
      match rest with
      | ':' :: rest =>
          let (value, rest) ← readValue fuel rest
          return ((String.ofList name, value), rest)
      | _ => none
  | _, _ => none

def readFieldList : Nat → List Char → Option (List (String × Json) × List Char)
  | _ + 1, '\x7d' :: rest => some ([], rest)
  | fuel + 1, ',' :: rest => do
      let (field, rest) ← readField fuel rest
      let (fields, rest) ← readFieldList fuel rest
      return (field :: fields, rest)
  | _, _ => none

end

mutual

def writeValue : Json → List Char
  | .null => ['n', 'u', 'l', 'l']
  | .bool true => ['t', 'r', 'u', 'e']
  | .bool false => ['f', 'a', 'l', 's', 'e']
  | .num value => writeInt value
  | .str value => '"' :: writeChars value.toList
  | .arr [] => ['[', ']']
  | .arr (item :: items) => '[' :: (writeValue item ++ writeItems items)
  | .obj [] => ['\x7b', '\x7d']
  | .obj (field :: fields) => '\x7b' :: (writeField field ++ writeFieldList fields)

def writeItems : List Json → List Char
  | [] => [']']
  | item :: items => ',' :: (writeValue item ++ writeItems items)

def writeField : String × Json → List Char
  | (name, value) => '"' :: (writeChars name.toList ++ ':' :: writeValue value)

def writeFieldList : List (String × Json) → List Char
  | [] => ['\x7d']
  | field :: fields => ',' :: (writeField field ++ writeFieldList fields)

end

/-- Neither a digit nor a bracket stands before what follows an item. -/
theorem noDigit_writeItems (items : List Json) (rest : List Char) :
    NoDigit (writeItems items ++ rest) := by
  cases items <;> rfl

theorem noDigit_writeFieldList (fields : List (String × Json)) (rest : List Char) :
    NoDigit (writeFieldList fields ++ rest) := by
  cases fields <;> rfl

theorem readValue_writeInt (fuel : Nat) (n : Int) {rest : List Char} (hrest : NoDigit rest) :
    readValue (fuel + 1) (writeInt n ++ rest) = some (.num n, rest) := by
  obtain ⟨c, s, hs, hc⟩ := writeInt_eq_cons n
  have hread := readInt_writeInt n hrest
  rw [hs, List.cons_append] at hread ⊢
  -- No other value begins with such a character.
  have hother : ∀ d : Char, d ≠ '-' → d.isDigit = false → c ≠ d := by
    rintro _ hsign hdigit rfl
    rcases hc with hc | hc
    · exact hsign hc
    · rw [hdigit] at hc
      cases hc
  rw [readValue, hread]
  · rfl
  all_goals
    intro _ hstart
    exact hother _ (by decide) (by decide) (List.cons.inj hstart).1

/-- No value begins with the bracket that closes a list. -/
theorem writeValue_eq_cons (j : Json) : ∃ c s, writeValue j = c :: s ∧ c ≠ ']' := by
  cases j with
  | num value =>
      obtain ⟨c, s, hs, hc⟩ := writeInt_eq_cons value
      refine ⟨c, s, hs, ?_⟩
      rintro rfl
      rcases hc with hc | hc <;> cases hc
  | null => exact ⟨_, _, rfl, by decide⟩
  | bool value => cases value <;> exact ⟨_, _, rfl, by decide⟩
  | str => exact ⟨_, _, rfl, by decide⟩
  | arr items => cases items <;> exact ⟨_, _, rfl, by decide⟩
  | obj fields => cases fields <;> exact ⟨_, _, rfl, by decide⟩

mutual

theorem readValue_writeValue (j : Json) {fuel : Nat} (hfuel : (writeValue j).length < fuel)
    {rest : List Char} (hrest : NoDigit rest) :
    readValue fuel (writeValue j ++ rest) = some (j, rest) := by
  match fuel, j with
  | 0, _ => exact absurd hfuel (Nat.not_lt_zero _)
  | _ + 1, .null => rfl
  | _ + 1, .bool true => rfl
  | _ + 1, .bool false => rfl
  | fuel + 1, .num value => exact readValue_writeInt fuel value hrest
  | fuel + 1, .str value =>
      rw [writeValue, List.cons_append, readValue, readChars_writeChars]
      change some (str (String.ofList value.toList), rest) = _
      rw [String.ofList_toList]
  | fuel + 1, .arr [] => rfl
  | fuel + 1, .arr (item :: items) =>
      rw [writeValue, List.length_cons, List.length_append] at hfuel
      have hitem := @readValue_writeValue item fuel (by omega) _ (noDigit_writeItems items rest)
      have hitems := @readItems_writeItems items fuel (by omega) rest
      obtain ⟨c, s, hs, hc⟩ := writeValue_eq_cons item
      rw [writeValue, List.cons_append, List.append_assoc, readValue, hitem]
      · change (do
          let found ← readItems fuel (writeItems items ++ rest)
          return (arr (item :: found.1), found.2)) = _
        rw [hitems]
        rfl
      · rintro _ hclosed
        rw [hs] at hclosed
        exact hc (List.cons.inj hclosed).1
  | fuel + 1, .obj [] => rfl
  | fuel + 1, .obj (field :: fields) =>
      rw [writeValue, List.length_cons, List.length_append] at hfuel
      have hfield := @readField_writeField field fuel (by omega) _ (noDigit_writeFieldList fields rest)
      have hfields := @readFieldList_writeFieldList fields fuel (by omega) rest
      rw [writeValue, List.cons_append, List.append_assoc, readValue, hfield]
      · change (do
          let found ← readFieldList fuel (writeFieldList fields ++ rest)
          return (obj (field :: found.1), found.2)) = _
        rw [hfields]
        rfl
      · rintro _ hclosed
        cases field
        cases hclosed

theorem readItems_writeItems (items : List Json) {fuel : Nat}
    (hfuel : (writeItems items).length < fuel) (rest : List Char) :
    readItems fuel (writeItems items ++ rest) = some (items, rest) := by
  match fuel, items with
  | 0, _ => exact absurd hfuel (Nat.not_lt_zero _)
  | fuel + 1, [] => rfl
  | fuel + 1, item :: items =>
      rw [writeItems, List.length_cons, List.length_append] at hfuel
      have hitem := @readValue_writeValue item fuel (by omega) _ (noDigit_writeItems items rest)
      have hitems := @readItems_writeItems items fuel (by omega) rest
      rw [writeItems, List.cons_append, List.append_assoc, readItems, hitem]
      change (do
          let found ← readItems fuel (writeItems items ++ rest)
          return (item :: found.1, found.2)) = _
      rw [hitems]
      rfl

theorem readField_writeField (field : String × Json) {fuel : Nat}
    (hfuel : (writeField field).length < fuel) {rest : List Char} (hrest : NoDigit rest) :
    readField fuel (writeField field ++ rest) = some (field, rest) := by
  match fuel, field with
  | 0, _ => exact absurd hfuel (Nat.not_lt_zero _)
  | fuel + 1, (name, value) =>
      rw [writeField, List.length_cons, List.length_append, List.length_cons] at hfuel
      have hvalue := @readValue_writeValue value fuel (by omega) _ hrest
      rw [writeField, List.cons_append, List.append_assoc, readField, readChars_writeChars]
      change (do
          let found ← readValue fuel (writeValue value ++ rest)
          return ((String.ofList name.toList, found.1), found.2)) = _
      rw [hvalue, String.ofList_toList]
      rfl

theorem readFieldList_writeFieldList (fields : List (String × Json)) {fuel : Nat}
    (hfuel : (writeFieldList fields).length < fuel) (rest : List Char) :
    readFieldList fuel (writeFieldList fields ++ rest) = some (fields, rest) := by
  match fuel, fields with
  | 0, _ => exact absurd hfuel (Nat.not_lt_zero _)
  | fuel + 1, [] => rfl
  | fuel + 1, field :: fields =>
      rw [writeFieldList, List.length_cons, List.length_append] at hfuel
      have hfield := @readField_writeField field fuel (by omega) _ (noDigit_writeFieldList fields rest)
      have hfields := @readFieldList_writeFieldList fields fuel (by omega) rest
      rw [writeFieldList, List.cons_append, List.append_assoc, readFieldList, hfield]
      change (do
          let found ← readFieldList fuel (writeFieldList fields ++ rest)
          return (field :: found.1, found.2)) = _
      rw [hfields]
      rfl

end

/-! ## Texts -/

def toText (j : Json) : String :=
  String.ofList (writeValue j)

/-- A text that is one value. -/
def ofText (s : String) : Option Json := do
  let (value, rest) ← readValue (s.length + 1) s.toList
  if rest = [] then some value else none

theorem ofText_toText (j : Json) : ofText (toText j) = some j := by
  have hread := readValue_writeValue j (Nat.lt_succ_self _) (rfl : NoDigit [])
  rw [List.append_nil] at hread
  rw [ofText, toText, String.length_ofList, String.toList_ofList, hread]
  rfl

end Json
end Lib
end XdpFirewall
