/-
**Numeric ranges and their text.**

A text is a list of characters here.

* `fromStr`, `text`, `isValid` — the parser, the display of a range and the check of one;
* `fromStr_spec` — what is accepted, that it is valid, and which valid ranges are read back;
* `exact_iff` — for which ranges the size is exact and the range read back.
-/

import AsyncOpcua.Types.Encoding
import Mathlib.Data.List.TakeWhile
import Mathlib.Data.Nat.Log
import Mathlib.Data.String.Basic

namespace AsyncOpcua.Types

open List Char

inductive NumericRange
  | none
  | index (index : UInt32)
  | range (min max : UInt32)
  | multipleRanges (ranges : List NumericRange)
  | invalid (text : UAString)

namespace NumericRange

instance : Inhabited NumericRange := ⟨.none⟩

/-! ### Parsing -/

def isNumber (text : List Char) : Bool := text ≠ [] && text.length ≤ 10 && text.all isDigit

def number (text : List Char) : ℕ := Nat.ofDigitChars 10 text 0

/-- `^(?P<min>[0-9]{1,10})(:(?P<max>[0-9]{1,10}))?$`. -/
def captures (s : List Char) : Option (List Char × Option (List Char)) :=
  let min := s.takeWhile isDigit
  if isNumber min then
    match s.dropWhile isDigit with
    | [] => some (min, .none)
    | ':' :: max => if isNumber max then some (min, some max) else .none
    | _ => .none
  else .none

def parseRange (s : List Char) : Option NumericRange :=
  match captures s with
  | .none => .none
  | some (min, .none) =>
    if number min < u32Size then some (.index (.ofNat (number min))) else .none
  | some (min, some max) =>
    if number max ≤ number min ∨ u32Size ≤ number max then .none
    else some (.range (.ofNat (number min)) (.ofNat (number max)))

def fromStr (s : List Char) : Option NumericRange :=
  if s = [] then some .none
  else
    match s.splitOn ',' with
    | [part] => parseRange part
    | parts => (parts.mapM parseRange).map .multipleRanges

/-! ### Text -/

def digits (i : UInt32) : List Char := Nat.toDigits 10 i.toNat

mutual

/-- `Display`. -/
def text : NumericRange → List Char
  | .none => []
  | .index i => digits i
  | .range min max => digits min ++ ':' :: digits max
  | .multipleRanges ranges => [','].intercalate (texts ranges)
  | .invalid text => (text.getD "").toList

def texts : List NumericRange → List (List Char)
  | [] => []
  | r :: rs => r.text :: texts rs

end

def isValidPart : NumericRange → Bool
  | .none | .index _ => true
  | .range min max => min < max
  | .multipleRanges _ | .invalid _ => false

def isValid : NumericRange → Bool
  | .multipleRanges ranges => ranges.all isValidPart
  | r => r.isValidPart

/-! ### One part -/

/-- The text is an index, with the value. -/
def IsIndex (s : List Char) (i : UInt32) : Prop := isNumber s = true ∧ number s = i.toNat

theorem texts_eq_map (ranges : List NumericRange) : texts ranges = ranges.map text := by
  induction ranges with
  | nil => simp [texts]
  | cons r rs ih => simp [texts, ih]

variable {s : List Char}

theorem all_isDigit (isNumber : isNumber s = true) : ∀ c ∈ s, c.isDigit = true := by
  rw [NumericRange.isNumber, Bool.and_eq_true, all_eq_true] at isNumber
  exact isNumber.2

theorem isIndex_digits (i : UInt32) : IsIndex (digits i) i := by
  have small := i.toNat_lt
  have short : (digits i).length ≤ 10 :=
    (Nat.length_toDigits_le_iff (by omega) (by omega)).mpr (by omega)
  refine ⟨?_, Nat.ofDigitChars_ten_toDigits⟩
  have decimal : ∀ c ∈ digits i, c.isDigit = true := fun c there =>
    Nat.isDigit_of_mem_toDigits (by omega) (by omega) there
  rw [isNumber, Bool.and_eq_true, Bool.and_eq_true, all_eq_true]
  exact ⟨⟨by simp [digits], decide_eq_true short⟩, decimal⟩

theorem isIndex_ofNat (isNumber : isNumber s = true) (fits : number s < u32Size) :
    IsIndex s (.ofNat (number s)) :=
  ⟨isNumber, (UInt32.toNat_ofNat_of_lt' fits).symm⟩

theorem captures_eq_some_iff {s min : List Char} {max : Option (List Char)} :
    captures s = some (min, max) ↔ isNumber min = true ∧
      ((max = .none ∧ s = min) ∨ ∃ high, max = some high ∧ isNumber high = true ∧
        s = min ++ ':' :: high) := by
  have cut : s.takeWhile isDigit ++ s.dropWhile isDigit = s :=
    takeWhile_append_dropWhile
  constructor
  · intro captured
    rw [captures] at captured
    split_ifs at captured with first
    split at captured
    · next nothing =>
      cases captured
      rw [nothing, append_nil] at cut
      exact ⟨first, .inl ⟨rfl, cut.symm⟩⟩
    · next high rest =>
      split_ifs at captured with second
      cases captured
      exact ⟨first, .inr ⟨high, rfl, second, by rw [← rest, cut]⟩⟩
    · cases captured
  · rintro ⟨first, ⟨rfl, rfl⟩ | ⟨high, rfl, second, rfl⟩⟩
    · have decimal := all_isDigit first
      have whole : s.takeWhile isDigit = s := takeWhile_eq_self_iff.mpr decimal
      simp [captures, whole, dropWhile_eq_nil_iff.mpr decimal, first]
    · have decimal := all_isDigit first
      have front : (min ++ ':' :: high).takeWhile isDigit = min := by
        rw [takeWhile_append_of_pos decimal]
        simp
      have back : (min ++ ':' :: high).dropWhile isDigit = ':' :: high := by
        rw [dropWhile_append_of_pos decimal]
        simp
      simp [captures, front, back, first, second]

variable {r : NumericRange}

/-- **One part:** an index, or a range of two in order. -/
theorem parseRange_eq_some_iff : parseRange s = some r ↔ (∃ i, r = .index i ∧ IsIndex s i) ∨
      ∃ min max low high, r = .range min max ∧ min < max ∧ s = low ++ ':' :: high ∧
        IsIndex low min ∧ IsIndex high max := by
  constructor
  · intro parsed
    unfold parseRange at parsed
    split at parsed
    · cases parsed
    · next min captured =>
      obtain ⟨first, ⟨-, rfl⟩ | ⟨high, absurdly, -⟩⟩ := captures_eq_some_iff.mp captured
      · split_ifs at parsed with fits
        cases parsed
        exact .inl ⟨_, rfl, isIndex_ofNat first fits⟩
      · cases absurdly
    · next min max captured =>
      obtain ⟨first, ⟨absurdly, -⟩ | ⟨high, same, second, rfl⟩⟩ := captures_eq_some_iff.mp captured
      · cases absurdly
      · cases same
        split_ifs at parsed with bad
        rw [not_or, not_le, not_le] at bad
        cases parsed
        have low := isIndex_ofNat first (bad.1.trans bad.2)
        have high := isIndex_ofNat second bad.2
        refine .inr ⟨_, _, _, _, rfl, ?_, rfl, low, high⟩
        rw [UInt32.lt_iff_toNat_lt, ← low.2, ← high.2]
        exact bad.1
  · rintro (⟨i, rfl, isNumber, value⟩ | ⟨min, max, low, high, rfl, less, rfl, first, second⟩)
    · have fits : number s < u32Size := value ▸ i.toNat_lt
      simp only [parseRange, captures_eq_some_iff.mpr ⟨isNumber, .inl ⟨rfl, rfl⟩⟩, value,
        UInt32.ofNat_toNat]
      exact if_pos (value ▸ fits)
    · have fits : max.toNat < u32Size := max.toNat_lt
      have ordered := UInt32.lt_iff_toNat_lt.mp less
      simp only [parseRange, captures_eq_some_iff.mpr ⟨first.1, .inr ⟨high, rfl, second.1, rfl⟩⟩,
        first.2, second.2, UInt32.ofNat_toNat]
      rw [if_neg (by omega)]

theorem isValidPart_of_parsed (parsed : parseRange s = some r) :
    r.isValidPart = true ∧ r.isValid = true ∧ r ≠ .none := by
  obtain ⟨i, rfl, -⟩ | ⟨min, max, low, high, rfl, less, -⟩ := parseRange_eq_some_iff.mp parsed
  · simp [isValid, isValidPart]
  · simp [isValid, isValidPart, less]

theorem parseRange_text (valid : r.isValidPart = true) (some : r ≠ .none) :
    parseRange r.text = .some r := by
  rw [parseRange_eq_some_iff]
  cases r with
  | none => exact absurd rfl some
  | index i => exact .inl ⟨i, rfl, by simpa [text] using isIndex_digits i⟩
  | range low high =>
    refine .inr ⟨low, high, _, _, rfl, of_decide_eq_true valid, ?_, isIndex_digits low,
      isIndex_digits high⟩
    simp [text]
  | multipleRanges | invalid => cases valid

theorem not_mem_of_parsed (parsed : parseRange s = some r) : s ≠ [] ∧ ',' ∉ s := by
  have plain : ∀ {t : List Char}, isNumber t = true → t ≠ [] ∧ ',' ∉ t := by
    intro t isNumber
    refine ⟨?_, fun comma => absurd (all_isDigit isNumber _ comma) (by decide)⟩
    rintro rfl
    cases isNumber
  obtain ⟨i, -, isNumber, -⟩ | ⟨min, max, low, high, -, -, rfl, first, second⟩ :=
    parseRange_eq_some_iff.mp parsed
  · exact plain isNumber
  · simp [(plain first.1).2, (plain second.1).2]

/-! ### Several parts -/

section

variable {parts : List (List Char)} {ranges : List NumericRange}

theorem mapM_eq_some_iff :
    parts.mapM parseRange = some ranges ↔ parts.map parseRange = ranges.map some := by
  induction parts generalizing ranges with
  | nil => cases ranges <;> simp
  | cons part parts ih =>
    cases parsed : parseRange part with
    | none => cases ranges <;> simp [mapM_cons, parsed]
    | some first =>
      cases ranges with
      | nil => cases all : parts.mapM parseRange <;> simp [mapM_cons, parsed, all]
      | cons r ranges =>
        rw [map_cons, map_cons, cons.injEq, ← ih, mapM_cons, parsed]
        cases parts.mapM parseRange <;> simp

theorem parsed_of_mem (parsed : parts.mapM parseRange = some ranges) :
    (∀ part ∈ parts, ∃ r, parseRange part = some r) ∧
      ∀ r ∈ ranges, ∃ part, parseRange part = some r := by
  rw [mapM_eq_some_iff] at parsed
  constructor
  · intro part listed
    obtain ⟨r, -, same⟩ := mem_map.mp (parsed ▸ mem_map_of_mem listed)
    exact ⟨r, same.symm⟩
  · intro r listed
    obtain ⟨part, -, same⟩ := mem_map.mp (parsed.symm ▸ mem_map_of_mem (f := some) listed)
    exact ⟨part, same⟩

end

def ofParts : List NumericRange → NumericRange
  | [part] => part
  | parts => .multipleRanges parts

theorem fromStr_eq (some : s ≠ []) : fromStr s = ((s.splitOn ',').mapM parseRange).map ofParts := by
  rw [fromStr, if_neg some]
  generalize s.splitOn ',' = parts
  split
  · next part =>
    rw [mapM_cons, mapM_nil]
    cases parseRange part <;> rfl
  · next several =>
    cases all : parts.mapM parseRange with
    | none => rfl
    | some ranges =>
      have count := congrArg length (mapM_eq_some_iff.mp all)
      rw [length_map, length_map] at count
      match ranges with
      | [] => rfl
      | [r] =>
        obtain ⟨part, rfl⟩ := length_eq_one_iff.mp count
        exact absurd rfl (several part)
      | _ :: _ :: _ => rfl

variable {ranges : List NumericRange} {parts : List (List Char)}

theorem fromStr_intercalate (some : parts ≠ []) (parsed : parts.mapM parseRange = .some ranges) :
    fromStr ([','].intercalate parts) = .some (ofParts ranges) := by
  have each : ∀ part ∈ parts, part ≠ [] ∧ ',' ∉ part := by
    intro part listed
    obtain ⟨r, here⟩ := (parsed_of_mem parsed).1 part listed
    exact not_mem_of_parsed here
  have split := splitOn_intercalate ',' (fun part listed => (each part listed).2) some
  have nonempty : [','].intercalate parts ≠ [] := by
    intro empty
    rw [empty] at split
    obtain rfl : [[]] = parts := split
    exact (each [] mem_cons_self).1 rfl
  rw [fromStr_eq nonempty, split, parsed]
  rfl

/-- **The grammar:** one part or more, with commas between them. -/
def InGrammar (s : List Char) : Prop :=
  ∃ parts, parts ≠ [] ∧ s = [','].intercalate parts ∧ ∀ part ∈ parts,
    (∃ i, IsIndex part i) ∨ ∃ min max low high, min < max ∧ part = low ++ ':' :: high ∧
      IsIndex low min ∧ IsIndex high max

/-- A range that is not for fewer than two dimensions, and for no dimension nothing. -/
def Separable : NumericRange → Prop
  | .multipleRanges ranges => 2 ≤ ranges.length ∧ ∀ r ∈ ranges, r ≠ .none
  | _ => True

theorem part_iff {part : List Char} :
    (∃ r, parseRange part = some r) ↔ (∃ i, IsIndex part i) ∨ ∃ min max low high, min < max ∧
      part = low ++ ':' :: high ∧ IsIndex low min ∧ IsIndex high max := by
  simp only [parseRange_eq_some_iff]
  constructor
  · rintro ⟨r, ⟨i, -, here⟩ | ⟨min, max, low, high, -, others⟩⟩
    · exact .inl ⟨i, here⟩
    · exact .inr ⟨min, max, low, high, others⟩
  · rintro (⟨i, here⟩ | ⟨min, max, low, high, others⟩)
    · exact ⟨_, .inl ⟨i, rfl, here⟩⟩
    · exact ⟨_, .inr ⟨min, max, low, high, rfl, others⟩⟩

theorem mapM_isSome (all : ∀ part ∈ parts, ∃ r, parseRange part = some r) :
    ∃ ranges, parts.mapM parseRange = some ranges := by
  choose! range parsed using all
  exact ⟨parts.map range, mapM_eq_some_iff.mpr (by simpa using parsed)⟩

/-- **What is accepted:** the empty text, and the grammar. -/
theorem fromStr_isSome_iff (s : List Char) : (fromStr s).isSome ↔ s = [] ∨ InGrammar s := by
  by_cases empty : s = []
  · simp [fromStr, empty]
  rw [or_iff_right empty]
  constructor
  · intro accepted
    rw [fromStr_eq empty, Option.isSome_map, Option.isSome_iff_exists] at accepted
    obtain ⟨ranges, parsed⟩ := accepted
    refine ⟨s.splitOn ',', ?_, (intercalate_splitOn ',').symm, fun part listed =>
      part_iff.mp ((parsed_of_mem parsed).1 part listed)⟩
    intro nothing
    have joined : [','].intercalate (s.splitOn ',') = s := intercalate_splitOn ','
    exact empty (joined.symm.trans (by rw [nothing]; rfl))
  · rintro ⟨parts, some, rfl, each⟩
    obtain ⟨ranges, parsed⟩ := mapM_isSome fun part listed => part_iff.mpr (each part listed)
    rw [fromStr_intercalate some parsed]
    rfl

theorem ofParts_valid (parsed : parts.mapM parseRange = some ranges) (some : ranges ≠ []) :
    (ofParts ranges).isValid = true ∧ (ofParts ranges).Separable := by
  have each : ∀ r ∈ ranges, r.isValidPart = true ∧ r.isValid = true ∧ r ≠ .none := by
    intro r listed
    obtain ⟨part, here⟩ := (parsed_of_mem parsed).2 r listed
    exact isValidPart_of_parsed here
  match ranges with
  | [] => exact absurd rfl some
  | [r] =>
    obtain ⟨part, valid, -⟩ := each r mem_cons_self
    refine ⟨valid, ?_⟩
    cases r <;> trivial
  | first :: second :: rest =>
    exact ⟨all_eq_true.mpr fun r listed => (each r listed).1, by simp,
      fun r listed => (each r listed).2.2⟩

theorem fromStr_valid (parsed : fromStr s = some r) : r.isValid = true ∧ r.Separable := by
  by_cases empty : s = []
  · rw [fromStr, if_pos empty] at parsed
    cases parsed
    exact ⟨rfl, trivial⟩
  · rw [fromStr_eq empty] at parsed
    obtain ⟨ranges, all, rfl⟩ := Option.map_eq_some_iff.mp parsed
    refine ofParts_valid all ?_
    rintro rfl
    have none := congrArg length (mapM_eq_some_iff.mp all)
    rw [length_map, length_map, length_nil, length_eq_zero_iff] at none
    have joined : [','].intercalate (s.splitOn ',') = s := intercalate_splitOn ','
    exact empty (joined.symm.trans (by rw [none]; rfl))

/-- **The text of a valid range** is read back, if it has no part too few. -/
theorem fromStr_text_iff (valid : r.isValid = true) : fromStr r.text = some r ↔ r.Separable := by
  refine ⟨fun parsed => (fromStr_valid parsed).2, fun separable => ?_⟩
  have single : ∀ part : NumericRange, part.isValidPart = true → part ≠ .none →
      fromStr part.text = some part := by
    intro part fine some
    have parsed : [part.text].mapM parseRange = .some [part] :=
      mapM_eq_some_iff.mpr (by simp [parseRange_text fine some])
    have read := fromStr_intercalate (cons_ne_nil _ _) parsed
    simpa [intercalate, ofParts] using read
  cases r with
  | none => simp [text, fromStr]
  | index i => exact single _ rfl nofun
  | range min max => exact single _ valid nofun
  | invalid => cases valid
  | multipleRanges ranges =>
    obtain ⟨two, some⟩ := separable
    rw [isValid, all_eq_true] at valid
    have parsed : (texts ranges).mapM parseRange = .some ranges := by
      rw [mapM_eq_some_iff, texts_eq_map, map_map]
      exact map_congr_left fun r listed => parseRange_text (valid r listed) (some r listed)
    rw [text, fromStr_intercalate (by rw [texts_eq_map]; rintro nothing; simp_all) parsed]
    match ranges with
    | _ :: _ :: _ => rfl

/-- **The parser accepts the grammar,** what it accepts is valid, and it reads back the text of a
valid range that is not of fewer than two dimensions or without one of them. -/
theorem fromStr_spec (s : List Char) (r : NumericRange) :
    ((fromStr s).isSome ↔ s = [] ∨ InGrammar s) ∧ (fromStr s = some r → r.isValid = true) ∧
      (r.isValid = true → (fromStr r.text = some r ↔ r.Separable)) :=
  ⟨fromStr_isSome_iff s, fun parsed => (fromStr_valid parsed).1, fromStr_text_iff⟩

/-- Several ranges of which there is none are valid, and their text is that of no range. -/
theorem fromStr_text_nothing :
    (multipleRanges []).isValid = true ∧ fromStr (multipleRanges []).text = some .none := by
  simp [isValid, text, texts, fromStr]

/-! ### Encoding -/

def numLen (n : UInt32) : ℕ := if n = 0 then 1 else Nat.log 10 n.toNat + 1

mutual

/-- `byte_len`; there is none where it underflows. -/
def byteLen : NumericRange → Option ℕ
  | .none => some 4
  | .index i => some (4 + numLen i)
  | .range l r => some (4 + (numLen l + numLen r + 1))
  | .multipleRanges ranges => do
    let sum ← byteLens ranges
    if sum + ranges.length = 0 then .none else some (4 + (sum + ranges.length - 1))
  | .invalid s => some (4 + (toUtf8 (s.getD "")).length)

def byteLens : List NumericRange → Option ℕ
  | [] => some 0
  | r :: rs => do return (← r.byteLen) + (← byteLens rs)

end

def toUaString : NumericRange → UAString
  | .none => .none
  | .invalid s => s
  | r => some (String.ofList r.text)

def fromUaString (s : UAString) : NumericRange := (fromStr (s.getD "").toList).getD (.invalid s)

def encode (r : NumericRange) : List UInt8 := r.toUaString.encode

def decode (options : DecodingOptions) : Reader NumericRange := do
  return fromUaString (← UAString.decode options)

def Exact (options : DecodingOptions) (r : NumericRange) : Prop :=
  r.byteLen = some r.encode.length ∧ (decode options).Reads r r.encode

def IsSingle : NumericRange → Prop
  | .none | .index _ => True
  | .range min max => min < max
  | .multipleRanges _ | .invalid _ => False

theorem length_digits (i : UInt32) : (digits i).length = numLen i := by
  have same : ∀ k, 0 < k → ((digits i).length ≤ k ↔ numLen i ≤ k) := by
    intro k positive
    rw [digits, Nat.length_toDigits_le_iff (by omega) positive, numLen]
    split_ifs with zero
    · simp only [zero, UInt32.toNat_zero]
      exact iff_of_true (Nat.pow_pos (by omega)) positive
    · have some : i.toNat ≠ 0 := fun none => zero (UInt32.toNat_inj.mp none)
      rw [Nat.succ_le_iff, Nat.log_lt_iff_lt_pow (by omega) some]
  have least : 0 < numLen i := by
    unfold numLen
    split_ifs <;> omega
  exact le_antisymm ((same _ least).mpr le_rfl)
    ((same _ (length_pos_iff.mpr Nat.toDigits_ne_nil)).mp le_rfl)

theorem length_utf8 (s : List Char) : (toUtf8 (String.ofList s)).length = String.utf8Len s := by
  rw [length_toUtf8, String.utf8ByteSize_ofList]

theorem utf8Len_digits (i : UInt32) : String.utf8Len (digits i) = numLen i := by
  have plain : ∀ s : List Char, (∀ c ∈ s, c.isDigit = true) → String.utf8Len s = s.length := by
    intro s decimal
    induction s with
    | nil => rfl
    | cons c s ih =>
      obtain ⟨here, later⟩ := forall_mem_cons.mp decimal
      have one : c.utf8Size = 1 := by
        rw [isDigit, Bool.and_eq_true, decide_eq_true_iff, decide_eq_true_iff] at here
        exact utf8Size_eq_one_iff.mpr (UInt32.le_trans here.2 (by decide))
      simp [ih later, one]
  rw [plain _ (all_isDigit (isIndex_digits i).1), length_digits]

theorem byteLen_gt_of {n : ℕ} (announced : (multipleRanges ranges).byteLen = some n)
    (parts : ∀ {sum}, byteLens ranges = some sum →
      String.utf8Len ([','].intercalate (texts ranges)) + 3 * ranges.length ≤ sum) :
    4 + String.utf8Len (multipleRanges ranges).text < n := by
  obtain ⟨sum, sums, total⟩ := Option.bind_eq_some_iff.mp announced
  split_ifs at total with nothing
  cases total
  have more := parts sums
  rw [text]
  cases ranges with
  | nil =>
    cases sums
    exact absurd rfl nothing
  | cons r rs =>
    rw [length_cons] at more ⊢
    omega

mutual

theorem byteLen_ge (r : NumericRange) {n : ℕ} (announced : r.byteLen = some n) :
    4 + String.utf8Len r.text ≤ n := by
  cases r with
  | none =>
    cases announced
    simp [text]
  | index i =>
    cases announced
    simp [text, utf8Len_digits]
  | range low high =>
    cases announced
    have colon : utf8Size ':' = 1 := by decide
    simp [text, utf8Len_digits, colon, Nat.add_assoc]
  | invalid s =>
    cases announced
    simp [text, ← length_utf8]
  | multipleRanges ranges => exact (byteLen_gt_of announced (byteLens_ge ranges)).le

theorem byteLens_ge (ranges : List NumericRange) {n : ℕ} (announced : byteLens ranges = some n) :
    String.utf8Len ([','].intercalate (texts ranges)) + 3 * ranges.length ≤ n := by
  cases ranges with
  | nil =>
    cases announced
    simp [texts]
  | cons r rs =>
    obtain ⟨first, here, announced⟩ := Option.bind_eq_some_iff.mp announced
    obtain ⟨rest, later, announced⟩ := Option.bind_eq_some_iff.mp announced
    cases announced
    have least := byteLen_ge r here
    have more := byteLens_ge rs later
    have comma : utf8Size ',' = 1 := by decide
    cases rs with
    | nil =>
      simp [texts] at more ⊢
      omega
    | cons second rs =>
      simp [texts, comma] at more ⊢
      omega

end

/-- **The size of several ranges is announced too large:** each of them has a length field in it. -/
theorem byteLen_gt {n : ℕ} (announced : (multipleRanges ranges).byteLen = some n) :
    4 + String.utf8Len (multipleRanges ranges).text < n :=
  byteLen_gt_of announced (byteLens_ge ranges)

theorem reads_text {options : DecodingOptions} (held : r.toUaString = some (String.ofList r.text))
    (admitted : String.utf8Len r.text ≤ options.maxStringLength)
    (short : String.utf8Len r.text < 2 ^ 31) :
    (decode options).Reads (fromUaString r.toUaString) r.encode := by
  rw [encode, held]
  refine (UAString.decode_encode_some ?_ ?_).map (Reader.Reads.pure _)
  · rwa [length_utf8]
  · rwa [length_utf8]

section

variable {r : NumericRange} (held : r.toUaString = some (String.ofList r.text))
include held

theorem fromUaString_text :
    fromUaString r.toUaString = (fromStr r.text).getD (.invalid r.toUaString) := by
  simp [fromUaString, held]

theorem length_encode : r.encode.length = 4 + String.utf8Len r.text := by
  show (UAString.encode r.toUaString).length = _
  simp [held, UAString.encode, writeBytes, length_writeU32, length_utf8]

end

theorem numLen_le (i : UInt32) : numLen i ≤ 10 := by
  rw [← length_digits]
  have small := i.toNat_lt
  exact (Nat.length_toDigits_le_iff (by omega) (by omega)).mpr (by omega)

/-- **The size is exact and the range is read back** just for no range, one index, and one range in
order, where decoding admits the text. -/
theorem exact_iff {options : DecodingOptions} {r : NumericRange} (known : ∀ s, r ≠ .invalid s)
    (admitted : String.utf8Len r.text ≤ options.maxStringLength) :
    r.Exact options ↔ r.IsSingle := by
  cases r with
  | none =>
    have null : (UAString.decode options).Reads Option.none (writeI32 (-1)) :=
      (readI32_writeI32 (by decide) (by decide)).map (Reader.Reads.pure _)
    exact iff_of_true ⟨rfl, null.map (Reader.Reads.pure _)⟩ trivial
  | index i =>
    have size : String.utf8Len (text (.index i)) = numLen i := by simp [text, utf8Len_digits]
    have most := numLen_le i
    have reads := reads_text (r := .index i) rfl admitted (by omega)
    have parsed := (fromStr_text_iff (r := .index i) rfl).mpr trivial
    rw [fromUaString_text rfl, parsed, Option.getD_some] at reads
    exact iff_of_true ⟨by rw [length_encode rfl, size]; rfl, reads⟩ trivial
  | range low high =>
    have colon : utf8Size ':' = 1 := by decide
    have size : String.utf8Len (text (.range low high)) = numLen low + numLen high + 1 := by
      simp [text, utf8Len_digits, colon, Nat.add_assoc]
    have most := numLen_le low
    have most' := numLen_le high
    have reads := reads_text (r := .range low high) rfl admitted (by omega)
    constructor
    · rintro ⟨-, back⟩
      have same := (reads []).symm.trans (back [])
      rw [fromUaString_text rfl, Except.ok.injEq, Prod.mk.injEq] at same
      cases found : fromStr (text (.range low high)) with
      | none =>
        rw [found] at same
        cases same.1
      | some r =>
        rw [found] at same
        obtain rfl : r = .range low high := same.1
        show low < high
        exact of_decide_eq_true (fromStr_valid found).1
    · intro ordered
      have parsed := (fromStr_text_iff (r := .range low high) (decide_eq_true ordered)).mpr trivial
      rw [fromUaString_text rfl, parsed, Option.getD_some] at reads
      exact ⟨by rw [length_encode rfl, size]; rfl, reads⟩
  | multipleRanges ranges =>
    refine iff_of_false (fun exact => ?_) id
    have more := byteLen_gt exact.1
    rw [length_encode rfl] at more
    exact lt_irrefl _ more
  | invalid s => exact absurd rfl (known s)

theorem exact_iff_index : Exact ⟨0, 100, 0⟩ (.index 7) := by
  have short : String.utf8Len (text (.index 7)) ≤ 100 := by
    rw [text.eq_def, utf8Len_digits]
    exact (numLen_le 7).trans (by decide)
  exact (@exact_iff ⟨0, 100, 0⟩ (.index 7) nofun short).mpr trivial

/-- Two ranges are announced with eight bytes too many. -/
theorem not_exact_two : ¬ Exact ⟨0, 100, 0⟩ (.multipleRanges [.index 1, .range 2 3]) :=
  fun exact => (byteLen_gt exact.1).ne (length_encode rfl).symm

end NumericRange

end AsyncOpcua.Types
