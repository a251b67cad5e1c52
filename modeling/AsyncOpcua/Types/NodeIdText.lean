/-
**Node ids as text.**

* `NodeId.fromStr`, `ExpandedNodeId.fromStr` — the parsers;
* `text_roundTrips_iff` — an id is read back exactly if a string in it is one line.
-/

import AsyncOpcua.Types.NodeId
import Mathlib.Data.List.TakeWhile
import Mathlib.Data.String.Basic

namespace AsyncOpcua.Types

open List NodeId String

structure IdTexts where
  guid : BitVec 128 → String
  parseGuid : String → Option (BitVec 128)
  base64 : ByteString → String
  fromBase64 : String → Option ByteString

/-- `.+`, to the end. -/
abbrev OneLine (s : List Char) : Prop := s ≠ [] ∧ '\n' ∉ s

/-- What is written is one line and is read back. -/
structure IdTexts.Lawful (T : IdTexts) : Prop where
  guid (g : BitVec 128) : OneLine (T.guid g).toList ∧ T.parseGuid (T.guid g) = some g
  base64 (bytes : List UInt8) : bytes ≠ [] → OneLine (T.base64 (some bytes)).toList ∧
    T.fromBase64 (T.base64 (some bytes)) = some (some bytes)

def parseBelow (bound : ℕ) (s : List Char) : Option ℕ :=
  let digits := if s.head? = some '+' then s.tail else s
  if digits ≠ [] ∧ digits.all Char.isDigit ∧ Nat.ofDigitChars 10 digits 0 < bound then
    some (Nat.ofDigitChars 10 digits 0)
  else none

variable (T : IdTexts)

def Identifier.fromStr : List Char → Option Identifier
  | 'i' :: '=' :: v => (parseBelow u32Size v).map fun n => .numeric (.ofNat n)
  | 's' :: '=' :: v => some (.string (some (ofList v)))
  | 'g' :: '=' :: v => (T.parseGuid (ofList v)).map .guid
  | 'b' :: '=' :: v => (T.fromBase64 (ofList v)).map .byteString
  | _ => none

/-- `[isgb]=.+$`. -/
def isIdentifier : List Char → Bool
  | kind :: '=' :: v => kind ∈ ['i', 's', 'g', 'b'] ∧ OneLine v
  | _ => false

def NodeId.fromStr : List Char → Option NodeId
  | 'n' :: 's' :: '=' :: rest =>
    match rest.dropWhile Char.isDigit with
    | ';' :: t =>
      if rest.takeWhile Char.isDigit ≠ [] ∧ isIdentifier t then do
        let namespaceIndex ← parseBelow 65536 (rest.takeWhile Char.isDigit)
        (Identifier.fromStr T t).map (⟨.ofNat namespaceIndex, ·⟩)
      else none
    | _ => none
  | t => if isIdentifier t then (Identifier.fromStr T t).map (⟨0, ·⟩) else none

structure ExpandedNodeId where
  nodeId : NodeId
  namespaceUri : UAString
  serverIndex : UInt32

namespace ExpandedNodeId

/-- `%` and `;` are escaped. -/
def escape (uri : List Char) : List Char :=
  (uri.flatMap fun c => if c = '%' then ['%', '2', '5'] else [c]).flatMap fun c =>
    if c = ';' then ['%', '3', 'b'] else [c]

/-- `replace`, of an escaped character. -/
def unescape (first second char : Char) : List Char → List Char
  | '%' :: x :: y :: rest =>
    if x = first ∧ y = second then char :: unescape first second char rest
    else '%' :: unescape first second char (x :: y :: rest)
  | c :: rest => c :: unescape first second char rest
  | [] => []

def text (e : ExpandedNodeId) : List Char :=
  's' :: 'v' :: 'r' :: '=' :: (Nat.toDigits 10 e.serverIndex.toNat ++ ';' ::
    if e.namespaceUri.getD "" = "" then (e.nodeId.text T.guid T.base64).toList
    else 'n' :: 's' :: 'u' :: '=' :: (escape (e.namespaceUri.getD "").toList ++ ';' ::
      (NodeId.text T.guid T.base64 ⟨0, e.nodeId.identifier⟩).toList))

def splitOnce (s : List Char) : Option (List Char × List Char) :=
  match s.dropWhile (· ≠ ';') with
  | _ :: tail => some (s.takeWhile (· ≠ ';'), tail)
  | [] => none

def serverIndex? : List Char → Option (ℕ × List Char)
  | 's' :: 'v' :: 'r' :: '=' :: after => do
    let (digits, tail) ← splitOnce after
    return (← parseBelow u32Size digits, tail)
  | s => some (0, s)

def namespaceUri? : List Char → Option (UAString × List Char)
  | 'n' :: 's' :: 'u' :: '=' :: after => do
    let (uri, tail) ← splitOnce after
    if uri = [] ∨ tail.take 3 = ['n', 's', '='] then none
    else some (some (ofList (unescape '2' '5' '%' (unescape '3' 'b' ';' uri))), tail)
  | s => some (none, s)

def fromStr (s : List Char) : Option ExpandedNodeId := do
  let (serverIndex, rest) ← serverIndex? s
  let (namespaceUri, rest) ← namespaceUri? rest
  (NodeId.fromStr T rest).map (⟨·, namespaceUri, .ofNat serverIndex⟩)

end ExpandedNodeId

/-- A number, or something that is not empty. -/
def Identifier.Named : Identifier → Prop
  | .string v => v.getD "" ≠ ""
  | .byteString v => v.getD [] ≠ []
  | _ => True

def Identifier.InOneLine : Identifier → Prop
  | .string v => '\n' ∉ (v.getD "").toList
  | _ => True

variable {T}

theorem cut_at {p : Char → Bool} {c : Char} {front : List Char} (back : List Char)
    (all : ∀ x ∈ front, p x = true) (ends : p c = false) :
    (front ++ c :: back).takeWhile p = front ∧
      (front ++ c :: back).dropWhile p = c :: back := by
  rw [takeWhile_append_of_pos all, dropWhile_append_of_pos all]
  simp [ends]

theorem toDigits_isDigit (n : ℕ) : ∀ c ∈ Nat.toDigits 10 n, c.isDigit = true := fun _ there =>
  Nat.isDigit_of_mem_toDigits (by omega) (by omega) there

theorem parseBelow_toDigits {bound n : ℕ} (below : n < bound) :
    parseBelow bound (Nat.toDigits 10 n) = some n := by
  have digits := toDigits_isDigit n
  have plain : (Nat.toDigits 10 n).head? ≠ some '+' := fun signed =>
    absurd (digits _ (mem_of_head? signed)) (by decide)
  rw [parseBelow, if_neg plain, Nat.ofDigitChars_ten_toDigits]
  exact if_pos ⟨by simp, all_eq_true.mpr digits, below⟩

def Identifier.chars (T : IdTexts) (id : Identifier) : List Char :=
  (text T.guid T.base64 ⟨0, id⟩).toList

theorem chars_cases (id : Identifier) : ∃ kind content, id.chars T = kind :: '=' :: content := by
  cases id <;> simp [Identifier.chars, text]

theorem toList_text (n : NodeId) : (n.text T.guid T.base64).toList =
    if n.namespaceIndex = 0 then n.identifier.chars T
    else 'n' :: 's' :: '=' ::
      (Nat.toDigits 10 n.namespaceIndex.toNat ++ ';' :: n.identifier.chars T) := by
  split
  · next zero => simp [Identifier.chars, text, zero]
  · next other => simp [Identifier.chars, text, other]

theorem fromStr_text (n : NodeId) : fromStr T (n.text T.guid T.base64).toList =
    if isIdentifier (n.identifier.chars T) then
      (Identifier.fromStr T (n.identifier.chars T)).map (⟨n.namespaceIndex, ·⟩)
    else none := by
  obtain ⟨kind, content, written⟩ := chars_cases (T := T) n.identifier
  rw [toList_text, written]
  split
  · next zero =>
    rw [fromStr, zero]
    rintro rest ⟨⟩
  · next other =>
    have cut := cut_at (c := ';') (kind :: '=' :: content)
      (toDigits_isDigit n.namespaceIndex.toNat) (by decide)
    rw [fromStr, cut.1, cut.2]
    rw [parseBelow_toDigits n.namespaceIndex.toNat_lt]
    simp

theorem fromStr_chars (lawful : T.Lawful) {id : Identifier} (named : id.Named) :
    (if isIdentifier (id.chars T) then Identifier.fromStr T (id.chars T) else none) = some id ↔
      id.InOneLine := by
  cases id with
  | numeric v =>
    refine iff_of_true ?_ trivial
    have line : OneLine (Nat.toDigits 10 v.toNat) := ⟨by simp, fun feed =>
      absurd (toDigits_isDigit _ _ feed) (by decide)⟩
    have read : parseBelow u32Size _ = _ := parseBelow_toDigits v.toNat_lt
    simp [Identifier.chars, text, isIdentifier, Identifier.fromStr, line, read]
  | string v =>
    cases v with
    | none => exact absurd rfl named
    | some v =>
      have filled : v.toList ≠ [] := fun nothing => named (toList_eq_nil_iff.mp nothing)
      simp [Identifier.chars, text, isIdentifier, Identifier.fromStr, OneLine, filled,
        Identifier.InOneLine]
  | guid v =>
    obtain ⟨line, read⟩ := lawful.guid v
    simp [Identifier.chars, text, isIdentifier, Identifier.fromStr, line, read,
      Identifier.InOneLine]
  | byteString v =>
    cases v with
    | none => exact absurd rfl named
    | some bytes =>
      obtain ⟨line, read⟩ := lawful.base64 bytes named
      simp [Identifier.chars, text, isIdentifier, Identifier.fromStr, line, read,
        Identifier.InOneLine]

theorem roundTrips (lawful : T.Lawful) {n : NodeId} (named : n.identifier.Named) :
    fromStr T (n.text T.guid T.base64).toList = some n ↔ n.identifier.InOneLine := by
  rw [fromStr_text, ← fromStr_chars lawful named]
  split
  · rw [Option.map_eq_some_iff]
    exact ⟨fun ⟨id, read, same⟩ => by rw [read, ← same], fun read => ⟨_, read, rfl⟩⟩
  · exact iff_of_false (by simp) (by simp)

namespace ExpandedNodeId

theorem unescape_escape (uri : List Char) :
    unescape '2' '5' '%' (unescape '3' 'b' ';' (escape uri)) = uri := by
  have semicolons : unescape '3' 'b' ';' (escape uri) =
      uri.flatMap fun c => if c = '%' then ['%', '2', '5'] else [c] := by
    induction uri with
    | nil => rfl
    | cons c uri ih =>
      by_cases percent : c = '%'
      · simpa [escape, percent, unescape] using ih
      · by_cases semicolon : c = ';'
        · simpa [escape, semicolon, unescape] using ih
        · simpa [escape, percent, semicolon, unescape] using ih
  rw [semicolons]
  clear semicolons
  induction uri with
  | nil => rfl
  | cons c uri ih =>
    by_cases percent : c = '%'
    · simp [percent, unescape, ih]
    · simp [percent, unescape, ih]

theorem splitOnce_at {front : List Char} (plain : ∀ c ∈ front, c ≠ ';') (back : List Char) :
    splitOnce (front ++ ';' :: back) = some (front, back) := by
  have cut := cut_at (p := (· ≠ ';')) (c := ';') back (by simpa using plain) (by simp)
  rw [splitOnce, cut.1, cut.2]

theorem serverIndex?_text (index : UInt32) (rest : List Char) :
    serverIndex? ('s' :: 'v' :: 'r' :: '=' :: (Nat.toDigits 10 index.toNat ++ ';' :: rest)) =
      some (index.toNat, rest) := by
  have plain : ∀ c ∈ Nat.toDigits 10 index.toNat, c ≠ ';' := by
    rintro _ there rfl
    exact absurd (toDigits_isDigit _ _ there) (by decide)
  have read : parseBelow u32Size _ = _ := parseBelow_toDigits index.toNat_lt
  simp [serverIndex?, splitOnce_at plain, read]

theorem namespaceUri?_text (n : NodeId) : namespaceUri? (n.text T.guid T.base64).toList =
    some (none, (n.text T.guid T.base64).toList) := by
  obtain ⟨kind, content, written⟩ := chars_cases (T := T) n.identifier
  rw [toList_text, written]
  split <;> simp [namespaceUri?]

theorem namespaceUri?_escape {uri : String} (named : uri ≠ "") (id : Identifier) :
    namespaceUri? ('n' :: 's' :: 'u' :: '=' :: (escape uri.toList ++ ';' :: id.chars T)) =
      some (some uri, id.chars T) := by
  obtain ⟨kind, content, written⟩ := chars_cases (T := T) id
  have plain : ∀ c ∈ escape uri.toList, c ≠ ';' := by
    intro c there
    obtain ⟨d, -, there⟩ := mem_flatMap.mp there
    grind
  have filled : escape uri.toList ≠ [] := fun empty => named <| by
    rw [← toList_eq_nil_iff, ← unescape_escape uri.toList, empty]
    rfl
  simp [namespaceUri?, splitOnce_at plain, filled, unescape_escape, written]

def Qualified (e : ExpandedNodeId) : Prop :=
  e.namespaceUri = none ∨ e.namespaceUri.getD "" ≠ "" ∧ e.nodeId.namespaceIndex = 0

theorem roundTrips (lawful : T.Lawful) {e : ExpandedNodeId} (named : e.nodeId.identifier.Named)
    (qualified : e.Qualified) : fromStr T (e.text T) = some e ↔ e.nodeId.identifier.InOneLine := by
  rw [← Types.roundTrips lawful named]
  obtain ⟨n, uri, index⟩ := e
  rw [fromStr, text, serverIndex?_text]
  obtain plain | ⟨filled, zero⟩ := qualified
  · obtain rfl : uri = none := plain
    simp [namespaceUri?_text]
  · cases uri with
    | none => exact absurd rfl filled
    | some uri =>
      obtain ⟨ns, id⟩ := n
      obtain rfl : ns = 0 := zero
      have uri? := namespaceUri?_escape (T := T) filled id
      simp_all [Identifier.chars]

end ExpandedNodeId

/-- **Text round trips.** -/
theorem text_roundTrips_iff (T : IdTexts) (lawful : T.Lawful) :
    (∀ n : NodeId, n.identifier.Named →
      (fromStr T (n.text T.guid T.base64).toList = some n ↔ n.identifier.InOneLine)) ∧
    ∀ e : ExpandedNodeId, e.nodeId.identifier.Named → e.Qualified →
      (ExpandedNodeId.fromStr T (e.text T) = some e ↔ e.nodeId.identifier.InOneLine) :=
  ⟨fun _ named => roundTrips lawful named,
    fun _ named qualified => ExpandedNodeId.roundTrips lawful named qualified⟩

/-- A text of decimal digits, and one with a character for each byte. -/
def plainTexts : IdTexts where
  guid g := ofList (Nat.toDigits 10 g.toNat)
  parseGuid s := (parseBelow (2 ^ 128) s.toList).map (BitVec.ofNat 128)
  base64 bytes := ofList ((bytes.getD []).map fun b => Char.ofNat (48 + b.toNat))
  fromBase64 s := some (some (s.toList.map fun c => UInt8.ofNat (c.toNat - 48)))

theorem plainTexts_lawful : plainTexts.Lawful where
  guid g := by
    have read := parseBelow_toDigits g.isLt
    refine ⟨⟨by simp [plainTexts], fun feed => ?_⟩, by simp [plainTexts, read]⟩
    rw [plainTexts, toList_ofList] at feed
    exact absurd (toDigits_isDigit _ _ feed) (by decide)
  base64 bytes filled := by
    have code : ∀ b : UInt8, (Char.ofNat (48 + b.toNat)).toNat = 48 + b.toNat := fun b => by
      have valid : (48 + b.toNat).isValidChar := Or.inl (by have := b.toNat_lt; omega)
      rw [Char.ofNat, dif_pos valid]
      rfl
    refine ⟨⟨by simpa [plainTexts] using filled, fun feed => ?_⟩, ?_⟩
    · obtain ⟨b, -, same⟩ := by simpa [plainTexts] using feed
      have := code b
      rw [same] at this
      exact absurd this (by simp; omega)
    · simp [plainTexts, Function.comp_def, code]

theorem text_roundTrips_iff_numeric :
    fromStr plainTexts
        (text plainTexts.guid plainTexts.base64 ⟨2, .numeric 7⟩).toList =
          some ⟨2, .numeric 7⟩ ∧
      ExpandedNodeId.fromStr plainTexts
        (ExpandedNodeId.text plainTexts ⟨⟨0, .numeric 7⟩, some "a;b%", 1⟩) =
          some ⟨⟨0, .numeric 7⟩, some "a;b%", 1⟩ := by
  have both := text_roundTrips_iff plainTexts plainTexts_lawful
  exact ⟨(both.1 ⟨2, .numeric 7⟩ trivial).mpr trivial,
    (both.2 ⟨⟨0, .numeric 7⟩, some "a;b%", 1⟩ trivial (Or.inr ⟨by simp, rfl⟩)).mpr trivial⟩

/-- `.` is not a line feed. -/
theorem text_not_roundTrips_lineFeed : ¬ ∀ T : IdTexts, T.Lawful →
    (∀ n : NodeId, n.identifier.Named → fromStr T (n.text T.guid T.base64).toList = some n) ∧
    ∀ e : ExpandedNodeId, e.nodeId.identifier.Named → e.Qualified →
      ExpandedNodeId.fromStr T (e.text T) = some e := by
  intro reads
  have named : Identifier.Named (.string (some "a\nb")) := by simp [Identifier.Named]
  have read := (reads plainTexts plainTexts_lawful).1 ⟨1, .string (some "a\nb")⟩ named
  exact absurd ((roundTrips plainTexts_lawful named).mp read) (by simp [Identifier.InOneLine])

end AsyncOpcua.Types
