/-
  Libwebauthn.Ops.CollectedClientData — the serialization that relying parties
  verify, and the one the code writes.

  WebAuthn writes strings by `ccdToString`, the code by the JSON encoder's
  table (`jsonString`).  The tables part at five control characters, for which
  the JSON encoder has short escapes (`partsFrom_jsonEscapeChar`).

    • `toJson_injective` — the text determines what it was made of;
    • `toJson_conforms_iff` — when it is the serialization of the
      specification, and verifiable without a JSON parser.
-/
import Libwebauthn.Lib.Escape
import Libwebauthn.Lib.Utf8
import Libwebauthn.Ops.ClientData
import Libwebauthn.Transport.Mock

namespace Libwebauthn

/-! ## §1. The serialization of the specification. -/

/-- One character of `CCDToString`. -/
def ccdEscapeChar (c : Char) : List Char :=
  if c = '"' then ['\\', '"']
  else if c = '\\' then ['\\', '\\']
  else if c.toNat < 0x20 then
    ['\\', 'u', hexDigit (c.toNat / 4096), hexDigit (c.toNat / 256 % 16),
      hexDigit (c.toNat / 16 % 16), hexDigit (c.toNat % 16)]
  else [c]

def ccdToString (s : String) : Bytes :=
  utf8 "\"" ++ utf8 (String.ofList (s.toList.flatMap ccdEscapeChar)) ++ utf8 "\""

/-- The type member of an operation. -/
def Operation.type : Operation → String
  | .makeCredential => "webauthn.create"
  | .getAssertion => "webauthn.get"

/-- The rest of the members: whether there is a top origin, and which. -/
def ccdCrossOrigin : Option String → Bytes
  | none => utf8 "false"
  | some topOrigin => utf8 "true" ++ (utf8 ",\"topOrigin\":" ++ ccdToString topOrigin)

/-- The members whose values an RP knows, in order. -/
def ClientData.ccdMembers (self : ClientData) : Bytes :=
  utf8 "\x7b\"type\":" ++ (ccdToString self.operation.type
    ++ (utf8 ",\"challenge\":" ++ (ccdToString (base64Url self.challenge)
    ++ (utf8 ",\"origin\":" ++ (ccdToString self.origin
    ++ (utf8 ",\"crossOrigin\":" ++ ccdCrossOrigin self.topOrigin))))))

/-- The serialization of WebAuthn section 5.8.1.2, without further members. -/
def ClientData.serialization (self : ClientData) : Bytes := self.ccdMembers ++ utf8 "\x7d"

/-- The limited verification algorithm, for the members the RP expects. -/
def limitedVerification (clientDataJson expected : Bytes) : Bool :=
  expected.isPrefixOf clientDataJson
    && match clientDataJson[expected.length]? with
      | some next => next == 0x7d || next == 0x2c
      | none => false

/-! ## §2. The two tables. -/

/-- The control characters with a short escape in JSON. -/
def hasShortEscape (c : Char) : Bool :=
  c.toNat == 8 || c.toNat == 9 || c.toNat == 10 || c.toNat == 12 || c.toNat == 13

/-- No character of `s` has a short escape. -/
def NoShortEscape (s : String) : Prop := ∀ c ∈ s.toList, hasShortEscape c = false

/-- What a table writes, in bytes. -/
def escapedBytes (escape : Char → List Char) (c : Char) : Bytes :=
  (escape c).flatMap String.utf8EncodeChar

theorem utf8_escaped (escape : Char → List Char) (s : String) :
    utf8 (String.ofList (s.toList.flatMap escape)) = s.toList.flatMap (escapedBytes escape) := by
  rw [utf8_eq_flatMap, String.toList_ofList, List.flatMap_assoc]
  rfl

theorem jsonEscapeChar_eq_ccd {c : Char} (h : hasShortEscape c = false) :
    ccdEscapeChar c = jsonEscapeChar c := by
  simp only [hasShortEscape, Bool.or_eq_false_iff, beq_eq_false_iff_ne, ne_eq] at h
  unfold ccdEscapeChar jsonEscapeChar
  by_cases hquote : c = '"'
  · rw [if_pos hquote, if_pos hquote]
  by_cases hbackslash : c = '\\'
  · rw [if_neg hquote, if_neg hquote, if_pos hbackslash, if_pos hbackslash]
  rw [if_neg hquote, if_neg hquote, if_neg hbackslash, if_neg hbackslash, if_neg h.1.1.1.1,
    if_neg h.1.1.1.2, if_neg h.1.1.2, if_neg h.1.2, if_neg h.2]
  by_cases hcontrol : c.toNat < 32
  · rw [if_pos hcontrol, if_pos hcontrol, show c.toNat / 4096 = 0 from by omega,
      show c.toNat / 256 % 16 = 0 from by omega,
      show c.toNat / 16 % 16 = c.toNat / 16 from by omega]
    rfl
  · rw [if_neg hcontrol, if_neg hcontrol]

theorem hasShortEscape_cases {c : Char} (h : hasShortEscape c = true) :
    c = Char.ofNat 8 ∨ c = Char.ofNat 9 ∨ c = Char.ofNat 10 ∨ c = Char.ofNat 12
      ∨ c = Char.ofNat 13 := by
  simp only [hasShortEscape, Bool.or_eq_true, beq_iff_eq] at h
  have hof := Char.ofNat_toNat c
  rcases h with (((h | h) | h) | h) | h <;> rw [h] at hof <;> simp [← hof]

/-- A short escape has a letter where `CCDToString` has a `u`. -/
theorem jsonEscapeChar_short {c : Char} (h : hasShortEscape c = true) :
    ∃ letter : UInt8, letter ≠ 0x75 ∧ escapedBytes jsonEscapeChar c = [0x5c, letter]
      ∧ (escapedBytes ccdEscapeChar c).take 2 = [0x5c, 0x75] := by
  rcases hasShortEscape_cases h with rfl | rfl | rfl | rfl | rfl
  · exact ⟨0x62, by decide, by decide +kernel, by decide +kernel⟩
  · exact ⟨0x74, by decide, by decide +kernel, by decide +kernel⟩
  · exact ⟨0x6e, by decide, by decide +kernel, by decide +kernel⟩
  · exact ⟨0x66, by decide, by decide +kernel, by decide +kernel⟩
  · exact ⟨0x72, by decide, by decide +kernel, by decide +kernel⟩

theorem partsFrom_jsonEscapeChar :
    PartsFrom (escapedBytes ccdEscapeChar) (escapedBytes jsonEscapeChar)
      (fun c => hasShortEscape c = false) where
  same c hc := by
    unfold escapedBytes
    rw [jsonEscapeChar_eq_ccd hc]
  parts c hc x y hprefix := by
    have hshort : hasShortEscape c = true := by simpa using hc
    obtain ⟨letter, hletter, hjson, hccd⟩ := jsonEscapeChar_short hshort
    rw [hjson, ← List.take_append_drop 2 (escapedBytes ccdEscapeChar c), hccd] at hprefix
    simp only [List.cons_append, List.nil_append, List.cons_prefix_cons] at hprefix
    exact hletter hprefix.2.1.symm

/-! ## §3. Strings. -/

/-- The quoted string of either table. -/
theorem utf8_append (s t : String) : utf8 (s ++ t) = utf8 s ++ utf8 t := by
  rw [utf8_eq_flatMap, utf8_eq_flatMap, utf8_eq_flatMap, String.toList_append,
    List.flatMap_append]

theorem utf8_jsonString (s : String) :
    utf8 (jsonString s)
      = utf8 "\"" ++ (s.toList.flatMap (escapedBytes jsonEscapeChar) ++ utf8 "\"") := by
  unfold jsonString
  rw [utf8_append, utf8_append, utf8_escaped, List.append_assoc]

theorem ccdToString_eq (s : String) :
    ccdToString s
      = utf8 "\"" ++ (s.toList.flatMap (escapedBytes ccdEscapeChar) ++ utf8 "\"") := by
  unfold ccdToString
  rw [utf8_escaped, List.append_assoc]

/-- Without a short escape the strings are the same. -/
theorem utf8_jsonString_eq_ccd {s : String} (h : NoShortEscape s) :
    utf8 (jsonString s) = ccdToString s := by
  rw [utf8_jsonString, ccdToString_eq, partsFrom_jsonEscapeChar.flatMap_eq h]

/-- With one they part. -/
theorem ccdToString_prefix_iff (s : String) (x y : Bytes) :
    ccdToString s ++ x <+: utf8 (jsonString s) ++ y ↔ NoShortEscape s ∧ x <+: y := by
  rw [utf8_jsonString, ccdToString_eq]
  simp only [List.append_assoc]
  rw [List.prefix_append_right_inj, partsFrom_jsonEscapeChar.flatMap_prefix_iff,
    List.prefix_append_right_inj]
  rfl

theorem noShortEscape_base64Url (bytes : Bytes) : NoShortEscape (base64Url bytes) := by
  intro c hc
  have hdigit := base64Url_alphabet bytes c hc
  cases hshort : hasShortEscape c with
  | false => rfl
  | true =>
      rcases hasShortEscape_cases hshort with rfl | rfl | rfl | rfl | rfl <;> cases hdigit

theorem noShortEscape_type (operation : Operation) : NoShortEscape operation.type := by
  have hall : operation.type.toList.all (fun c => !hasShortEscape c) = true := by
    cases operation <;> decide +kernel
  intro c hc
  exact (Bool.not_eq_true' _).mp (List.all_eq_true.mp hall c hc)

/-! ## §4. Conformance. -/

/-- The end of the text, after the `crossOrigin` key. -/
def jsonCrossOrigin : Option String → Bytes
  | none => utf8 "false" ++ utf8 "\x7d"
  | some topOrigin =>
      utf8 "true" ++ (utf8 ",\"topOrigin\":" ++ (utf8 (jsonString topOrigin) ++ utf8 "\x7d"))

/-- What the code writes, in bytes. -/
theorem utf8_toJson {crypto : Crypto} (hbase64 : crypto.base64UrlEncode = base64Url)
    (self : ClientData) :
    utf8 (self.toJson crypto)
      = utf8 "\x7b\"type\":" ++ (utf8 (jsonString self.operation.type)
        ++ (utf8 ",\"challenge\":" ++ (utf8 (jsonString (base64Url self.challenge))
        ++ (utf8 ",\"origin\":" ++ (utf8 (jsonString self.origin)
        ++ (utf8 ",\"crossOrigin\":" ++ jsonCrossOrigin self.topOrigin)))))) := by
  obtain ⟨operation, challenge, origin, topOrigin⟩ := self
  unfold ClientData.toJson
  rw [hbase64]
  simp only [utf8_append, List.append_assoc]
  cases topOrigin with
  | none => cases operation <;> rfl
  | some topOrigin =>
      simp only [utf8_append, List.append_assoc, jsonCrossOrigin]
      cases operation <;> rfl

/-- No short escape in either origin. -/
def ClientData.PlainOrigins (self : ClientData) : Prop :=
  NoShortEscape self.origin ∧ ∀ topOrigin, self.topOrigin = some topOrigin →
    NoShortEscape topOrigin

variable {crypto : Crypto}

/-- The known members begin the text exactly when the origins are plain. -/
theorem ccdMembers_prefix_iff (hbase64 : crypto.base64UrlEncode = base64Url) (self : ClientData)
    (x : Bytes) :
    self.ccdMembers ++ x <+: utf8 (self.toJson crypto)
      ↔ self.PlainOrigins ∧ x <+: utf8 "\x7d" := by
  rw [utf8_toJson hbase64]
  unfold ClientData.ccdMembers ClientData.PlainOrigins
  simp only [List.append_assoc, List.prefix_append_right_inj, ccdToString_prefix_iff,
    noShortEscape_type, noShortEscape_base64Url, true_and]
  cases self.topOrigin with
  | none =>
      simp only [ccdCrossOrigin, jsonCrossOrigin, List.prefix_append_right_inj]
      simp
  | some topOrigin =>
      simp only [ccdCrossOrigin, jsonCrossOrigin, List.append_assoc,
        List.prefix_append_right_inj, ccdToString_prefix_iff]
      simp [and_assoc]

/-- Plain origins are written as the specification says. -/
theorem utf8_toJson_of_plain (hbase64 : crypto.base64UrlEncode = base64Url) {self : ClientData}
    (h : self.PlainOrigins) : utf8 (self.toJson crypto) = self.serialization := by
  rw [utf8_toJson hbase64, utf8_jsonString_eq_ccd (noShortEscape_type _),
    utf8_jsonString_eq_ccd (noShortEscape_base64Url _), utf8_jsonString_eq_ccd h.1]
  unfold ClientData.serialization ClientData.ccdMembers
  simp only [List.append_assoc]
  have hplain := h.2
  cases htop : self.topOrigin with
  | none => rfl
  | some topOrigin =>
      simp only [ccdCrossOrigin, jsonCrossOrigin, List.append_assoc,
        utf8_jsonString_eq_ccd (hplain topOrigin htop)]

/-- What ends in a brace is verified. -/
theorem limitedVerification_serialization (self : ClientData) :
    limitedVerification self.serialization self.ccdMembers = true := by
  unfold limitedVerification ClientData.serialization
  rw [Bool.and_eq_true, List.isPrefixOf_iff_prefix]
  refine ⟨List.prefix_append _ _, ?_⟩
  rw [List.getElem?_append_right (Nat.le_refl _), Nat.sub_self]
  rfl

/-- What the specification asks of the text. -/
def ClientData.Conforms (crypto : Crypto) (self : ClientData) : Prop :=
  utf8 (self.toJson crypto) = self.serialization
    ∧ limitedVerification (utf8 (self.toJson crypto)) self.ccdMembers = true

theorem conforms_iff (hbase64 : crypto.base64UrlEncode = base64Url) (self : ClientData) :
    self.Conforms crypto ↔ self.PlainOrigins := by
  constructor
  · intro h
    have hprefix : self.ccdMembers ++ utf8 "\x7d" <+: utf8 (self.toJson crypto) := by
      rw [h.1]
      exact List.prefix_refl _
    exact ((ccdMembers_prefix_iff hbase64 self _).mp hprefix).1
  · intro h
    have heq := utf8_toJson_of_plain hbase64 h
    refine ⟨heq, ?_⟩
    rw [heq]
    exact limitedVerification_serialization self

/-! ## §5. Nothing is lost. -/

/-- The value of a hexadecimal digit. -/
def hexValue (c : Char) : Nat := if c.toNat < 58 then c.toNat - 48 else c.toNat - 87

/-- The control character of a short escape; anything else stands for
itself. -/
def jsonUnescapeShort (c : Char) : Char :=
  if c = 'b' then Char.ofNat 8
  else if c = 't' then Char.ofNat 9
  else if c = 'n' then Char.ofNat 10
  else if c = 'f' then Char.ofNat 12
  else if c = 'r' then Char.ofNat 13
  else c

/-- What follows a backslash. -/
def jsonUnescapeSequence : List Char → Option (Char × List Char)
  | 'u' :: _ :: _ :: high :: low :: rest =>
      some (Char.ofNat (16 * hexValue high + hexValue low), rest)
  | c :: rest => some (jsonUnescapeShort c, rest)
  | [] => none

/-- The next character of a string, up to the quote. -/
def jsonUnescape : List Char → Option (Char × List Char)
  | [] => none
  | c :: rest =>
      if c = '"' then none
      else if c = '\\' then jsonUnescapeSequence rest
      else some (c, rest)

theorem hexValue_hexDigit {n : Nat} (h : n < 16) : hexValue (hexDigit n) = n := by
  have hall : ∀ n < 16, hexValue (hexDigit n) = n := by decide
  exact hall n h

/-- A character is the one of its code. -/
theorem char_of_toNat {c : Char} {n : Nat} (h : c.toNat = n) : Char.ofNat n = c := by
  rw [← h, Char.ofNat_toNat]

theorem escapeTable_json : EscapeTable jsonEscapeChar '"' jsonUnescape where
  decode_stop rest := rfl
  decode_escape c rest := by
    unfold jsonEscapeChar
    by_cases hquote : c = '"'
    · rw [if_pos hquote, hquote]
      rfl
    rw [if_neg hquote]
    by_cases hbackslash : c = '\\'
    · rw [if_pos hbackslash, hbackslash]
      rfl
    rw [if_neg hbackslash]
    by_cases h8 : c.toNat = 8
    · rw [if_pos h8, ← char_of_toNat h8]
      rfl
    rw [if_neg h8]
    by_cases h9 : c.toNat = 9
    · rw [if_pos h9, ← char_of_toNat h9]
      rfl
    rw [if_neg h9]
    by_cases h10 : c.toNat = 10
    · rw [if_pos h10, ← char_of_toNat h10]
      rfl
    rw [if_neg h10]
    by_cases h12 : c.toNat = 12
    · rw [if_pos h12, ← char_of_toNat h12]
      rfl
    rw [if_neg h12]
    by_cases h13 : c.toNat = 13
    · rw [if_pos h13, ← char_of_toNat h13]
      rfl
    rw [if_neg h13]
    by_cases hcontrol : c.toNat < 32
    · rw [if_pos hcontrol]
      show some (Char.ofNat (16 * hexValue (hexDigit (c.toNat / 16))
        + hexValue (hexDigit (c.toNat % 16))), rest) = _
      rw [hexValue_hexDigit (by omega), hexValue_hexDigit (by omega), Nat.div_add_mod,
        Char.ofNat_toNat]
    · rw [if_neg hcontrol]
      show (if c = '"' then none else if c = '\\' then jsonUnescapeSequence rest
        else some (c, rest)) = _
      rw [if_neg hquote, if_neg hbackslash]

/-- A quoted string determines what it quotes, and where it ends. -/
theorem jsonString_inj {s t : String} {x y : List Char}
    (h : (jsonString s).toList ++ x = (jsonString t).toList ++ y) : s = t ∧ x = y := by
  unfold jsonString at h
  simp only [String.toList_append, String.toList_ofList, List.append_assoc] at h
  have hrest := List.append_cancel_left h
  obtain ⟨hs, hxy⟩ := escapeTable_json.flatMap_stop_inj s.toList hrest
  exact ⟨String.toList_inj.mp hs, hxy⟩

/-- The end of the text, in characters. -/
def crossOriginChars : Option String → List Char
  | none => "false".toList ++ "\x7d".toList
  | some topOrigin =>
      "true".toList ++ (",\"topOrigin\":".toList
        ++ ((jsonString topOrigin).toList ++ "\x7d".toList))

theorem toList_toJson (self : ClientData) :
    (self.toJson crypto).toList
      = "\x7b\"type\":".toList ++ ((jsonString self.operation.type).toList
        ++ (",\"challenge\":".toList
        ++ ((jsonString (crypto.base64UrlEncode self.challenge)).toList
        ++ (",\"origin\":".toList ++ ((jsonString self.origin).toList
        ++ (",\"crossOrigin\":".toList ++ crossOriginChars self.topOrigin)))))) := by
  obtain ⟨operation, challenge, origin, topOrigin⟩ := self
  unfold ClientData.toJson
  simp only [String.toList_append, List.append_assoc]
  cases topOrigin with
  | none => cases operation <;> rfl
  | some topOrigin =>
      simp only [String.toList_append, List.append_assoc, crossOriginChars]
      cases operation <;> rfl

theorem crossOriginChars_inj {top top' : Option String}
    (h : crossOriginChars top = crossOriginChars top') : top = top' := by
  cases top with
  | none =>
      cases top' with
      | none => rfl
      | some topOrigin' => cases h
  | some topOrigin =>
      cases top' with
      | none => cases h
      | some topOrigin' =>
          have hkey := List.append_cancel_left h
          rw [(jsonString_inj (List.append_cancel_left hkey)).1]

/-- **The text determines the client data.** -/
theorem toJson_injective (hbase64 : crypto.base64UrlEncode = base64Url) {self self' : ClientData}
    (h : self.toJson crypto = self'.toJson crypto) : self = self' := by
  have hchars := congrArg String.toList h
  rw [toList_toJson, toList_toJson, hbase64] at hchars
  obtain ⟨htype, hrest⟩ := jsonString_inj (List.append_cancel_left hchars)
  obtain ⟨hchallenge, hrest⟩ := jsonString_inj (List.append_cancel_left hrest)
  obtain ⟨horigin, hrest⟩ := jsonString_inj (List.append_cancel_left hrest)
  have htop := crossOriginChars_inj (List.append_cancel_left hrest)
  have hoperation : self.operation = self'.operation := by
    revert htype
    cases self.operation <;> cases self'.operation <;> simp [Operation.type]
  obtain ⟨operation, challenge, origin, topOrigin⟩ := self
  obtain ⟨operation', challenge', origin', topOrigin'⟩ := self'
  simp only at hoperation horigin htop hchallenge
  rw [hoperation, base64Url_injective hchallenge, horigin, htop]

/-! ## §6. The text a relying party sees. -/

/-- **When the text conforms.**  It does when neither origin has a character
with a short escape, and then the limited verification algorithm accepts it; the
text determines the client data in any case. -/
theorem toJson_conforms_iff (crypto : Crypto) (hbase64 : crypto.base64UrlEncode = base64Url) :
    (∀ self : ClientData, self.Conforms crypto ↔ self.PlainOrigins)
      ∧ ∀ self self' : ClientData, self.toJson crypto = self'.toJson crypto → self = self' :=
  ⟨conforms_iff hbase64, fun _ _ => toJson_injective hbase64⟩

/-- An origin with a tab in it is written with the short escape. -/
theorem toJson_not_conforming :
    ¬ ClientData.Conforms base64Crypto ⟨.getAssertion, [1], "https://example.org/\t", none⟩ := by
  intro h
  have hplain := (conforms_iff rfl _).mp h
  exact absurd (hplain.1 '\t' (by decide +kernel)) (by decide)

theorem toJson_conforms_example :
    ClientData.Conforms base64Crypto
        ⟨.makeCredential, [1, 2], "https://example.org", some "https://top.example"⟩
      ↔ ClientData.PlainOrigins
        ⟨.makeCredential, [1, 2], "https://example.org", some "https://top.example"⟩ :=
  (toJson_conforms_iff base64Crypto rfl).1 _

end Libwebauthn
