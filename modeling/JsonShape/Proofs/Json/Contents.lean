import JsonShape.Documents
import JsonShape.Proofs.Json.Strings

/-!
# Contents of files

What becomes of a file's octets is said by the text that they encode, if there is one.
-/

set_option autoImplicit false

namespace JsonShape

variable {content : List UInt8} {text : List Char}

/-- The text that is read of a content, where every line ends with a line feed. -/
def IsTextOf (content : List UInt8) (text : List Char) : Prop :=
  ∃ written : String, Text.encodeUtf8 written = content ∧
    text = Text.normalizeNewlines written.toList

theorem isTextOf_iff : IsTextOf content text ↔
    ∃ read, Text.decodeUtf8 content = .ok read ∧ text = Text.normalizeNewlines read := by
  simp only [IsTextOf, Text.decodeUtf8_eq_ok_iff]
  constructor
  · rintro ⟨written, hwritten, htext⟩
    exact ⟨written.toList, by rw [String.ofList_toList, hwritten], htext⟩
  · rintro ⟨read, hread, htext⟩
    exact ⟨String.ofList read, hread, by rw [String.toList_ofList, htext]⟩

/-! ## Reading -/

variable [Room]

/-- A content cannot be decoded exactly if it is not that of a text. -/
theorem readJson_eq_encoding_iff {error : Text.Utf8Error} :
    readJson content = .error (.encoding error) ↔
      (∀ text, ¬IsTextOf content text) ∧ Text.decodeUtf8 content = .error error := by
  simp only [isTextOf_iff]
  rw [readJson]
  cases hread : Text.decodeUtf8 content with
  | error error => simp
  | ok read => simp [mapError_eq_error_iff]

theorem readJson_eq_json_iff {error : Json.DecodeError} :
    readJson content = .error (.json error) ↔
      ∃ text, IsTextOf content text ∧ Json.decode Room.text text = .error error := by
  simp only [isTextOf_iff]
  rw [readJson]
  cases hread : Text.decodeUtf8 content with
  | error error => simp
  | ok read => simp [mapError_eq_error_iff, Json.textRoom]

theorem readJson_eq_tooDeep_iff :
    readJson content = .error (.json .tooDeep) ↔
      ∃ text, IsTextOf content text ∧ Json.NestsBeyond Room.text text := by
  simp only [readJson_eq_json_iff, Json.decode_eq_tooDeep_iff]

theorem readJson_eq_longInteger_iff {digits : Nat} :
    readJson content = .error (.json (.longInteger digits)) ↔
      ∃ text, IsTextOf content text ∧ Json.HasLongInteger Room.text text digits := by
  simp only [readJson_eq_json_iff, Json.decode_eq_longInteger_iff]

omit [Room]

/-! ## Files of whole characters -/

/-- Whether no string in a content has a half of a surrogate pair. -/
def isWhole (content : List UInt8) : Bool :=
  match Text.decodeUtf8 content with
  | .ok read => !Json.hasSurrogate (Text.normalizeNewlines read)
  | .error _ => true

/-- Files in whose JSON texts all strings are text. -/
structure WholeFiles extends Files where
  whole : entries.all (fun entry =>
    match entry.2 with
    | .file content => isWhole content
    | .directory => true) = true

namespace WholeFiles

variable {files : WholeFiles} {place : Place}

theorem isWhole_of_content? (h : files.content? place = some content) :
    isWhole content = true := by
  rw [Files.content?] at h
  split at h
  · rename_i found hentry
    cases h
    unfold Files.entry? at hentry
    split at hentry
    · cases hentry
    · exact List.all_eq_true.mp files.whole _ (mem_of_lookup_eq_some hentry)
  · cases h

/-- All strings in such files are read code point by code point. -/
theorem toNat_textOfCodes {codes : List Nat} {lexeme : Json.Lexeme}
    (hcontent : files.content? place = some content) (htext : IsTextOf content text)
    (hlexeme : lexeme ∈ Json.tokens text) (htoken : lexeme.token = .str codes) :
    (Json.textOfCodes codes).toList.map Char.toNat = codes := by
  refine Json.toNat_textOfCodes hlexeme htoken ?_
  obtain ⟨read, hread, rfl⟩ := isTextOf_iff.mp htext
  have hwhole := isWhole_of_content? hcontent
  simpa only [isWhole, hread, Bool.not_eq_true'] using hwhole

end WholeFiles

end JsonShape
