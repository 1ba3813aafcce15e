import JsonShape.Proofs.Json.Reading
import JsonShape.Proofs.Text.Utf8

/-!
# Strings that are text

Escapes can write one half of a surrogate pair without the other.  No text has such a code
point, and the reading puts another one in its place.  Every other string is kept code
point by code point, so strings that differ stay different.
-/

set_option autoImplicit false

namespace JsonShape.Json

variable {codes found : List Nat}

/-! ## Code points -/

/-- Numbers that are small enough for code points. -/
def AreCodes (codes : List Nat) : Prop := ∀ code ∈ codes, code < 0x110000

theorem areCodes_cons {code : Nat} : AreCodes (code :: codes) ↔ code < 0x110000 ∧ AreCodes codes :=
  List.forall_mem_cons

theorem hexValue?_lt {char : Char} {value : Nat} (h : Text.hexValue? char = some value) :
    value < 16 := by
  have hle (left right : Char) : left ≤ right ↔ left.toNat ≤ right.toNat := UInt32.le_iff_toNat_le
  simp only [Text.hexValue?, hle, Char.reduceToNat] at h
  split at h
  · cases h
    omega
  · split at h
    · cases h
      omega
    · split at h <;> cases h
      omega

theorem hexQuad?_lt {a b c d : Char} {code : Nat} (h : hexQuad? a b c d = some code) :
    code < 0x10000 := by
  rw [hexQuad?.eq_def] at h
  split at h
  · rename_i ha hb hc hd
    have hfirst := hexValue?_lt ha
    have hsecond := hexValue?_lt hb
    have hthird := hexValue?_lt hc
    have hfourth := hexValue?_lt hd
    cases h
    omega
  · cases h

theorem simpleEscape?_lt {char : Char} {code : Nat} (h : simpleEscape? char = some code) :
    code < 0x110000 := by
  rw [simpleEscape?.eq_def] at h
  split at h <;> cases h <;> decide

theorem areCodes_pushCode {code : Nat} (hcode : code < 0x110000) (hcodes : AreCodes codes) :
    AreCodes (pushCode code codes) := by
  fun_cases pushCode code codes with
  | case1 => exact areCodes_cons.mpr ⟨hcode, hcodes⟩
  | case2 last before hpair =>
      simp only [isHighSurrogate, isLowSurrogate, Bool.and_eq_true, decide_eq_true_eq] at hpair
      exact areCodes_cons.mpr ⟨by omega, (areCodes_cons.mp hcodes).2⟩
  | case3 last before _ => exact areCodes_cons.mpr ⟨hcode, hcodes⟩

theorem char_lt (char : Char) : char.toNat < 0x110000 := by
  rcases char.valid with hvalid | ⟨-, hvalid⟩
  · exact Nat.lt_trans hvalid (by decide)
  · exact hvalid

theorem areCodes_of_scanString {start position next : Nat} {text rest : List Char}
    (h : scanString start position codes text = .ok (found, next, rest))
    (hcodes : AreCodes codes) : AreCodes found := by
  fun_induction scanString start position codes text with
  | case2 position codes rest =>
      cases h
      exact fun code hcode => hcodes code (List.mem_reverse.mp hcode)
  | case5 position codes a b c d rest code hquad _ ih =>
      have hcode := Nat.lt_trans (hexQuad?_lt hquad) (by decide : 0x10000 < 0x110000)
      exact ih h (areCodes_pushCode hcode hcodes)
  | case8 position codes char rest _ _ code hescape ih =>
      exact ih h (areCodes_cons.mpr ⟨simpleEscape?_lt hescape, hcodes⟩)
  | case11 position codes char rest _ _ _ _ _ _ ih =>
      exact ih h (areCodes_cons.mpr ⟨char_lt char, hcodes⟩)
  | _ => cases h

theorem Scanned.areCodes (h : Scanned (.str codes)) : AreCodes codes := by
  cases h with
  | punctuation h =>
      rw [punctuation?.eq_def] at h
      split at h <;> cases h
  | str h => exact areCodes_of_scanString h (List.forall_mem_nil _)

/-! ## Their text -/

theorem toNat_charOfCode {code : Nat} (hcode : code < 0x110000) (h : isSurrogate code = false) :
    (charOfCode code).toNat = code := by
  have hvalid : code.isValidChar := by
    simp only [isSurrogate, isHighSurrogate, isLowSurrogate, Bool.or_eq_false_iff,
      Bool.and_eq_false_iff, decide_eq_false_iff_not] at h
    rw [Nat.isValidChar]
    omega
  rw [charOfCode, if_neg (by simp [h]), Text.toNat_ofNat_of_isValidChar hvalid]

/-- A string without halves of surrogate pairs is read code point by code point. -/
theorem toNat_textOfCodes {text : List Char} {lexeme : Lexeme} (hlexeme : lexeme ∈ tokens text)
    (htoken : lexeme.token = .str codes) (h : hasSurrogate text = false) :
    (textOfCodes codes).toList.map Char.toNat = codes := by
  have hcodes : AreCodes codes := (htoken ▸ scanned_of_mem_tokens hlexeme).areCodes
  have hwhole : ∀ code ∈ codes, isSurrogate code = false := by
    rw [hasSurrogate, List.any_eq_false] at h
    simpa [htoken, Token.hasSurrogate] using h lexeme hlexeme
  have hkept : ∀ code ∈ codes, (Char.toNat ∘ charOfCode) code = id code :=
    fun code hcode => toNat_charOfCode (hcodes code hcode) (hwhole code hcode)
  rw [textOfCodes, String.toList_ofList, List.map_map, List.map_congr_left hkept, List.map_id]

end JsonShape.Json
