import JsonShape.Json.Parser
import JsonShape.Proofs.Traversal

/-!
# What stops the reading of a text

A text is read as long as its tokens begin a JSON text, of which `Follows` says for each
place what may come next.  Two things stop the reading of what is well formed up to there:
a container for which there is no room, and an integer literal with too many digits.
-/

set_option autoImplicit false

namespace JsonShape.Json

variable {room digits : Nat} {state next : Expectation} {lexeme : Lexeme} {token : Token}
  {lexemes : List Lexeme} {text : List Char}

namespace Expectation

/-- The number of containers that are open. -/
def opened : Expectation → Nat
  | value outer => outer.length
  | firstItem outer => outer.length + 1
  | firstName outer => outer.length + 1
  | name _ outer => outer.length + 1
  | colon _ _ outer => outer.length + 1
  | afterItem _ outer => outer.length + 1
  | afterMember _ outer => outer.length + 1
  | finished _ => 0

/-- Whether a value may come next. -/
def awaitsValue : Expectation → Bool
  | value _ => true
  | firstItem _ => true
  | _ => false

end Expectation

theorem opened_deliver (value : Json) (outer : List Frame) :
    (deliver value outer).opened = outer.length := by
  cases outer with
  | nil => rfl
  | cons frame outer => cases frame <;> rfl

/-! ## What may come next -/

/-- The tokens that start a value, and what comes after them. -/
inductive Starts (outer : List Frame) : Token → Expectation → Prop
  | openArray : Starts outer .openArray (.firstItem outer)
  | openObject : Starts outer .openObject (.firstName outer)
  | str (codes : List Nat) : Starts outer (.str codes) (deliver (.str (textOfCodes codes)) outer)
  | scalar (value : Json) : Starts outer (.scalar value) (deliver value outer)

/-- The tokens that go on with a text, and what comes after them. -/
inductive Follows : Expectation → Token → Expectation → Prop
  | value {outer : List Frame} {token : Token} {next : Expectation}
      (h : Starts outer token next) : Follows (.value outer) token next
  | firstItem {outer : List Frame} {token : Token} {next : Expectation}
      (h : Starts (.array [] :: outer) token next) : Follows (.firstItem outer) token next
  | emptyArray (outer : List Frame) :
      Follows (.firstItem outer) .closeArray (deliver (.arr []) outer)
  | firstName (codes : List Nat) (outer : List Frame) :
      Follows (.firstName outer) (.str codes) (.colon [] (textOfCodes codes) outer)
  | emptyObject (outer : List Frame) :
      Follows (.firstName outer) .closeObject (deliver (.obj []) outer)
  | name (codes : List Nat) (members : List (String × Json)) (outer : List Frame) :
      Follows (.name members outer) (.str codes) (.colon members (textOfCodes codes) outer)
  | colon (members : List (String × Json)) (name : String) (outer : List Frame) :
      Follows (.colon members name outer) .colon (.value (.object members name :: outer))
  | nextItem (items : List Json) (outer : List Frame) :
      Follows (.afterItem items outer) .comma (.value (.array items :: outer))
  | closeArray (items : List Json) (outer : List Frame) :
      Follows (.afterItem items outer) .closeArray (deliver (.arr items.reverse) outer)
  | nextMember (members : List (String × Json)) (outer : List Frame) :
      Follows (.afterMember members outer) .comma (.name members outer)
  | closeObject (members : List (String × Json)) (outer : List Frame) :
      Follows (.afterMember members outer) .closeObject (deliver (.obj members) outer)
  | endOfText (value : Json) : Follows (.finished value) .endOfText (.finished value)

namespace Token

/-- Whether a token opens a container. -/
def opens : Token → Bool
  | openArray => true
  | openObject => true
  | _ => false

/-- Whether a token closes a container. -/
def closes : Token → Bool
  | closeArray => true
  | closeObject => true
  | _ => false

end Token

theorem Starts.opened {outer : List Frame} (h : Starts outer token next) :
    next.opened + (if token.closes then 1 else 0) =
      outer.length + (if token.opens then 1 else 0) := by
  cases h with
  | openArray => rfl
  | openObject => rfl
  | str codes => exact opened_deliver _ outer
  | scalar value => exact opened_deliver value outer

theorem Follows.opened (h : Follows state token next) :
    next.opened + (if token.closes then 1 else 0) =
      state.opened + (if token.opens then 1 else 0) := by
  cases h with
  | value h => exact h.opened
  | firstItem h => exact h.opened
  | emptyArray outer => rw [opened_deliver]; rfl
  | emptyObject outer => rw [opened_deliver]; rfl
  | closeArray items outer => rw [opened_deliver]; rfl
  | closeObject members outer => rw [opened_deliver]; rfl
  | _ => rfl

theorem Starts.opened_le {outer : List Frame} (h : Starts outer token next)
    (htoken : token.opens = false) : next.opened ≤ outer.length := by
  have hopened := h.opened
  rw [htoken, if_neg Bool.false_ne_true] at hopened
  omega

theorem Follows.opened_le (h : Follows state token next) (htoken : token.opens = false) :
    next.opened ≤ state.opened := by
  have hopened := h.opened
  rw [htoken, if_neg Bool.false_ne_true] at hopened
  omega

/-! ## One token -/

theorem startValue_of_starts {outer : List Frame} (position : Nat) (h : Starts outer token next)
    (houter : outer.length ≤ room) :
    startValue room outer ⟨token, position⟩ =
      if room < next.opened then .error .tooDeep else .ok next := by
  have hle := h.opened_le
  rw [startValue]
  cases h with
  | openArray => simp only [Expectation.opened, Nat.lt_succ_iff]
  | openObject => simp only [Expectation.opened, Nat.lt_succ_iff]
  | str codes => exact (if_neg (Nat.not_lt_of_le (Nat.le_trans (hle rfl) houter))).symm
  | scalar value => exact (if_neg (Nat.not_lt_of_le (Nat.le_trans (hle rfl) houter))).symm

/-- A token that may come next is read if there is room for what it opens. -/
theorem step_of_follows (position : Nat) (h : Follows state token next)
    (hroom : state.opened ≤ room) :
    step room state ⟨token, position⟩ =
      if room < next.opened then .error .tooDeep else .ok next := by
  have hle := h.opened_le
  cases h with
  | value h => exact startValue_of_starts position h hroom
  | firstItem h =>
      have hstart := startValue_of_starts position h hroom
      cases h <;> exact hstart
  | _ =>
      -- No other token opens a container.
      exact (if_neg (Nat.not_lt_of_le (Nat.le_trans (hle rfl) hroom))).symm

theorem step_of_longInteger {position : Nat} (h : state.awaitsValue = true) :
    step room state ⟨.longInteger digits, position⟩ = .error (.longInteger digits) := by
  cases state with
  | value outer => rfl
  | firstItem outer => rfl
  | _ => cases h

/-- What a step can do with a token. -/
inductive Answer (room : Nat) (state : Expectation) (token : Token) :
    Except Refusal Expectation → Prop
  | read {next : Expectation} (h : Follows state token next) : Answer room state token (.ok next)
  | tooDeep {next : Expectation} (h : Follows state token next) (hroom : room < next.opened) :
      Answer room state token (.error .tooDeep)
  | longInteger {digits : Nat} (hstate : state.awaitsValue = true)
      (htoken : token = .longInteger digits) :
      Answer room state token (.error (.longInteger digits))
  | problem (cause : Problem) (position : Nat) :
      Answer room state token (.error (.problem cause position))

theorem answer_startValue {outer : List Frame} (position : Nat)
    (hstarts : ∀ next, Starts outer token next → Follows state token next)
    (hstate : state.awaitsValue = true) :
    Answer room state token (startValue room outer ⟨token, position⟩) := by
  cases token with
  | openArray =>
      by_cases hroom : room ≤ outer.length
      · simp only [startValue, if_pos hroom]
        exact .tooDeep (hstarts _ .openArray) (Nat.lt_succ_of_le hroom)
      · simp only [startValue, if_neg hroom]
        exact .read (hstarts _ .openArray)
  | openObject =>
      by_cases hroom : room ≤ outer.length
      · simp only [startValue, if_pos hroom]
        exact .tooDeep (hstarts _ .openObject) (Nat.lt_succ_of_le hroom)
      · simp only [startValue, if_neg hroom]
        exact .read (hstarts _ .openObject)
  | str codes => exact .read (hstarts _ (.str codes))
  | scalar value => exact .read (hstarts _ (.scalar value))
  | longInteger digits => exact .longInteger hstate rfl
  | _ => exact .problem _ _

theorem answer_step (room : Nat) (state : Expectation) (token : Token) (position : Nat) :
    Answer room state token (step room state ⟨token, position⟩) := by
  cases state with
  | value outer => exact answer_startValue position (fun _ => .value) rfl
  | firstItem outer =>
      cases token with
      | closeArray => exact .read (.emptyArray outer)
      | _ => exact answer_startValue position (fun _ => .firstItem) rfl
  | firstName outer =>
      cases token with
      | closeObject => exact .read (.emptyObject outer)
      | str codes => exact .read (.firstName codes outer)
      | _ => exact .problem _ _
  | name members outer =>
      cases token with
      | str codes => exact .read (.name codes members outer)
      | _ => exact .problem _ _
  | colon members name outer =>
      cases token with
      | colon => exact .read (.colon members name outer)
      | _ => exact .problem _ _
  | afterItem items outer =>
      cases token with
      | comma => exact .read (.nextItem items outer)
      | closeArray => exact .read (.closeArray items outer)
      | _ => exact .problem _ _
  | afterMember members outer =>
      cases token with
      | comma => exact .read (.nextMember members outer)
      | closeObject => exact .read (.closeObject members outer)
      | _ => exact .problem _ _
  | finished value =>
      cases token with
      | endOfText => exact .read (.endOfText value)
      | _ => exact .problem _ _

theorem step_eq_ok_iff (hroom : state.opened ≤ room) :
    step room state lexeme = .ok next ↔
      Follows state lexeme.token next ∧ next.opened ≤ room := by
  constructor
  · intro h
    have hanswer := answer_step room state lexeme.token lexeme.position
    rw [h] at hanswer
    cases hanswer with
    | read hfollows =>
        refine ⟨hfollows, ?_⟩
        by_contra hdeep
        rw [step_of_follows lexeme.position hfollows hroom, if_pos (Nat.lt_of_not_le hdeep)] at h
        cases h
  · rintro ⟨hfollows, hnext⟩
    rw [step_of_follows lexeme.position hfollows hroom, if_neg (Nat.not_lt_of_le hnext)]

theorem step_eq_tooDeep_iff (hroom : state.opened ≤ room) :
    step room state lexeme = .error .tooDeep ↔
      ∃ next, Follows state lexeme.token next ∧ room < next.opened := by
  constructor
  · intro h
    have hanswer := answer_step room state lexeme.token lexeme.position
    rw [h] at hanswer
    cases hanswer with
    | tooDeep hfollows hdeep => exact ⟨_, hfollows, hdeep⟩
  · rintro ⟨next, hfollows, hdeep⟩
    rw [step_of_follows lexeme.position hfollows hroom, if_pos hdeep]

theorem step_eq_longInteger_iff :
    step room state lexeme = .error (.longInteger digits) ↔
      state.awaitsValue = true ∧ lexeme.token = .longInteger digits := by
  constructor
  · intro h
    have hanswer := answer_step room state lexeme.token lexeme.position
    rw [h] at hanswer
    cases hanswer with
    | longInteger hstate htoken => exact ⟨hstate, htoken⟩
  · rintro ⟨hstate, htoken⟩
    obtain ⟨token, position⟩ := lexeme
    cases htoken
    exact step_of_longInteger hstate

/-! ## Many tokens -/

/-- The tokens at the beginning of a text, where never more containers are open than there
is room for, and what may come after them. -/
inductive Begins (room : Nat) : Expectation → List Lexeme → Expectation → Prop
  | nil (state : Expectation) : Begins room state [] state
  | cons {state middle next : Expectation} {lexeme : Lexeme} {lexemes : List Lexeme}
      (h : Follows state lexeme.token middle) (hroom : middle.opened ≤ room)
      (hrest : Begins room middle lexemes next) : Begins room state (lexeme :: lexemes) next

theorem Begins.opened_le (h : Begins room state lexemes next) (hroom : state.opened ≤ room) :
    next.opened ≤ room := by
  induction h with
  | nil state => exact hroom
  | cons _ hmiddle _ ih => exact ih hmiddle

/-- The open containers are those that were opened and not closed. -/
theorem Begins.opened (h : Begins room state lexemes next) :
    next.opened + lexemes.countP (·.token.closes) =
      state.opened + lexemes.countP (·.token.opens) := by
  induction h with
  | nil state => rfl
  | cons h _ _ ih =>
      have hfirst := h.opened
      rw [List.countP_cons, List.countP_cons]
      omega

theorem foldlM_step_eq_ok_iff (hroom : state.opened ≤ room) :
    lexemes.foldlM (step room) state = .ok next ↔ Begins room state lexemes next := by
  induction lexemes generalizing state with
  | nil =>
      rw [List.foldlM_nil, pure_eq_ok_iff]
      constructor
      · rintro rfl
        exact .nil state
      · intro h
        cases h
        rfl
  | cons lexeme lexemes ih =>
      rw [List.foldlM_cons, bind_eq_ok_iff]
      constructor
      · rintro ⟨middle, hstep, hrest⟩
        obtain ⟨hfollows, hmiddle⟩ := (step_eq_ok_iff hroom).mp hstep
        exact .cons hfollows hmiddle ((ih hmiddle).mp hrest)
      · intro h
        cases h with
        | cons hfollows hmiddle hrest =>
            exact ⟨_, (step_eq_ok_iff hroom).mpr ⟨hfollows, hmiddle⟩, (ih hmiddle).mpr hrest⟩

/-! ## Where tokens come from -/

/-- The tokens that are found in texts. -/
inductive Scanned : Token → Prop
  | punctuation {char : Char} {token : Token} (h : punctuation? char = some token) :
      Scanned token
  | str {position next : Nat} {text rest : List Char} {codes : List Nat}
      (h : scanString position (position + 1) [] text = .ok (codes, next, rest)) :
      Scanned (.str codes)
  | brokenString (problem : Problem) (position : Nat) : Scanned (.brokenString problem position)
  | scalar (value : Json) : Scanned (.scalar value)
  | longInteger {digits : Nat} (h : integerDigits < digits) : Scanned (.longInteger digits)
  | other : Scanned .other
  | endOfText : Scanned .endOfText

theorem scanned_number (number : NumberText) : Scanned number.token := by
  rw [NumberText.token]
  split
  · split
    · exact .longInteger ‹_›
    · exact .scalar _
  · exact .scalar _

theorem scanned_nextToken (position : Nat) (char : Char) (rest : List Char) :
    Scanned (nextToken position char rest).1 := by
  rw [nextToken]
  split
  · exact .punctuation ‹_›
  · split
    · split
      · exact .str ‹_›
      · exact .brokenString _ _
    · split
      · exact .scalar _
      · split
        · exact scanned_number _
        · exact .other

theorem scanned_of_mem_ended {position : Nat} {read : List Lexeme}
    (hread : ∀ lexeme ∈ read, Scanned lexeme.token)
    (h : lexeme ∈ (⟨.endOfText, position⟩ :: read : List Lexeme).reverse) :
    Scanned lexeme.token := by
  rcases List.mem_cons.mp (List.mem_reverse.mp h) with rfl | hlexeme
  · exact .endOfText
  · exact hread lexeme hlexeme

theorem scanned_of_mem_tokensFrom {steps position : Nat} {read : List Lexeme}
    (hread : ∀ lexeme ∈ read, Scanned lexeme.token)
    (h : lexeme ∈ tokensFrom steps position read text) : Scanned lexeme.token := by
  induction steps generalizing position read text with
  | zero => cases text <;> exact scanned_of_mem_ended hread h
  | succ steps ih =>
      cases text with
      | nil => exact scanned_of_mem_ended hread h
      | cons char rest =>
          rw [tokensFrom] at h
          split at h
          · exact ih hread h
          · exact ih (List.forall_mem_cons.mpr ⟨scanned_nextToken position char rest, hread⟩) h

theorem scanned_of_mem_tokens (h : lexeme ∈ tokens text) : Scanned lexeme.token :=
  scanned_of_mem_tokensFrom (List.forall_mem_nil _) h

theorem Scanned.digits_lt (h : Scanned (.longInteger digits)) : integerDigits < digits := by
  cases h with
  | punctuation h =>
      rw [punctuation?.eq_def] at h
      split at h <;> cases h
  | longInteger h => exact h

/-! ## Whole texts -/

/-- The mark that may stand in front of a text, which is then refused. -/
def byteOrderMark : Char := Char.ofNat 0xFEFF

/-- A text that is well formed up to a container for which there is no room. -/
structure NestsBeyond (room : Nat) (text : List Char) : Prop where
  unmarked : text.head? ≠ some byteOrderMark
  container : ∃ before lexeme after state next, tokens text = before ++ lexeme :: after ∧
    Begins room (.value []) before state ∧ Follows state lexeme.token next ∧ room < next.opened

/-- A beginning of the text opens more containers than there is room for and closes none of
those. -/
theorem NestsBeyond.room_lt (h : NestsBeyond room text) :
    ∃ before after, tokens text = before ++ after ∧
      room + before.countP (·.token.closes) < before.countP (·.token.opens) := by
  obtain ⟨-, before, lexeme, after, state, next, htokens, hbegins, hfollows, hdeep⟩ := h
  refine ⟨before ++ [lexeme], after, by simp [htokens], ?_⟩
  have hempty : (Expectation.value []).opened = 0 := rfl
  have hbefore := hbegins.opened
  have hnext := hfollows.opened
  rw [List.countP_append, List.countP_append, List.countP_singleton, List.countP_singleton]
  omega

/-- A text that is well formed up to an integer literal with too many digits. -/
structure HasLongInteger (room : Nat) (text : List Char) (digits : Nat) : Prop where
  unmarked : text.head? ≠ some byteOrderMark
  literal : ∃ before lexeme after state, tokens text = before ++ lexeme :: after ∧
    Begins room (.value []) before state ∧ state.awaitsValue = true ∧
      lexeme.token = .longInteger digits
  long : integerDigits < digits

theorem toError_eq_iff {refusal other : Refusal}
    (hform : ∀ cause position, refusal ≠ .problem cause position) :
    other.toError text = refusal.toError text ↔ other = refusal := by
  cases refusal with
  | problem cause position => exact absurd rfl (hform cause position)
  | tooDeep => cases other <;> simp [Refusal.toError]
  | longInteger digits => cases other <;> simp [Refusal.toError]

/-- A text is refused for other reasons than its form where a step refuses a token. -/
theorem decode_eq_error_iff (room : Nat) (text : List Char) {refusal : Refusal}
    (hform : ∀ cause position, refusal ≠ .problem cause position) :
    decode room text = .error (refusal.toError text) ↔ text.head? ≠ some byteOrderMark ∧
      ∃ before lexeme after state, tokens text = before ++ lexeme :: after ∧
        Begins room (.value []) before state ∧ step room state lexeme = .error refusal := by
  have hempty : (Expectation.value []).opened ≤ room := Nat.zero_le room
  have hmalformed : ∀ cause place, refusal.toError text ≠ .malformed cause place := by
    intro cause place
    cases refusal with
    | problem cause position => exact absurd rfl (hform cause position)
    | _ => simp [Refusal.toError]
  simp only [← foldlM_step_eq_ok_iff hempty, ← foldlM_eq_error_iff]
  rw [decode]
  by_cases hmark : text.head? = some (Char.ofNat 0xFEFF)
  · rw [if_pos hmark]
    simp [hmark, byteOrderMark, (hmalformed _ _).symm]
  · rw [if_neg hmark]
    cases hread : (tokens text).foldlM (step room) (.value []) with
    | ok state => cases state <;> simp [(hmalformed _ _).symm]
    | error other => simp [toError_eq_iff hform, hmark, byteOrderMark]

theorem decode_eq_tooDeep_iff : decode room text = .error .tooDeep ↔ NestsBeyond room text := by
  have hform : ∀ cause position, Refusal.tooDeep ≠ .problem cause position := by simp
  refine (decode_eq_error_iff room text hform).trans ?_
  constructor
  · rintro ⟨hunmarked, before, lexeme, after, state, htokens, hbegins, hstep⟩
    have hroom := hbegins.opened_le (Nat.zero_le room)
    obtain ⟨next, hfollows, hdeep⟩ := (step_eq_tooDeep_iff hroom).mp hstep
    exact ⟨hunmarked, before, lexeme, after, state, next, htokens, hbegins, hfollows, hdeep⟩
  · rintro ⟨hunmarked, before, lexeme, after, state, next, htokens, hbegins, hfollows, hdeep⟩
    have hroom := hbegins.opened_le (Nat.zero_le room)
    exact ⟨hunmarked, before, lexeme, after, state, htokens, hbegins,
      (step_eq_tooDeep_iff hroom).mpr ⟨next, hfollows, hdeep⟩⟩

/-- An integer literal of a text is refused for its digits only if they are too many. -/
theorem decode_eq_longInteger_iff :
    decode room text = .error (.longInteger digits) ↔ HasLongInteger room text digits := by
  have hform : ∀ cause position, Refusal.longInteger digits ≠ .problem cause position := by simp
  refine (decode_eq_error_iff room text hform).trans ?_
  simp only [step_eq_longInteger_iff]
  constructor
  · rintro ⟨hunmarked, before, lexeme, after, state, htokens, hbegins, hstate, htoken⟩
    refine ⟨hunmarked, ⟨before, lexeme, after, state, htokens, hbegins, hstate, htoken⟩, ?_⟩
    have hlexeme : lexeme ∈ tokens text := by simp [htokens]
    have hscanned : Scanned lexeme.token := scanned_of_mem_tokens hlexeme
    rw [htoken] at hscanned
    exact hscanned.digits_lt
  · rintro ⟨hunmarked, hliteral, -⟩
    exact ⟨hunmarked, hliteral⟩

end JsonShape.Json
