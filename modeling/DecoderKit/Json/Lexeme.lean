import DecoderKit.Json.Value
import DecoderKit.Proofs.Trimmed
import DecoderKit.Text.Numeral

/-!
# The tokens of a JSON text

A text is cut into tokens from its front. Brackets, braces, commas and colons stand for
themselves, a string goes up to its closing quote, and everything else is a word: a
number or one of the three names. Blanks between tokens are dropped; JSON knows four of
them.

`IsLexeme` says which text spells which token, and `token?_eq_some_iff` that such a text
is what is taken off the front. A word is taken whole, so it has to end where it ends in
the text; the other tokens end on their own.
-/

namespace DecoderKit.JsonText

/-- Whether a character is a blank of JSON. -/
def isJsonBlank (c : Char) : Bool := c = ' ' || c = '\t' || c = '\n' || c = '\r'

/-- Whether a character stands for itself in a string. -/
def isBare (c : Char) : Bool := decide (0x20 ≤ c.toNat) && c != '"' && c != '\\'

/-- Whether a character belongs to a word. -/
def isWordChar (c : Char) : Bool := c.isAlphanum || c = '-'

/-- The tokens of one character. -/
def punctuation : List (Char × JsonToken) :=
  [('[', .openArray), (']', .closeArray), ('\x7b', .openObject), ('\x7d', .closeObject),
   (':', .colon), (',', .comma)]

/-- Whether a token is spelled by a word. -/
def isWord : JsonToken → Bool
  | .null | .bool _ | .number _ => true
  | _ => false

/-- The text spells the token. -/
inductive IsLexeme : Text → JsonToken → Prop where
  | punctuation {c : Char} {token : JsonToken} :
      punctuation.lookup c = some token → IsLexeme [c] token
  | string {s : Text} : (∀ c ∈ s, isBare c = true) → IsLexeme ('"' :: s ++ ['"']) (.string s)
  | null : IsLexeme "null".toList .null
  | bool (b : Bool) : IsLexeme (JsonValue.boolName b) (.bool b)
  | number (n : Int) : IsLexeme (Numeral.signedDecimal n) (.number n)

/-! ## Reading words -/

/-- The value of an optional minus sign and digits. -/
def signedValue : Text → Int
  | '-' :: digits => -(Nat.ofDigitChars 10 digits 0)
  | digits => Nat.ofDigitChars 10 digits 0

/-- The number that a word spells. Only the shortest digits spell one. -/
def integer? (word : Text) : Option Int :=
  if Numeral.signedDecimal (signedValue word) = word then some (signedValue word) else none

/-- The token that a word spells. -/
def word? (word : Text) : Option JsonToken :=
  if word = "null".toList then some .null
  else if word = JsonValue.boolName true then some (.bool true)
  else if word = JsonValue.boolName false then some (.bool false)
  else (integer? word).map .number

theorem isDigit_of_mem_decimal {n : Nat} {c : Char} (h : c ∈ Numeral.decimal n) :
    c.isDigit = true :=
  Nat.isDigit_of_mem_toDigits (by decide) (by decide) h

theorem signedValue_signedDecimal (n : Int) : signedValue (Numeral.signedDecimal n) = n := by
  have hback : ∀ n : Nat, Nat.ofDigitChars 10 (Numeral.decimal n) 0 = n :=
    fun _ => Nat.ofDigitChars_ten_toDigits
  cases n with
  | ofNat n =>
      rw [Numeral.signedDecimal]
      unfold signedValue
      split
      · rename_i digits hminus
        -- no numeral of a natural number starts with a minus sign
        have hdigit := isDigit_of_mem_decimal (hminus ▸ List.mem_cons_self .. : '-' ∈ _)
        exact absurd hdigit (by decide)
      · rw [hback]
        rfl
  | negSucc n =>
      rw [Numeral.signedDecimal, signedValue, hback]
      rfl

theorem integer?_eq_some_iff {word : Text} {n : Int} :
    integer? word = some n ↔ word = Numeral.signedDecimal n := by
  rw [integer?]
  refine ⟨fun h => ?_, fun h => ?_⟩
  · split at h
    · rename_i hword
      rw [← Option.some.inj h, hword]
    · exact absurd h (by simp)
  · rw [h, signedValue_signedDecimal, if_pos rfl]

theorem isDigit_or_of_mem_signedDecimal {n : Int} {c : Char} (h : c ∈ Numeral.signedDecimal n) :
    c.isDigit = true ∨ c = '-' := by
  cases n with
  | ofNat n => exact Or.inl (isDigit_of_mem_decimal h)
  | negSucc n =>
      rcases List.mem_cons.mp h with h | h
      · exact Or.inr h
      · exact Or.inl (isDigit_of_mem_decimal h)

/-- A number is not taken for a name. -/
theorem signedDecimal_ne {n : Int} {name : Text} {c : Char} (hc : c ∈ name)
    (hletter : c.isDigit = false ∧ c ≠ '-') : Numeral.signedDecimal n ≠ name := by
  intro heq
  rcases isDigit_or_of_mem_signedDecimal (heq ▸ hc) with h | h
  · rw [hletter.1] at h
    exact Bool.noConfusion h
  · exact hletter.2 h

/-- What holds of the six pairs holds of each character with its token. -/
theorem punctuation_lookup {P : Char × JsonToken → Prop} (h : ∀ pair ∈ punctuation, P pair)
    {c : Char} {token : JsonToken} (hc : punctuation.lookup c = some token) : P (c, token) := by
  obtain ⟨before, after, hsplit, _⟩ := List.lookup_eq_some_iff.mp hc
  exact h _ (by rw [hsplit]; simp)

theorem word?_eq_some_iff {word : Text} {token : JsonToken} :
    word? word = some token ↔ IsLexeme word token ∧ isWord token = true := by
  refine ⟨fun h => ?_, fun h => ?_⟩
  · unfold word? at h
    split at h
    · rename_i hword
      rw [hword, ← Option.some.inj h]
      exact ⟨.null, rfl⟩
    · split at h
      · rename_i hword
        rw [hword, ← Option.some.inj h]
        exact ⟨.bool true, rfl⟩
      · split at h
        · rename_i hword
          rw [hword, ← Option.some.inj h]
          exact ⟨.bool false, rfl⟩
        · obtain ⟨n, hn, htoken⟩ := Option.map_eq_some_iff.mp h
          rw [integer?_eq_some_iff.mp hn, ← htoken]
          exact ⟨.number n, rfl⟩
  · obtain ⟨hlexeme, hword⟩ := h
    cases hlexeme with
    | punctuation hc =>
        have hno := punctuation_lookup (P := fun pair => isWord pair.2 = false) (by decide) hc
        rw [hword] at hno
        exact Bool.noConfusion hno
    | string _ => exact Bool.noConfusion hword
    | null => rfl
    | bool b => cases b <;> rfl
    | number n =>
        rw [word?, if_neg (signedDecimal_ne (c := 'u') (by decide) (by decide)),
          if_neg (signedDecimal_ne (c := 'u') (by decide) (by decide)),
          if_neg (signedDecimal_ne (c := 's') (by decide) (by decide)),
          integer?_eq_some_iff.mpr rfl]
        rfl

/-! ## Reading a token -/

/-- A string up to its closing quote, which the opening one stands before. -/
def string? (t : Text) : Option (JsonToken × Text) :=
  match t.dropWhile isBare with
  | '"' :: rest => some (.string (t.takeWhile isBare), rest)
  | _ => none

/-- Takes a token off the front of a text. -/
def token? : Text → Option (JsonToken × Text)
  | [] => none
  | c :: rest =>
    if c = '"' then string? rest
    else
      match punctuation.lookup c with
      | some token => some (token, rest)
      | none =>
        (word? ((c :: rest).takeWhile isWordChar)).map fun token =>
          (token, (c :: rest).dropWhile isWordChar)

/-- A word ends before a text that does not go on with it. Other tokens end before any text. -/
def Ends (token : JsonToken) (rest : Text) : Prop :=
  isWord token = true → ∀ c ∈ rest.head?, isWordChar c = false

theorem string?_eq_some_iff {t rest : Text} {token : JsonToken} :
    string? t = some (token, rest)
      ↔ ∃ s, (∀ c ∈ s, isBare c = true) ∧ token = .string s ∧ t = s ++ '"' :: rest := by
  refine ⟨fun h => ?_, fun h => ?_⟩
  · unfold string? at h
    split at h
    · rename_i behind hquote
      obtain ⟨htoken, hrest⟩ := Prod.mk.inj (Option.some.inj h)
      refine ⟨t.takeWhile isBare, fun c hc => List.mem_takeWhile_imp hc, htoken.symm, ?_⟩
      rw [← hrest, ← hquote, List.takeWhile_append_dropWhile]
    · exact absurd h (by simp)
  · obtain ⟨s, hs, htoken, ht⟩ := h
    have hquote : ∀ c ∈ ('"' :: rest).head?, isBare c = false := by simp [isBare]
    have htake : t.takeWhile isBare = s := by rw [ht, takeWhile_append_eq hs hquote]
    have hdrop : t.dropWhile isBare = '"' :: rest := by rw [ht, dropWhile_append_eq hs hquote]
    rw [string?, hdrop, htoken]
    simp only [htake]

/-- Words are made of word characters, and there is at least one. -/
theorem IsLexeme.word_chars {lexeme : Text} {token : JsonToken} (h : IsLexeme lexeme token)
    (hword : isWord token = true) : lexeme ≠ [] ∧ ∀ c ∈ lexeme, isWordChar c = true := by
  cases h with
  | punctuation hc =>
      have hno := punctuation_lookup (P := fun pair => isWord pair.2 = false) (by decide) hc
      rw [hword] at hno
      exact Bool.noConfusion hno
  | string _ => exact Bool.noConfusion hword
  | null => exact ⟨by decide, List.all_eq_true.mp rfl⟩
  | bool b => cases b <;> exact ⟨by decide, List.all_eq_true.mp rfl⟩
  | number n =>
      refine ⟨fun hnil => ?_, fun c hc => ?_⟩
      · cases n with
        | ofNat n => exact Nat.toDigits_ne_nil hnil
        | negSucc n => exact List.cons_ne_nil _ _ hnil
      · rcases isDigit_or_of_mem_signedDecimal hc with hdigit | hminus
        · simp [isWordChar, Char.isAlphanum, hdigit]
        · simp [isWordChar, hminus]

theorem IsLexeme.ne_nil {lexeme : Text} {token : JsonToken} (h : IsLexeme lexeme token) :
    lexeme ≠ [] := by
  cases h with
  | punctuation _ => exact List.cons_ne_nil _ _
  | string _ => exact List.cons_ne_nil _ _
  | null => exact (IsLexeme.word_chars .null rfl).1
  | bool b => exact (IsLexeme.word_chars (.bool b) rfl).1
  | number n => exact (IsLexeme.word_chars (.number n) rfl).1

/-- A word is taken off the front as a whole. -/
theorem token?_word {word rest : Text} {token : JsonToken} (hword : word? word = some token)
    (hchars : word ≠ [] ∧ ∀ c ∈ word, isWordChar c = true)
    (hrest : ∀ c ∈ rest.head?, isWordChar c = false) :
    token? (word ++ rest) = some (token, rest) := by
  obtain ⟨hne, hall⟩ := hchars
  obtain ⟨c, more, rfl⟩ := List.exists_cons_of_ne_nil hne
  have hc : isWordChar c = true := hall c (List.mem_cons_self ..)
  -- neither a quote nor any of the tokens of one character is a word character
  have hquote : c ≠ '"' := fun h => absurd (h ▸ hc) (by decide)
  have hnone : punctuation.lookup c = none := by
    cases hlookup : punctuation.lookup c with
    | none => rfl
    | some token =>
        have hno := punctuation_lookup (P := fun pair => isWordChar pair.1 = false) (by decide)
          hlookup
        rw [hc] at hno
        exact Bool.noConfusion hno
  rw [List.cons_append, token?, if_neg hquote, hnone, ← List.cons_append,
    takeWhile_append_eq hall hrest, dropWhile_append_eq hall hrest]
  simp only [hword, Option.map_some]

/-- **What is taken off the front is a lexeme, and every lexeme is taken off that ends there.** -/
theorem token?_eq_some_iff {t rest : Text} {token : JsonToken} :
    token? t = some (token, rest)
      ↔ ∃ lexeme, IsLexeme lexeme token ∧ Ends token rest ∧ t = lexeme ++ rest := by
  refine ⟨fun h => ?_, fun h => ?_⟩
  · unfold token? at h
    split at h
    · exact absurd h (by simp)
    · rename_i c behind
      split at h
      · rename_i hquote
        obtain ⟨s, hs, rfl, hbehind⟩ := string?_eq_some_iff.mp h
        refine ⟨'"' :: s ++ ['"'], .string hs, nofun, ?_⟩
        rw [hquote, hbehind]
        simp
      · split at h
        · rename_i found hlookup
          obtain ⟨rfl, rfl⟩ := Prod.mk.inj (Option.some.inj h)
          have hno := punctuation_lookup (P := fun pair => isWord pair.2 = false) (by decide)
            hlookup
          exact ⟨[c], .punctuation hlookup, fun hword => absurd (hword.symm.trans hno) (by simp),
            rfl⟩
        · obtain ⟨found, hfound, hpair⟩ := Option.map_eq_some_iff.mp h
          obtain ⟨rfl, rfl⟩ := Prod.mk.inj hpair
          refine ⟨_, (word?_eq_some_iff.mp hfound).1, fun _ d hd => ?_,
            List.takeWhile_append_dropWhile.symm⟩
          have hhead := List.head?_dropWhile_not isWordChar (c :: behind)
          rw [hd] at hhead
          simpa using hhead
  · obtain ⟨lexeme, hlexeme, hends, rfl⟩ := h
    by_cases hword : isWord token = true
    · exact token?_word (word?_eq_some_iff.mpr ⟨hlexeme, hword⟩) (hlexeme.word_chars hword)
        (hends hword)
    · cases hlexeme with
      | @punctuation c token hc =>
          have hquote : c ≠ '"' := fun h =>
            punctuation_lookup (P := fun pair => pair.1 ≠ '"') (by decide) hc h
          rw [List.cons_append, token?, if_neg hquote, hc]
          rfl
      | string hs =>
          rw [List.cons_append, List.cons_append, token?, if_pos rfl]
          exact string?_eq_some_iff.mpr ⟨_, hs, rfl, by simp⟩
      | null => exact absurd rfl hword
      | bool b => exact absurd rfl hword
      | number n => exact absurd rfl hword

/-- Taking a token off leaves a shorter text. -/
theorem length_lt_of_token? {t rest : Text} {token : JsonToken}
    (h : token? t = some (token, rest)) : rest.length < t.length := by
  obtain ⟨lexeme, hlexeme, _, rfl⟩ := token?_eq_some_iff.mp h
  have hpos := List.length_pos_iff.mpr hlexeme.ne_nil
  rw [List.length_append]
  omega

/-! ## All tokens -/

/-- The tokens of a text. -/
def tokens? (t : Text) : Option (List JsonToken) :=
  match _hgap : t.dropWhile isJsonBlank with
  | [] => some []
  | c :: behind =>
    match _htoken : token? (c :: behind) with
    | none => none
    | some (token, rest) => (tokens? rest).map (token :: ·)
termination_by t.length
decreasing_by
  have hshort := length_lt_of_token? _htoken
  have hdrop := (List.dropWhile_suffix (l := t) isJsonBlank).length_le
  rw [_hgap] at hdrop
  omega

end DecoderKit.JsonText
