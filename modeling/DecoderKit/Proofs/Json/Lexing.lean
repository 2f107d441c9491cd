import DecoderKit.Json.Layout
import DecoderKit.Json.Lexeme

/-!
# Which tokens a JSON text has

A text spells tokens if it is their lexemes with blanks in front of them and blanks at its
end. Reading tokens finds them exactly then, and since it is a function, a text spells one
row of tokens at most.

Texts of tokens may be put behind one another where no word grows longer by it. The layout
of a value is built in this way from the layouts of its parts, so it spells the tokens of
the value at whatever depth it stands.
-/

namespace DecoderKit.JsonText

/-- Blanks of JSON and nothing else. -/
def IsGap (t : Text) : Prop := ∀ c ∈ t, isJsonBlank c = true

theorem isGap_nil : IsGap [] := fun _ hc => absurd hc (by simp)

/-- The text is the lexemes of the tokens, with gaps around them. -/
inductive Spells : Text → List JsonToken → Prop where
  | nil {gap : Text} : IsGap gap → Spells gap []
  | cons {gap lexeme rest : Text} {token : JsonToken} {tokens : List JsonToken} :
      IsGap gap → IsLexeme lexeme token → Ends token rest → Spells rest tokens →
      Spells (gap ++ (lexeme ++ rest)) (token :: tokens)

/-! ## Reading finds the tokens -/

theorem IsGap.dropWhile_append {gap t : Text} (h : IsGap gap) :
    (gap ++ t).dropWhile isJsonBlank = t.dropWhile isJsonBlank :=
  List.dropWhile_append_of_pos h

/-- No lexeme starts with a blank. -/
theorem IsLexeme.dropWhile_append {lexeme rest : Text} {token : JsonToken}
    (h : IsLexeme lexeme token) :
    (lexeme ++ rest).dropWhile isJsonBlank = lexeme ++ rest := by
  have hfirst : ∀ c ∈ lexeme.head?, isJsonBlank c = false := by
    intro c hc
    -- words have no blanks at all, and of the others the first character is known
    by_cases hword : isWord token = true
    · have hchar := (h.word_chars hword).2 c (List.mem_of_mem_head? hc)
      cases hblank : isJsonBlank c with
      | false => rfl
      | true =>
          simp only [isJsonBlank, Bool.or_eq_true, decide_eq_true_eq] at hblank
          rcases hblank with ((rfl | rfl) | rfl) | rfl <;> exact absurd hchar (by decide)
    · cases h with
      | punctuation hlookup =>
          rw [← Option.mem_some_iff.mp hc]
          exact punctuation_lookup (P := fun pair => isJsonBlank pair.1 = false) (by decide)
            hlookup
      | string _ =>
          rw [← Option.mem_some_iff.mp hc]
          decide
      | null => exact absurd rfl hword
      | bool b => exact absurd rfl hword
      | number n => exact absurd rfl hword
  refine dropWhile_eq_self fun c hc => hfirst c ?_
  obtain ⟨d, more, rfl⟩ := List.exists_cons_of_ne_nil h.ne_nil
  exact hc

theorem tokens?_of_gap {gap : Text} (h : IsGap gap) : tokens? gap = some [] := by
  have hdrop : gap.dropWhile isJsonBlank = [] := List.dropWhile_eq_nil_iff.mpr h
  rw [tokens?]
  split
  · rfl
  · rename_i c behind hcons
    rw [hdrop] at hcons
    exact absurd hcons (by simp)

/-- The first token in front of the others. -/
theorem tokens?_eq_map {t : Text} (h : t.dropWhile isJsonBlank ≠ []) :
    tokens? t = (token? (t.dropWhile isJsonBlank)).bind fun found =>
      (tokens? found.2).map (found.1 :: ·) := by
  rw [tokens?]
  split
  · rename_i hnil
    exact absurd hnil h
  · rename_i c behind hcons
    rw [hcons]
    split
    · rename_i hnone
      rw [hnone]
      rfl
    · rename_i token rest hsome
      rw [hsome]
      rfl

theorem tokens?_of_spells {t : Text} {tokens : List JsonToken} (h : Spells t tokens) :
    tokens? t = some tokens := by
  induction h with
  | nil hgap => exact tokens?_of_gap hgap
  | @cons gap lexeme rest token tokens hgap hlexeme hends _ ih =>
      have hdrop : (gap ++ (lexeme ++ rest)).dropWhile isJsonBlank = lexeme ++ rest := by
        rw [hgap.dropWhile_append, hlexeme.dropWhile_append]
      have hne : lexeme ++ rest ≠ [] := fun hnil =>
        hlexeme.ne_nil (List.append_eq_nil_iff.mp hnil).1
      have htoken : token? (lexeme ++ rest) = some (token, rest) :=
        token?_eq_some_iff.mpr ⟨lexeme, hlexeme, hends, rfl⟩
      rw [tokens?_eq_map (by rwa [hdrop]), hdrop, htoken, Option.bind_some, ih, Option.map_some]

theorem spells_of_tokens? {t : Text} {tokens : List JsonToken} (h : tokens? t = some tokens) :
    Spells t tokens := by
  have hgap : IsGap (t.takeWhile isJsonBlank) := fun c hc => List.mem_takeWhile_imp hc
  have hsplit := List.takeWhile_append_dropWhile (p := isJsonBlank) (l := t)
  -- either the text is a gap, or a token comes behind one
  by_cases hdrop : t.dropWhile isJsonBlank = []
  · rw [hdrop, List.append_nil] at hsplit
    rw [hsplit] at hgap
    rw [tokens?_of_gap hgap] at h
    rw [← Option.some.inj h]
    exact .nil hgap
  · rw [tokens?_eq_map hdrop] at h
    obtain ⟨⟨token, rest⟩, htoken, hmap⟩ := Option.bind_eq_some_iff.mp h
    obtain ⟨more, hmore, rfl⟩ := Option.map_eq_some_iff.mp hmap
    obtain ⟨lexeme, hlexeme, hends, hlexed⟩ := token?_eq_some_iff.mp htoken
    have hshort : rest.length < t.length := by
      have hle := (List.dropWhile_suffix (l := t) isJsonBlank).length_le
      have hlt := length_lt_of_token? htoken
      omega
    have hrest := spells_of_tokens? hmore
    rw [← hsplit, hlexed]
    exact .cons hgap hlexeme hends hrest
termination_by t.length

/-- **The tokens of a text are those that it spells.** -/
theorem tokens?_eq_some_iff {t : Text} {tokens : List JsonToken} :
    tokens? t = some tokens ↔ Spells t tokens :=
  ⟨spells_of_tokens?, tokens?_of_spells⟩

/-! ## Building texts of tokens -/

theorem Ends.append {token : JsonToken} {rest t : Text} (h : Ends token rest)
    (ht : ∀ c ∈ t.head?, isWordChar c = false) : Ends token (rest ++ t) := by
  intro hword c hc
  rw [List.head?_append] at hc
  cases hrest : rest.head? with
  | none =>
      -- nothing is left of the first text, so the second goes on
      rw [hrest] at hc
      exact ht c hc
  | some d =>
      rw [hrest] at hc
      exact h hword c (hrest ▸ hc)

theorem Spells.gap {gap t : Text} {tokens : List JsonToken} (hgap : IsGap gap)
    (h : Spells t tokens) : Spells (gap ++ t) tokens := by
  have happend : ∀ {gap' : Text}, IsGap gap' → IsGap (gap ++ gap') := fun hgap' c hc =>
    (List.mem_append.mp hc).elim (hgap c) (hgap' c)
  cases h with
  | nil hgap' => exact .nil (happend hgap')
  | cons hgap' hlexeme hends hrest =>
      rw [← List.append_assoc]
      exact .cons (happend hgap') hlexeme hends hrest

theorem not_isWordChar_head? {c : Char} {t : Text} (hc : isWordChar c = false) :
    ∀ d ∈ (c :: t).head?, isWordChar d = false := by
  intro d hd
  rw [← Option.mem_some_iff.mp hd]
  exact hc

/-- **Texts of tokens may be joined where the second does not go on with a word.** -/
theorem Spells.append {s t : Text} {tokens more : List JsonToken} (hs : Spells s tokens)
    (ht : Spells t more) (hstart : ∀ c ∈ t.head?, isWordChar c = false) :
    Spells (s ++ t) (tokens ++ more) := by
  induction hs with
  | nil hgap =>
      -- the gap at the end of the first text goes in front of the second
      exact ht.gap hgap
  | cons hgap hlexeme hends _ ih =>
      rw [List.append_assoc, List.append_assoc]
      exact .cons hgap hlexeme (hends.append hstart) ih

/-- One lexeme is a text of one token. -/
theorem IsLexeme.spells {lexeme : Text} {token : JsonToken} (h : IsLexeme lexeme token) :
    Spells lexeme [token] := by
  have hcons := Spells.cons isGap_nil h (fun _ => by simp) (.nil isGap_nil)
  rwa [List.nil_append, List.append_nil] at hcons

/-- A token of one character in front of a text. -/
theorem Spells.mark {c : Char} {token : JsonToken} {t : Text} {tokens : List JsonToken}
    (hc : punctuation.lookup c = some token) (h : Spells t tokens) :
    Spells (c :: t) (token :: tokens) := by
  have hno := punctuation_lookup (P := fun pair => isWord pair.2 = false) (by decide) hc
  have hends : Ends token t := fun hword => absurd (hword.symm.trans hno) (by simp)
  exact .cons isGap_nil (.punctuation hc) hends h

/-- Texts with commas and gaps between them spell their tokens with commas between them. -/
theorem Spells.intercalate {α : Type} {gap : Text} {text : α → Text}
    {tokens : α → List JsonToken} (hgap : IsGap gap) {parts : List α}
    (h : ∀ part ∈ parts, Spells (text part) (tokens part)) :
    Spells ((',' :: gap).intercalate (parts.map text))
      (JsonValue.separated (parts.map tokens)) := by
  induction parts with
  | nil => exact .nil isGap_nil
  | cons part parts ih =>
      have hpart := h part (List.mem_cons_self ..)
      have hparts := ih fun p hp => h p (List.mem_cons_of_mem _ hp)
      -- a comma stands in front of every part but the first
      cases parts with
      | nil =>
          simp only [JsonValue.separated, List.map_cons, List.map_nil,
            List.intercalate_singleton]
          exact hpart
      | cons next parts =>
          have hcomma : Spells (',' :: _) (.comma :: _) := (hparts.gap hgap).mark rfl
          have happend := hpart.append hcomma (not_isWordChar_head? rfl)
          simp only [JsonValue.separated, List.map_cons, List.intercalate_cons_cons,
            List.append_assoc, List.cons_append, List.nil_append] at happend ⊢
          exact happend

/-! ## The layout of a value -/

open JsonValue

theorem isGap_newLine (depth : Nat) : IsGap (newLine depth) := by
  intro c hc
  rcases List.mem_cons.mp hc with rfl | hc
  · rfl
  · rw [List.eq_of_mem_replicate hc]
    rfl

/-- The parts of a value between its brackets. -/
theorem spells_brackets {α : Type} {depth : Nat} {text : α → Text}
    {tokens : α → List JsonToken} {parts : List α} {opening closing : Char}
    {first last : JsonToken} (hopen : punctuation.lookup opening = some first)
    (hclose : punctuation.lookup closing = some last)
    (h : ∀ part ∈ parts, Spells (text part) (tokens part)) :
    Spells (opening :: block depth (parts.map text) ++ [closing])
      (first :: separated (parts.map tokens) ++ [last]) := by
  have hlast : Spells [closing] [last] := (IsLexeme.punctuation hclose).spells
  cases parts with
  | nil => exact hlast.mark hopen
  | cons part parts =>
      -- from the back: the closing bracket, the parts in front of it, the opening one
      have hparts := Spells.intercalate (isGap_newLine (depth + 1)) h
      have hend := hparts.append (hlast.gap (isGap_newLine depth))
        (not_isWordChar_head? rfl)
      have hblock := (hend.gap (isGap_newLine (depth + 1))).mark hopen
      simp only [block, List.map_cons, List.cons_append, List.append_assoc] at hblock ⊢
      exact hblock

theorem itemTexts_eq_map (depth : Nat) (items : List JsonValue) :
    itemTexts depth items = items.map (layOut depth) := by
  induction items with
  | nil => rfl
  | cons item items ih => rw [itemTexts, ih, List.map_cons]

/-- The text of a member: its key, a colon and its value. -/
def memberText (depth : Nat) (member : Text × JsonValue) : Text :=
  quoted member.1 ++ ": ".toList ++ member.2.layOut depth

theorem memberTexts_eq_map (depth : Nat) (members : List (Text × JsonValue)) :
    memberTexts depth members = members.map (memberText depth) := by
  induction members with
  | nil => rfl
  | cons member members ih =>
      obtain ⟨key, value⟩ := member
      rw [memberTexts, ih, List.map_cons, memberText]

/-- All strings and keys of the value stand for themselves. -/
inductive IsPlain : JsonValue → Prop where
  | null : IsPlain .null
  | bool (b : Bool) : IsPlain (.bool b)
  | number (n : Int) : IsPlain (.number n)
  | string {t : Text} : (∀ c ∈ t, isBare c = true) → IsPlain (.string t)
  | array {items : List JsonValue} : (∀ item ∈ items, IsPlain item) → IsPlain (.array items)
  | object {members : List (Text × JsonValue)} :
      (∀ member ∈ members, ∀ c ∈ member.1, isBare c = true) →
      (∀ member ∈ members, IsPlain member.2) → IsPlain (.object members)

/-- **At every depth the layout of a value spells its tokens.** -/
theorem spells_layOut {v : JsonValue} (h : IsPlain v) (depth : Nat) :
    Spells (v.layOut depth) v.tokens := by
  induction h generalizing depth with
  | null => exact IsLexeme.null.spells
  | bool b => exact (IsLexeme.bool b).spells
  | number n => exact (IsLexeme.number n).spells
  | string ht => exact (IsLexeme.string ht).spells
  | array _ ih =>
      rw [layOut, tokens, itemTexts_eq_map, itemTokens_eq_map]
      exact spells_brackets rfl rfl fun item hitem => ih item hitem (depth + 1)
  | @object members hkeys _ ih =>
      have hmember : ∀ member ∈ members,
          Spells (memberText (depth + 1) member) (tokensOfMember member) := by
        intro member hmember
        have hkey := (IsLexeme.string (hkeys member hmember)).spells
        have hblank : IsGap [' '] := List.forall_mem_cons.mpr ⟨rfl, isGap_nil⟩
        have hvalue := (ih member hmember (depth + 1)).gap hblank
        have hcolon : Spells (':' :: _) (.colon :: _) := hvalue.mark rfl
        have hjoin := hkey.append hcolon (not_isWordChar_head? rfl)
        rw [memberText, quoted, List.append_assoc, tokensOfMember]
        exact hjoin
      rw [layOut, tokens, memberTexts_eq_map, memberTokens_eq_map]
      exact spells_brackets rfl rfl hmember

end DecoderKit.JsonText
