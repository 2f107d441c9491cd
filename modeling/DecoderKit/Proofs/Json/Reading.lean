import DecoderKit.Json.Reader
import DecoderKit.Proofs.Json.Lexing

/-!
# The reader reads the values that texts are of

What the machine has taken can be seen from its state: the open arrays and objects with
what has been read of them, and then what the phase has read. One token adds itself to
that, so an accepted row of tokens is the tokens of the value that comes out.

The other way round the machine takes the tokens of a value, whatever is open around it,
and is behind the value then.
-/

namespace DecoderKit.JsonText

open JsonValue

/-! ## Commas -/

theorem separated_cons (part : List JsonToken) (parts : List (List JsonToken)) :
    separated (part :: parts) = part ++ parts.flatMap (.comma :: ·) := by
  induction parts generalizing part with
  | nil => simp [separated]
  | cons next parts ih =>
      rw [List.flatMap_cons, separated, List.intercalate_cons_cons, ← separated, ih next]
      simp

/-- Parts with a comma behind each, which is what a list looks like while it is read. -/
def listed (parts : List (List JsonToken)) : List JsonToken := parts.flatMap (· ++ [.comma])

theorem separated_concat (parts : List (List JsonToken)) (part : List JsonToken) :
    separated (parts ++ [part]) = listed parts ++ part := by
  induction parts with
  | nil => simp [separated, listed]
  | cons first parts ih =>
      -- what follows the first part is never empty, so a comma stands between
      obtain ⟨next, rest, hrest⟩ := List.exists_cons_of_ne_nil (List.concat_ne_nil part parts)
      rw [List.cons_append, hrest, separated, List.intercalate_cons_cons, ← separated, ← hrest, ih]
      simp [listed]

theorem tokens_array_concat (items : List JsonValue) (v : JsonValue) :
    (JsonValue.array (items ++ [v])).tokens
      = .openArray :: listed (items.map tokens) ++ v.tokens ++ [.closeArray] := by
  rw [tokens, itemTokens_eq_map, List.map_append, List.map_singleton, separated_concat]
  simp

theorem tokens_object_concat (members : List (Text × JsonValue)) (member : Text × JsonValue) :
    (JsonValue.object (members ++ [member])).tokens
      = .openObject :: listed (members.map tokensOfMember)
        ++ tokensOfMember member ++ [.closeObject] := by
  rw [tokens, memberTokens_eq_map, List.map_append, List.map_singleton, separated_concat]
  simp

/-! ## What the machine has taken -/

/-- The tokens of what has been read of an open array or object. -/
def Frame.taken : Frame → List JsonToken
  | .array items => .openArray :: listed (items.map tokens)
  | .object members key =>
    .openObject :: listed (members.map tokensOfMember) ++ [.string key, .colon]

/-- The tokens of what a phase has read. -/
def Phase.taken : Phase → List JsonToken
  | .value => []
  | .key members => .openObject :: listed (members.map tokensOfMember)
  | .colon members name => .openObject :: listed (members.map tokensOfMember) ++ [.string name]
  | .behind v => v.tokens

/-- The tokens that lead to a state. -/
def State.taken (state : State) : List JsonToken :=
  state.frames.reverse.flatMap Frame.taken ++ state.phase.taken

/-- **One token adds itself to what has been taken.** -/
theorem step_taken {state next : State} {token : JsonToken} (h : step state token = some next) :
    next.taken = state.taken ++ [token] := by
  unfold step at h
  -- each transition moves tokens between the frames and the phase, and the last refuses
  split at h <;> cases h
  all_goals
    simp only [State.taken, Phase.taken, tokens_array_concat, tokens_object_concat]
    simp [Frame.taken, listed, tokensOfMember, tokens, separated, itemTokens, memberTokens]

theorem run_taken {tokens : List JsonToken} {state last : State}
    (h : tokens.foldlM step state = some last) : last.taken = state.taken ++ tokens := by
  induction tokens generalizing state with
  | nil =>
      rw [List.foldlM_nil] at h
      rw [← Option.some.inj h, List.append_nil]
  | cons token tokens ih =>
      rw [List.foldlM_cons] at h
      obtain ⟨next, hstep, hrun⟩ := Option.bind_eq_some_iff.mp h
      rw [ih hrun, step_taken hstep, List.append_assoc, List.singleton_append]

/-! ## The machine takes the tokens of a value -/

theorem run_cons {state : State} {token : JsonToken} {tokens : List JsonToken} (next : State)
    (h : step state token = some next) :
    (token :: tokens).foldlM step state = tokens.foldlM step next := by
  rw [List.foldlM_cons, h]
  rfl

/-- The machine gets behind the value, whatever is open around it. -/
def Taken (v : JsonValue) : Prop :=
  ∀ frames, v.tokens.foldlM step ⟨.value, frames⟩ = some ⟨.behind v, frames⟩

theorem Taken.run_append {v : JsonValue} (h : Taken v) (frames : List Frame)
    (rest : List JsonToken) :
    (v.tokens ++ rest).foldlM step ⟨.value, frames⟩ = rest.foldlM step ⟨.behind v, frames⟩ := by
  rw [List.foldlM_append, h frames]
  rfl

theorem Taken.run_member {member : Text × JsonValue} (h : Taken member.2)
    (members : List (Text × JsonValue)) (frames : List Frame) (rest : List JsonToken) :
    (tokensOfMember member ++ rest).foldlM step ⟨.key members, frames⟩
      = rest.foldlM step ⟨.behind member.2, .object members member.1 :: frames⟩ := by
  rw [tokensOfMember, List.cons_append, List.cons_append]
  -- a key may stand first or behind a comma, and the machine has a case for each
  rw [run_cons ⟨.colon members member.1, frames⟩ (by cases members <;> rfl)]
  rw [run_cons ⟨.value, .object members member.1 :: frames⟩ rfl]
  exact h.run_append _ _

/-- The rest of an array behind one of its items. -/
theorem run_items {v : JsonValue} {items rest : List JsonValue} {frames : List Frame}
    (h : ∀ item ∈ rest, Taken item) :
    ((rest.map tokens).flatMap (JsonToken.comma :: ·) ++ [JsonToken.closeArray]).foldlM step
        ⟨.behind v, .array items :: frames⟩
      = some ⟨.behind (.array (items ++ v :: rest)), frames⟩ := by
  induction rest generalizing v items with
  | nil => rfl
  | cons item rest ih =>
      have hitem := h item (List.mem_cons_self ..)
      have hrest : ∀ next ∈ rest, Taken next := fun next hnext =>
        h next (List.mem_cons_of_mem _ hnext)
      rw [List.map_cons, List.flatMap_cons, List.append_assoc, List.cons_append]
      rw [run_cons ⟨.value, .array (items ++ [v]) :: frames⟩ rfl]
      rw [hitem.run_append, ih hrest, List.append_assoc, List.singleton_append]

/-- The rest of an object behind the value of one of its members. -/
theorem run_members {v : JsonValue} {key : Text} {members rest : List (Text × JsonValue)}
    {frames : List Frame} (h : ∀ member ∈ rest, Taken member.2) :
    ((rest.map tokensOfMember).flatMap (JsonToken.comma :: ·)
        ++ [JsonToken.closeObject]).foldlM step ⟨.behind v, .object members key :: frames⟩
      = some ⟨.behind (.object (members ++ (key, v) :: rest)), frames⟩ := by
  induction rest generalizing v key members with
  | nil => rfl
  | cons member rest ih =>
      have hvalue := h member (List.mem_cons_self ..)
      have hrest : ∀ next ∈ rest, Taken next.2 := fun next hnext =>
        h next (List.mem_cons_of_mem _ hnext)
      rw [List.map_cons, List.flatMap_cons, List.append_assoc, List.cons_append]
      rw [run_cons ⟨.key (members ++ [(key, v)]), frames⟩ rfl]
      rw [hvalue.run_member, ih hrest, List.append_assoc, List.singleton_append]

theorem taken (v : JsonValue) : Taken v := by
  induction v using JsonValue.induct with
  | null => exact fun _ => rfl
  | bool b => exact fun _ => rfl
  | number n => exact fun _ => rfl
  | string t => exact fun _ => rfl
  | array items ih =>
      intro frames
      rw [tokens, itemTokens_eq_map, List.cons_append]
      rw [run_cons ⟨.value, .array [] :: frames⟩ rfl]
      -- the first item has no comma in front, so an array without items is apart
      cases items with
      | nil => rfl
      | cons item items =>
          have hitem := ih item (List.mem_cons_self ..)
          rw [List.map_cons, separated_cons, List.append_assoc, hitem.run_append]
          exact run_items fun next hnext => ih next (List.mem_cons_of_mem _ hnext)
  | object members ih =>
      intro frames
      rw [tokens, memberTokens_eq_map, List.cons_append]
      rw [run_cons ⟨.key [], frames⟩ rfl]
      cases members with
      | nil => rfl
      | cons member members =>
          have hmember := ih member (List.mem_cons_self ..)
          rw [List.map_cons, separated_cons, List.append_assoc, hmember.run_member]
          exact run_members fun next hnext => ih next (List.mem_cons_of_mem _ hnext)

/-! ## Values and texts -/

/-- **The machine accepts the tokens of a value and no others.** -/
theorem parse?_eq_some_iff {tokens : List JsonToken} {v : JsonValue} :
    parse? tokens = some v ↔ tokens = v.tokens := by
  refine ⟨fun h => ?_, fun h => ?_⟩
  · obtain ⟨last, hrun, hvalue⟩ := Option.bind_eq_some_iff.mp h
    have htaken := run_taken hrun
    -- nothing is open at the end, so what has been taken is the value
    unfold State.value? at hvalue
    split at hvalue
    · rw [Option.some.inj hvalue] at htaken
      simpa [State.taken, State.start, Phase.taken] using htaken.symm
    · exact absurd hvalue (by simp)
  · rw [h, parse?, State.start, taken v []]
    rfl

/-- The text is a JSON text of the value. -/
def IsJson (t : Text) (v : JsonValue) : Prop := Spells t v.tokens

/-- **Reading succeeds on the JSON texts, and gives the value that the text is of.** -/
theorem read?_eq_some_iff {t : Text} {v : JsonValue} : read? t = some v ↔ IsJson t v := by
  refine ⟨fun h => ?_, fun h => ?_⟩
  · obtain ⟨tokens, htokens, hparse⟩ := Option.bind_eq_some_iff.mp h
    rw [parse?_eq_some_iff] at hparse
    rw [IsJson, ← hparse]
    exact tokens?_eq_some_iff.mp htokens
  · rw [read?, tokens?_eq_some_iff.mpr h, Option.bind_some]
    exact parse?_eq_some_iff.mpr rfl

/-- A plain value is read back from its layout. -/
theorem read?_layOut {v : JsonValue} (h : IsPlain v) : read? (v.layOut 0) = some v :=
  read?_eq_some_iff.mpr (spells_layOut h 0)

end DecoderKit.JsonText
