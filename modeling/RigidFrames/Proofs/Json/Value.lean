/-
  RigidFrames.Proofs.Json.Value

  The text of a JSON value, said without reading it.

  `Value.tokens` are the words of a value, and a value is written as a text
  that consists of these words and blanks.  The reader takes the words of a
  value off a list of words, and nothing else (`ofTokens?_sound`); with the
  steps that it is given it can do so for every value (`ofTokens?_complete`).
  So a text is read as the value that it is written as (`ofText?_eq_some_iff`).
-/
import RigidFrames.Json.Value
import RigidFrames.Proofs.Json.Token

namespace RigidFrames.Json.Value

open Token

-- ============================================================================
-- The words of a value
-- ============================================================================

mutual

/-- The words of a value. -/
def tokens : Value → List Token
  | .null => [.null]
  | .bool b => [.bool b]
  | .number n => [.number n]
  | .string s => [.string s]
  | .array [] => [.openBracket, .closeBracket]
  | .array (item :: items) => .openBracket :: (item.tokens ++ itemsTokens items)
  | .object [] => [.openBrace, .closeBrace]
  | .object (member :: members) => .openBrace :: (memberTokens member ++ membersTokens members)

/-- The words behind an item of an array, if these items are left. -/
def itemsTokens : List Value → List Token
  | [] => [.closeBracket]
  | item :: items => .comma :: (item.tokens ++ itemsTokens items)

/-- The words of a member of an object. -/
def memberTokens : CodePoints × Value → List Token
  | (key, item) => .string key :: .colon :: item.tokens

/-- The words behind a member of an object, if these members are left. -/
def membersTokens : List (CodePoints × Value) → List Token
  | [] => [.closeBrace]
  | member :: members => .comma :: (memberTokens member ++ membersTokens members)

end

/-- The value is written as this text. -/
def Written (v : Value) (text : String) : Prop :=
  Spaced v.tokens text.toList

/-- No value starts with a closing bracket. -/
theorem exists_tokens_head (v : Value) :
    ∃ t ts, v.tokens = t :: ts ∧ t ≠ .closeBracket := by
  cases v with
  | null | bool | number | string => exact ⟨_, _, tokens.eq_def _, nofun⟩
  | array items => cases items <;> exact ⟨_, _, tokens.eq_def _, nofun⟩
  | object members => cases members <;> exact ⟨_, _, tokens.eq_def _, nofun⟩

-- ============================================================================
-- No two numbers touch
-- ============================================================================

theorem apart_cons {t : Token} {ts : List Token} (other : ∀ n, t ≠ .number n)
    (apart : ts.IsChain Apart) : (t :: ts).IsChain Apart := by
  refine List.isChain_cons.2 ⟨fun y _ => ?_, apart⟩
  cases t with
  | number n => exact absurd rfl (other n)
  | _ => trivial

theorem apart_append {t : Token} {ts ts' : List Token} (apart : ts.IsChain Apart)
    (other : ∀ n, t ≠ .number n) (apart' : (t :: ts').IsChain Apart) :
    (ts ++ t :: ts').IsChain Apart := by
  refine List.isChain_append.2 ⟨apart, apart', fun x _ y first => ?_⟩
  obtain rfl : t = y := Option.some.inj first
  cases t with
  | number n => exact absurd rfl (other n)
  | _ => cases x <;> trivial

mutual

theorem tokens_apart : ∀ v : Value, v.tokens.IsChain Apart
  | .null | .bool _ | .number _ | .string _ => by
    rw [tokens]
    exact List.isChain_singleton _
  | .array [] => by
    rw [tokens]
    exact apart_cons nofun (List.isChain_singleton _)
  | .array (item :: items) => by
    rw [tokens]
    exact apart_cons nofun (itemsTokens_apart items _ (tokens_apart item))
  | .object [] => by
    rw [tokens]
    exact apart_cons nofun (List.isChain_singleton _)
  | .object (member :: members) => by
    rw [tokens]
    exact apart_cons nofun (membersTokens_apart members _ (memberTokens_apart member))

theorem itemsTokens_apart : ∀ (items : List Value) (ts : List Token), ts.IsChain Apart →
    (ts ++ itemsTokens items).IsChain Apart
  | [], ts, apart => by
    rw [itemsTokens]
    exact apart_append apart nofun (List.isChain_singleton _)
  | item :: items, ts, apart => by
    rw [itemsTokens]
    exact apart_append apart nofun
      (apart_cons nofun (itemsTokens_apart items _ (tokens_apart item)))

theorem memberTokens_apart : ∀ member : CodePoints × Value,
    (memberTokens member).IsChain Apart
  | (key, item) => by
    rw [memberTokens]
    exact apart_cons nofun (apart_cons nofun (tokens_apart item))

theorem membersTokens_apart : ∀ (members : List (CodePoints × Value)) (ts : List Token),
    ts.IsChain Apart → (ts ++ membersTokens members).IsChain Apart
  | [], ts, apart => by
    rw [membersTokens]
    exact apart_append apart nofun (List.isChain_singleton _)
  | member :: members, ts, apart => by
    rw [membersTokens]
    exact apart_append apart nofun
      (apart_cons nofun (membersTokens_apart members _ (memberTokens_apart member)))

end

-- ============================================================================
-- Reading takes the words of a value
-- ============================================================================

/-- Whatever is read within so many steps are the words of what it is read as. -/
structure Sound (fuel : Nat) : Prop where
  value : ∀ {ts rest : List Token} {v : Value},
    ofTokens? fuel ts = some (v, rest) → ts = v.tokens ++ rest
  items : ∀ {ts rest : List Token} {l : List Value}, items? fuel ts = some (l, rest) →
    ∃ item items, l = item :: items ∧ ts = item.tokens ++ (itemsTokens items ++ rest)
  members : ∀ {ts rest : List Token} {l : List (CodePoints × Value)},
    members? fuel ts = some (l, rest) → ∃ member members, l = member :: members ∧
      ts = memberTokens member ++ (membersTokens members ++ rest)

theorem Sound.zero : Sound 0 where
  value read := by cases (ofTokens?.eq_1 _).symm.trans read
  items read := by cases (items?.eq_1 _).symm.trans read
  members read := by cases (members?.eq_1 _).symm.trans read

section

variable {fuel : Nat} (sound : Sound fuel)

include sound

theorem Sound.value_succ {ts rest : List Token} {v : Value}
    (read : ofTokens? (fuel + 1) ts = some (v, rest)) : ts = v.tokens ++ rest := by
  rw [ofTokens?.eq_def] at read
  split at read
  · cases read
  -- The values of one word, and the array without items.
  iterate 5
    · cases read
      rw [tokens]
      rfl
  · next more _ steps =>
    cases steps
    split at read
    · next found =>
      cases read
      obtain ⟨item, items, rfl, rfl⟩ := sound.items found
      rw [tokens, List.cons_append, List.append_assoc]
    · cases read
  · cases read
    rw [tokens]
    rfl
  · next more _ steps =>
    cases steps
    split at read
    · next found =>
      cases read
      obtain ⟨member, members, rfl, rfl⟩ := sound.members found
      rw [tokens, List.cons_append, List.append_assoc]
    · cases read
  · cases read

theorem Sound.items_succ {ts rest : List Token} {l : List Value}
    (read : items? (fuel + 1) ts = some (l, rest)) :
    ∃ item items, l = item :: items ∧ ts = item.tokens ++ (itemsTokens items ++ rest) := by
  rw [items?] at read
  split at read
  · next item behind first =>
    cases read
    refine ⟨item, [], rfl, ?_⟩
    rw [sound.value first, itemsTokens]
    rfl
  · next item behind first =>
    split at read
    · next found =>
      cases read
      obtain ⟨next, items, rfl, rfl⟩ := sound.items found
      refine ⟨item, next :: items, rfl, ?_⟩
      rw [sound.value first, itemsTokens, List.cons_append, List.append_assoc]
    · cases read
  · cases read

theorem Sound.members_succ {ts rest : List Token} {l : List (CodePoints × Value)}
    (read : members? (fuel + 1) ts = some (l, rest)) : ∃ member members, l = member :: members ∧
      ts = memberTokens member ++ (membersTokens members ++ rest) := by
  rw [members?.eq_def] at read
  split at read
  · cases read
  · next key more steps =>
    cases steps
    split at read
    · next item behind first =>
      cases read
      refine ⟨(key, item), [], rfl, ?_⟩
      rw [sound.value first, memberTokens, membersTokens]
      rfl
    · next item behind first =>
      split at read
      · next found =>
        cases read
        obtain ⟨next, members, rfl, rfl⟩ := sound.members found
        refine ⟨(key, item), next :: members, rfl, ?_⟩
        rw [sound.value first, membersTokens, List.cons_append, List.append_assoc]
        rfl
      · cases read
    · cases read
  · cases read

end

theorem ofTokens?_sound (fuel : Nat) : Sound fuel := by
  induction fuel with
  | zero => exact .zero
  | succ fuel sound => exact ⟨sound.value_succ, sound.items_succ, sound.members_succ⟩

-- ============================================================================
-- The words of a value can be read
-- ============================================================================

/-- Two steps for each word are enough for these words. -/
structure Complete (fuel : Nat) : Prop where
  value : ∀ (v : Value) (rest : List Token), 2 * v.tokens.length ≤ fuel →
    ofTokens? fuel (v.tokens ++ rest) = some (v, rest)
  items : ∀ (item : Value) (items : List Value) (rest : List Token),
    2 * (item.tokens ++ itemsTokens items).length ≤ fuel →
      items? fuel (item.tokens ++ (itemsTokens items ++ rest)) = some (item :: items, rest)
  members : ∀ (member : CodePoints × Value) (members : List (CodePoints × Value))
    (rest : List Token), 2 * (memberTokens member ++ membersTokens members).length ≤ fuel →
      members? fuel (memberTokens member ++ (membersTokens members ++ rest)) =
        some (member :: members, rest)

theorem tokens_pos (v : Value) : 0 < v.tokens.length := by
  obtain ⟨t, ts, eq, -⟩ := v.exists_tokens_head
  rw [eq]
  exact Nat.succ_pos _

theorem Complete.zero : Complete 0 where
  value v rest enough := by
    have := v.tokens_pos
    omega
  items item items rest enough := by
    have := item.tokens_pos
    rw [List.length_append] at enough
    omega
  members member members rest enough := by
    rw [memberTokens, List.cons_append, List.length_cons] at enough
    omega

section

variable {fuel : Nat} (complete : Complete fuel)

include complete

theorem Complete.value_succ (v : Value) (rest : List Token)
    (enough : 2 * v.tokens.length ≤ fuel + 1) :
    ofTokens? (fuel + 1) (v.tokens ++ rest) = some (v, rest) := by
  cases v with
  | null | bool | number | string => rw [tokens]; rfl
  | array items =>
    cases items with
    | nil => rw [tokens]; rfl
    | cons item items =>
      rw [tokens, List.length_cons] at enough
      obtain ⟨t, ts, head, other⟩ := item.exists_tokens_head
      have read := complete.items item items rest (by omega)
      rw [tokens, List.cons_append, List.append_assoc, ofTokens?, read]
      -- No item starts with the bracket that closes an array without items.
      rw [head]
      exact fun _ eq => other (List.cons.inj eq).1
  | object members =>
    cases members with
    | nil => rw [tokens]; rfl
    | cons member members =>
      rw [tokens, List.length_cons] at enough
      have read := complete.members member members rest (by omega)
      rw [tokens, List.cons_append, List.append_assoc, ofTokens?, read]
      rw [memberTokens]
      exact fun _ eq => nomatch (List.cons.inj eq).1

theorem Complete.items_succ (item : Value) (items : List Value) (rest : List Token)
    (enough : 2 * (item.tokens ++ itemsTokens items).length ≤ fuel + 1) :
    items? (fuel + 1) (item.tokens ++ (itemsTokens items ++ rest)) =
      some (item :: items, rest) := by
  rw [List.length_append] at enough
  cases items with
  | nil =>
    rw [itemsTokens, List.length_singleton] at enough
    rw [items?, complete.value item _ (by omega), itemsTokens]
    rfl
  | cons next items =>
    rw [itemsTokens, List.length_cons] at enough
    rw [items?, complete.value item _ (by omega), itemsTokens, List.cons_append,
      List.append_assoc]
    simp only
    rw [complete.items next items rest (by omega)]

theorem Complete.members_succ (member : CodePoints × Value)
    (members : List (CodePoints × Value)) (rest : List Token)
    (enough : 2 * (memberTokens member ++ membersTokens members).length ≤ fuel + 1) :
    members? (fuel + 1) (memberTokens member ++ (membersTokens members ++ rest)) =
      some (member :: members, rest) := by
  obtain ⟨key, item⟩ := member
  rw [memberTokens, List.length_append, List.length_cons, List.length_cons] at enough
  rw [memberTokens, List.cons_append, List.cons_append, members?,
    complete.value item _ (by omega)]
  cases members with
  | nil =>
    rw [membersTokens]
    rfl
  | cons next members =>
    rw [membersTokens, List.length_cons] at enough
    rw [membersTokens, List.cons_append, List.append_assoc]
    simp only
    rw [complete.members next members rest (by omega)]

end

theorem ofTokens?_complete (fuel : Nat) : Complete fuel := by
  induction fuel with
  | zero => exact .zero
  | succ fuel complete => exact ⟨complete.value_succ, complete.items_succ, complete.members_succ⟩

/-- A text is read as the value that it is written as. -/
theorem ofText?_eq_some_iff {text : String} {v : Value} :
    ofText? text = some v ↔ v.Written text := by
  rw [ofText?, Option.bind_eq_bind, Option.bind_eq_some_iff]
  refine ⟨?_, fun written => ?_⟩
  · rintro ⟨ts, words, read⟩
    split at read
    · next found =>
      cases read
      have eq := (ofTokens?_sound _).value found
      rw [List.append_nil] at eq
      rw [Written, ← eq]
      exact spaced_of_ofText? words
    · cases read
  · refine ⟨v.tokens, ofText?_of_spaced written v.tokens_apart, ?_⟩
    have read := (ofTokens?_complete (2 * v.tokens.length + 1)).value v [] (Nat.le_succ _)
    rw [List.append_nil] at read
    rw [read]

end RigidFrames.Json.Value
