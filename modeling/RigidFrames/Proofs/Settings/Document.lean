/-
  RigidFrames.Proofs.Settings.Document

  Which texts are settings documents, and what they say.

  `Document` lists the values that are documents: objects whose members have
  names and give each of the two settings once at most, and arrays of two
  elements at most.  A text is accepted just when it is written for one of them
  and the tolerance serves, and then says what is given over what is standard
  (`document_decides`).  Only the values under the two names matter, so neither
  the order of members nor other members do (`ofValue?_of_perm`).
-/
import RigidFrames.Proofs.Assembly.Freezing
import RigidFrames.Proofs.Json.Value
import RigidFrames.Settings.Document

namespace RigidFrames.Settings

open RigidFrames.Json

-- ============================================================================
-- Documents
-- ============================================================================

/-- The members of an object by their names, with escapes resolved.  An escape of half of a
    surrogate pair stands for no character, so a name with such a half alone is none. -/
def Named (members : List (CodePoints × Value)) (entries : List (String × Value)) : Prop :=
  List.Forall₂ (fun member entry => member.1.toString? = some entry.1 ∧ member.2 = entry.2)
    members entries

/-- The values that entries give under a name, in their order. -/
def valuesOf (key : String) (entries : List (String × Value)) : List Value :=
  (entries.filter fun entry => entry.1 == key).map (·.2)

/-- The value is this truth value. -/
def IsBool (v : Value) (b : Bool) : Prop :=
  v = .bool b

/-- The value is a number, and this is its double. -/
def IsDouble (v : Value) (x : Float) : Prop :=
  ∃ n, v = .number n ∧ n.toFloat? = some x

/-- The name occurs once at most, and if it does, then with a value that is `b`. -/
inductive AtMostOnce {β : Type} (key : String) (Is : Value → β → Prop)
    (entries : List (String × Value)) : Option β → Prop
  | absent (nowhere : valuesOf key entries = []) : AtMostOnce key Is entries none
  | present {v : Value} {b : β} (one : valuesOf key entries = [v]) (is : Is v b) :
      AtMostOnce key Is entries (some b)

/-- The value is a settings document that gives these two settings, each of them or not. -/
inductive Document : Value → Option Bool → Option Float → Prop
  | object {members : List (CodePoints × Value)} {entries : List (String × Value)}
      {memoise : Option Bool} {tolerance : Option Float} (named : Named members entries)
      (first : AtMostOnce memoiseKey IsBool entries memoise)
      (second : AtMostOnce toleranceKey IsDouble entries tolerance) :
      Document (.object members) memoise tolerance
  | array₀ : Document (.array []) none none
  | array₁ {v : Value} {b : Bool} (first : IsBool v b) : Document (.array [v]) (some b) none
  | array₂ {v w : Value} {b : Bool} {x : Float} (first : IsBool v b) (second : IsDouble w x) :
      Document (.array [v, w]) (some b) (some x)

/-- The standard settings, with what is given in their place. -/
def override (memoise : Option Bool) (tolerance : Option Float) : Settings Float :=
  let usual : Settings Float := standard
  ⟨memoise.getD usual.memoise, tolerance.getD usual.tolerance⟩

-- ============================================================================
-- Reading a value
-- ============================================================================

theorem bool?_eq_some_iff {v : Value} {b : Bool} : bool? v = some b ↔ IsBool v b := by
  cases v <;> simp [bool?, IsBool]

theorem float?_eq_some_iff {v : Value} {x : Float} : float? v = some x ↔ IsDouble v x := by
  cases v <;> simp [float?, IsDouble]

theorem exists_named_iff {members : List (CodePoints × Value)} :
    (∃ entries, Named members entries) ↔
      (members.all fun member => member.1.toString?.isSome) = true := by
  induction members with
  | nil => exact iff_of_true ⟨[], .nil⟩ rfl
  | cons member members ih =>
    rw [List.all_cons, Bool.and_eq_true, ← ih, Option.isSome_iff_exists]
    refine ⟨?_, ?_⟩
    · rintro ⟨entries, named⟩
      cases named with
      | cons here rest => exact ⟨⟨_, here.1⟩, _, rest⟩
    · rintro ⟨⟨name, eq⟩, entries, rest⟩
      exact ⟨(name, member.2) :: entries, .cons ⟨eq, rfl⟩ rest⟩

theorem Named.filter {members : List (CodePoints × Value)} {entries : List (String × Value)}
    (named : Named members entries) (key : String) :
    (members.filter fun member => member.1.toString? == some key).map (·.2) =
      valuesOf key entries := by
  induction named with
  | nil => rfl
  | @cons member entry members entries here _ ih =>
    obtain ⟨name, value⟩ := here
    rw [valuesOf] at ih ⊢
    rw [List.filter_cons, List.filter_cons, name, Option.some_beq_some]
    split
    · rw [List.map_cons, List.map_cons, value, ih]
    · exact ih

/-- What is found under a name, from the values under it. -/
theorem Named.member?_eq {members : List (CodePoints × Value)} {entries : List (String × Value)}
    (named : Named members entries) (key : String) : member? key members =
      match valuesOf key entries with
      | [] => some none
      | [v] => some (some v)
      | _ => none := by
  rw [← named.filter key, member?]
  generalize members.filter (fun member => member.1.toString? == some key) = found
  rcases found with _ | ⟨m, _ | ⟨n, ms⟩⟩ <;> rfl

section

variable {β : Type} {Is : Value → β → Prop}

/-- A name that occurs once at most is found or not, and what is found is what is given. -/
theorem Named.atMostOnce_iff {members : List (CodePoints × Value)}
    {entries : List (String × Value)} (named : Named members entries) {key : String}
    {given : Option β} : AtMostOnce key Is entries given ↔
      ∃ found, member? key members = some found ∧ Option.Rel Is found given := by
  rw [named.member?_eq]
  refine ⟨?_, ?_⟩
  · rintro (nowhere | ⟨one, is⟩)
    · rw [nowhere]
      exact ⟨none, rfl, .none⟩
    · rw [one]
      exact ⟨some _, rfl, .some is⟩
  · rintro ⟨found, eq, related⟩
    split at eq
    · next nowhere =>
      cases eq
      cases related
      exact .absent nowhere
    · next one =>
      cases eq
      cases related with
      | some is => exact .present one is
    · cases eq

/-- What is found is read, and what is not found is as usual. -/
theorem orElse?_eq_some_iff {read? : Value → Option β}
    (reads : ∀ {v b}, read? v = some b ↔ Is v b) {usual b : β} {found : Option Value} :
    orElse? read? usual found = some b ↔
      ∃ given, Option.Rel Is found given ∧ b = given.getD usual := by
  cases found with
  | none =>
    refine ⟨fun eq => ⟨none, .none, (Option.some.inj eq).symm⟩, ?_⟩
    rintro ⟨given, related, rfl⟩
    cases related
    rfl
  | some v =>
    refine ⟨fun eq => ⟨some b, .some (reads.1 eq), rfl⟩, ?_⟩
    rintro ⟨given, related, rfl⟩
    cases related with
    | some is => exact reads.2 is

end

/-- A document is a value with the two fields, and each field is read as what is given. -/
theorem document_iff {v : Value} {memoise : Option Bool} {tolerance : Option Float} :
    Document v memoise tolerance ↔ ∃ first second, fields? v = some (first, second) ∧
      Option.Rel IsBool first memoise ∧ Option.Rel IsDouble second tolerance := by
  refine ⟨?_, ?_⟩
  · rintro (⟨named, first, second⟩ | _ | first | ⟨first, second⟩)
    · obtain ⟨found, eq, related⟩ := named.atMostOnce_iff.1 first
      obtain ⟨found', eq', related'⟩ := named.atMostOnce_iff.1 second
      refine ⟨found, found', ?_, related, related'⟩
      rw [fields?, if_pos (exists_named_iff.1 ⟨_, named⟩), eq, eq']
      rfl
    · exact ⟨none, none, rfl, .none, .none⟩
    · exact ⟨some _, none, rfl, .some first, .none⟩
    · exact ⟨some _, some _, rfl, .some first, .some second⟩
  · rintro ⟨first, second, eq, related, related'⟩
    rw [fields?.eq_def] at eq
    split at eq
    · split at eq
      · next names =>
        obtain ⟨entries, named⟩ := exists_named_iff.2 names
        simp only [Option.bind_eq_bind, Option.bind_eq_some_iff, Option.some.injEq,
          Prod.mk.injEq] at eq
        obtain ⟨found, eq, found', eq', rfl, rfl⟩ := eq
        exact .object named (named.atMostOnce_iff.2 ⟨found, eq, related⟩)
          (named.atMostOnce_iff.2 ⟨found', eq', related'⟩)
      · cases eq
    · cases eq
      cases related
      cases related'
      exact .array₀
    · cases eq
      cases related'
      cases related with
      | some first => exact .array₁ first
    · cases eq
      cases related with
      | some first =>
        cases related' with
        | some second => exact .array₂ first second
    · cases eq

theorem ofValue?_eq_some_iff {v : Value} {c : Settings Float} : ofValue? v = some c ↔
    ∃ memoise tolerance, Document v memoise tolerance ∧
      c = override memoise tolerance := by
  simp only [document_iff, ofValue?, Option.bind_eq_bind, Option.bind_eq_some_iff, Prod.exists,
    orElse?_eq_some_iff bool?_eq_some_iff, orElse?_eq_some_iff float?_eq_some_iff,
    Option.some.injEq]
  refine ⟨?_, ?_⟩
  · rintro ⟨first, second, eq, _, ⟨memoise, related, rfl⟩, _, ⟨tolerance, related', rfl⟩, rfl⟩
    exact ⟨memoise, tolerance, ⟨first, second, eq, related, related'⟩, rfl⟩
  · rintro ⟨memoise, tolerance, ⟨first, second, eq, related, related'⟩, rfl⟩
    exact ⟨first, second, eq, _, ⟨memoise, related, rfl⟩, _, ⟨tolerance, related', rfl⟩, rfl⟩

-- ============================================================================
-- Order and other members
-- ============================================================================

theorem valuesOf_perm {key : String} {entries entries' : List (String × Value)}
    (perm : entries'.Perm entries) : (valuesOf key entries').Perm (valuesOf key entries) :=
  (perm.filter _).map _

theorem valuesOf_append_others {key : String} {entries others : List (String × Value)}
    (other : ∀ entry ∈ others, entry.1 ≠ key) :
    valuesOf key (entries ++ others) = valuesOf key entries := by
  have nothing : others.filter (fun entry => entry.1 == key) = [] :=
    List.filter_eq_nil_iff.2 fun entry mem eq => other entry mem (eq_of_beq eq)
  rw [valuesOf, List.filter_append, nothing, List.append_nil, valuesOf]

section

variable {members members' : List (CodePoints × Value)}
  {entries entries' others : List (String × Value)} (named : Named members entries)
  (named' : Named members' entries') (perm : entries'.Perm (entries ++ others))

include named named' perm

theorem member?_of_perm {key : String} (other : ∀ entry ∈ others, entry.1 ≠ key) :
    member? key members' = member? key members := by
  have values : (valuesOf key entries').Perm (valuesOf key entries) := by
    have same : valuesOf key (entries ++ others) = valuesOf key entries :=
      valuesOf_append_others other
    rw [← same]
    exact valuesOf_perm perm
  rw [named.member?_eq, named'.member?_eq]
  generalize valuesOf key entries = found, valuesOf key entries' = found' at values ⊢
  -- A permutation of one value or none is the same, and of more only the length matters.
  rcases found with _ | ⟨v, _ | ⟨w, vs⟩⟩
  · rw [values.eq_nil]
  · rw [values.eq_singleton]
  · rcases found' with _ | ⟨v', _ | ⟨w', vs'⟩⟩
    · cases values.length_eq
    · cases values.length_eq
    · rfl

theorem ofValue?_of_perm
    (other : ∀ entry ∈ others, entry.1 ≠ memoiseKey ∧ entry.1 ≠ toleranceKey) :
    ofValue? (.object members') = ofValue? (.object members) := by
  have first := member?_of_perm named named' perm fun entry mem => (other entry mem).1
  have second := member?_of_perm named named' perm fun entry mem => (other entry mem).2
  rw [ofValue?, ofValue?, fields?, fields?, first, second, if_pos (exists_named_iff.1 ⟨_, named⟩),
    if_pos (exists_named_iff.1 ⟨_, named'⟩)]

end

-- ============================================================================
-- Texts
-- ============================================================================

theorem isValid_iff {c : Settings Float} :
    c.isValid = true ↔ c.tolerance.isFinite = true ∧ 0 < c.tolerance := by
  have positive : Scalar.lt 0 c.tolerance = true ↔ 0 < c.tolerance := decide_eq_true_iff
  rw [isValid, Bool.and_eq_true, positive]
  rfl

theorem ofText_of_written {text : String} {v : Value} (written : v.Written text) :
    ofText text = match ofValue? v with
      | none => .error (.invalidSettings .malformed)
      | some s =>
        if s.isValid then .ok s else .error (.invalidSettings (.tolerance s.tolerance)) := by
  rw [ofText, Value.ofText?_eq_some_iff.2 written]
  rfl

theorem ofText_eq_ok_iff {text : String} {c : Settings Float} : ofText text = .ok c ↔
    ∃ v, v.Written text ∧ ofValue? v = some c ∧ c.isValid = true := by
  refine ⟨fun accepted => ?_, ?_⟩
  · cases read : Value.ofText? text with
    | none =>
      rw [ofText, read] at accepted
      cases accepted
    | some v =>
      have written := Value.ofText?_eq_some_iff.1 read
      rw [ofText_of_written written] at accepted
      split at accepted
      · cases accepted
      · next given =>
        split at accepted
        · next valid =>
          cases accepted
          exact ⟨v, written, given, valid⟩
        · cases accepted
  · rintro ⟨v, written, given, valid⟩
    rw [ofText_of_written written, given]
    exact if_pos valid

/-- With settings that serve, freezing has other complaints. -/
theorem kind_of_complaint {calls : List (Call Float)} {fault : Fault Float}
    (valid : (Assembly.lastSettings calls).isValid = true)
    (complaint : Assembly.Complaint calls fault) : fault.kind ≠ .invalidSettings := by
  cases complaint with
  | settings invalid =>
    rw [valid] at invalid
    cases invalid
  | frame _ flawed =>
    obtain ⟨f, -, flaw⟩ := flawed
    cases flaw <;> exact nofun
  | cycle => exact nofun

/-- A text is accepted just when it is one JSON value that is a settings document whose tolerance,
    if it is given, and otherwise the standard one, is a positive number; it says what is given
    over what is standard.  Documents of which one holds the members of the other, in any order,
    and any others under other names fare alike.  A model whose last settings come from an accepted
    text is never refused for its settings. -/
theorem document_decides :
    (∀ (text : String) (c : Settings Float), ofText text = .ok c ↔
      ∃ v memoise tolerance, v.Written text ∧ Document v memoise tolerance ∧
        c = override memoise tolerance ∧ c.tolerance.isFinite = true ∧ 0 < c.tolerance) ∧
    (∀ (text text' : String) (members members' : List (CodePoints × Value))
      (entries entries' others : List (String × Value)),
      (Value.object members).Written text → Named members entries →
      (Value.object members').Written text' → Named members' entries' →
      entries'.Perm (entries ++ others) →
      (∀ entry ∈ others, entry.1 ≠ memoiseKey ∧ entry.1 ≠ toleranceKey) →
        ofText text' = ofText text) ∧
    (∀ (text : String) (c : Settings Float) (calls : List (Call Float)) (r : Registry),
      ofText text = .ok c → Assembly.lastSettings calls = c →
      ∀ fault, ((Assembly.built calls).freeze r).answer = .error fault →
        fault.kind ≠ .invalidSettings) := by
  refine ⟨fun text c => ?_, ?_, ?_⟩
  · simp only [ofText_eq_ok_iff, ofValue?_eq_some_iff, isValid_iff]
    refine ⟨?_, ?_⟩
    · rintro ⟨v, written, ⟨memoise, tolerance, document, rfl⟩, serves⟩
      exact ⟨v, memoise, tolerance, written, document, rfl, serves⟩
    · rintro ⟨v, memoise, tolerance, written, document, rfl, serves⟩
      exact ⟨v, written, ⟨memoise, tolerance, document, rfl⟩, serves⟩
  · intro text text' members members' entries entries' others written named written' named' perm
      other
    rw [ofText_of_written written, ofText_of_written written',
      ofValue?_of_perm named named' perm other]
  · rintro text c calls r accepted rfl fault refused
    obtain ⟨-, -, -, valid⟩ := ofText_eq_ok_iff.1 accepted
    rw [Assembly.freeze_eq_error_iff, Assembly.sealFrames_built_eq_error_iff] at refused
    exact kind_of_complaint valid refused

-- ============================================================================
-- A small document
-- ============================================================================

/-- A tolerance of one half, as it is usually written. -/
def halfMember : CodePoints × Value :=
  (toleranceKey.toList.map Char.toNat, .number ⟨false, ['0'], ['5'], none⟩)

/-- A member that means nothing. -/
def otherMember (value : Value) : CodePoints × Value :=
  (['x'.toNat], value)

/-- A number beyond the doubles. -/
def beyond : Value :=
  .number ⟨false, ['1'], [], some (false, ['9', '9', '9'])⟩

theorem half_named : Named [halfMember] [(toleranceKey, halfMember.2)] := by
  have name : halfMember.1.toString? = some toleranceKey := by decide +kernel
  exact .cons ⟨name, rfl⟩ .nil

theorem half_named_among_others :
    Named [otherMember (.array [beyond]), halfMember, otherMember .null]
      [("x", .array [beyond]), (toleranceKey, halfMember.2), ("x", .null)] := by
  have name : halfMember.1.toString? = some toleranceKey := by decide +kernel
  have other : CodePoints.toString? ['x'.toNat] = some "x" := by decide +kernel
  exact .cons ⟨other, rfl⟩ (.cons ⟨name, rfl⟩ (.cons ⟨other, rfl⟩ .nil))

theorem half_document : Document (.object [halfMember]) none (some 0.5) := by
  have first : valuesOf memoiseKey [(toleranceKey, halfMember.2)] = [] := rfl
  have second : valuesOf toleranceKey [(toleranceKey, halfMember.2)] = [halfMember.2] := rfl
  have double : IsDouble halfMember.2 0.5 := ⟨_, rfl, by decide +kernel⟩
  exact .object half_named (.absent first) (.present second double)

/-- Calls with these settings that make no model: the arm hangs nowhere. -/
def armCalls : List (Call Float) :=
  [.configure ⟨true, 0.5⟩, .addUnparented "arm" 1]

theorem freeze_armCalls : ((Assembly.built armCalls).freeze .empty).answer =
    .error (.structural "arm" .parentMissing) := by
  have made : Assembly.built armCalls = ⟨⟨true, 0.5⟩,
      #[⟨groundName, .ground⟩, ⟨"arm", .attached none 1⟩],
      ((∅ : Std.HashMap String FrameId).insert groundName ⟨0⟩).insert "arm" ⟨1⟩, 0⟩ := by
    simp [armCalls, Assembly.built_eq_run, groundName]
  have valid : (⟨true, 0.5⟩ : Settings Float).isValid = true := by decide +kernel
  rw [Assembly.freeze_eq_error_iff, Assembly.sealFrames_eq_error_iff, made]
  refine .inr (.inl ⟨valid, 1, ⟨"arm", .attached none 1⟩, rfl, .parentMissing rfl rfl, ?_⟩)
  intro j lt g found fault flaw
  obtain rfl : j = 0 := Nat.lt_one_iff.1 lt
  obtain rfl : (⟨groundName, .ground⟩ : Frame (Option FrameId) Float) = g := Option.some.inj found
  cases flaw with
  | parentMissing mount | offsetNotFinite mount | offsetNorm mount => cases mount

/-- The tolerance alone, and the same between two members with one name that mean nothing, one of
    them with a number beyond the doubles.  With these settings a frame without a parent is still
    refused, but not for them. -/
theorem document_decides_half :
    let text := "\x7b\"unit_tolerance\":0.5\x7d"
    let text' := "\x7b\"x\":[1e999], \"unit_tolerance\" :0.5,\"x\":null\x7d"
    ofText text = .ok ⟨true, 0.5⟩ ∧ ofText text' = ofText text ∧
      ∃ fault, ((Assembly.built armCalls).freeze .empty).answer = .error fault ∧
        fault.kind ≠ .invalidSettings := by
  intro text text'
  obtain ⟨decides, alike, freezes⟩ := document_decides
  have words : Json.Token.ofText? text = some (Value.object [halfMember]).tokens := by
    decide +kernel
  have words' : Json.Token.ofText? text' = some (Value.object
      [otherMember (.array [beyond]), halfMember, otherMember .null]).tokens := by
    decide +kernel
  have written : (Value.object [halfMember]).Written text := Json.Token.spaced_of_ofText? words
  have accepted : ofText text = .ok ⟨true, 0.5⟩ :=
    (decides text _).2 ⟨_, none, some 0.5, written, half_document, rfl, by decide +kernel,
      by decide +kernel⟩
  have order : [("x", .array [beyond]), (toleranceKey, halfMember.2), ("x", Value.null)].Perm
      ([(toleranceKey, halfMember.2)] ++ [("x", .array [beyond]), ("x", .null)]) := .swap _ _ _
  refine ⟨accepted, ?_, _, freeze_armCalls, freezes text _ _ _ accepted rfl _ freeze_armCalls⟩
  exact alike text text' _ _ _ _ _ written half_named (Json.Token.spaced_of_ofText? words')
    half_named_among_others order (by decide +kernel)

end RigidFrames.Settings
