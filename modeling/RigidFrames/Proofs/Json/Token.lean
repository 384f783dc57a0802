/-
  RigidFrames.Proofs.Json.Token

  The words of a JSON text, said without reading it.

  `Token.SpelledAs` lists the spellings of each word, and `Token.Spaced` the
  texts of some words: their spellings one after the other, with blanks before,
  between and behind them.  The reader finds the words of a text and no others
  (`spaced_of_ofText?`, `ofText?_of_spaced`).  A number is read as far as it
  reaches, so for the second direction two numbers must not touch; in a JSON
  text there is always another word between them.
-/
import RigidFrames.Json.Token
import Mathlib.Data.List.Chain
import Mathlib.Data.List.TakeWhile

namespace RigidFrames.Json

open RigidFrames.Decimal

-- ============================================================================
-- Numbers
-- ============================================================================

namespace Numeral

/-- Digits, one at least. -/
def Digits (ds : List Char) : Prop :=
  ds ≠ [] ∧ ∀ c ∈ ds, isDigit c = true

/-- Digits before the point: a zero in front stands alone. -/
def Whole (ds : List Char) : Prop :=
  Digits ds ∧ (ds.head? = some '0' → ds = ['0'])

/-- The digits behind the point, and how they are written. -/
inductive Fraction : List Char → List Char → Prop
  | none : Fraction [] []
  | some {ds : List Char} (digits : Digits ds) : Fraction ds ('.' :: ds)

/-- How the sign of a power of ten is written. -/
inductive PowerSign : Bool → List Char → Prop
  | none : PowerSign false []
  | plus : PowerSign false ['+']
  | minus : PowerSign true ['-']

/-- A power of ten, and how it is written. -/
inductive Power : Option (Bool × List Char) → List Char → Prop
  | none : Power none []
  | some {mark : Char} {negative : Bool} {sign ds : List Char} (marks : mark = 'e' ∨ mark = 'E')
      (signed : PowerSign negative sign) (digits : Digits ds) :
      Power (some (negative, ds)) (mark :: (sign ++ ds))

/-- The ways to write a number. -/
inductive SpelledAs : Numeral → List Char → Prop
  | parts {negative : Bool} {whole fraction fs es : List Char}
      {exponent : Option (Bool × List Char)} (before : Whole whole)
      (behind : Fraction fraction fs) (power : Power exponent es) :
      SpelledAs ⟨negative, whole, fraction, exponent⟩
        ((if negative then ['-'] else []) ++ (whole ++ (fs ++ es)))

/-- The text does not continue digits. -/
def Stops (rest : List Char) : Prop :=
  ∀ c, rest.head? = some c → isDigit c = false

/-- The text does not continue a number. -/
def Ended (rest : List Char) : Prop :=
  ∀ c, rest.head? = some c → isDigit c = false ∧ c ≠ '.' ∧ c ≠ 'e' ∧ c ≠ 'E'

theorem takeWhile_stops {rest : List Char} (stops : Stops rest) : rest.takeWhile isDigit = [] := by
  cases rest with
  | nil => rfl
  | cons c cs => rw [List.takeWhile_cons, stops c rfl, if_neg Bool.false_ne_true]

theorem dropWhile_stops {rest : List Char} (stops : Stops rest) :
    rest.dropWhile isDigit = rest := by
  cases rest with
  | nil => rfl
  | cons c cs => rw [List.dropWhile_cons, stops c rfl, if_neg Bool.false_ne_true]

theorem takeWhile_digits {ds rest : List Char} (digits : Digits ds) (stops : Stops rest) :
    (ds ++ rest).takeWhile isDigit = ds := by
  rw [List.takeWhile_append_of_pos digits.2, takeWhile_stops stops, List.append_nil]

theorem dropWhile_digits {ds rest : List Char} (digits : Digits ds) (stops : Stops rest) :
    (ds ++ rest).dropWhile isDigit = rest := by
  rw [List.dropWhile_append_of_pos digits.2, dropWhile_stops stops]

/-- The digits at the start of a text and what is behind them. -/
theorem digits_of_takeWhile {cs : List Char} (some_digit : cs.takeWhile isDigit ≠ []) :
    Digits (cs.takeWhile isDigit) ∧ cs = cs.takeWhile isDigit ++ cs.dropWhile isDigit :=
  ⟨⟨some_digit, fun _ mem => List.mem_takeWhile_imp mem⟩,
    (List.takeWhile_append_dropWhile).symm⟩

theorem Whole.exists_head {ds : List Char} (whole : Whole ds) :
    ∃ c cs, ds = c :: cs ∧ isDigit c = true := by
  obtain ⟨c, cs, rfl⟩ := List.exists_cons_of_ne_nil whole.1.1
  exact ⟨c, cs, rfl, whole.1.2 c List.mem_cons_self⟩

theorem Fraction.stops {ds fs rest : List Char} (fraction : Fraction ds fs) (stops : Stops rest) :
    Stops (fs ++ rest) := by
  cases fraction with
  | none => exact stops
  | some digits => rintro c ⟨⟩; rfl

theorem Power.stops {e : Option (Bool × List Char)} {es rest : List Char}
    (power : Power e es) (ended : Ended rest) :
    Stops (es ++ rest) ∧ (es ++ rest).head? ≠ Option.some '.' := by
  cases power with
  | none => exact ⟨fun c first => (ended c first).1, fun first => (ended _ first).2.1 rfl⟩
  | some marks signed digits =>
    rcases marks with rfl | rfl
    · exact ⟨by rintro c ⟨⟩; rfl, by rintro ⟨⟩⟩
    · exact ⟨by rintro c ⟨⟩; rfl, by rintro ⟨⟩⟩

end Numeral

namespace Token

open Numeral

variable {cs rest : List Char}

-- Each part of a number is read when it is there, and then nothing else.

theorem whole?_append {ds : List Char} (whole : Whole ds) (stops : Stops rest) :
    whole? (ds ++ rest) = some (ds, rest) := by
  obtain ⟨digits, zero⟩ := whole
  by_cases first : ds.head? = some '0'
  · rw [zero first]
    rfl
  · obtain ⟨c, cs, rfl⟩ := List.exists_cons_of_ne_nil digits.1
    have other : c ≠ '0' := fun eq => first (eq ▸ rfl)
    rw [whole?, takeWhile_digits digits stops, dropWhile_digits digits stops]
    exact fun _ eq => other (List.cons.inj eq).1

theorem whole?_sound {ds : List Char} (read : whole? cs = some (ds, rest)) :
    Whole ds ∧ cs = ds ++ rest := by
  rw [whole?.eq_def] at read
  split at read
  · cases read
    exact ⟨⟨⟨nofun, List.forall_mem_singleton.2 rfl⟩, fun _ => rfl⟩, rfl⟩
  · next other =>
    split at read
    · cases read
    · next some_digit =>
      cases read
      obtain ⟨digits, split⟩ := digits_of_takeWhile some_digit
      refine ⟨⟨digits, fun zero => ?_⟩, split⟩
      obtain ⟨more, eq⟩ : ∃ more, cs = '0' :: more := by
        rw [split]
        obtain ⟨c, ds, eq⟩ := List.exists_cons_of_ne_nil digits.1
        rw [eq] at zero ⊢
        cases zero
        exact ⟨_, rfl⟩
      exact (other more eq).elim

theorem fraction?_append {ds fs : List Char} (fraction : Fraction ds fs) (ended : Stops rest)
    (point : rest.head? ≠ some '.') : fraction? (fs ++ rest) = some (ds, rest) := by
  cases fraction with
  | none =>
    rw [List.nil_append, fraction?.eq_def]
    split
    · exact absurd rfl point
    · rfl
  | some digits =>
    obtain ⟨c, cs, rfl⟩ := List.exists_cons_of_ne_nil digits.1
    rw [List.cons_append, fraction?, takeWhile_digits digits ended, dropWhile_digits digits ended]

theorem fraction?_sound {ds : List Char} (read : fraction? cs = some (ds, rest)) :
    ∃ fs, Fraction ds fs ∧ cs = fs ++ rest := by
  rw [fraction?.eq_def] at read
  split at read
  · split at read
    · cases read
    · next more some_digit =>
      cases read
      obtain ⟨digits, split⟩ := digits_of_takeWhile some_digit
      exact ⟨_, .some digits, congrArg ('.' :: ·) split⟩
  · cases read
    exact ⟨[], .none, rfl⟩

theorem sign_append {negative : Bool} {sign ds : List Char} (signed : PowerSign negative sign)
    (digits : Digits ds) : Literal.sign (sign ++ (ds ++ rest)) = (negative, ds ++ rest) := by
  cases signed with
  | none =>
    obtain ⟨c, cs, rfl⟩ := List.exists_cons_of_ne_nil digits.1
    have digit : isDigit c = true := digits.2 c List.mem_cons_self
    show Literal.sign (c :: (cs ++ rest)) = _
    rw [Literal.sign.eq_def]
    split
    · next eq => cases eq; exact absurd digit (by decide)
    · next eq => cases eq; exact absurd digit (by decide)
    · rfl
  | plus => rfl
  | minus => rfl

theorem sign_sound {negative : Bool} (read : Literal.sign cs = (negative, rest)) :
    ∃ sign, PowerSign negative sign ∧ cs = sign ++ rest := by
  rw [Literal.sign.eq_def] at read
  split at read
  · cases read
    exact ⟨_, .minus, rfl⟩
  · cases read
    exact ⟨_, .plus, rfl⟩
  · cases read
    exact ⟨_, .none, rfl⟩

theorem exponent?_append {e : Option (Bool × List Char)} {es : List Char} (power : Power e es)
    (ended : Ended rest) : exponent? (es ++ rest) = some (e, rest) := by
  have stops : Stops rest := fun c first => (ended c first).1
  cases power with
  | none =>
    cases rest with
    | nil => rfl
    | cons c cs =>
      obtain ⟨-, -, small, capital⟩ := ended c rfl
      rw [List.nil_append, exponent?, if_neg (not_or.2 ⟨small, capital⟩)]
  | @some mark negative sign ds marks signed digits =>
    rw [List.cons_append, List.append_assoc, exponent?, if_pos marks, sign_append signed digits]
    simp only [takeWhile_digits digits stops, dropWhile_digits digits stops]
    obtain ⟨c, cs, rfl⟩ := List.exists_cons_of_ne_nil digits.1
    rfl

theorem exponent?_sound {e : Option (Bool × List Char)} (read : exponent? cs = some (e, rest)) :
    ∃ es, Power e es ∧ cs = es ++ rest := by
  rw [exponent?.eq_def] at read
  split at read
  · next mark more =>
    split at read
    · next marks =>
      obtain ⟨sign, signed, whole⟩ := sign_sound (Prod.eta (Literal.sign more)).symm
      simp only at read
      split at read
      · cases read
      · next some_digit =>
        cases read
        obtain ⟨digits, split⟩ := digits_of_takeWhile some_digit
        refine ⟨_, .some marks signed digits, ?_⟩
        rw [List.cons_append, List.append_assoc, ← split, ← whole]
    · cases read
      exact ⟨[], .none, rfl⟩
  · cases read
    exact ⟨[], .none, rfl⟩

/-- The parts of a number behind its sign. -/
def unsigned? (negative : Bool) (cs : List Char) : Option (Numeral × List Char) := do
  let (whole, rest) ← whole? cs
  let (fraction, rest) ← fraction? rest
  let (exponent, rest) ← exponent? rest
  some (⟨negative, whole, fraction, exponent⟩, rest)

theorem number?_minus (cs : List Char) : number? ('-' :: cs) = unsigned? true cs := rfl

theorem number?_unsigned (other : cs.head? ≠ some '-') : number? cs = unsigned? false cs := by
  rw [number?, unsigned?]
  exact fun _ eq => other (eq ▸ rfl)

theorem unsigned?_append {negative : Bool} {whole fraction fs es : List Char}
    {exponent : Option (Bool × List Char)} (before : Whole whole) (behind : Fraction fraction fs)
    (power : Power exponent es) (ended : Ended rest) :
    unsigned? negative (whole ++ (fs ++ (es ++ rest))) =
      some (⟨negative, whole, fraction, exponent⟩, rest) := by
  obtain ⟨stops, point⟩ := power.stops ended
  rw [unsigned?, whole?_append before (behind.stops stops)]
  simp only [Option.bind_eq_bind, Option.bind_some, fraction?_append behind stops point,
    exponent?_append power ended]

theorem number?_append {n : Numeral} {w : List Char} (spelled : n.SpelledAs w)
    (ended : Ended rest) : number? (w ++ rest) = some (n, rest) := by
  obtain @⟨negative, whole, fraction, fs, es, exponent, before, behind, power⟩ := spelled
  rw [List.append_assoc, List.append_assoc, List.append_assoc]
  cases negative with
  | true => exact (number?_minus _).trans (unsigned?_append before behind power ended)
  | false =>
    obtain ⟨c, cs, rfl, digit⟩ := before.exists_head
    have other : c ≠ '-' := fun eq => absurd (eq ▸ digit) (by decide)
    refine (number?_unsigned ?_).trans (unsigned?_append before behind power ended)
    exact fun eq => other (Option.some.inj eq)

theorem unsigned?_sound {negative : Bool} {n : Numeral}
    (read : unsigned? negative cs = some (n, rest)) :
    ∃ w, n.SpelledAs ((if negative then ['-'] else []) ++ w) ∧ cs = w ++ rest := by
  rw [unsigned?] at read
  simp only [Option.bind_eq_bind, Option.bind_eq_some_iff, Prod.exists] at read
  obtain ⟨whole, cs₁, first, fraction, cs₂, second, exponent, cs₃, third, eq⟩ := read
  cases eq
  obtain ⟨before, rfl⟩ := whole?_sound first
  obtain ⟨fs, behind, rfl⟩ := fraction?_sound second
  obtain ⟨es, power, rfl⟩ := exponent?_sound third
  exact ⟨_, .parts before behind power, by rw [List.append_assoc, List.append_assoc]⟩

theorem number?_sound {n : Numeral} (read : number? cs = some (n, rest)) :
    ∃ w, n.SpelledAs w ∧ cs = w ++ rest := by
  by_cases minus : cs.head? = some '-'
  · obtain ⟨more, rfl⟩ := List.head?_eq_some_iff.1 minus
    obtain ⟨w, spelled, rfl⟩ := unsigned?_sound ((number?_minus more).symm.trans read)
    exact ⟨_, spelled, rfl⟩
  · exact unsigned?_sound ((number?_unsigned minus).symm.trans read)

-- ============================================================================
-- Strings
-- ============================================================================

/-- Code units, and how they are written between quotes: a character as itself, unless it is a
    quote, a backslash or a control character, or an escape. -/
inductive Body : List Nat → List Char → Prop
  | nil : Body [] []
  | plain {c : Char} {units : List Nat} {cs : List Char} (quote : c ≠ '"') (escape : c ≠ '\\')
      (control : 0x20 ≤ c.toNat) (rest : Body units cs) : Body (c.toNat :: units) (c :: cs)
  | short {c : Char} {n : Nat} {units : List Nat} {cs : List Char}
      (letter : shortEscape? c = some n) (rest : Body units cs) :
      Body (n :: units) ('\\' :: c :: cs)
  | hex {a b c d : Char} {x y z w : Nat} {units : List Nat} {cs : List Char}
      (first : hexDigit? a = some x) (second : hexDigit? b = some y) (third : hexDigit? c = some z)
      (fourth : hexDigit? d = some w) (rest : Body units cs) :
      Body ((((x * 16 + y) * 16 + z) * 16 + w) :: units) ('\\' :: 'u' :: a :: b :: c :: d :: cs)

theorem stringBody?_append {units : List Nat} (body : Body units cs) (before : List Nat) :
    stringBody? (cs ++ '"' :: rest) before = some (units.reverse ++ before, rest) := by
  induction body generalizing before with
  | nil => rfl
  | @plain c units cs quote escape control _ ih =>
    have fine : ¬(c = '\\' ∨ c.toNat < 0x20) := not_or.2 ⟨escape, Nat.not_lt.2 control⟩
    rw [List.cons_append, stringBody?, if_neg fine, ih, List.reverse_cons, List.append_assoc]
    · rfl
    · exact quote
    · exact fun _ _ _ _ _ eq => absurd eq escape
    · exact fun _ _ eq => absurd eq escape
  | @short c n units cs letter _ ih =>
    have other : c ≠ 'u' := fun eq => nomatch (eq ▸ letter : shortEscape? 'u' = some n)
    rw [List.cons_append, List.cons_append, stringBody?, letter]
    · show stringBody? (cs ++ '"' :: rest) (n :: before) = _
      rw [ih, List.reverse_cons, List.append_assoc]
      rfl
    · exact fun _ _ _ _ _ eq => absurd eq other
  | @hex a b c d x y z w units cs first second third fourth _ ih =>
    show stringBody? ('\\' :: 'u' :: a :: b :: c :: d :: (cs ++ '"' :: rest)) before = _
    rw [stringBody?, first, second, third, fourth]
    show stringBody? (cs ++ '"' :: rest) (_ :: before) = _
    rw [ih, List.reverse_cons, List.append_assoc]
    rfl

theorem stringBody?_sound {before after : List Nat}
    (read : stringBody? cs before = some (after, rest)) :
    ∃ units w, Body units w ∧ cs = w ++ '"' :: rest ∧ after = units.reverse ++ before := by
  fun_induction stringBody? cs before with
  | case1 =>
    cases read
    exact ⟨[], [], .nil, rfl, rfl⟩
  | case2 a b c d cs before x y z w fourth third second first ih =>
    obtain ⟨units, more, body, rfl, rfl⟩ := ih read
    exact ⟨_, _, .hex first second third fourth body, rfl, by simp⟩
  | case4 c cs before _ n letter ih =>
    obtain ⟨units, more, body, rfl, rfl⟩ := ih read
    exact ⟨_, _, .short letter body, rfl, by simp⟩
  | case7 c cs before quote _ _ fine ih =>
    obtain ⟨units, more, body, rfl, rfl⟩ := ih read
    obtain ⟨escape, control⟩ := not_or.1 fine
    exact ⟨_, _, .plain quote escape (Nat.not_lt.1 control) body, rfl, by simp⟩
  | case3 | case5 | case6 | case8 => cases read

-- ============================================================================
-- Words
-- ============================================================================

/-- The ways to write a word. -/
inductive SpelledAs : Token → List Char → Prop
  | openBracket : SpelledAs .openBracket ['[']
  | closeBracket : SpelledAs .closeBracket [']']
  | openBrace : SpelledAs .openBrace ['\x7b']
  | closeBrace : SpelledAs .closeBrace ['\x7d']
  | comma : SpelledAs .comma [',']
  | colon : SpelledAs .colon [':']
  | null : SpelledAs .null ['n', 'u', 'l', 'l']
  | true : SpelledAs (.bool true) ['t', 'r', 'u', 'e']
  | false : SpelledAs (.bool false) ['f', 'a', 'l', 's', 'e']
  | number {n : Numeral} {w : List Char} (spelled : n.SpelledAs w) : SpelledAs (.number n) w
  | string {units : List Nat} {w : List Char} (body : Body units w) :
      SpelledAs (.string (CodePoints.joinPairs units)) ('"' :: (w ++ ['"']))

/-- Two words that cannot be read as one where they touch: not both are numbers. -/
def Apart : Token → Token → Prop
  | .number _, .number _ => False
  | _, _ => True

/-- The text consists of blanks. -/
def Blanks (cs : List Char) : Prop :=
  ∀ c ∈ cs, isBlank c = Bool.true

/-- The text consists of these words, with blanks before, between and behind them. -/
inductive Spaced : List Token → List Char → Prop
  | nil {blanks : List Char} (blank : Blanks blanks) : Spaced [] blanks
  | cons {t : Token} {ts : List Token} {blanks w cs : List Char} (blank : Blanks blanks)
      (word : t.SpelledAs w) (more : Spaced ts cs) : Spaced (t :: ts) (blanks ++ (w ++ cs))

theorem exists_head_of_number {n : Numeral} {w : List Char} (spelled : n.SpelledAs w) :
    ∃ c cs, w = c :: cs ∧ (c = '-' ∨ isDigit c = Bool.true) := by
  obtain @⟨negative, whole, _, fs, es, _, before, -, -⟩ := spelled
  cases negative with
  | true => exact ⟨'-', _, rfl, .inl rfl⟩
  | false =>
    obtain ⟨c, cs, rfl, digit⟩ := before.exists_head
    exact ⟨c, cs ++ (fs ++ es), rfl, .inr digit⟩

theorem next?_of_number {c : Char} (first : c = '-' ∨ isDigit c = Bool.true) :
    next? (c :: cs) = (number? (c :: cs)).map fun (n, rest) => (number n, rest) := by
  rw [next?]
  all_goals
    rintro _ eq
    cases eq
    exact absurd first (by decide)

theorem next?_append {t : Token} {w : List Char} (spelled : t.SpelledAs w)
    (ended : ∀ n, t = .number n → Ended rest) : next? (w ++ rest) = some (t, rest) := by
  cases spelled with
  | openBracket | closeBracket | openBrace | closeBrace | comma | colon | null | true | false =>
    rfl
  | @number n w spelled =>
    have read := number?_append spelled (ended n rfl)
    obtain ⟨c, cs, rfl, first⟩ := exists_head_of_number spelled
    rw [List.cons_append, next?_of_number first, ← List.cons_append, read]
    rfl
  | @string units w body =>
    have read : stringBody? (w ++ ['"'] ++ rest) [] = some (units.reverse ++ [], rest) := by
      rw [List.append_assoc]
      exact stringBody?_append body []
    rw [List.cons_append, next?, read, Option.map_some]
    simp only [List.append_nil, List.reverse_reverse]

theorem next?_sound {t : Token} (read : next? cs = some (t, rest)) :
    ∃ w, t.SpelledAs w ∧ cs = w ++ rest := by
  rw [next?.eq_def] at read
  split at read
  · cases read; exact ⟨_, .openBracket, rfl⟩
  · cases read; exact ⟨_, .closeBracket, rfl⟩
  · cases read; exact ⟨_, .openBrace, rfl⟩
  · cases read; exact ⟨_, .closeBrace, rfl⟩
  · cases read; exact ⟨_, .comma, rfl⟩
  · cases read; exact ⟨_, .colon, rfl⟩
  · cases read; exact ⟨_, .null, rfl⟩
  · cases read; exact ⟨_, .true, rfl⟩
  · cases read; exact ⟨_, .false, rfl⟩
  · obtain ⟨⟨reversed, behind⟩, found, eq⟩ := Option.map_eq_some_iff.1 read
    cases eq
    obtain ⟨units, w, body, rfl, rfl⟩ := stringBody?_sound found
    refine ⟨'"' :: (w ++ ['"']), ?_, by rw [List.cons_append, List.append_assoc]; rfl⟩
    rw [List.append_nil, List.reverse_reverse]
    exact .string body
  · obtain ⟨⟨n, behind⟩, number, eq⟩ := Option.map_eq_some_iff.1 read
    cases eq
    obtain ⟨w, spelled, rfl⟩ := number?_sound number
    exact ⟨w, .number spelled, rfl⟩

-- ============================================================================
-- Texts
-- ============================================================================

theorem not_blank_of_number {c : Char} (first : c = '-' ∨ isDigit c = Bool.true) :
    isBlank c = Bool.false := by
  rw [← Bool.not_eq_true]
  intro blank
  simp only [isBlank, Bool.or_eq_true, decide_eq_true_eq] at blank
  rcases blank with ((rfl | rfl) | rfl) | rfl <;> exact absurd first (by decide)

/-- A word starts with a character that is no blank, and that only in a number continues one. -/
theorem SpelledAs.exists_head {t : Token} {w : List Char} (spelled : t.SpelledAs w) :
    ∃ c cs, w = c :: cs ∧ isBlank c = Bool.false ∧
      ((∀ n, t ≠ .number n) → isDigit c = Bool.false ∧ c ≠ '.' ∧ c ≠ 'e' ∧ c ≠ 'E') := by
  cases spelled with
  | openBracket | closeBracket | openBrace | closeBrace | comma | colon | null | true | false
  | string => exact ⟨_, _, rfl, by decide, fun _ => by decide⟩
  | @number n w spelled =>
    obtain ⟨c, cs, rfl, first⟩ := exists_head_of_number spelled
    exact ⟨c, cs, rfl, not_blank_of_number first, fun other => absurd rfl (other n)⟩

theorem dropWhile_blanks {blanks : List Char} (blank : Blanks blanks) :
    (blanks ++ cs).dropWhile isBlank = cs.dropWhile isBlank :=
  List.dropWhile_append_of_pos blank

/-- Blanks and other words do not continue a number. -/
theorem Spaced.ended {n : Numeral} {ts : List Token} (spaced : Spaced ts cs)
    (apart : ∀ t ∈ ts.head?, Apart (.number n) t) : Ended cs := by
  have blank_ends {blanks rest : List Char} (blank : Blanks blanks) (ended : Ended rest) :
      Ended (blanks ++ rest) := by
    cases blanks with
    | nil => exact ended
    | cons c blanks =>
      rintro _ ⟨⟩
      have first := blank c List.mem_cons_self
      simp only [isBlank, Bool.or_eq_true, decide_eq_true_eq] at first
      rcases first with ((rfl | rfl) | rfl) | rfl <;> decide
  cases spaced with
  | @nil blanks blank =>
    rw [← List.append_nil cs]
    exact blank_ends blank nofun
  | @cons t ts blanks w cs blank word =>
    refine blank_ends blank ?_
    obtain ⟨c, more, rfl, -, ends⟩ := word.exists_head
    rintro _ ⟨⟩
    exact ends fun n' eq => (eq ▸ apart t rfl : Apart (.number n) (.number n'))

theorem Spaced.length_le {ts : List Token} (spaced : Spaced ts cs) : ts.length ≤ cs.length := by
  induction spaced with
  | nil => exact Nat.zero_le _
  | cons blank word more ih =>
    obtain ⟨c, cs, rfl, -⟩ := word.exists_head
    simp only [List.length_append, List.length_cons]
    omega

theorem scan_append {ts : List Token} (spaced : Spaced ts cs) (apart : ts.IsChain Apart)
    {fuel : Nat} (enough : ts.length ≤ fuel) (done : List Token) :
    scan fuel cs done = some (ts.reverse ++ done) := by
  induction spaced generalizing fuel done with
  | @nil blanks blank =>
    cases fuel with
    | zero => rw [scan, if_pos (List.all_eq_true.2 blank)]; rfl
    | succ fuel =>
      rw [scan, ← List.append_nil blanks, dropWhile_blanks blank]
      rfl
  | @cons t ts blanks w cs blank word more ih =>
    obtain _ | fuel := fuel
    · cases enough
    obtain ⟨c, rest, first, visible, -⟩ := word.exists_head
    have start : (blanks ++ (w ++ cs)).dropWhile isBlank = w ++ cs := by
      rw [dropWhile_blanks blank, first, List.cons_append, List.dropWhile_cons, visible,
        if_neg Bool.false_ne_true]
    have read : next? (w ++ cs) = some (t, cs) := by
      refine next?_append word fun n eq => more.ended (n := n) fun t' next => ?_
      rw [← eq]
      exact List.IsChain.rel_head? apart next
    rw [scan, start, first, List.cons_append]
    simp only
    rw [← List.cons_append, ← first, read]
    show scan fuel cs (t :: done) = _
    rw [ih apart.tail (Nat.le_of_succ_le_succ enough), List.reverse_cons, List.append_assoc]
    rfl

theorem scan_sound {fuel : Nat} {done out : List Token} (read : scan fuel cs done = some out) :
    ∃ ts, Spaced ts cs ∧ out = ts.reverse ++ done := by
  induction fuel generalizing cs done with
  | zero =>
    rw [scan] at read
    split at read
    · next blank =>
      cases read
      exact ⟨[], .nil (List.all_eq_true.1 blank), rfl⟩
    · cases read
  | succ fuel ih =>
    have blank : Blanks (cs.takeWhile isBlank) := fun _ mem => List.mem_takeWhile_imp mem
    rw [scan] at read
    rw [← List.takeWhile_append_dropWhile (p := isBlank) (l := cs)]
    generalize cs.dropWhile isBlank = rest at read
    split at read
    · cases read
      exact ⟨[], .nil (by rwa [List.append_nil]), rfl⟩
    · split at read
      · next t behind word =>
        obtain ⟨w, spelled, rfl⟩ := next?_sound word
        obtain ⟨ts, more, rfl⟩ := ih read
        exact ⟨t :: ts, .cons blank spelled more, by simp⟩
      · cases read

theorem spaced_of_ofText? {text : String} {ts : List Token} (read : ofText? text = some ts) :
    Spaced ts text.toList := by
  obtain ⟨reversed, scanned, rfl⟩ := Option.map_eq_some_iff.1 read
  obtain ⟨ts, spaced, rfl⟩ := scan_sound scanned
  rw [List.append_nil, List.reverse_reverse]
  exact spaced

theorem ofText?_of_spaced {text : String} {ts : List Token} (spaced : Spaced ts text.toList)
    (apart : ts.IsChain Apart) : ofText? text = some ts := by
  rw [ofText?, scan_append spaced apart spaced.length_le, Option.map_some, List.append_nil,
    List.reverse_reverse]

end Token
end RigidFrames.Json
