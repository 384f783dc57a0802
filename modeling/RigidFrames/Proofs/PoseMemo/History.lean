/-
  RigidFrames.Proofs.PoseMemo.History

  The entries of a memo, read off from what was done with it.

  Nothing is supposed about the order in which frames and versions come.  A
  history is a list of accesses.  Each of them has one of four effects, and
  which one is said without a memo (`Has`): a look-up finds the pose that was
  handed in last among those with the largest version for the frame, if that is
  the version asked for (`Newest`).  Only what came after the last clearing
  counts for this (`standing`), whereas hits and misses count all effects that
  there ever were.

  The memo keeps one entry per frame and compares versions as poses come in.
  `Reflects` ties it to the effects so far.  Each effect preserves the tie, and
  so it holds after every history (`Chronicle.reflects`).
-/
import Mathlib.Data.Finset.Card
import RigidFrames.Fault
import RigidFrames.PoseMemo

namespace RigidFrames.PoseMemo

variable {α : Type}

-- ============================================================================
-- Computations that use a memo
-- ============================================================================

/-- Something that may fail and uses a memo, next to whatever `N` allows. -/
abbrev Using (α : Type) (N : Type → Type) (β : Type) :=
  ExceptT (Fault α) (StateT (PoseMemo α) N) β

namespace Using

variable {N : Type → Type} [Monad N] {β γ : Type}

def run (u : Using α N β) (c : PoseMemo α) : N (Except (Fault α) β × PoseMemo α) :=
  StateT.run (ExceptT.run u) c

/-- A computation that leaves the memo alone. -/
def apart (compute : N (Except (Fault α) β)) : Using α N β :=
  ExceptT.mk (StateT.lift compute)

theorem run_bind [LawfulMonad N] (u : Using α N β) (g : β → Using α N γ) (c : PoseMemo α) :
    (u >>= g).run c = (do
      let (r, c) ← u.run c
      match r with
      | .ok x => (g x).run c
      | .error fault => pure (.error fault, c)) := by
  simp only [run, ExceptT.run_bind, StateT.run_bind]
  refine bind_congr fun ⟨r, c'⟩ => ?_
  cases r <;> rfl

theorem run_modifyGet [LawfulMonad N] (g : PoseMemo α → β × PoseMemo α) (c : PoseMemo α) :
    (modifyGet g : Using α N β).run c = pure (.ok (g c).1, (g c).2) := by
  show StateT.run (Except.ok <$> StateT.modifyGet g) c = _
  rw [StateT.run_map]
  exact map_pure ..

theorem run_apart (compute : N (Except (Fault α) β)) (c : PoseMemo α) :
    (apart compute).run c = (do let r ← compute; pure (r, c)) :=
  rfl

end Using

/-- What becomes of the memo by the outcome of a computation. -/
def settle (c : PoseMemo α) (i : FrameId) (s : Stamp) : Except (Fault α) (Pose α) → PoseMemo α
  | .ok x => c.store i s x
  | .error _ => c

section

variable {N : Type → Type} [Monad N] [LawfulMonad N] {c : PoseMemo α} {i : FrameId} {s : Stamp}

/-- A pose that is found is answered and nothing is computed. -/
theorem run_fetchOrCompute_of_found {x : Pose α} (found : c.lookup? i s = some x)
    (compute : N (Except (Fault α) (Pose α))) :
    Using.run (fetchOrCompute i s (.apart compute)) c =
      pure (.ok x, { c with hits := c.hits + 1 }) := by
  have looked : c.fetch i s = (some x, { c with hits := c.hits + 1 }) := by rw [fetch, found]
  rw [fetchOrCompute, Using.run_bind, Using.run_modifyGet, pure_bind, looked]
  rfl

/-- A pose that is missing is computed, and what comes of it is the answer. -/
theorem run_fetchOrCompute_of_missing (missing : c.lookup? i s = none)
    (compute : N (Except (Fault α) (Pose α))) :
    Using.run (fetchOrCompute i s (.apart compute)) c = (do
      let outcome ← compute
      pure (outcome, c.settle i s outcome)) := by
  have looked : c.fetch i s = (none, c) := by rw [fetch, missing]
  rw [fetchOrCompute, Using.run_bind, Using.run_modifyGet, pure_bind, looked]
  show Using.run (_ >>= _) c = _
  rw [Using.run_bind, Using.run_apart, bind_assoc]
  refine bind_congr fun outcome => ?_
  rw [pure_bind]
  cases outcome with
  | error fault => rfl
  | ok x =>
    show Using.run (_ >>= _) c = _
    rw [Using.run_bind, modify, Using.run_modifyGet, pure_bind]
    rfl

end

-- ============================================================================
-- Accesses and their effects
-- ============================================================================

/-- One use of a memo.  Of a computation only the outcome is given. -/
inductive Access (α : Type) where
  | fetch (i : FrameId) (s : Stamp)
  | store (i : FrameId) (s : Stamp) (x : Pose α)
  | fetchOrCompute (i : FrameId) (s : Stamp) (outcome : Except (Fault α) (Pose α))
  | clear

/-- The memo after the access. -/
def Access.perform (c : PoseMemo α) : Access α → PoseMemo α
  | fetch i s => (c.fetch i s).2
  | store i s x => c.store i s x
  | fetchOrCompute i s outcome =>
    (Id.run (Using.run (PoseMemo.fetchOrCompute i s (.apart (pure outcome))) c)).2
  | clear => c.clear

/-- What a new memo becomes by the accesses, from the first to the last. -/
def after (h : List (Access α)) : PoseMemo α :=
  h.foldl Access.perform empty

/-- A pose that was handed in. -/
structure Handed (α : Type) where
  frame : FrameId
  stamp : Stamp
  pose : Pose α

/-- What came of an access. -/
inductive Effect (α : Type) where
  | found
  /-- Nothing was found, and nothing was handed in. -/
  | nothing
  | handed (r : Handed α)
  | cleared

namespace Effect

def isFound : Effect α → Bool
  | found => true
  | _ => false

def isHanded : Effect α → Bool
  | handed _ => true
  | _ => false

end Effect

/-- What was handed in since the last clearing.  The latest comes first, here as there. -/
def standing : List (Effect α) → List (Handed α)
  | [] => []
  | .handed r :: es => r :: standing es
  | .cleared :: _ => []
  | .found :: es | .nothing :: es => standing es

/-- The pose that was handed in last of those for version `s` of the frame, none having been handed
    in for a later version. -/
structure Newest (l : List (Handed α)) (i : FrameId) (s : Stamp) (x : Pose α) : Prop where
  largest : ∀ r ∈ l, r.frame = i → r.stamp.version ≤ s.version
  latest : l.find? (fun r => r.frame = i ∧ r.stamp = s) = some ⟨i, s, x⟩

/-- The effect of an access when `l` has been handed in since the last clearing. -/
inductive Has (l : List (Handed α)) : Access α → Effect α → Prop
  | fetched {i : FrameId} {s : Stamp} {x : Pose α} (newest : Newest l i s x) :
      Has l (.fetch i s) .found
  | missed {i : FrameId} {s : Stamp} (missing : ∀ x, ¬ Newest l i s x) :
      Has l (.fetch i s) .nothing
  | stored (i : FrameId) (s : Stamp) (x : Pose α) : Has l (.store i s x) (.handed ⟨i, s, x⟩)
  | spared {i : FrameId} {s : Stamp} {x : Pose α} (newest : Newest l i s x)
      (outcome : Except (Fault α) (Pose α)) : Has l (.fetchOrCompute i s outcome) .found
  | computed {i : FrameId} {s : Stamp} (missing : ∀ x, ¬ Newest l i s x) (x : Pose α) :
      Has l (.fetchOrCompute i s (.ok x)) (.handed ⟨i, s, x⟩)
  | failed {i : FrameId} {s : Stamp} (missing : ∀ x, ¬ Newest l i s x) (fault : Fault α) :
      Has l (.fetchOrCompute i s (.error fault)) .nothing
  | cleared : Has l .clear .cleared

/-- The effects of the accesses of a history. -/
inductive Chronicle : List (Access α) → List (Effect α) → Prop
  | nil : Chronicle [] []
  | snoc {h : List (Access α)} {es : List (Effect α)} {a : Access α} {e : Effect α}
      (chronicle : Chronicle h es) (has : Has (standing es) a e) : Chronicle (h ++ [a]) (e :: es)

-- ============================================================================
-- The newest pose of a frame
-- ============================================================================

section

variable {l : List (Handed α)} {r : Handed α} {i j : FrameId} {s t : Stamp} {x y : Pose α}

theorem Newest.mem (newest : Newest l i s x) : ⟨i, s, x⟩ ∈ l :=
  List.mem_of_find?_eq_some newest.latest

theorem not_newest_nil : ¬ Newest ([] : List (Handed α)) i s x :=
  fun newest => List.not_mem_nil newest.mem

/-- What comes for the largest version so far is the newest. -/
theorem newest_cons_of_le (le : ∀ q ∈ l, q.frame = r.frame → q.stamp.version ≤ r.stamp.version) :
    Newest (r :: l) r.frame t y ↔ r.stamp = t ∧ r.pose = y := by
  constructor
  · intro newest
    -- The version is not smaller than that of `r`, and not larger, as it is one from the list.
    have above : r.stamp.version ≤ t.version := newest.largest r List.mem_cons_self rfl
    have same : r.stamp = t := by
      rcases List.mem_cons.1 newest.mem with head | tail
      · rw [← head]
      · have below : t.version ≤ r.stamp.version := le _ tail rfl
        exact congrArg Stamp.mk (Nat.le_antisymm above below)
    have first : (r :: l).find? (fun q => q.frame = r.frame ∧ q.stamp = t) = some r :=
      List.find?_cons_of_pos (decide_eq_true ⟨rfl, same⟩)
    rw [newest.latest, Option.some.injEq] at first
    exact ⟨same, congrArg Handed.pose first.symm⟩
  · rintro ⟨rfl, rfl⟩
    refine ⟨fun q mem frame => ?_, List.find?_cons_of_pos (decide_eq_true ⟨rfl, rfl⟩)⟩
    rcases List.mem_cons.1 mem with rfl | tail
    · exact Nat.le_refl _
    · exact le q tail frame

/-- What comes for another frame, or after something for a later version, changes nothing. -/
theorem newest_cons_of_newer (late : r.frame = j → ∃ q ∈ l, q.frame = j ∧ r.stamp < q.stamp) :
    Newest (r :: l) j t y ↔ Newest l j t y := by
  have passed (largest : ∀ q ∈ l, q.frame = j → q.stamp.version ≤ t.version) (frame : r.frame = j) :
      r.stamp.version < t.version := by
    obtain ⟨q, mem, there, newer⟩ := late frame
    exact Nat.lt_of_lt_of_le newer (largest q mem there)
  have skip (largest : ∀ q ∈ l, q.frame = j → q.stamp.version ≤ t.version) :
      (r :: l).find? (fun r => r.frame = j ∧ r.stamp = t) =
        l.find? (fun r => r.frame = j ∧ r.stamp = t) := by
    refine List.find?_cons_of_neg fun here => ?_
    obtain ⟨frame, rfl⟩ := of_decide_eq_true here
    exact Nat.lt_irrefl _ (passed largest frame)
  constructor
  · intro newest
    have largest := fun q mem => newest.largest q (List.mem_cons_of_mem r mem)
    exact ⟨largest, (skip largest).symm.trans newest.latest⟩
  · intro newest
    refine ⟨fun q mem frame => ?_, (skip newest.largest).trans newest.latest⟩
    rcases List.mem_cons.1 mem with rfl | tail
    · exact Nat.le_of_lt (passed newest.largest frame)
    · exact newest.largest q tail frame

/-- Of a frame that something was handed in for, something is the newest. -/
theorem exists_newest (mem : r ∈ l) : ∃ s x, Newest l r.frame s x := by
  induction l generalizing r with
  | nil => cases mem
  | cons q l ih =>
    by_cases late : q.frame = r.frame → ∃ p ∈ l, p.frame = r.frame ∧ q.stamp < p.stamp
    · obtain ⟨p, tail, same⟩ : ∃ p ∈ l, p.frame = r.frame := by
        rcases List.mem_cons.1 mem with rfl | tail
        · obtain ⟨p, tail, same, -⟩ := late rfl
          exact ⟨p, tail, same⟩
        · exact ⟨r, tail, rfl⟩
      obtain ⟨s, x, newest⟩ := ih tail
      rw [same] at newest
      exact ⟨s, x, (newest_cons_of_newer late).2 newest⟩
    · obtain ⟨same, last⟩ := Classical.not_imp.1 late
      rw [← same] at last ⊢
      refine ⟨q.stamp, q.pose, (newest_cons_of_le fun p tail frame => ?_).2 ⟨rfl, rfl⟩⟩
      exact Nat.not_lt.1 fun newer => last ⟨p, tail, frame, newer⟩

end

-- ============================================================================
-- The memo and the effects so far
-- ============================================================================

/-- The memo has the newest poses and has counted the effects. -/
structure Reflects (c : PoseMemo α) (es : List (Effect α)) : Prop where
  entry : ∀ i s x, c.entries[i]? = some (s, x) ↔ Newest (standing es) i s x
  hits : c.hits = es.countP (·.isFound)
  misses : c.misses = es.countP (·.isHanded)

namespace Reflects

variable {c : PoseMemo α} {es : List (Effect α)} {i : FrameId} {s : Stamp} {x : Pose α}

theorem nil : Reflects (empty : PoseMemo α) [] where
  entry i s x := by
    rw [← lookup?_eq_some_iff, lookup?_empty]
    exact iff_of_false nofun not_newest_nil
  hits := rfl
  misses := rfl

section

variable (reflects : Reflects c es)

include reflects

theorem lookup?_eq_some : c.lookup? i s = some x ↔ Newest (standing es) i s x :=
  (lookup?_eq_some_iff c i s x).trans (reflects.entry i s x)

theorem lookup?_eq_none : c.lookup? i s = none ↔ ∀ x, ¬ Newest (standing es) i s x := by
  rw [Option.eq_none_iff_forall_ne_some]
  exact forall_congr' fun x => not_congr reflects.lookup?_eq_some

/-- The frames that have an entry. -/
theorem mem_entries : i ∈ c.entries ↔ ∃ r ∈ standing es, r.frame = i := by
  rw [Std.HashMap.mem_iff_isSome_getElem?, Option.isSome_iff_exists]
  constructor
  · rintro ⟨⟨s, x⟩, entry⟩
    exact ⟨⟨i, s, x⟩, ((reflects.entry i s x).1 entry).mem, rfl⟩
  · rintro ⟨r, mem, rfl⟩
    obtain ⟨s, x, newest⟩ := exists_newest mem
    exact ⟨(s, x), (reflects.entry r.frame s x).2 newest⟩

theorem size : c.size = ((standing es).map (·.frame)).toFinset.card := by
  have keys : c.entries.keys.toFinset = ((standing es).map (·.frame)).toFinset := by
    ext i
    rw [List.mem_toFinset, Std.HashMap.mem_keys, reflects.mem_entries, List.mem_toFinset,
      List.mem_map]
  rw [← keys, List.toFinset_card_of_nodup Std.HashMap.nodup_keys, Std.HashMap.length_keys,
    PoseMemo.size]

/-- A store is discarded if something was handed in for a later version. -/
theorem isNewer_iff : c.isNewer i s = true ↔ ∃ q ∈ standing es, q.frame = i ∧ s < q.stamp := by
  rw [isNewer]
  constructor
  · intro newer
    cases entry : c.entries[i]? with
    | none =>
      rw [entry] at newer
      cases newer
    | some e =>
      obtain ⟨t, y⟩ := e
      rw [entry] at newer
      exact ⟨⟨i, t, y⟩, ((reflects.entry i t y).1 entry).mem, rfl, of_decide_eq_true newer⟩
  · rintro ⟨q, mem, rfl, newer⟩
    obtain ⟨t, y, newest⟩ := exists_newest mem
    have le : q.stamp.version ≤ t.version := newest.largest q mem rfl
    rw [(reflects.entry q.frame t y).2 newest]
    exact decide_eq_true (Nat.lt_of_lt_of_le newer le)

-- ============================================================================
-- What each effect does to the memo
-- ============================================================================

theorem found : Reflects { c with hits := c.hits + 1 } (.found :: es) where
  entry := reflects.entry
  hits := by rw [List.countP_cons_of_pos rfl, reflects.hits]
  misses := by rw [List.countP_cons_of_neg Bool.false_ne_true, reflects.misses]

theorem nothing : Reflects c (.nothing :: es) where
  entry := reflects.entry
  hits := by rw [List.countP_cons_of_neg Bool.false_ne_true, reflects.hits]
  misses := by rw [List.countP_cons_of_neg Bool.false_ne_true, reflects.misses]

theorem clear : Reflects c.clear (.cleared :: es) where
  entry i s x := by
    rw [← lookup?_eq_some_iff, lookup?_clear]
    exact iff_of_false nofun not_newest_nil
  hits := by
    rw [List.countP_cons_of_neg Bool.false_ne_true, ← reflects.hits]
    rfl
  misses := by
    rw [List.countP_cons_of_neg Bool.false_ne_true, ← reflects.misses]
    rfl

/-- A pose that is handed in becomes the entry, unless a newer one stands. -/
theorem store (i : FrameId) (s : Stamp) (x : Pose α) :
    Reflects (c.store i s x) (.handed ⟨i, s, x⟩ :: es) where
  entry j t y := by
    rw [store_getElem?, standing]
    by_cases kept : i = j ∧ c.isNewer i s = false
    · obtain ⟨rfl, newer⟩ := kept
      have le (q : Handed α) (mem : q ∈ standing es) (frame : q.frame = i) :
          q.stamp.version ≤ s.version := by
        refine Nat.not_lt.1 fun lt => ?_
        exact Bool.false_ne_true (newer.symm.trans (reflects.isNewer_iff.2 ⟨q, mem, frame, lt⟩))
      rw [if_pos ⟨rfl, newer⟩, Option.some.injEq, Prod.mk.injEq]
      exact (newest_cons_of_le (r := ⟨i, s, x⟩) le).symm
    · rw [if_neg kept, reflects.entry j t y]
      refine (newest_cons_of_newer fun frame => ?_).symm
      obtain rfl : i = j := frame
      exact reflects.isNewer_iff.1 (Bool.of_not_eq_false fun newer => kept ⟨rfl, newer⟩)
  hits := by rw [List.countP_cons_of_neg Bool.false_ne_true, store_hits, reflects.hits]
  misses := by rw [List.countP_cons_of_pos rfl, store_misses, reflects.misses]

-- ============================================================================
-- Accesses in turn
-- ============================================================================

/-- Some effect that the access has is what it does to the memo. -/
theorem perform (a : Access α) :
    ∃ e, Has (standing es) a e ∧ Reflects (a.perform c) (e :: es) := by
  cases a with
  | store i s x => exact ⟨_, .stored i s x, reflects.store i s x⟩
  | clear => exact ⟨_, .cleared, reflects.clear⟩
  | fetch i s =>
    rw [Access.perform, fetch]
    cases looked : c.lookup? i s with
    | some x => exact ⟨_, .fetched (reflects.lookup?_eq_some.1 looked), reflects.found⟩
    | none => exact ⟨_, .missed (reflects.lookup?_eq_none.1 looked), reflects.nothing⟩
  | fetchOrCompute i s outcome =>
    rw [Access.perform]
    cases looked : c.lookup? i s with
    | some x =>
      rw [run_fetchOrCompute_of_found looked]
      exact ⟨_, .spared (reflects.lookup?_eq_some.1 looked) outcome, reflects.found⟩
    | none =>
      have missing := reflects.lookup?_eq_none.1 looked
      rw [run_fetchOrCompute_of_missing looked]
      cases outcome with
      | ok x => exact ⟨_, .computed missing x, reflects.store i s x⟩
      | error fault => exact ⟨_, .failed missing fault, reflects.nothing⟩

end

end Reflects

-- ============================================================================
-- Whole histories
-- ============================================================================

theorem after_snoc (h : List (Access α)) (a : Access α) :
    after (h ++ [a]) = a.perform (after h) := by
  rw [after, List.foldl_append]
  rfl

theorem Has.unique {l : List (Handed α)} {a : Access α} {e e' : Effect α} (has : Has l a e)
    (has' : Has l a e') : e = e' := by
  cases has with
  | stored | cleared =>
    cases has'
    rfl
  | fetched newest =>
    cases has' with
    | fetched => rfl
    | missed missing => exact absurd newest (missing _)
  | missed missing =>
    cases has' with
    | fetched newest => exact absurd newest (missing _)
    | missed => rfl
  | spared newest =>
    cases has' with
    | spared => rfl
    | computed missing | failed missing => exact absurd newest (missing _)
  | computed missing | failed missing =>
    cases has' with
    | spared newest => exact absurd newest (missing _)
    | _ => rfl

namespace Chronicle

variable {h : List (Access α)} {es es' : List (Effect α)} {a : Access α}

theorem nil_inv (chronicle : Chronicle [] es) : es = [] := by
  generalize given : ([] : List (Access α)) = h at chronicle
  cases chronicle with
  | nil => rfl
  | snoc => exact absurd given.symm (List.concat_ne_nil _ _)

theorem snoc_inv (chronicle : Chronicle (h ++ [a]) es) :
    ∃ e es', es = e :: es' ∧ Chronicle h es' ∧ Has (standing es') a e := by
  generalize given : h ++ [a] = h' at chronicle
  cases chronicle with
  | nil => exact absurd given (List.concat_ne_nil _ _)
  | snoc chronicle has =>
    obtain ⟨rfl, last⟩ := List.append_inj' given rfl
    obtain rfl := List.singleton_inj.1 last
    exact ⟨_, _, rfl, chronicle, has⟩

theorem unique (chronicle : Chronicle h es) (chronicle' : Chronicle h es') : es' = es := by
  induction chronicle generalizing es' with
  | nil => exact chronicle'.nil_inv
  | snoc _ has ih =>
    obtain ⟨e', es'', rfl, before, has'⟩ := chronicle'.snoc_inv
    obtain rfl := ih before
    rw [has.unique has']

/-- Every history has its effects, and after it the memo reflects them. -/
theorem exists_reflects (h : List (Access α)) : ∃ es, Chronicle h es ∧ Reflects (after h) es := by
  induction h using List.reverseRecOn with
  | nil => exact ⟨[], .nil, .nil⟩
  | append_singleton h a ih =>
    obtain ⟨es, chronicle, reflects⟩ := ih
    obtain ⟨e, has, reflects'⟩ := reflects.perform a
    rw [after_snoc]
    exact ⟨e :: es, .snoc chronicle has, reflects'⟩

end Chronicle

/-- What a memo is after any history, and what it answers then.

    The effects of the history are determined.  The frames with an entry are those for which
    something was handed in since the last clearing, and the entry is the pose that came last of
    those with the largest version.  A look-up finds the entry for exactly its version and changes
    no entry.  A computation is run only if nothing is found; its outcome is the answer, whether
    or not it is kept, and if it fails the memo is as before.  Hits, misses and size are counted. -/
theorem memo_of_history (h : List (Access α)) :
    let c := after h
    ∃ es, Chronicle h es ∧ (∀ es', Chronicle h es' → es' = es) ∧
      (∀ i, i ∈ c.entries ↔ ∃ r ∈ standing es, r.frame = i) ∧
      (∀ i s x, c.entries[i]? = some (s, x) ↔ Newest (standing es) i s x) ∧
      (∀ i s x, (c.fetch i s).1 = some x ↔ c.entries[i]? = some (s, x)) ∧
      (∀ i s, (c.fetch i s).2.entries = c.entries) ∧
      (∀ (N : Type → Type) [Monad N] [LawfulMonad N] (i : FrameId) (s : Stamp)
        (compute : N (Except (Fault α) (Pose α))),
        (∀ x, (c.fetch i s).1 = some x →
          Using.run (fetchOrCompute i s (.apart compute)) c = pure (.ok x, (c.fetch i s).2)) ∧
        ((c.fetch i s).1 = none →
          Using.run (fetchOrCompute i s (.apart compute)) c = (do
            let outcome ← compute
            pure (outcome, after (h ++ [.fetchOrCompute i s outcome]))) ∧
          ∀ fault, after (h ++ [.fetchOrCompute i s (.error fault)]) = c)) ∧
      c.hits = es.countP (·.isFound) ∧
      c.misses = es.countP (·.isHanded) ∧
      c.size = ((standing es).map (·.frame)).toFinset.card := by
  intro c
  obtain ⟨es, chronicle, reflects⟩ := Chronicle.exists_reflects h
  have found (i : FrameId) (s : Stamp) : (c.fetch i s).1 = c.lookup? i s := fetch_fst c i s
  refine ⟨es, chronicle, fun es' => chronicle.unique, fun i => reflects.mem_entries,
    reflects.entry, fun i s x => ?_, fetch_entries c, fun N _ _ i s compute => ⟨?_, ?_⟩,
    reflects.hits, reflects.misses, reflects.size⟩
  · rw [found, lookup?_eq_some_iff]
  · intro x looked
    rw [found] at looked
    rw [run_fetchOrCompute_of_found looked, fetch, looked]
  · intro looked
    rw [found] at looked
    have settled (outcome : Except (Fault α) (Pose α)) :
        after (h ++ [.fetchOrCompute i s outcome]) = c.settle i s outcome := by
      rw [after_snoc, Access.perform, run_fetchOrCompute_of_missing looked]
      rfl
    simp only [settled]
    exact ⟨run_fetchOrCompute_of_missing looked compute, fun fault => rfl⟩

/-- What came before the clearing is gone, and what came late for an older version was discarded.
    Both are counted. -/
theorem memo_of_history_discarded :
    let x : Pose Float := .ofTranslation ⟨1, 0, 0⟩
    let c := after [.store ⟨2⟩ ⟨5⟩ 1, .clear, .store ⟨1⟩ ⟨2⟩ x, .fetchOrCompute ⟨1⟩ ⟨1⟩ (.ok 1),
      .fetch ⟨1⟩ ⟨2⟩]
    c.entries[(⟨1⟩ : FrameId)]? = some (⟨2⟩, x) ∧ (⟨2⟩ : FrameId) ∉ c.entries ∧
      c.hits = 1 ∧ c.misses = 3 ∧ c.size = 1 := by
  intro x c
  obtain ⟨es, -, unique, has, entry, -, -, -, hits, misses, size⟩ := memo_of_history
    [.store ⟨2⟩ ⟨5⟩ 1, .clear, .store ⟨1⟩ ⟨2⟩ x, .fetchOrCompute ⟨1⟩ ⟨1⟩ (.ok 1), .fetch ⟨1⟩ ⟨2⟩]
  have newest : Newest [⟨⟨1⟩, ⟨1⟩, 1⟩, ⟨⟨1⟩, ⟨2⟩, x⟩] ⟨1⟩ ⟨2⟩ x := ⟨by decide, rfl⟩
  have missing (y : Pose Float) : ¬ Newest [⟨⟨1⟩, ⟨2⟩, x⟩] ⟨1⟩ ⟨1⟩ y :=
    fun newest => absurd (newest.largest _ List.mem_cons_self rfl) (by decide)
  obtain rfl := unique [.found, .handed ⟨⟨1⟩, ⟨1⟩, 1⟩, .handed ⟨⟨1⟩, ⟨2⟩, x⟩, .cleared,
    .handed ⟨⟨2⟩, ⟨5⟩, 1⟩] (((((Chronicle.nil.snoc (.stored _ _ _)).snoc .cleared).snoc
      (.stored _ _ _)).snoc (.computed missing _)).snoc (.fetched newest))
  refine ⟨(entry _ _ _).2 newest, fun mem => ?_, hits, misses, size⟩
  exact absurd ((has _).1 mem) (by decide)

end RigidFrames.PoseMemo
