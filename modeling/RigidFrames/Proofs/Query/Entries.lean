/-
  RigidFrames.Proofs.Query.Entries

  Which frames have an entry for the present version.

  A model that keeps a memo fills it from the root downwards: a pose is handed
  in when the parent has its entry (`Walk.Anchored`).  As long as nothing newer
  stands in the memo every store is kept (`entered_step`), so with a frame its
  parent is always entered (`Meter.Closed`).  Both are kept by every step of
  every evaluation, as entries for the present version never go away.
-/
import RigidFrames.Proofs.Query.Walk

namespace RigidFrames

open Links Model

variable {α : Type}

namespace Meter

/-- No entry of the memo is newer than the version. -/
def Past (μ : Meter α) (t : Stamp) : Prop :=
  ∀ i u x, μ.memo.lookup? i u = some x → u.version ≤ t.version

/-- The frame has an entry for the version. -/
def Entered (μ : Meter α) (t : Stamp) (i : FrameId) : Prop :=
  (μ.memo.lookup? i t).isSome = true

instance (μ : Meter α) (t : Stamp) (i : FrameId) : Decidable (μ.Entered t i) :=
  inferInstanceAs (Decidable (_ = true))

/-- With a frame its parent has an entry for the version. -/
def Closed (m : Model α) (μ : Meter α) (t : Stamp) : Prop :=
  ∀ i p, m.parent? i = some p → μ.Entered t i → μ.Entered t p

theorem entered_iff {μ : Meter α} {t : Stamp} {i : FrameId} :
    μ.Entered t i ↔ ∃ x, μ.memo.entries[i]? = some (t, x) := by
  rw [Entered, Option.isSome_iff_exists]
  simp only [PoseMemo.lookup?_eq_some_iff]

theorem not_entered_empty (t : Stamp) (i : FrameId) : ¬ (empty : Meter α).Entered t i := by
  rw [Entered, show (empty : Meter α).memo = .empty from rfl, PoseMemo.lookup?_empty]
  exact Bool.false_ne_true

theorem not_entered_clear (μ : Meter α) (t : Stamp) (i : FrameId) :
    ¬ Entered { μ with memo := μ.memo.clear } t i := by
  rw [Entered, PoseMemo.lookup?_clear]
  exact Bool.false_ne_true

theorem Past.empty (t : Stamp) : (empty : Meter α).Past t := by
  intro i u x found
  rw [show (Meter.empty : Meter α).memo = .empty from rfl, PoseMemo.lookup?_empty] at found
  cases found

theorem Past.clear (t : Stamp) (μ : Meter α) : Past { μ with memo := μ.memo.clear } t := by
  intro i u x found
  rw [PoseMemo.lookup?_clear] at found
  cases found

theorem Past.isNewer {μ : Meter α} {t : Stamp} (past : μ.Past t) (i : FrameId) :
    μ.memo.isNewer i t = false := by
  rw [PoseMemo.isNewer]
  cases found : μ.memo.entries[i]? with
  | none => rfl
  | some e =>
    obtain ⟨u, x⟩ := e
    have older := past i u x ((PoseMemo.lookup?_eq_some_iff _ _ _ _).2 found)
    exact decide_eq_false (Nat.not_lt.2 older)

/-- What is above an entered frame is entered. -/
theorem Closed.above {m : Model α} {μ : Meter α} {t : Stamp} (closed : Closed m μ t)
    {i a : FrameId} (above : Above m.parent? i a) (entered : μ.Entered t i) : μ.Entered t a := by
  obtain ⟨k, hk⟩ := above
  induction k generalizing i with
  | zero =>
    cases hk
    exact entered
  | succ k ih =>
    cases parent : m.parent? i with
    | none =>
      rw [ancestor?_succ_of_none parent] at hk
      cases hk
    | some p =>
      rw [ancestor?_succ_of_some parent] at hk
      exact ih (closed i p parent entered) hk

end Meter

namespace Walk

variable {m : Model α} {s : State α} {w : Walk α} {μ : Meter α}

section

variable [Scalar α]

theorem past_step (past : μ.Past s.stamp) : (step m s w μ).2.Past s.stamp := by
  intro j u y found
  rcases step_memo m s w μ with ⟨i, x, pending, rfl, kept⟩ | ⟨-, same, -⟩
  · rw [kept] at found
    rcases keep_lookup? found with old | ⟨-, rfl, -⟩
    · exact past j u y old
    · exact Nat.le_refl _
  · rw [lookup?_congr same] at found
    exact past j u y found

/-- A step enters the frame whose pose it hands in, and no entry is lost. -/
theorem entered_step (memoise : m.settings.memoise = true) (past : μ.Past s.stamp) (j : FrameId) :
    (step m s w μ).2.Entered s.stamp j ↔
      μ.Entered s.stamp j ∨ ∃ x pending, w = .store j x pending := by
  rcases step_memo m s w μ with ⟨i, x, pending, rfl, kept⟩ | ⟨other, same, -⟩
  · rw [kept, Meter.entered_iff, Meter.entered_iff, keep, if_pos memoise]
    simp only [PoseMemo.store_getElem?, past.isNewer i, and_true]
    by_cases eq : i = j
    · simp [eq]
    · simp [eq]
  · rw [Meter.entered_iff, Meter.entered_iff, same]
    refine ⟨Or.inl, ?_⟩
    rintro (entered | ⟨x, pending, eq⟩)
    · exact entered
    · exact absurd eq (other j x pending)

theorem misses_step (memoise : m.settings.memoise = true) :
    (step m s w μ).2.memo.misses = μ.memo.misses + cost 0 0 w := by
  rcases step_memo m s w μ with ⟨i, x, pending, rfl, kept⟩ | ⟨other, -, same⟩
  · rw [kept, keep, if_pos memoise]
    exact PoseMemo.store_misses μ.memo i s.stamp x
  · rw [same]
    cases w with
    | look | read | done => rfl
    | store i x pending => exact absurd rfl (other i x pending)

end

/-- A pose is handed in only where the parent is entered, and with an answer the target is. -/
def Anchored (m : Model α) (entered : FrameId → Prop) (target : FrameId) : Walk α → Prop
  | store i _ _ => ∀ p, m.parent? i = some p → entered p
  | done (.ok _) => entered target
  | _ => True

theorem Anchored.mono {entered entered' : FrameId → Prop} (more : ∀ i, entered i → entered' i)
    {target : FrameId} (anchored : Anchored m entered target w) :
    Anchored m entered' target w := by
  cases w with
  | look | read => trivial
  | store i x pending => exact fun p parent => more p (anchored p parent)
  | done answer =>
    cases answer with
    | error fault => trivial
    | ok x => exact more target anchored

section

variable [Scalar α] {entered : FrameId → Prop} {target i : FrameId}
  {pending : List (FrameId × Pose α)}

theorem Climbed.anchored_descend (climbed : Climbed m target i pending) (here : entered i)
    (x : Pose α) : Anchored m entered target (Walk.descend x pending) := by
  cases climbed with
  | start => exact here
  | up climbed link =>
    intro p parent
    rw [parent?_of_link? link, Option.some.injEq] at parent
    exact parent ▸ here

theorem anchored_climb (m : Model α) (i : FrameId) (pending : List (FrameId × Pose α)) :
    Anchored m entered target (climb m i pending) := by
  rw [climb]
  split
  · trivial
  · trivial
  · next found =>
    intro p parent
    rw [parent?_eq, show m.frames[i.index]? = _ from found] at parent
    cases parent
  · trivial

theorem anchored_receive {name : String} {body : BodyIndex}
    (found : m.frame? i = some ⟨name, .grounded body⟩) (read : Except (Fault α) (Pose α)) :
    Anchored m entered target (receive i name body pending read) := by
  cases read with
  | error fault => trivial
  | ok x =>
    rw [receive]
    split
    · intro p parent
      rw [parent?_eq, show m.frames[i.index]? = _ from found] at parent
      cases parent
    · trivial

end

theorem Anchored.step [Scalar α] {wf : m.WellFormed} {target : FrameId}
    (memoise : m.settings.memoise = true) (past : μ.Past s.stamp)
    (correct : Correct wf s target w) (anchored : Anchored m (μ.Entered s.stamp) target w) :
    Anchored m ((step m s w μ).2.Entered s.stamp) target (step m s w μ).1 := by
  have entered := fun j => entered_step (w := w) (s := s) memoise past j
  cases correct with
  | @look i pending climbed =>
    rcases step_look m s i pending μ with ⟨x, found, down⟩ | up
    · have known : μ.Entered s.stamp i := by rw [Meter.Entered, found]; rfl
      rw [down]
      exact climbed.anchored_descend ((entered i).2 (.inl known)) x
    · rw [up]
      exact anchored_climb m i pending
  | @read i name body pending climbed found => exact anchored_receive found _
  | @store i x pending climbed pose =>
    have here := (entered i).2 (.inr ⟨x, pending, rfl⟩)
    exact climbed.anchored_descend here x
  | done right => exact anchored.mono fun j known => (entered j).2 (.inl known)

/-- The parent of a frame is entered before the frame. -/
theorem closed_step [Scalar α] {target : FrameId} (memoise : m.settings.memoise = true)
    (past : μ.Past s.stamp) (anchored : Anchored m (μ.Entered s.stamp) target w)
    (closed : Meter.Closed m μ s.stamp) : Meter.Closed m (step m s w μ).2 s.stamp := by
  intro i p parent entered
  apply (entered_step memoise past p).2
  left
  rcases (entered_step memoise past i).1 entered with old | ⟨x, pending, rfl⟩
  · exact closed i p parent old
  · exact anchored p parent

-- ============================================================================
-- Evaluations that share a meter
-- ============================================================================

/-- What evaluations at one version rely on in the meter that they share. -/
structure Shared [Scalar α] (wf : m.WellFormed) (view : Stamp → State α) (s : State α)
    (μ : Meter α) : Prop where
  faithful : Faithful wf view μ.memo
  past : μ.Past s.stamp
  closed : Meter.Closed m μ s.stamp

/-- The evaluation of `target` is right and fills the memo from the root downwards. -/
structure Engaged [Scalar α] (wf : m.WellFormed) (s : State α) (μ : Meter α) (target : FrameId)
    (w : Walk α) : Prop where
  correct : Correct wf s target w
  anchored : Anchored m (μ.Entered s.stamp) target w

section

variable [Scalar α] {wf : m.WellFormed} {view : Stamp → State α} {target : FrameId}
  (memoise : m.settings.memoise = true) (shared : Shared wf view s μ)

include memoise shared

theorem Shared.step (here : view s.stamp = s) (engaged : Engaged wf s μ target w) :
    Shared wf view s (step m s w μ).2 where
  faithful := shared.faithful.step here engaged.correct
  past := past_step shared.past
  closed := closed_step memoise shared.past engaged.anchored shared.closed

/-- A step of its own. -/
theorem Engaged.step (here : view s.stamp = s) (engaged : Engaged wf s μ target w) :
    Engaged wf s (step m s w μ).2 target (step m s w μ).1 where
  correct := engaged.correct.step (shared.faithful.known here)
  anchored := engaged.anchored.step memoise shared.past engaged.correct

/-- A step of another. -/
theorem Engaged.wait (engaged : Engaged wf s μ target w) (v : Walk α) :
    Engaged wf s (Walk.step m s v μ).2 target w where
  correct := engaged.correct
  anchored := engaged.anchored.mono fun j known =>
    (entered_step memoise shared.past j).2 (.inl known)

end

end Walk
end RigidFrames
