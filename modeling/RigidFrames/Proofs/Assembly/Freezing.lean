/-
  RigidFrames.Proofs.Assembly.Freezing

  Freezing decides which assemblies are models.

  What has to hold is said of the calls that made the assembly, not of its
  parts (`Freezable`): the settings put in place last serve, each attached
  frame was hung somewhere, its offset fits, and following the links as they
  were left by the last wirings ends from every frame.  If something fails,
  `Complaint` says which fault is the answer.  Both are tied to what freezing
  does at the end.  For given calls that build the parts of a given model,
  `freeze_of_built` says what is left to look at.
-/
import RigidFrames.Proofs.Assembly.Invariant
import RigidFrames.Proofs.Assembly.Seal
import RigidFrames.Proofs.Links.Search
import Mathlib.Data.Nat.Find

namespace RigidFrames

open Links

variable {α : Type}

-- ============================================================================
-- Cycles of parents
-- ============================================================================

theorem checkAcyclic_eq_ok_iff {frames : Array (Frame FrameId α)}
    (closed : Closed (parentIndex? frames) frames.size) :
    checkAcyclic frames = .ok () ↔ ∀ t < frames.size, Ends (parentIndex? frames) t := by
  rw [← firstOnCycle?_eq_none_iff closed, checkAcyclic]
  cases found : firstOnCycle? frames.size (parentIndex? frames) with
  | none => simp
  | some c =>
    obtain ⟨s, lt, -, -, k, hk, -⟩ := (firstOnCycle?_eq_some_iff closed c).1 found
    have inside : c < frames.size := Above.lt closed lt ⟨k, hk⟩
    simp [inside]

theorem checkAcyclic_eq_error_iff {frames : Array (Frame FrameId α)}
    (closed : Closed (parentIndex? frames) frames.size) (fault : Fault α) :
    checkAcyclic frames = .error fault ↔ ∃ c f, Blamed (parentIndex? frames) frames.size c ∧
      frames[c]? = some f ∧ fault = .structural f.name .cycle := by
  simp only [← firstOnCycle?_eq_some_iff closed, checkAcyclic]
  cases firstOnCycle? frames.size (parentIndex? frames) with
  | none => simp
  | some c =>
    cases found : frames[c]? with
    | none => simp [found]
    | some f => simp [found, eq_comm]

namespace Assembly

/-- The links of the frames in their final form are those of the assembly. -/
theorem parentIndex?_eq {a : Assembly α} {frames : Array (Frame FrameId α)}
    (same : frames.map (·.mapLink some) = a.frames) (i : FrameId) :
    parentIndex? frames i.index = (a.parent? i).map (·.index) := by
  rw [parentIndex?, parent?, ← same, Array.getElem?_map]
  cases frames[i.index]? with
  | none => rfl
  | some g =>
    obtain ⟨name, mount⟩ := g
    cases mount <;> rfl

theorem Sound.closed {a : Assembly α} (sound : a.Sound) {frames : Array (Frame FrameId α)}
    (same : frames.map (·.mapLink some) = a.frames) :
    Closed (parentIndex? frames) frames.size := by
  intro i j up
  have size : frames.size = a.frames.size := by rw [← same, Array.size_map]
  rw [parentIndex?_eq same ⟨i⟩, Option.map_eq_some_iff] at up
  obtain ⟨p, hp, rfl⟩ := up
  rw [parent?, Option.join_eq_some_iff, Option.bind_eq_some_iff] at hp
  obtain ⟨f, found, link⟩ := hp
  exact size ▸ sound.parents i f p found link

-- ============================================================================
-- Freezing step by step
-- ============================================================================

section

variable [Scalar α]

theorem sealFrames_eq_ok_iff (a : Assembly α) (frames : Array (Frame FrameId α)) :
    a.sealFrames = .ok frames ↔ a.settings.isValid = true ∧
      frames.map (·.mapLink some) = a.frames ∧ AllFit a.settings.tolerance frames ∧
      checkAcyclic frames = .ok () := by
  rw [sealFrames, Settings.check]
  cases a.settings.isValid with
  | false => simp [bind, Except.bind]
  | true =>
    rw [← and_assoc (b := AllFit _ _), ← mapM_seal_eq_ok_iff]
    cases a.frames.mapM (·.seal a.settings.tolerance) with
    | error fault => simp [bind, Except.bind]
    | ok gs =>
      simp only [if_true, bind, Except.bind, Except.ok.injEq, true_and]
      cases acyclic : checkAcyclic gs with
      | error fault =>
        refine ⟨nofun, ?_⟩
        rintro ⟨rfl, ok⟩
        rw [acyclic] at ok
        cases ok
      | ok _ =>
        refine ⟨?_, ?_⟩
        · rintro ⟨⟩
          exact ⟨rfl, acyclic⟩
        · rintro ⟨rfl, -⟩
          rfl

theorem sealFrames_eq_error_iff (a : Assembly α) (fault : Fault α) :
    a.sealFrames = .error fault ↔
      (a.settings.isValid = false ∧ fault = .invalidSettings (.tolerance a.settings.tolerance)) ∨
      (a.settings.isValid = true ∧ ∃ k, FirstFlaw a.settings.tolerance a.frames k fault) ∨
      (a.settings.isValid = true ∧ ∃ frames : Array (Frame FrameId α),
        (frames.map (·.mapLink some) = a.frames ∧ AllFit a.settings.tolerance frames) ∧
        checkAcyclic frames = .error fault) := by
  rw [sealFrames, Settings.check]
  cases a.settings.isValid with
  | false => simp [bind, Except.bind, eq_comm]
  | true =>
    simp only [← mapM_seal_eq_error_iff, ← mapM_seal_eq_ok_iff]
    cases a.frames.mapM (·.seal a.settings.tolerance) with
    | error fault' => simp [bind, Except.bind]
    | ok gs => cases acyclic : checkAcyclic gs <;> simp [bind, Except.bind, acyclic]

theorem freeze_eq_ok_iff (a : Assembly α) (r : Registry) (m : Model α) :
    (a.freeze r).answer = .ok m ↔ ∃ frames, a.sealFrames = .ok frames ∧
      m = ⟨r.next, a.settings, frames, a.ids, a.bodies⟩ := by
  rw [freeze]
  cases a.sealFrames with
  | error fault => simp
  | ok frames => simp [eq_comm]

/-- Calls that build the frames of a model with a parent for each attached one freeze to this model,
    if its settings serve, its offsets fit and no chain of parents is longer than it has frames. -/
theorem freeze_of_built {calls : List (Call α)} {m : Model α} {r : Registry}
    (number : m.number = r.next)
    (parts : built calls = ⟨m.settings, m.frames.map (·.mapLink some), m.ids, m.bodies⟩)
    (valid : m.settings.isValid = true) (fit : AllFit m.settings.tolerance m.frames)
    (ends : ∀ i < m.size, ancestor? (parentIndex? m.frames) m.size i = none) :
    ((built calls).freeze r).answer = .ok m := by
  have sound := built_sound calls
  rw [parts] at sound ⊢
  refine (freeze_eq_ok_iff _ r m).2 ⟨m.frames, ?_, by rw [← number]⟩
  refine (sealFrames_eq_ok_iff _ _).2 ⟨valid, rfl, fit, ?_⟩
  exact (checkAcyclic_eq_ok_iff (sound.closed rfl)).2 fun i lt => ends_iff.2 ⟨_, ends i lt⟩

theorem freeze_eq_error_iff (a : Assembly α) (r : Registry) (fault : Fault α) :
    (a.freeze r).answer = .error fault ↔ a.sealFrames = .error fault := by
  rw [freeze]
  cases a.sealFrames <;> simp

-- ============================================================================
-- Numbers of models
-- ============================================================================

/-- The registry after freezing some assemblies one after the other, with success or without. -/
def registryAfter (r : Registry) (others : List (Assembly α)) : Registry :=
  others.foldl (fun r a => (a.freeze r).registry) r

theorem number_of_freeze {a : Assembly α} {r : Registry} {m : Model α}
    (answer : (a.freeze r).answer = .ok m) :
    m.number = r.next ∧ (a.freeze r).registry.issued = r.issued + 1 := by
  obtain ⟨frames, sealed, rfl⟩ := (freeze_eq_ok_iff a r m).1 answer
  rw [freeze, sealed]
  exact ⟨rfl, rfl⟩

/-- A refused assembly takes no number. -/
theorem registry_of_refused {a : Assembly α} {r : Registry} {fault : Fault α}
    (answer : (a.freeze r).answer = .error fault) : (a.freeze r).registry = r := by
  have refused : a.sealFrames = .error fault := (freeze_eq_error_iff a r fault).1 answer
  rw [freeze, refused]

theorem issued_le_freeze (a : Assembly α) (r : Registry) :
    r.issued ≤ (a.freeze r).registry.issued := by
  rw [freeze]
  cases a.sealFrames with
  | error fault => exact Nat.le_refl _
  | ok frames => exact Nat.le_succ _

theorem issued_le_registryAfter (r : Registry) (others : List (Assembly α)) :
    r.issued ≤ (registryAfter r others).issued := by
  induction others generalizing r with
  | nil => exact Nat.le_refl _
  | cons a others ih => exact (issued_le_freeze a r).trans (ih _)

/-- A number that was given out is not given out again. -/
theorem number_ne_of_freeze {a b : Assembly α} {r : Registry} {m m' : Model α}
    (first : (a.freeze r).answer = .ok m) (others : List (Assembly α))
    (second : (b.freeze (registryAfter (a.freeze r).registry others)).answer = .ok m') :
    m.number ≠ m'.number := by
  obtain ⟨number, issued⟩ := number_of_freeze first
  have later := issued_le_registryAfter (a.freeze r).registry others
  rw [number, (number_of_freeze second).1]
  intro same
  have numbers : r.issued + 1 = (registryAfter (a.freeze r).registry others).issued + 1 :=
    congrArg ModelId.number same
  omega

-- ============================================================================
-- What has to hold of the calls
-- ============================================================================

/-- The frame in the place `k` has a flaw, given the settings put in place last and the parent that
    it got when it was last hung. -/
def Flawed (calls : List (Call α)) (k : Nat) (fault : Fault α) : Prop :=
  ∃ f, (built calls).frames[k]? = some f ∧
    f.Flaw (lastSettings calls).tolerance (lastParent? calls ⟨k⟩) fault

/-- The calls make a model. -/
structure Freezable (calls : List (Call α)) : Prop where
  valid : (lastSettings calls).isValid = true
  hung : ∀ (k : Nat) (f : Frame (Option FrameId) α) (link : Option FrameId) (offset : Pose α),
    (built calls).frames[k]? = some f → f.mount = .attached link offset →
    (lastParent? calls ⟨k⟩).isSome = true
  fits : ∀ (k : Nat) (f : Frame (Option FrameId) α) (link : Option FrameId) (offset : Pose α),
    (built calls).frames[k]? = some f → f.mount = .attached link offset →
    offset.Fits (lastSettings calls).tolerance
  ends : ∀ k < (built calls).frames.size, Ends (lastParent? calls) ⟨k⟩

/-- The calls make no model, and this is the fault to report: settings that do not serve; then the
    flaw of the first frame that has one; then a cycle of parents. -/
inductive Complaint (calls : List (Call α)) : Fault α → Prop
  | settings (invalid : (lastSettings calls).isValid = false) :
      Complaint calls (.invalidSettings (.tolerance (lastSettings calls).tolerance))
  | frame {k : Nat} {fault : Fault α} (valid : (lastSettings calls).isValid = true)
      (flawed : Flawed calls k fault) (before : ∀ j < k, ∀ fault', ¬ Flawed calls j fault') :
      Complaint calls fault
  | cycle {s c : Nat} {f : Frame (Option FrameId) α} (valid : (lastSettings calls).isValid = true)
      (flawless : ∀ k fault', ¬ Flawed calls k fault') (lt : s < (built calls).frames.size)
      (stuck : ¬ Ends (lastParent? calls) ⟨s⟩) (before : ∀ t < s, Ends (lastParent? calls) ⟨t⟩)
      (first : FirstOnCycle (lastParent? calls) ⟨s⟩ ⟨c⟩)
      (found : (built calls).frames[c]? = some f) :
      Complaint calls (.structural f.name .cycle)

theorem flawed_iff (calls : List (Call α)) (k : Nat) (fault : Fault α) :
    Flawed calls k fault ↔ ∃ f, (built calls).frames[k]? = some f ∧
      f.Flaw (built calls).settings.tolerance f.mount.parent?.join fault := by
  rw [Flawed, built_settings]
  refine ⟨?_, ?_⟩
  · rintro ⟨f, found, flaw⟩
    exact ⟨f, found, by rwa [← built_parent?, parent?_eq found] at flaw⟩
  · rintro ⟨f, found, flaw⟩
    exact ⟨f, found, by rwa [← built_parent?, parent?_eq found]⟩

theorem firstFlaw_iff (calls : List (Call α)) (k : Nat) (fault : Fault α) :
    FirstFlaw (built calls).settings.tolerance (built calls).frames k fault ↔
      Flawed calls k fault ∧ ∀ j < k, ∀ fault', ¬ Flawed calls j fault' := by
  simp only [FirstFlaw, flawed_iff]
  refine ⟨?_, ?_⟩
  · rintro ⟨f, found, flaw, before⟩
    refine ⟨⟨f, found, flaw⟩, ?_⟩
    rintro j lt fault' ⟨g, hg, flaw'⟩
    exact before j lt g hg fault' flaw'
  · rintro ⟨⟨f, found, flaw⟩, before⟩
    exact ⟨f, found, flaw, fun j lt g hg fault' flaw' => before j lt fault' ⟨g, hg, flaw'⟩⟩

/-- Without a flaw all frames have a final form, and only then. -/
theorem exists_sealed_iff (calls : List (Call α)) :
    (∃ frames : Array (Frame FrameId α), frames.map (·.mapLink some) = (built calls).frames ∧
      AllFit (built calls).settings.tolerance frames) ↔ ∀ k fault, ¬ Flawed calls k fault := by
  simp only [← mapM_seal_eq_ok_iff]
  refine ⟨?_, ?_⟩
  · rintro ⟨frames, sealed⟩ k fault flawed
    -- Of the flawed frames the first would have stopped the checks.
    have some_flaw : ∃ k fault, Flawed calls k fault := ⟨k, fault, flawed⟩
    classical
    obtain ⟨first, flaw⟩ := Nat.find_spec some_flaw
    have before : ∀ j < Nat.find some_flaw, ∀ fault', ¬ Flawed calls j fault' :=
      fun j lt fault' h => Nat.find_min some_flaw lt ⟨fault', h⟩
    have stop := (mapM_seal_eq_error_iff _ _ first).2
      ⟨Nat.find some_flaw, (firstFlaw_iff calls _ _).2 ⟨flaw, before⟩⟩
    rw [sealed] at stop
    cases stop
  · intro flawless
    cases sealed : (built calls).frames.mapM (·.seal (built calls).settings.tolerance) with
    | ok frames => exact ⟨frames, rfl⟩
    | error fault =>
      obtain ⟨k, first⟩ := (mapM_seal_eq_error_iff _ _ _).1 sealed
      exact absurd ((firstFlaw_iff calls k fault).1 first).1 (flawless k fault)

theorem flawless_iff (calls : List (Call α)) :
    (∀ k fault, ¬ Flawed calls k fault) ↔
      ∀ (k : Nat) (f : Frame (Option FrameId) α) (link : Option FrameId) (offset : Pose α),
        (built calls).frames[k]? = some f → f.mount = .attached link offset →
        (lastParent? calls ⟨k⟩).isSome = true ∧ offset.Fits (lastSettings calls).tolerance := by
  refine ⟨?_, ?_⟩
  · intro flawless k f link offset found mount
    cases parent : lastParent? calls ⟨k⟩ with
    | none => exact absurd ⟨f, found, .parentMissing mount parent⟩ (flawless k _)
    | some p =>
      have hung : (lastParent? calls ⟨k⟩).isSome = true := by rw [parent]; rfl
      refine ⟨rfl, ?_⟩
      rw [Pose.Fits]
      by_contra unfit
      cases finite : offset.isFinite with
      | false => exact flawless k _ ⟨f, found, .offsetNotFinite mount hung finite⟩
      | true =>
        have far : Scalar.lt (lastSettings calls).tolerance
            (Scalar.abs (offset.rotation.norm - 1)) = true := by
          simpa [finite] using unfit
        exact flawless k _ ⟨f, found, .offsetNorm mount hung finite far⟩
  · rintro fine k fault ⟨f, found, flaw⟩
    cases flaw with
    | parentMissing mount missing =>
      have hung := (fine k f _ _ found mount).1
      rw [missing] at hung
      cases hung
    | offsetNotFinite mount parent bad =>
      have finite := (fine k f _ _ found mount).2.1
      rw [bad] at finite
      cases finite
    | offsetNorm mount parent finite far =>
      have near := (fine k f _ _ found mount).2.2
      rw [far] at near
      cases near

-- ============================================================================
-- Links of the final frames, by number
-- ============================================================================

theorem parentIndex?_history {calls : List (Call α)} {frames : Array (Frame FrameId α)}
    (same : frames.map (·.mapLink some) = (built calls).frames) (i : FrameId) :
    parentIndex? frames i.index = (lastParent? calls i).map (·.index) := by
  rw [parentIndex?_eq same, built_parent?]

theorem index_injective : Function.Injective FrameId.index := by
  rintro ⟨k⟩ ⟨l⟩ eq
  cases eq
  rfl

/-- The links of the final frames end just where the links of the history do. -/
theorem ends_parentIndex?_iff {calls : List (Call α)} {frames : Array (Frame FrameId α)}
    (same : frames.map (·.mapLink some) = (built calls).frames) (k : Nat) :
    Ends (parentIndex? frames) k ↔ Ends (lastParent? calls) ⟨k⟩ :=
  ends_map_iff (parentIndex?_history same) ⟨k⟩

/-- The place to blame in the final frames, said of the history. -/
theorem blamed_parentIndex?_iff {calls : List (Call α)} {frames : Array (Frame FrameId α)}
    (same : frames.map (·.mapLink some) = (built calls).frames) (c : Nat) :
    Blamed (parentIndex? frames) frames.size c ↔ ∃ s < (built calls).frames.size,
      ¬ Ends (lastParent? calls) ⟨s⟩ ∧ (∀ t < s, Ends (lastParent? calls) ⟨t⟩) ∧
      FirstOnCycle (lastParent? calls) ⟨s⟩ ⟨c⟩ := by
  have size : frames.size = (built calls).frames.size := by rw [← same, Array.size_map]
  have first (s : Nat) : FirstOnCycle (parentIndex? frames) s c ↔
      FirstOnCycle (lastParent? calls) ⟨s⟩ ⟨c⟩ :=
    firstOnCycle_map_iff (parentIndex?_history same) index_injective ⟨s⟩ ⟨c⟩
  simp only [Blamed, size, ends_parentIndex?_iff same, first]

-- ============================================================================
-- Freezing decides
-- ============================================================================

theorem sealFrames_built_eq_ok_iff (calls : List (Call α)) (frames : Array (Frame FrameId α)) :
    (built calls).sealFrames = .ok frames ↔ Freezable calls ∧
      frames.map (·.mapLink some) = (built calls).frames := by
  rw [sealFrames_eq_ok_iff]
  refine ⟨?_, ?_⟩
  · rintro ⟨valid, same, fit, acyclic⟩
    have flawless := (exists_sealed_iff calls).1 ⟨frames, same, fit⟩
    have fine := (flawless_iff calls).1 flawless
    rw [checkAcyclic_eq_ok_iff ((built_sound calls).closed same)] at acyclic
    have size : frames.size = (built calls).frames.size := by rw [← same, Array.size_map]
    refine ⟨⟨built_settings calls ▸ valid, fun k f link offset found mount => ?_,
      fun k f link offset found mount => ?_, fun k lt => ?_⟩, same⟩
    · exact (fine k f link offset found mount).1
    · exact (fine k f link offset found mount).2
    · exact (ends_parentIndex?_iff same k).1 (acyclic k (size ▸ lt))
  · rintro ⟨⟨valid, hung, fits, ends⟩, same⟩
    have flawless := (flawless_iff calls).2 fun k f link offset found mount =>
      ⟨hung k f link offset found mount, fits k f link offset found mount⟩
    obtain ⟨gs, same', fit⟩ := (exists_sealed_iff calls).2 flawless
    obtain rfl : gs = frames :=
      (Array.map_inj_right fun _ _ eq => Frame.mapLink_injective eq).1 (same'.trans same.symm)
    refine ⟨by rwa [built_settings], same, fit, ?_⟩
    rw [checkAcyclic_eq_ok_iff ((built_sound calls).closed same)]
    have size : gs.size = (built calls).frames.size := by rw [← same, Array.size_map]
    exact fun k lt => (ends_parentIndex?_iff same k).2 (ends k (size ▸ lt))

theorem sealFrames_built_eq_error_iff (calls : List (Call α)) (fault : Fault α) :
    (built calls).sealFrames = .error fault ↔ Complaint calls fault := by
  rw [sealFrames_eq_error_iff]
  refine ⟨?_, ?_⟩
  · rintro (⟨invalid, rfl⟩ | ⟨valid, k, first⟩ | ⟨valid, frames, ⟨same, fit⟩, cyclic⟩)
    · rw [built_settings] at invalid ⊢
      exact .settings invalid
    · obtain ⟨flawed, before⟩ := (firstFlaw_iff calls k fault).1 first
      exact .frame (built_settings calls ▸ valid) flawed before
    · rw [checkAcyclic_eq_error_iff ((built_sound calls).closed same)] at cyclic
      obtain ⟨c, g, blamed, found, rfl⟩ := cyclic
      obtain ⟨s, lt, stuck, before, first⟩ := (blamed_parentIndex?_iff same c).1 blamed
      have here : (built calls).frames[c]? = some (g.mapLink some) := by
        rw [← same, Array.getElem?_map, found, Option.map_some]
      exact .cycle (built_settings calls ▸ valid)
        ((exists_sealed_iff calls).1 ⟨frames, same, fit⟩) lt stuck before first here
  · intro complaint
    cases complaint with
    | settings invalid =>
      rw [built_settings]
      exact .inl ⟨invalid, rfl⟩
    | @frame k _ valid flawed before =>
      rw [built_settings]
      exact .inr (.inl ⟨valid, k, (built_settings calls ▸ firstFlaw_iff calls k fault).2
        ⟨flawed, before⟩⟩)
    | @cycle s c f valid flawless lt stuck before first found =>
      obtain ⟨frames, same, fit⟩ := (exists_sealed_iff calls).2 flawless
      refine .inr (.inr ⟨by rwa [built_settings], frames, ⟨same, fit⟩, ?_⟩)
      rw [checkAcyclic_eq_error_iff ((built_sound calls).closed same)]
      have blamed := (blamed_parentIndex?_iff same c).2 ⟨s, lt, stuck, before, first⟩
      rw [← same, Array.getElem?_map, Option.map_eq_some_iff] at found
      obtain ⟨g, hg, rfl⟩ := found
      exact ⟨c, g, blamed, hg, rfl⟩

/-- Freezing succeeds just for calls that make a model; the model has the frames that were added,
    each hung where it was last hung; and if freezing fails, the fault is the one to report. -/
theorem freeze_decides (calls : List (Call α)) (r : Registry) :
    ((∃ m, ((built calls).freeze r).answer = .ok m) ↔ Freezable calls) ∧
    (∀ m, ((built calls).freeze r).answer = .ok m →
      m.settings = lastSettings calls ∧
      m.frames.map (·.mapLink some) = (built calls).frames ∧
      (∀ (k : Nat) (g : Frame FrameId α), m.frames[k]? = some g →
        g.mount.parent? = lastParent? calls ⟨k⟩) ∧
      m.ids = (built calls).ids ∧ m.bodies = (built calls).bodies) ∧
    (∀ fault, ((built calls).freeze r).answer = .error fault ↔ Complaint calls fault) := by
  refine ⟨?_, fun m answer => ?_, fun fault => ?_⟩
  · simp only [freeze_eq_ok_iff, sealFrames_built_eq_ok_iff]
    refine ⟨?_, ?_⟩
    · rintro ⟨-, -, ⟨freezable, -⟩, -⟩
      exact freezable
    · intro freezable
      have fine := (flawless_iff calls).2 fun k f link offset found mount =>
        ⟨freezable.hung k f link offset found mount, freezable.fits k f link offset found mount⟩
      obtain ⟨frames, same, -⟩ := (exists_sealed_iff calls).2 fine
      exact ⟨_, frames, ⟨freezable, same⟩, rfl⟩
  · obtain ⟨frames, sealed, rfl⟩ := (freeze_eq_ok_iff _ r m).1 answer
    have same := ((sealFrames_built_eq_ok_iff calls frames).1 sealed).2
    refine ⟨built_settings calls, same, fun k g found => ?_, rfl, rfl⟩
    have here : (built calls).frames[k]? = some (g.mapLink some) := by
      rw [← same, Array.getElem?_map, found, Option.map_some]
    rw [← built_parent?, parent?_eq here]
    obtain ⟨name, mount⟩ := g
    cases mount <;> rfl
  · rw [freeze_eq_error_iff, sealFrames_built_eq_error_iff]

end

end Assembly
end RigidFrames
