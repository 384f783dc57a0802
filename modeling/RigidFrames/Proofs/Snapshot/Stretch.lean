/-
  RigidFrames.Proofs.Snapshot.Stretch

  Each ground pose is computed once at most between two changes.

  A stretch is a part of a run in which no version is raised and the memo is
  not forgotten.  `Snapshot.evaluations` lists the ground poses that were
  asked for in it, with what came of each, and `Tally` settles the bill: just
  the root paths of what was evaluated have been entered, each frame of them
  handed in once, and each root read once.

  The bill is kept along the accesses of an evaluation (`Booked`), where it
  is open by what the evaluation has won or owes, and closed at its end
  (`Account.evaluate`).
-/
import RigidFrames.Proofs.Query.Account
import RigidFrames.Proofs.Snapshot.Run

namespace RigidFrames

open Links Walk

variable {α β : Type}

/-- A ground pose that was asked for, and what came of it. -/
structure Evaluation (α : Type) where
  frame : FrameId
  answer : Except (Fault α) (Pose α)

namespace Evaluation

/-- The evaluation failed because the pose of a body is not finite. -/
def isDegenerate (e : Evaluation α) : Bool :=
  match e.answer with
  | .error fault => fault.kind = .degenerate
  | .ok _ => false

/-- The frames that were evaluated with success, in the order of the evaluations. -/
def successes (es : List (Evaluation α)) : List FrameId :=
  (es.filter (·.answer.isOk)).map (·.frame)

/-- The frames on the root paths of those that were evaluated with success. -/
def computed (m : Model α) (es : List (Evaluation α)) : Finset FrameId :=
  ((successes es).flatMap m.rootPath).toFinset

/-- The bases of the frames that were evaluated with success. -/
def bases (m : Model α) (es : List (Evaluation α)) : Finset FrameId :=
  ((successes es).map m.base).toFinset

end Evaluation

open Evaluation

-- ============================================================================
-- What is evaluated
-- ============================================================================

section

variable [Scalar α]

/-- The evaluations that a question makes: of its first frame, and of the second if the first has
    a pose.  A state of another model, or frames of two models, are refused before. -/
def Question.evaluations (s : State α) (μ : Meter α) : Question α β → List (Evaluation α)
  | ground f =>
    if s.model = f.model.number then [⟨f.id, ((f.groundPose s).ask μ).1⟩] else []
  | between f a | expressVector _ f a | locate _ f a =>
    if f.sameModel a ∧ s.model = f.model.number then
      let (first, μ) := (f.groundPose s).ask μ
      ⟨f.id, first⟩ :: if first.isOk then [⟨a.id, ((a.groundPose s).ask μ).1⟩] else []
    else []

/-- The evaluations that an action makes. -/
def Action.evaluations (s : Snapshot α) : Action α → List (Evaluation α)
  | ask q => q.evaluations s.state s.meter
  | _ => []

/-- The action begins a new stretch: it moves a body, marks a change or forgets the memo. -/
def Action.Renews (s : Snapshot α) : Action α → Prop
  | setPose body x => (s.setPose body x).1 = .ok ()
  | touch | clear => True
  | ask _ => False

namespace Snapshot

/-- The evaluations that the actions make one after the other. -/
def evaluations (s : Snapshot α) : List (Action α) → List (Evaluation α)
  | [] => []
  | a :: actions => a.evaluations s ++ (s.act a).evaluations actions

/-- None of the actions begins a new stretch: all are questions, or refused. -/
def Quiet (s : Snapshot α) : List (Action α) → Prop
  | [] => True
  | a :: actions => ¬ a.Renews s ∧ (s.act a).Quiet actions

/-- The bill of a stretch from `s` to `s'` with the evaluations `es`. -/
structure Tally (m : Model α) (s s' : Snapshot α) (es : List (Evaluation α)) : Prop where
  stamp : s'.stamp = s.stamp
  /-- Just the root paths of what was evaluated have an entry for the present version. -/
  entered : ∀ i, s'.meter.Entered s'.stamp i ↔ i ∈ computed m es
  /-- All other entries are as they were, and none is newer than the present version. -/
  others : ∀ i, i ∉ computed m es → s'.memo.entries[i]? = s.memo.entries[i]?
  past : s'.meter.Past s'.stamp
  /-- Each frame was computed once. -/
  misses : s'.memo.misses = s.memo.misses + (computed m es).card
  /-- Each success but the first of its base found an entry. -/
  hits : s'.memo.hits + (bases m es).card = s.memo.hits + (successes es).length
  /-- The body of each base was read once, and once for each failure. -/
  reads : s'.meter.reads = s.meter.reads + ((bases m es).filter fun i => m.follows i = true).card +
    (es.filter isDegenerate).length

end Snapshot

end

-- ============================================================================
-- Lists of evaluations
-- ============================================================================

namespace Evaluation

variable {m : Model α} {es : List (Evaluation α)} {i : FrameId}

theorem mem_computed : i ∈ computed m es ↔ ∃ j ∈ successes es, i ∈ m.rootPath j := by
  rw [computed, List.mem_toFinset, List.mem_flatMap]

theorem mem_bases : i ∈ bases m es ↔ ∃ j ∈ successes es, m.base j = i := by
  rw [bases, List.mem_toFinset, List.mem_map]

theorem successes_ok (es : List (Evaluation α)) (i : FrameId) (x : Pose α) :
    successes (es ++ [⟨i, .ok x⟩]) = successes es ++ [i] := by
  rw [successes, List.filter_append, List.map_append]
  rfl

theorem successes_error (es : List (Evaluation α)) (i : FrameId) (fault : Fault α) :
    successes (es ++ [⟨i, .error fault⟩]) = successes es := by
  rw [successes, List.filter_append, List.map_append]
  exact List.append_nil _

theorem mem_computed_ok {j : FrameId} {x : Pose α} :
    j ∈ computed m (es ++ [⟨i, .ok x⟩]) ↔ j ∈ computed m es ∨ j ∈ m.rootPath i := by
  simp only [mem_computed, successes_ok, List.mem_append, List.mem_singleton, or_and_right,
    exists_or, exists_eq_left]

theorem computed_error (m : Model α) (es : List (Evaluation α)) (i : FrameId) (fault : Fault α) :
    computed m (es ++ [⟨i, .error fault⟩]) = computed m es := by
  rw [computed, successes_error]
  rfl

/-- The bases are the roots among the frames that were computed. -/
theorem mem_bases_iff (wf : m.WellFormed) (inside : ∀ j ∈ successes es, j.index < m.size) :
    i ∈ bases m es ↔ m.isRoot i = true ∧ i ∈ computed m es := by
  rw [mem_bases, mem_computed, Model.isRoot, Option.isNone_iff_eq_none]
  refine ⟨?_, ?_⟩
  · rintro ⟨j, mem, rfl⟩
    exact ⟨wf.parent?_base j, j, mem, (wf.mem_rootPath (inside j mem)).2 (wf.above_base j)⟩
  · rintro ⟨root, j, mem, path⟩
    have above := (wf.mem_rootPath (inside j mem)).1 path
    exact ⟨j, mem, (wf.above_root_iff.1 ⟨above, root⟩).symm⟩

end Evaluation

-- ============================================================================
-- The bill while an evaluation is under way
-- ============================================================================

/-- The bill since the meter was `before`, with the evaluations `es`. -/
structure Account [Scalar α] {m : Model α} (wf : m.WellFormed) (view : Stamp → State α)
    (s : State α) (before : Meter α) (es : List (Evaluation α)) (μ : Meter α) : Prop where
  shared : Shared wf view s μ
  inside : ∀ i ∈ successes es, i.index < m.size
  entered : ∀ i, μ.Entered s.stamp i ↔ i ∈ computed m es
  others : ∀ i, ¬ μ.Entered s.stamp i → μ.memo.entries[i]? = before.memo.entries[i]?
  misses : μ.memo.misses = before.memo.misses + m.census (fun _ => true) μ s.stamp
  hits : μ.memo.hits + m.census m.isRoot μ s.stamp = before.memo.hits + (successes es).length
  reads : μ.reads =
    before.reads + m.census m.follows μ s.stamp + (es.filter isDegenerate).length

/-- The bill while the evaluation of `target` is at `w`: open by what it has won or owes. -/
structure Booked [Scalar α] {m : Model α} (wf : m.WellFormed) (view : Stamp → State α)
    (s : State α) (before : Meter α) (es : List (Evaluation α)) (target : FrameId) (w : Walk α)
    (μ : Meter α) : Prop where
  shared : Shared wf view s μ
  engaged : Engaged wf s μ target w
  within : w.Within m
  novel : Novel μ s.stamp w
  kept : ∀ i ∈ computed m es, μ.Entered s.stamp i
  only : ∀ i, μ.Entered s.stamp i → i ∈ computed m es ∨
    ((wf.groundPose s target).isOk = true ∧ Above m.parent? target i)
  others : ∀ i, ¬ μ.Entered s.stamp i → μ.memo.entries[i]? = before.memo.entries[i]?
  misses : μ.memo.misses = before.memo.misses + m.census (fun _ => true) μ s.stamp
  hits : μ.memo.hits + m.census m.isRoot μ s.stamp =
    before.memo.hits + (successes es).length + won m w
  reads : μ.reads =
    before.reads + m.census m.follows μ s.stamp + (es.filter isDegenerate).length + owed m w

section

variable [Scalar α] {m : Model α} {wf : m.WellFormed} {view : Stamp → State α} {s : State α}
  {before μ : Meter α} {es : List (Evaluation α)}

theorem Booked.step (memoise : m.settings.memoise = true) (here : view s.stamp = s)
    (supplied : m.Supplied s) {target : FrameId} {w : Walk α}
    (booked : Booked wf view s before es target w μ) :
    Booked wf view s before es target (Walk.step m s w μ).1 (Walk.step m s w μ).2 := by
  obtain ⟨shared, engaged, within, novel, kept, only, others, misses, hits, reads⟩ := booked
  have past := shared.past
  have entered := fun i => entered_step (w := w) memoise past i
  have misses' := misses_census memoise past within novel
  have hits' := hits_census memoise past within novel engaged.correct
  have reads' := reads_census memoise past within novel supplied engaged.correct
  refine ⟨shared.step memoise here engaged, engaged.step memoise shared here,
    within.step wf s μ, novel.step memoise past shared.closed engaged.correct,
    fun i mem => ?_, fun i now => ?_, fun i not_now => ?_, by omega, by omega, by omega⟩
  · exact (entered i).2 (.inl (kept i mem))
  · rcases (entered i).1 now with old | ⟨x, pending, stores⟩
    · exact only i old
    · have correct := engaged.correct
      rw [stores] at correct
      exact .inr correct.store_inv
  · rw [entries_step memoise past not_now]
    exact others i fun old => not_now ((entered i).2 (.inl old))

/-- An evaluation adds itself to the bill. -/
theorem Account.evaluate (memoise : m.settings.memoise = true) (here : view s.stamp = s)
    (supplied : m.Supplied s) (account : Account wf view s before es μ) {i : FrameId}
    (lt : i.index < m.size) :
    Account wf view s before (es ++ [⟨i, ((m.evaluate s i).ask μ).1⟩])
      ((m.evaluate s i).ask μ).2 := by
  have begun : Booked wf view s before es i (.look i []) μ :=
    ⟨account.shared, ⟨.look .start, trivial⟩, ⟨lt, nofun⟩, nofun,
      fun j mem => (account.entered j).2 mem, fun j now => .inl ((account.entered j).1 now),
      account.others, account.misses, account.hits, account.reads⟩
  have booked := wf.evaluate_keeps (s := s) (P := Booked wf view s before es i)
    (fun _ _ booked => booked.step memoise here supplied) lt begun
  obtain ⟨shared, ⟨correct, anchored⟩, -, -, kept, only, others, misses, hits, reads⟩ := booked
  cases correct with
  | done right =>
    cases answer : ((m.evaluate s i).ask μ).1 with
    | ok x =>
      rw [answer] at right anchored hits reads
      refine ⟨shared, ?_, fun j => ?_, others, misses, ?_, ?_⟩
      · intro j mem
        rw [successes_ok, List.mem_append, List.mem_singleton] at mem
        rcases mem with old | rfl
        · exact account.inside j old
        · exact lt
      · rw [mem_computed_ok, wf.mem_rootPath lt]
        refine ⟨fun now => (only j now).imp_right And.right, ?_⟩
        rintro (old | above)
        · exact kept j old
        · exact shared.closed.above above anchored
      · rw [successes_ok, List.length_append]
        exact hits
      · rw [List.filter_append, List.length_append]
        exact reads
    | error fault =>
      rw [answer] at right hits reads
      refine ⟨shared, ?_, fun j => ?_, others, misses, ?_, ?_⟩
      · rw [successes_error]
        exact account.inside
      · rw [computed_error]
        refine ⟨fun now => (only j now).resolve_right fun both => ?_, kept j⟩
        -- The evaluation has failed, so its frame has no pose.
        rw [← right] at both
        cases both.1
      · rw [successes_error]
        exact hits
      · have last : ([⟨i, .error fault⟩] : List (Evaluation α)).filter isDegenerate =
            if fault.kind = .degenerate then [⟨i, .error fault⟩] else [] := by
          by_cases degenerate : fault.kind = .degenerate <;> simp [isDegenerate, degenerate]
        rw [List.filter_append, List.length_append, last, reads, owed]
        split <;> rfl

end

-- ============================================================================
-- Questions
-- ============================================================================

section

variable [Scalar α] {m : Model α} {wf : m.WellFormed} {view : Stamp → State α} {s : State α}
  {before μ : Meter α} {es : List (Evaluation α)} (memoise : m.settings.memoise = true)
  (here : view s.stamp = s) (supplied : m.Supplied s) (own : s.model = m.number)

include memoise here supplied own

theorem Account.node (account : Account wf view s before es μ) {n : Node α}
    (of_model : n.model = m) :
    Account wf view s before (es ++ [⟨n.id, ((n.groundPose s).ask μ).1⟩])
      ((n.groundPose s).ask μ).2 := by
  obtain ⟨model, i, lt⟩ := n
  obtain rfl : model = m := of_model
  rw [Node.groundPose, Model.groundPose_ask, if_pos own]
  exact account.evaluate memoise here supplied lt

/-- A question about two frames adds its evaluations to the bill. -/
theorem Account.between (account : Account wf view s before es μ) {f a : Node α}
    (hf : f.model.number = m.number → f.model = m)
    (ha : a.model.number = m.number → a.model = m) :
    Account wf view s before (es ++ (Question.between f a).evaluations s μ)
      ((f.between s a).ask μ).2 := by
  rw [Question.evaluations, Node.between]
  by_cases same : f.sameModel a = true
  · rw [if_pos same, Query.ask_bind]
    have numbers : f.model.number = a.model.number := beq_iff_eq.1 same
    by_cases of_model : s.model = f.model.number
    · rw [if_pos ⟨same, of_model⟩]
      have first := account.node memoise here supplied own (hf (of_model.symm.trans own))
      generalize (f.groundPose s).ask μ = asked at first ⊢
      obtain ⟨fault | x, μ'⟩ := asked
      · exact first
      · have second := first.node memoise here supplied own
          (ha (numbers.symm.trans (of_model.symm.trans own)))
        rw [List.append_assoc] at second
        show Account wf view s before _ ((a.groundPose s >>= fun y => pure _).ask μ').2
        rw [Query.ask_bind_pure]
        exact second
    · rw [if_neg fun both => of_model both.2, List.append_nil, Node.groundPose,
        Model.groundPose_ask, if_neg of_model]
      exact account
  · rw [if_neg same, if_neg fun both => same both.1, List.append_nil]
    exact account

theorem Account.question (account : Account wf view s before es μ) {q : Question α β}
    (consistent : q.Consistent m) :
    Account wf view s before (es ++ q.evaluations s μ) ((q.query s).ask μ).2 := by
  cases q with
  | ground f =>
    have hf := consistent f List.mem_cons_self
    rw [Question.evaluations]
    by_cases of_model : s.model = f.model.number
    · rw [if_pos of_model]
      exact account.node memoise here supplied own (hf (of_model.symm.trans own))
    · rw [if_neg of_model, List.append_nil, Question.query, Node.groundPose,
        Model.groundPose_ask, if_neg of_model]
      exact account
  | between f a =>
    have hf := consistent f List.mem_cons_self
    have ha := consistent a (List.mem_cons_of_mem _ List.mem_cons_self)
    exact account.between memoise here supplied own hf ha
  | expressVector v f a | locate v f a =>
    have hf := consistent f List.mem_cons_self
    have ha := consistent a (List.mem_cons_of_mem _ List.mem_cons_self)
    have asked := account.between memoise here supplied own hf ha
    show Account wf view s before _ ((f.between s a >>= fun x => pure _).ask μ).2
    rw [Query.ask_bind_pure]
    exact asked

end

-- ============================================================================
-- The bill at the end
-- ============================================================================

section

variable [Scalar α] {m : Model α} {wf : m.WellFormed} {view : Stamp → State α} {s : State α}
  {before μ : Meter α} {es : List (Evaluation α)}

/-- Where nothing is entered for the version nothing is due. -/
theorem Account.start (shared : Shared wf view s μ) (fresh : ∀ i, ¬ μ.Entered s.stamp i) :
    Account wf view s μ [] μ := by
  have nobody (kind : FrameId → Bool) : m.census kind μ s.stamp = 0 := by
    rw [Model.census, Finset.card_eq_zero]
    exact Finset.filter_false_of_mem fun i _ both => fresh i both.2
  refine ⟨shared, fun i mem => ?_, fun i => ?_, fun _ _ => rfl, ?_, ?_, ?_⟩
  · cases mem
  · exact iff_of_false (fresh i) (Finset.notMem_empty i)
  · rw [nobody, Nat.add_zero]
  · rw [nobody]
    rfl
  · rw [nobody]
    rfl

theorem Account.inside_computed (account : Account wf view s before es μ) {i : FrameId}
    (mem : i ∈ computed m es) : i.index < m.size := by
  obtain ⟨j, success, path⟩ := mem_computed.1 mem
  have lt := account.inside j success
  exact wf.above_lt lt ((wf.mem_rootPath lt).1 path)

theorem Account.census_eq (account : Account wf view s before es μ) (kind : FrameId → Bool) :
    m.census kind μ s.stamp = ((computed m es).filter fun i => kind i = true).card := by
  rw [Model.census]
  congr 1
  ext i
  rw [Finset.mem_filter, Finset.mem_filter, Model.mem_roster, account.entered i]
  refine ⟨?_, ?_⟩
  · rintro ⟨-, same, mem⟩
    exact ⟨mem, same⟩
  · rintro ⟨mem, same⟩
    exact ⟨account.inside_computed mem, same, mem⟩

/-- The roots that were computed are the bases. -/
theorem Account.filter_isRoot (account : Account wf view s before es μ) :
    ((computed m es).filter fun i => m.isRoot i = true) = bases m es := by
  ext i
  rw [Finset.mem_filter, mem_bases_iff wf account.inside, and_comm]

theorem Account.filter_follows (account : Account wf view s before es μ) :
    ((computed m es).filter fun i => m.follows i = true) =
      (bases m es).filter fun i => m.follows i = true := by
  rw [← account.filter_isRoot, Finset.filter_filter]
  apply Finset.filter_congr
  intro i _
  exact ⟨fun follows => ⟨Model.isRoot_of_follows follows, follows⟩, And.right⟩

end

-- ============================================================================
-- Stretches
-- ============================================================================

namespace Snapshot

variable [Scalar α] {m : Model α} {wf : m.WellFormed} {view : Stamp → State α}

/-- An action that begins no new stretch leaves the version and the bodies alone, and adds its
    evaluations to the bill. -/
theorem account_act (memoise : m.settings.memoise = true) {s : Snapshot α}
    (here : view s.stamp = s.state) (supplied : m.Supplied s.state) (own : s.model = m.number)
    {before : Meter α} {es : List (Evaluation α)}
    (account : Account wf view s.state before es s.meter) {a : Action α}
    (consistent : a.Consistent m) (quiet : ¬ a.Renews s) :
    (s.act a).state = s.state ∧
      Account wf view s.state before (es ++ a.evaluations s) (s.act a).meter := by
  cases a with
  | touch | clear => exact absurd trivial quiet
  | ask q => exact ⟨rfl, account.question memoise here supplied own consistent⟩
  | setPose body x =>
    have refused : s.act (.setPose body x) = s := by
      rw [Action.Renews, setPose] at quiet
      rw [act, setPose]
      split
      · next lt =>
        rw [if_pos lt] at quiet
        exact absurd rfl quiet
      · rfl
    have none : (Action.setPose body x).evaluations s = [] := rfl
    rw [refused, none, List.append_nil]
    exact ⟨rfl, account⟩

theorem account_run (memoise : m.settings.memoise = true) {s : Snapshot α}
    (here : view s.stamp = s.state) (supplied : m.Supplied s.state) (own : s.model = m.number)
    {before : Meter α} {es : List (Evaluation α)}
    (account : Account wf view s.state before es s.meter) {stretch : List (Action α)}
    (consistent : ∀ a ∈ stretch, a.Consistent m) (quiet : s.Quiet stretch) :
    (s.run stretch).state = s.state ∧
      Account wf view s.state before (es ++ s.evaluations stretch) (s.run stretch).meter := by
  induction stretch generalizing s es with
  | nil =>
    rw [evaluations, List.append_nil]
    exact ⟨rfl, account⟩
  | cons a stretch ih =>
    obtain ⟨first, rest⟩ := quiet
    obtain ⟨same, next⟩ := account_act memoise here supplied own account
      (consistent a List.mem_cons_self) first
    have stamp : (s.act a).stamp = s.stamp := congrArg State.stamp same
    have model : (s.act a).model = s.model := congrArg State.model same
    rw [← same] at next supplied
    have ended := ih (by rw [stamp, same, here]) supplied (model.trans own) next
      (fun b mem => consistent b (List.mem_cons_of_mem a mem)) rest
    rw [same, List.append_assoc] at ended
    exact ended

/-- After a change, or with the memo forgotten, nothing is entered for the present version. -/
theorem not_entered_act {s : Snapshot α} (coherent : Coherent wf s) {a : Action α}
    (renews : a.Renews s) (i : FrameId) : ¬ (s.act a).meter.Entered (s.act a).stamp i := by
  cases a with
  | ask q => exact absurd renews id
  | touch => exact not_entered_next coherent i
  | clear => exact Meter.not_entered_clear s.meter s.stamp i
  | setPose body x =>
    rw [Action.Renews, setPose] at renews
    rw [act, setPose]
    split
    · exact not_entered_next coherent i
    · next beyond =>
      rw [if_neg beyond] at renews
      cases renews

/-- In a stretch of questions each ground pose is computed once at most: the memo gains just the
    root paths of what was evaluated with success, and the counts are those of computing each frame
    of them once and reading each body once. -/
theorem stretch_tally (frozen : m.Frozen) (memoise : m.settings.memoise = true)
    (before : List (Action α)) (consistent : ∀ a ∈ before, a.Consistent m)
    (start : before = [] ∨
      ∃ earlier a, before = earlier ++ [a] ∧ a.Renews ((ofModel m).run earlier))
    (stretch : List (Action α)) (consistent' : ∀ a ∈ stretch, a.Consistent m)
    (quiet : ((ofModel m).run before).Quiet stretch) :
    let s := (ofModel m).run before
    Tally m s (s.run stretch) (s.evaluations stretch) := by
  intro s
  have wf := frozen.wellFormed
  have fresh (i : FrameId) : ¬ s.meter.Entered s.stamp i := by
    rcases start with none | ⟨earlier, a, last, renews⟩
    · have new : s = ofModel m := by rw [show s = (ofModel m).run before from rfl, none]; rfl
      rw [new]
      exact Meter.not_entered_empty _ i
    · have after : s = ((ofModel m).run earlier).act a := by
        rw [show s = (ofModel m).run before from rfl, last, run, List.foldl_append]
        rfl
      rw [after]
      have coherent := run_coherent wf fun b mem =>
        consistent b (last ▸ List.mem_append_left [a] mem)
      exact not_entered_act coherent renews i
  have coherent : Coherent wf s := run_coherent wf consistent
  obtain ⟨own, past, view, here, faithful⟩ := coherent
  have closed : Meter.Closed m s.meter s.stamp := run_closed wf memoise consistent
  have supplied : m.Supplied s.state := wf.supplied_run before
  have begun : Account wf view s.state s.meter [] s.meter := .start ⟨faithful, past, closed⟩ fresh
  obtain ⟨same, account⟩ := account_run memoise here supplied own begun consistent' quiet
  rw [List.nil_append] at account
  have stamp : (s.run stretch).stamp = s.stamp := congrArg State.stamp same
  have misses := account.misses
  have hits := account.hits
  have reads := account.reads
  rw [account.census_eq, Finset.filter_true_of_mem fun _ _ => rfl] at misses
  rw [account.census_eq, account.filter_isRoot] at hits
  rw [account.census_eq, account.filter_follows] at reads
  refine ⟨stamp, fun i => ?_, fun i absent => ?_, ?_, misses, hits, reads⟩
  · rw [stamp]
    exact account.entered i
  · exact account.others i fun now => absent ((account.entered i).1 now)
  · rw [stamp]
    exact account.shared.past

/-- The thigh has moved since the marker was asked for.  Then the marker is asked for with the
    thigh, a body that does not exist is moved, and the marker is asked for once more. -/
theorem stretch_tally_marker :
    let ask : Action Float := .ask (.ground Model.markerNode)
    let s := (ofModel Model.markerModel).run [ask, .setPose ⟨0⟩ (.ofTranslation ⟨1, 0, 0⟩)]
    let stretch := [.ask (.between Model.markerNode Model.markerNode), .setPose ⟨7⟩ 1, ask]
    s.Quiet stretch ∧ Tally Model.markerModel s (s.run stretch) (s.evaluations stretch) := by
  intro ask s stretch
  have size : ∀ a, (s.act a).poses.size = 1 := fun a =>
    (s.act_poses_size a).trans (run_poses_size Model.markerModel _)
  have quiet : s.Quiet stretch := by
    refine ⟨id, fun renews => ?_, id, trivial⟩
    rw [Action.Renews, setPose, if_neg (by rw [size]; decide)] at renews
    cases renews
  have asks : ask.Consistent Model.markerModel := by
    intro n mem _
    rw [List.mem_singleton.1 mem]
    rfl
  have asks_both : (Action.ask (.between Model.markerNode Model.markerNode)).Consistent
      Model.markerModel := by
    intro n mem _
    rw [(List.mem_pair.1 mem).elim id id]
    rfl
  have moves : (Action.setPose ⟨0⟩ (.ofTranslation ⟨1, 0, 0⟩)).Renews
      ((ofModel Model.markerModel).run [ask]) := by
    have one : ((ofModel Model.markerModel).run [ask]).poses.size = 1 :=
      run_poses_size Model.markerModel _
    rw [Action.Renews, setPose, if_pos (by rw [one]; decide)]
  refine ⟨quiet, stretch_tally Model.markerModel_frozen rfl _ ?_ (.inr ⟨[ask], _, rfl, moves⟩)
    stretch ?_ quiet⟩
  · exact List.forall_mem_cons.2 ⟨asks, List.forall_mem_singleton.2 trivial⟩
  · exact List.forall_mem_cons.2 ⟨asks_both, List.forall_mem_cons.2
      ⟨trivial, List.forall_mem_singleton.2 asks⟩⟩

end Snapshot

end RigidFrames
