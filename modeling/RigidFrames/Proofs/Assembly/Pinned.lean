/-
  RigidFrames.Proofs.Assembly.Pinned

  A body pinned to ground.

  Pinning a body at a pose attaches the frame that follows it to ground, at
  this pose, and leaves the body out of the count of bodies.  Calls that do not
  hang this frame elsewhere do not see the difference (`perform_pinned`), so
  pinning a body of what is built is the same as attaching its frame while
  building (`built_pinned`).  What freezes still does so with a body pinned
  where offsets are accepted (`freeze_pinned`).
-/
import RigidFrames.Proofs.Assembly.Freezing

namespace RigidFrames

open Links

variable {α L : Type}

/-- The number of a body when the body `k` is not counted. -/
def BodyIndex.without (k body : BodyIndex) : BodyIndex :=
  if k.index < body.index then ⟨body.index - 1⟩ else body

/-- The mount with the body `k` pinned at the pose `x`. -/
def Mount.pinned (ground : L) (k : BodyIndex) (x : Pose α) : Mount L α → Mount L α
  | .ground => .ground
  | .grounded body => if body = k then .attached ground x else .grounded (k.without body)
  | .attached parent offset => .attached parent offset

/-- The frame with the body `k` pinned at the pose `x`. -/
def Frame.pinned (ground : L) (k : BodyIndex) (x : Pose α) (f : Frame L α) : Frame L α :=
  ⟨f.name, f.mount.pinned ground k x⟩

/-- The assembly with the body `k` pinned at the pose `x`. -/
def Assembly.pinned (a : Assembly α) (k : BodyIndex) (x : Pose α) : Assembly α where
  settings := a.settings
  frames := a.frames.map (·.pinned (some .ground) k x)
  ids := a.ids
  bodies := a.bodies - 1

/-- The model of this number with the body `k` pinned at the pose `x`. -/
def Model.pinned (m : Model α) (number : ModelId) (k : BodyIndex) (x : Pose α) : Model α where
  number := number
  settings := m.settings
  frames := m.frames.map (·.pinned .ground k x)
  ids := m.ids
  bodies := m.bodies - 1

section

variable {k : BodyIndex} {x : Pose α}

theorem Mount.pinned_self (ground : L) :
    (Mount.grounded k).pinned ground k x = .attached ground x := if_pos rfl

theorem Mount.pinned_other (ground : L) {body : BodyIndex} (other : body ≠ k) :
    (Mount.grounded body).pinned ground k x = .grounded (k.without body) := if_neg other

/-- Bodies given out before keep their numbers. -/
theorem Mount.pinned_of_lt (ground : L) {mount : Mount L α}
    (before : ∀ body, mount.body? = some body → body.index < k.index) :
    mount.pinned ground k x = mount := by
  cases mount with
  | ground | attached => rfl
  | grounded body =>
    have lt : body.index < k.index := before body rfl
    have other : body ≠ k := fun eq => Nat.lt_irrefl _ (eq ▸ lt)
    rw [pinned_other ground other, BodyIndex.without, if_neg (Nat.lt_asymm lt)]

/-- The next body given out is the one before it when `k` is not counted. -/
theorem Mount.pinned_next (ground : L) {bodies : Nat} (given : k.index < bodies) :
    (Mount.grounded ⟨bodies⟩).pinned ground k x = .grounded ⟨bodies - 1⟩ := by
  have other : (⟨bodies⟩ : BodyIndex) ≠ k := fun eq => Nat.ne_of_gt given (eq ▸ rfl)
  rw [pinned_other ground other, BodyIndex.without, if_pos given]

theorem Frame.mapLink_pinned (f : Frame FrameId α) :
    (f.pinned .ground k x).mapLink some = (f.mapLink some).pinned (some .ground) k x := by
  obtain ⟨name, _ | body | ⟨parent, offset⟩⟩ := f
  · rfl
  · by_cases same : body = k <;> simp [pinned, mapLink, Mount.pinned, Mount.mapLink, same]
  · rfl

/-- What pinning does to the link of a frame. -/
theorem Frame.pinned_parent? (ground : L) (f : Frame L α) :
    (f.pinned ground k x).mount.parent? =
      if f.mount.body? = some k then some ground else f.mount.parent? := by
  obtain ⟨name, _ | body | ⟨parent, offset⟩⟩ := f
  · rfl
  · by_cases same : body = k <;> simp [pinned, Mount.pinned, Mount.parent?, Mount.body?, same]
  · rfl

end

namespace Assembly

variable {a : Assembly α} {b : FrameId} {k : BodyIndex} {x : Pose α}

-- ============================================================================
-- One call
-- ============================================================================

/-- The reply with the body `k` pinned at the pose `x` in the assembly that it leaves. -/
def Reply.pinned {β : Type} (k : BodyIndex) (x : Pose α) (r : Reply α β) : Reply α β :=
  ⟨r.answer, r.after.pinned k x, r.log⟩

/-- The body `k` has been given out, and no other frame than `b` follows it. -/
structure Followed (a : Assembly α) (b : FrameId) (k : BodyIndex) : Prop where
  given : k.index < a.bodies
  only : ∀ (i : FrameId) (name : String),
    a.frames[i.index]? = some ⟨name, .grounded k⟩ → i = b

theorem pinned_getElem? (i : Nat) : (a.pinned k x).frames[i]? =
    a.frames[i]?.map (·.pinned (some .ground) k x) := Array.getElem?_map

theorem pinned_size : (a.pinned k x).frames.size = a.frames.size := Array.size_map

theorem add_pinned (name : String) (mount : Mount (Option FrameId) α) :
    (a.pinned k x).add name (mount.pinned (some .ground) k x) =
      (a.add name mount).pinned k x := by
  have names : (a.pinned k x).ids = a.ids := rfl
  rw [add, add, names, pinned_size]
  cases a.ids.contains name with
  | true => rfl
  | false => simp [Reply.pinned, pinned, Frame.pinned]

theorem addGrounded_pinned (given : k.index < a.bodies) (name : String) :
    (a.pinned k x).addGrounded name = (a.addGrounded name).pinned k x := by
  have next : (Mount.grounded ⟨(a.pinned k x).bodies⟩ : Mount (Option FrameId) α) =
      (Mount.grounded ⟨a.bodies⟩).pinned (some .ground) k x :=
    (Mount.pinned_next _ given).symm
  have count : a.bodies - 1 + 1 = a.bodies + 1 - 1 := by omega
  rw [addGrounded, addGrounded, next, add_pinned]
  rcases a.add_cases name (.grounded ⟨a.bodies⟩) with ⟨fault, refused⟩ | ⟨-, added⟩
  · rw [refused]
    rfl
  · rw [added]
    simp [Reply.pinned, pinned, count]

theorem setParent_pinned (followed : a.Followed b k) {i : FrameId} (other : i ≠ b)
    (parent : FrameId) : (a.pinned k x).setParent i parent = (a.setParent i parent).pinned k x := by
  rw [setParent, setParent, pinned_getElem?, pinned_size]
  cases found : a.frames[i.index]? with
  | none => rfl
  | some f =>
    rw [Option.map_some]
    by_cases known : parent.index < a.frames.size
    · obtain ⟨name, mount⟩ := f
      cases mount with
      | ground => simp [known, Frame.pinned, Mount.pinned, Reply.pinned, refuse]
      | grounded body =>
        have apart : body ≠ k := fun eq => other (followed.only i name (eq ▸ found))
        simp [known, Frame.pinned, Mount.pinned, apart, Reply.pinned, refuse]
      | attached old offset => simp [known, Frame.pinned, Mount.pinned, Reply.pinned, pinned]
    · simp [known, Frame.pinned, Reply.pinned, refuse]

/-- A call that does not hang the pinned frame elsewhere is answered alike, and what it leaves
    differs by the pin only. -/
theorem perform_pinned (followed : a.Followed b k) {c : Call α}
    (still : ∀ parent, c ≠ .setParent b parent) :
    (a.pinned k x).perform c = (a.perform c).pinned k x := by
  cases c with
  | configure settings => rfl
  | addGrounded name =>
    rw [perform, perform, addGrounded_pinned followed.given]
    rfl
  | addAttached name parent offset =>
    rw [perform, perform, addAttached, addAttached, pinned_size]
    have added := add_pinned (a := a) (k := k) (x := x) name (.attached (some parent) offset)
    by_cases lt : parent.index < a.frames.size
    · rw [if_pos lt, if_pos lt]
      exact congrArg (Reply.map some) added
    · rw [if_neg lt, if_neg lt]
      rfl
  | addUnparented name offset =>
    exact congrArg (Reply.map some) (add_pinned (a := a) name (.attached none offset))
  | setParent i parent =>
    have other : i ≠ b := fun eq => still parent (eq ▸ rfl)
    rw [perform, perform, setParent_pinned followed other]
    rfl

theorem Followed.outcome (followed : a.Followed b k) {c : Call α} {r : Reply α (Option FrameId)}
    (outcome : a.Outcome c r) : r.after.Followed b k := by
  cases outcome with
  | refused | configured => exact ⟨followed.given, followed.only⟩
  | @added _ f asked =>
    refine ⟨?_, fun i name found => ?_⟩
    · have given := followed.given
      show k.index < (a.extend f).bodies
      rw [extend]
      split
      · exact Nat.lt_succ_of_lt given
      · exact given
    · rw [extend_getElem?] at found
      split at found
      · cases found
        rcases c.frame?_body asked with none | next
        · cases none
        · cases next
          exact absurd followed.given (Nat.lt_irrefl _)
      · exact followed.only i name found
  | @moved j parent old name' offset here known =>
    refine ⟨followed.given, fun i name found => ?_⟩
    rw [replace_getElem? a here] at found
    split at found
    · cases found
    · exact followed.only i name found

-- ============================================================================
-- Runs
-- ============================================================================

theorem run_pinned (followed : a.Followed b k) {calls : List (Call α)}
    (still : ∀ parent, .setParent b parent ∉ calls) :
    (a.pinned k x).run calls = (a.run calls).pinned k x := by
  induction calls generalizing a with
  | nil => rfl
  | cons c calls ih =>
    have first : ∀ parent, c ≠ .setParent b parent :=
      fun parent eq => still parent (eq ▸ List.mem_cons_self)
    have rest : ∀ parent, .setParent b parent ∉ calls :=
      fun parent mem => still parent (List.mem_cons_of_mem _ mem)
    have next : (a.perform c).after.Followed b k := followed.outcome (perform_outcome a c)
    show ((a.pinned k x).perform c).after.run calls = ((a.perform c).after.run calls).pinned k x
    rw [perform_pinned followed first]
    exact ih next rest

theorem run_append_cons (a : Assembly α) (before after : List (Call α)) (c : Call α) :
    a.run (before ++ c :: after) = ((a.run before).perform c).after.run after := by
  rw [run, List.foldl_append, List.foldl_cons]
  rfl

theorem Sound.body_lt (sound : a.Sound) {f : Frame (Option FrameId) α} (mem : f ∈ a.frames)
    {body : BodyIndex} (follows : f.mount.body? = some body) : body.index < a.bodies := by
  have given : body ∈ a.frames.toList.filterMap (·.mount.body?) :=
    List.mem_filterMap.2 ⟨f, Array.mem_toList_iff.2 mem, follows⟩
  rw [sound.bodies, List.mem_map] at given
  obtain ⟨k, lt, rfl⟩ := given
  exact List.mem_range.1 lt

theorem perform_addGrounded {name : String} (free : a.ids.contains name = false) :
    a.perform (.addGrounded name) = ⟨.ok (some ⟨a.frames.size⟩),
      a.extend ⟨name, .grounded ⟨a.bodies⟩⟩, [.frameAdded name ⟨a.frames.size⟩]⟩ := by
  simp [perform, addGrounded, add, free, Reply.map, Except.map, extend, Mount.body?]

/-- Attaching a new frame to ground is grounding it and pinning the body that it got. -/
theorem attached_eq_pinned (sound : a.Sound) {name : String}
    (free : a.ids.contains name = false) :
    (a.perform (.addAttached name .ground x)).after =
      (a.perform (.addGrounded name)).after.pinned ⟨a.bodies⟩ x := by
  have old (f : Frame (Option FrameId) α) (mem : f ∈ a.frames) :
      f.pinned (some .ground) ⟨a.bodies⟩ x = f := by
    rw [Frame.pinned, Mount.pinned_of_lt _ fun body follows => sound.body_lt mem follows]
  have frames : a.frames.map (·.pinned (some .ground) ⟨a.bodies⟩ x) = a.frames :=
    (Array.map_congr_left old).trans (Array.map_id' _)
  have new : (⟨name, .grounded ⟨a.bodies⟩⟩ : Frame (Option FrameId) α).pinned (some .ground)
      ⟨a.bodies⟩ x = ⟨name, .attached (some .ground) x⟩ := by
    rw [Frame.pinned, Mount.pinned_self]
  have inside : FrameId.ground.index < a.frames.size := sound.lt_size
  rw [perform_addGrounded free]
  simp [perform, addAttached, add, inside, free, Reply.map, extend, pinned, Mount.body?, frames,
    new]

/-- The body that a new frame gets is followed by no frame from before. -/
theorem Followed.added (sound : a.Sound) {name : String} (free : a.ids.contains name = false) :
    (a.perform (.addGrounded name)).after.Followed ⟨a.frames.size⟩ ⟨a.bodies⟩ := by
  rw [perform_addGrounded free]
  refine ⟨Nat.lt_succ_self _, fun i other found => ?_⟩
  rw [extend_getElem?] at found
  split at found
  · next last => exact congrArg FrameId.mk last
  · exact absurd (sound.body_lt (Array.mem_of_getElem? found) rfl) (Nat.lt_irrefl _)

section

variable [Scalar α]

/-- A frame that follows a body was added by one of the calls. -/
theorem exists_addGrounded {calls : List (Call α)} {name : String}
    (found : (built calls).frames[b.index]? = some ⟨name, .grounded k⟩) :
    ∃ before after, calls = before ++ .addGrounded name :: after ∧
      (built before).ids.contains name = false ∧ b = ⟨(built before).frames.size⟩ ∧
      k = ⟨(built before).bodies⟩ := by
  induction calls using List.reverseRecOn with
  | nil =>
    have first : (built ([] : List (Call α))).frames = #[⟨groundName, .ground⟩] := rfl
    rw [first, Array.getElem?_singleton] at found
    split at found <;> cases found
  | append_singleton calls c ih =>
    -- The frame is there already, or the last call adds it.
    have earlier (old : (built calls).frames[b.index]? = some ⟨name, .grounded k⟩) :
        ∃ before after, calls ++ [c] = before ++ .addGrounded name :: after ∧
          (built before).ids.contains name = false ∧ b = ⟨(built before).frames.size⟩ ∧
          k = ⟨(built before).bodies⟩ := by
      obtain ⟨before, after, rfl, rest⟩ := ih old
      exact ⟨before, after ++ [c], List.append_assoc _ _ _, rest⟩
    rw [built, run_append_singleton] at found
    have outcome := perform_outcome (empty.run calls) c
    generalize (empty.run calls).perform c = r at found outcome
    cases outcome with
    | refused | configured => exact earlier found
    | @added _ f asked free =>
      rw [extend_getElem?] at found
      split at found
      · next last =>
        cases found
        cases c <;> cases asked
        exact ⟨calls, [], rfl, free, congrArg FrameId.mk last, rfl⟩
      · exact earlier found
    | moved here =>
      rw [replace_getElem? _ here] at found
      split at found
      · cases found
      · exact earlier found

/-- Attaching a frame to ground among other calls is grounding it and pinning its body in what the
    calls build, if the frame is not hung elsewhere later. -/
theorem built_pinned {before after : List (Call α)} {name : String}
    (free : (built before).ids.contains name = false)
    (still : ∀ parent, .setParent ⟨(built before).frames.size⟩ parent ∉ after) :
    built (before ++ .addAttached name .ground x :: after) =
      (built (before ++ .addGrounded name :: after)).pinned ⟨(built before).bodies⟩ x := by
  have sound := built_sound before
  have attached := attached_eq_pinned (x := x) sound free
  have followed := Followed.added sound free
  rw [built, built, run_append_cons, run_append_cons]
  exact (congrArg (run · after) attached).trans (run_pinned followed still)

-- ============================================================================
-- Freezing
-- ============================================================================

omit [Scalar α] in
theorem parentIndex?_pinned (frames : Array (Frame FrameId α)) (i : Nat) :
    parentIndex? (frames.map (·.pinned .ground k x)) i =
      if frames[i]?.bind (·.mount.body?) = some k then some 0 else parentIndex? frames i := by
  rw [parentIndex?, parentIndex?, Array.getElem?_map]
  cases frames[i]? with
  | none => rfl
  | some f =>
    rw [Option.map_some, Option.bind_some, Option.bind_some, Option.bind_some, Frame.pinned_parent?]
    split <;> rfl

omit [Scalar α] in
/-- With a body pinned chains that led to its frame go on to ground and end there. -/
theorem ends_pinned {frames : Array (Frame FrameId α)}
    (ground : frames[0]? = some ⟨groundName, .ground⟩) {i : Nat}
    (ends : Ends (parentIndex? frames) i) :
    Ends (parentIndex? (frames.map (·.pinned .ground k x))) i := by
  have root : Ends (parentIndex? (frames.map (·.pinned .ground k x))) 0 := by
    refine .root ?_
    rw [parentIndex?_pinned, parentIndex?, ground]
    rfl
  induction ends with
  | @root i h =>
    by_cases follows : frames[i]?.bind (·.mount.body?) = some k
    · exact .step (by rw [parentIndex?_pinned, if_pos follows]) root
    · exact .root (by rw [parentIndex?_pinned, if_neg follows, h])
  | @step i j h _ ih =>
    by_cases follows : frames[i]?.bind (·.mount.body?) = some k
    · exact .step (by rw [parentIndex?_pinned, if_pos follows]) root
    · exact .step (by rw [parentIndex?_pinned, if_neg follows, h]) ih

/-- What freezes also freezes with a body pinned where offsets are accepted. -/
theorem freeze_pinned {m : Model α} {r : Registry} (sound : a.Sound)
    (sound' : (a.pinned k x).Sound) (answer : (a.freeze r).answer = .ok m)
    (fits : x.Fits a.settings.tolerance) (r' : Registry) :
    ((a.pinned k x).freeze r').answer = .ok (m.pinned r'.next k x) := by
  obtain ⟨frames, sealed, rfl⟩ := (freeze_eq_ok_iff a r m).1 answer
  obtain ⟨valid, same, fit, acyclic⟩ := (sealFrames_eq_ok_iff a frames).1 sealed
  have same' : (frames.map (·.pinned .ground k x)).map (·.mapLink some) =
      (a.pinned k x).frames := by
    rw [pinned, ← same, Array.map_map, Array.map_map]
    exact Array.map_congr_left fun f _ => f.mapLink_pinned
  refine (freeze_eq_ok_iff _ r' _).2 ⟨frames.map (·.pinned .ground k x), ?_, rfl⟩
  refine (sealFrames_eq_ok_iff _ _).2 ⟨valid, same', ?_, ?_⟩
  · intro g mem p offset mount
    obtain ⟨f, old, rfl⟩ := Array.mem_map.1 mem
    obtain ⟨name, _ | body | ⟨parent, offset'⟩⟩ := f
    · cases mount
    · by_cases pin : body = k
      · obtain ⟨-, rfl⟩ : FrameId.ground = p ∧ x = offset := by
          simpa [Frame.pinned, Mount.pinned, pin] using mount
        exact fits
      · simp [Frame.pinned, Mount.pinned, pin] at mount
    · cases mount
      exact fit _ old _ _ rfl
  · rw [checkAcyclic_eq_ok_iff (sound'.closed same')]
    rw [checkAcyclic_eq_ok_iff (sound.closed same)] at acyclic
    have ground : frames[0]? = some ⟨groundName, .ground⟩ := by
      have first := sound.ground
      rw [← same, Array.getElem?_map, Option.map_eq_some_iff] at first
      obtain ⟨⟨name, mount⟩, here, eq⟩ := first
      cases mount <;> cases eq
      exact here
    intro i lt
    rw [Array.size_map] at lt
    exact ends_pinned ground (acyclic i lt)

end

end Assembly
end RigidFrames
