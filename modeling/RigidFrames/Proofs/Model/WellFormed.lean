/-
  RigidFrames.Proofs.Model.WellFormed

  What queries may rely on in a frozen model.

  `Model.WellFormed` is what is left of the soundness of an assembly when its
  links have been checked: all links stay among the frames, and following them
  ends.  Every model that freezing made is well-formed
  (`wellFormed_of_freeze`), so a walk towards the root takes fewer steps than
  there are frames and the bound in `Model.climb` is never felt
  (`depth_of_route`, `depth_link`).
-/
import RigidFrames.Model.Ancestry
import RigidFrames.Proofs.Assembly.Freezing

namespace RigidFrames

open Links

variable {α : Type}

namespace Model

/-- The parts of a model belong together, links stay among the frames, and following them ends. -/
structure WellFormed (m : Model α) : Prop where
  ground : m.frame? .ground = some ⟨groundName, .ground⟩
  only_ground : ∀ (i : FrameId) (f : Frame FrameId α),
    m.frame? i = some f → f.mount = .ground → i = .ground
  ids_iff : ∀ (name : String) (i : FrameId),
    m.ids[name]? = some i ↔ ∃ f, m.frame? i = some f ∧ f.name = name
  bodies : m.frames.toList.filterMap (·.mount.body?) = (List.range m.bodies).map BodyIndex.mk
  parent_lt : ∀ i p, m.parent? i = some p → p.index < m.size
  ends : ∀ i, Ends m.parent? i

/-- The model is one that freezing made of some calls. -/
def Frozen [Scalar α] (m : Model α) : Prop :=
  ∃ calls r, ((Assembly.built calls).freeze r).answer = .ok m

-- ============================================================================
-- Links
-- ============================================================================

theorem frame?_lt {m : Model α} {i : FrameId} {f : Frame FrameId α} (found : m.frame? i = some f) :
    i.index < m.size :=
  (Array.getElem?_eq_some_iff.1 found).1

theorem link?_eq_some_iff {m : Model α} {i p : FrameId} {offset : Pose α} :
    m.link? i = some (p, offset) ↔ ∃ name, m.frame? i = some ⟨name, .attached p offset⟩ := by
  rw [link?]
  rcases m.frame? i with _ | ⟨name, _ | body | ⟨parent, x⟩⟩ <;> simp

theorem parent?_of_link? {m : Model α} {i p : FrameId} {offset : Pose α}
    (link : m.link? i = some (p, offset)) : m.parent? i = some p := by
  rw [parent?, link, Option.map_some]

theorem parent?_eq_none_iff {m : Model α} {i : FrameId} :
    m.parent? i = none ↔ m.link? i = none := by
  rw [parent?, Option.map_eq_none_iff]

theorem exists_link?_of_parent? {m : Model α} {i p : FrameId} (parent : m.parent? i = some p) :
    ∃ offset, m.link? i = some (p, offset) := by
  rw [parent?, Option.map_eq_some_iff] at parent
  obtain ⟨⟨p', offset⟩, link, rfl⟩ := parent
  exact ⟨offset, link⟩

theorem parent?_eq (m : Model α) (i : FrameId) :
    m.parent? i = m.frames[i.index]?.bind (·.mount.parent?) := by
  rw [parent?, link?, frame?]
  rcases m.frames[i.index]? with _ | ⟨name, _ | body | ⟨parent, x⟩⟩ <;> rfl

/-- The body of a frame is one of the model's. -/
theorem WellFormed.body_lt {m : Model α} (wf : m.WellFormed) {i : FrameId} {name : String}
    {body : BodyIndex} (found : m.frame? i = some ⟨name, .grounded body⟩) :
    body.index < m.bodies := by
  have mem : body ∈ m.frames.toList.filterMap (·.mount.body?) := by
    rw [List.mem_filterMap]
    exact ⟨_, Array.mem_toList_iff.2 (Array.mem_of_getElem? found), rfl⟩
  rw [wf.bodies, List.mem_map] at mem
  obtain ⟨k, lt, rfl⟩ := mem
  exact List.mem_range.1 lt

/-- No two frames follow one body. -/
theorem WellFormed.eq_of_body {m : Model α} (wf : m.WellFormed) {i j : FrameId}
    {name name' : String} {body : BodyIndex} (hi : m.frame? i = some ⟨name, .grounded body⟩)
    (hj : m.frame? j = some ⟨name', .grounded body⟩) : i = j := by
  have distinct : (m.frames.toList.filterMap (·.mount.body?)).Nodup := by
    rw [wf.bodies]
    exact List.nodup_range.map fun _ _ eq => BodyIndex.mk.inj eq
  rw [List.Nodup, List.pairwise_filterMap, List.pairwise_iff_getElem] at distinct
  obtain ⟨k⟩ := i
  obtain ⟨l⟩ := j
  obtain ⟨lt, hi⟩ := Array.getElem?_eq_some_iff.1 hi
  obtain ⟨lt', hj⟩ := Array.getElem?_eq_some_iff.1 hj
  have apart {k l : Nat} (lt : k < m.frames.size) (lt' : l < m.frames.size) (before : k < l)
      (hk : m.frames[k].mount.body? = some body) (hl : m.frames[l].mount.body? = some body) :
      False := distinct k l lt lt' before body hk body hl rfl
  rcases Nat.lt_trichotomy k l with before | rfl | after
  · exact (apart lt lt' before (by rw [hi]; rfl) (by rw [hj]; rfl)).elim
  · rfl
  · exact (apart lt' lt after (by rw [hj]; rfl) (by rw [hi]; rfl)).elim

/-- No two frames have one name. -/
theorem WellFormed.eq_of_name {m : Model α} (wf : m.WellFormed) {i j : FrameId}
    {f g : Frame FrameId α} (hi : m.frame? i = some f) (hj : m.frame? j = some g)
    (same : f.name = g.name) : i = j := by
  have left := (wf.ids_iff f.name i).2 ⟨f, hi, rfl⟩
  have right := (wf.ids_iff f.name j).2 ⟨g, hj, same.symm⟩
  exact Option.some.inj (left.symm.trans right)

-- ============================================================================
-- Frozen models
-- ============================================================================

section

variable [Scalar α] {calls : List (Call α)} {r : Registry} {m : Model α}
  (answer : ((Assembly.built calls).freeze r).answer = .ok m)

include answer

/-- A frozen model has the parts of its assembly, with the links made final. -/
theorem parts_of_freeze : Assembly.Freezable calls ∧
    m.frames.map (·.mapLink some) = (Assembly.built calls).frames ∧
    m.ids = (Assembly.built calls).ids ∧ m.bodies = (Assembly.built calls).bodies := by
  obtain ⟨frames, sealed, rfl⟩ := (Assembly.freeze_eq_ok_iff _ r m).1 answer
  obtain ⟨freezable, same⟩ := (Assembly.sealFrames_built_eq_ok_iff calls frames).1 sealed
  exact ⟨freezable, same, rfl, rfl⟩

theorem frames_of_freeze (k : Nat) :
    (Assembly.built calls).frames[k]? = (m.frame? ⟨k⟩).map (·.mapLink some) := by
  rw [← (parts_of_freeze answer).2.1, Array.getElem?_map]
  rfl

theorem size_of_freeze : m.size = (Assembly.built calls).frames.size := by
  rw [← (parts_of_freeze answer).2.1, Array.size_map]
  rfl

theorem wellFormed_of_freeze : m.WellFormed := by
  have sound := Assembly.built_sound calls
  have found := frames_of_freeze answer
  have size := size_of_freeze answer
  obtain ⟨freezable, same, ids, bodies⟩ := parts_of_freeze answer
  have links (i : FrameId) : m.parent? i = Assembly.lastParent? calls i := by
    rw [← Assembly.built_parent?, Assembly.parent?, found, parent?_eq]
    show (m.frame? i).bind _ = _
    rcases m.frame? i with _ | ⟨name, _ | body | ⟨parent, x⟩⟩ <;> rfl
  refine ⟨?_, ?_, ?_, ?_, ?_, ?_⟩
  · have first := sound.ground
    rw [found, Option.map_eq_some_iff] at first
    obtain ⟨⟨name, mount⟩, here, eq⟩ := first
    cases mount <;> cases eq
    exact here
  · rintro ⟨k⟩ f here mount
    have place : (Assembly.built calls).frames[k]? = some (f.mapLink some) := by
      rw [found, here, Option.map_some]
    have first := sound.only_ground k (f.mapLink some) place (by rw [Frame.mapLink, mount]; rfl)
    rw [first]
    rfl
  · rintro name ⟨k⟩
    rw [ids, sound.ids_iff, found]
    cases m.frame? ⟨k⟩ <;> simp [Frame.mapLink]
  · rw [bodies, ← sound.bodies, ← same, Array.toList_map, List.filterMap_map]
    congr 1
    funext f
    obtain ⟨name, mount⟩ := f
    cases mount <;> rfl
  · rintro ⟨k⟩ p parent
    obtain ⟨offset, link⟩ := exists_link?_of_parent? parent
    obtain ⟨name, here⟩ := link?_eq_some_iff.1 link
    have place : (Assembly.built calls).frames[k]? =
        some ⟨name, .attached (some p) offset⟩ := by
      rw [found, here]
      rfl
    rw [size]
    exact sound.parents k _ p place rfl
  · rintro ⟨k⟩
    by_cases lt : k < m.size
    · rw [funext links]
      exact freezable.ends k (size ▸ lt)
    · refine .root ?_
      rw [parent?_eq, Array.getElem?_eq_none (Nat.le_of_not_lt lt)]
      rfl

end

theorem Frozen.wellFormed [Scalar α] {m : Model α} (frozen : m.Frozen) : m.WellFormed := by
  obtain ⟨calls, r, answer⟩ := frozen
  exact wellFormed_of_freeze answer

-- ============================================================================
-- A small model
-- ============================================================================

/-- Calls that make a model of a thigh that follows a body and a marker fixed to it.  The second
    call is refused, as the name is taken. -/
def markerCalls : List (Call Float) :=
  [.addGrounded "thigh", .addGrounded "thigh",
    .addAttached "marker" ⟨1⟩ (.ofTranslation ⟨0, 0, 1⟩)]

/-- The model that these calls make. -/
def markerModel : Model Float where
  number := ⟨1⟩
  settings := .standard
  frames := #[⟨groundName, .ground⟩, ⟨"thigh", .grounded ⟨0⟩⟩,
    ⟨"marker", .attached ⟨1⟩ (.ofTranslation ⟨0, 0, 1⟩)⟩]
  ids := (Assembly.built markerCalls).ids
  bodies := 1

/-- The marker. -/
def markerNode : Node Float :=
  ⟨markerModel, ⟨2⟩, by decide⟩

theorem freeze_markerCalls :
    ((Assembly.built markerCalls).freeze .empty).answer = .ok markerModel := by
  have fits : (Pose.ofTranslation ⟨0, 0, 1⟩).Fits
      (Settings.standard : Settings Float).tolerance := by decide +kernel
  refine Assembly.freeze_of_built rfl ?_ (by decide) ?_ (by decide)
  · simp [markerModel, markerCalls, Assembly.built_eq_run, groundName]
  · simpa [AllFit, markerModel] using fits

theorem markerModel_frozen : markerModel.Frozen :=
  ⟨markerCalls, .empty, freeze_markerCalls⟩

-- ============================================================================
-- Walks towards the root
-- ============================================================================

section

variable {m : Model α}

theorem WellFormed.above_lt (wf : m.WellFormed) {i a : FrameId} (lt : i.index < m.size)
    (above : Above m.parent? i a) : a.index < m.size := by
  obtain ⟨k, hk⟩ := above
  induction k generalizing i with
  | zero => cases hk; exact lt
  | succ k ih =>
    cases parent : m.parent? i with
    | none => rw [ancestor?_succ_of_none parent] at hk; cases hk
    | some p => exact ih (wf.parent_lt i p parent) (by rwa [ancestor?_succ_of_some parent] at hk)

theorem WellFormed.route_length_le (wf : m.WellFormed) {i : FrameId} (lt : i.index < m.size)
    {l : List FrameId} (route : Route m.parent? i l) : l.length ≤ m.size :=
  route.length_le FrameId.index (fun _ _ eq => Assembly.index_injective eq)
    fun _ above => wf.above_lt lt above

/-- With steps enough for the whole route a climb counts its links. -/
theorem climb_count {i : FrameId} {l : List FrameId} (route : Route m.parent? i l) {fuel : Nat}
    (enough : l.length ≤ fuel) (n : Nat) :
    (m.climb (fun n _ => n + 1) fuel i n).2 + 1 = n + l.length := by
  induction route generalizing fuel n with
  | root h =>
    obtain _ | fuel := fuel
    · cases enough
    · simp [climb, parent?_eq_none_iff.1 h]
  | @step i j l h _ ih =>
    obtain ⟨offset, link⟩ := exists_link?_of_parent? h
    obtain _ | fuel := fuel
    · cases enough
    · rw [climb, link]
      simp only
      rw [ih (Nat.le_of_succ_le_succ enough), List.length_cons]
      omega

/-- The depth of a frame is the number of links on its way to the root. -/
theorem WellFormed.depth_of_route (wf : m.WellFormed) {i : FrameId} (lt : i.index < m.size)
    {l : List FrameId} (route : Route m.parent? i l) : m.depth i + 1 = l.length := by
  rw [depth, climb_count route (wf.route_length_le lt route), Nat.zero_add]

theorem WellFormed.depth_lt (wf : m.WellFormed) {i : FrameId} (lt : i.index < m.size) :
    m.depth i < m.size := by
  obtain ⟨l, route⟩ := (wf.ends i).exists_route
  have := wf.depth_of_route lt route
  have := wf.route_length_le lt route
  omega

theorem WellFormed.depth_link (wf : m.WellFormed) {i p : FrameId}
    (parent : m.parent? i = some p) : m.depth i = m.depth p + 1 := by
  obtain ⟨offset, link⟩ := exists_link?_of_parent? parent
  obtain ⟨name, found⟩ := link?_eq_some_iff.1 link
  obtain ⟨l, route⟩ := (wf.ends p).exists_route
  have child := wf.depth_of_route (frame?_lt found) (.step parent route)
  have above := wf.depth_of_route (wf.parent_lt i p parent) route
  rw [List.length_cons] at child
  omega

end

end Model
end RigidFrames
