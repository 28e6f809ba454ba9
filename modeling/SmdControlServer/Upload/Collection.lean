import SmdControlServer.Upload.Profile

/-!
# Collecting the segments of a profile

The loop stores a segment at the position that its member has among all members
of the object, not at the next free index.  So a member that is no segment leaves
a gap, in which the array keeps what the stack held, and a segment behind the
sixteenth member is stored outside the array.
-/

namespace SmdControlServer

open CString Interaction

namespace CJson

/-- The key begins with `segment`. -/
def isSegment (m : CJson) : Bool :=
  match m.string with
  | none => false
  | some key => startsWith key "segment".toList

/-- The number under this key, upper and lower case being different. -/
def exactNumber (m : CJson) (key : Text) : Option Int :=
  (m.child.find? fun c => c.string == some key).map CJson.valueint

/-- The values of a segment member as the document has them. -/
def exactSegment (m : CJson) : Option AssembledMoveSegment := do
  let targetPosInches ← m.exactNumber "target_pos_inches".toList
  let programmedSpeed ← m.exactNumber "programmed_speed".toList
  let accel ← m.exactNumber "accel".toList
  let decel ← m.exactNumber "decel".toList
  let jerk ← m.exactNumber "jerk".toList
  pure { targetPosInches, programmedSpeed, accel, decel, jerk }

end CJson

/-- The members of a profile: all have keys, those whose key begins with `segment`
have the five fields, and there is one `type`, which is `dwell` or `blend`.  What a
member has can be found in it. -/
structure ProfileMembers (members : List CJson) : Prop where
  finds : ∀ m ∈ members, m.Finds
  keys : ∀ m ∈ members, m.string ≠ none
  fields : ∀ m ∈ members, m.isSegment = true → m.exactSegment ≠ none
  type : ∃ t, members.filter (fun m => m.string == some "type".toList) = [t] ∧
    (t.valuestring = some "dwell".toList ∨ t.valuestring = some "blend".toList)

/-- The positions of the segment members, the first member standing at `i`. -/
def segmentPositions : List CJson → Nat → List Nat
  | [], _ => []
  | m :: rest, i =>
      if m.isSegment then i :: segmentPositions rest (i + 1)
      else segmentPositions rest (i + 1)

/-- What the array has at index `k` after the loop: the member at that position if
it is a segment, and what it had before otherwise. -/
def collectedAt (members : List CJson) (i : Nat) (before : Fin 16 → AssembledMoveSegment)
    (k : Fin 16) : AssembledMoveSegment :=
  if k.val < i then
    before k
  else
    match members[k.val - i]? with
    | none => before k
    | some m => if m.isSegment then (readSegment m).getD (before k) else before k

section

variable {members : List CJson} {i : Nat}

theorem length_segmentPositions :
    (segmentPositions members i).length = (members.filter CJson.isSegment).length := by
  induction members generalizing i with
  | nil => rfl
  | cons m rest ih =>
      unfold segmentPositions
      cases hsegment : m.isSegment with
      | true => simp [hsegment, ih]
      | false => simp [hsegment, ih]

/-- Sixteen positions at most are inside the array. -/
theorem length_segmentPositions_le (h : ∀ j ∈ segmentPositions members i, j < 16) :
    (segmentPositions members i).length ≤ 16 - i := by
  induction members generalizing i with
  | nil => exact Nat.zero_le _
  | cons m rest ih =>
      unfold segmentPositions at h ⊢
      by_cases hsegment : m.isSegment = true
      · rw [if_pos hsegment] at h ⊢
        have hi := h i (by simp)
        have hrest := ih fun j hj => h j (List.mem_cons_of_mem _ hj)
        rw [List.length_cons]
        omega
      · rw [if_neg hsegment] at h ⊢
        have hrest := ih h
        omega

theorem exists_getObjectItem {m : CJson} (hfinds : m.Finds) {key : Text} {n : Int}
    (h : m.exactNumber key = some n) : ∃ c, cJsonGetObjectItem m key = some c := by
  unfold CJson.exactNumber at h
  obtain ⟨c, hexact, _⟩ := Option.map_eq_some_iff.mp h
  have hkey : c.string = some key := by
    have hc := List.find?_some hexact
    exact eq_of_beq hc
  have hnamed : c.isNamed key = true := by
    unfold CJson.isNamed
    rw [hkey]
    exact beq_self_eq_true _
  exact Option.ne_none_iff_exists'.mp
    (hfinds.ne_none_iff.mpr ⟨c, List.mem_of_find?_eq_some hexact, hnamed⟩)

/-- A member with the five fields is read. -/
theorem exists_readSegment {m : CJson} (hfinds : m.Finds) (h : m.exactSegment ≠ none) :
    ∃ s, readSegment m = some s := by
  obtain ⟨s, hs⟩ := Option.ne_none_iff_exists'.mp h
  unfold CJson.exactSegment at hs
  simp only [Option.bind_eq_bind, Option.bind_eq_some_iff] at hs
  obtain ⟨_, h₁, _, h₂, _, h₃, _, h₄, _, h₅, _⟩ := hs
  obtain ⟨c₁, h₁⟩ := exists_getObjectItem hfinds h₁
  obtain ⟨c₂, h₂⟩ := exists_getObjectItem hfinds h₂
  obtain ⟨c₃, h₃⟩ := exists_getObjectItem hfinds h₃
  obtain ⟨c₄, h₄⟩ := exists_getObjectItem hfinds h₄
  obtain ⟨c₅, h₅⟩ := exists_getObjectItem hfinds h₅
  unfold readSegment
  rw [h₁, h₂, h₃, h₄, h₅]
  exact ⟨_, rfl⟩

/-! ## One turn of the loop -/

section

variable {m : CJson} {rest : List CJson} {t : SegmentTable} {s : AssembledMoveSegment}

theorem exists_key_of_isSegment (h : m.isSegment = true) :
    ∃ key, m.string = some key ∧ startsWith key "segment".toList = true := by
  unfold CJson.isSegment at h
  cases hkey : m.string with
  | none => simp [hkey] at h
  | some key =>
      rw [hkey] at h
      exact ⟨key, rfl, h⟩

theorem collectSegments_segment (hsegment : m.isSegment = true) (hs : readSegment m = some s)
    (hi : i < 16) :
    collectSegments (m :: rest) i t =
      collectSegments rest (i + 1)
        ⟨Function.update t.segments ⟨i, hi⟩ s, t.numSegments + 1, t.storedAt ++ [i]⟩ := by
  obtain ⟨key, hkey, hprefix⟩ := exists_key_of_isSegment hsegment
  have hstore : t.store i s =
      .ok ⟨Function.update t.segments ⟨i, hi⟩ s, t.numSegments + 1, t.storedAt ++ [i]⟩ :=
    dif_pos hi
  rw [collectSegments]
  simp only [hkey, hprefix, if_true, hs, hstore]

theorem collectSegments_outside (hsegment : m.isSegment = true) (hs : readSegment m = some s)
    (hi : ¬ i < 16) : collectSegments (m :: rest) i t = .error .outOfBounds := by
  obtain ⟨key, hkey, hprefix⟩ := exists_key_of_isSegment hsegment
  have hstore : t.store i s = .error .outOfBounds := dif_neg hi
  rw [collectSegments]
  simp only [hkey, hprefix, if_true, hs, hstore]

theorem collectSegments_other (hkey : m.string ≠ none) (hsegment : m.isSegment = false) :
    collectSegments (m :: rest) i t = collectSegments rest (i + 1) t := by
  obtain ⟨key, hkey⟩ := Option.ne_none_iff_exists'.mp hkey
  have hprefix : startsWith key "segment".toList = false := by
    unfold CJson.isSegment at hsegment
    rw [hkey] at hsegment
    exact hsegment
  rw [collectSegments]
  simp only [hkey, hprefix, Bool.false_eq_true, if_false]

/-- A turn that the loop gets over: the member is no segment, or it is stored. -/
theorem collectSegments_cons_ok {table : SegmentTable}
    (h : collectSegments (m :: rest) i t = .ok table) :
    (m.isSegment = false ∧ collectSegments rest (i + 1) t = .ok table) ∨
      ∃ s, ∃ hi : i < 16, m.isSegment = true ∧ readSegment m = some s ∧
        collectSegments rest (i + 1)
          ⟨Function.update t.segments ⟨i, hi⟩ s, t.numSegments + 1, t.storedAt ++ [i]⟩ =
            .ok table := by
  cases hsegment : m.isSegment with
  | false =>
      have hkey : m.string ≠ none := by
        intro hnone
        rw [collectSegments, hnone] at h
        cases h
      rw [collectSegments_other hkey hsegment] at h
      exact Or.inl ⟨rfl, h⟩
  | true =>
      cases hread : readSegment m with
      | none =>
          obtain ⟨key, hstring, hstarts⟩ := exists_key_of_isSegment hsegment
          rw [collectSegments] at h
          simp only [hstring, hstarts, if_true, hread] at h
          cases h
      | some s =>
          by_cases hi : i < 16
          · rw [collectSegments_segment hsegment hread hi] at h
            exact Or.inr ⟨s, hi, rfl, rfl, h⟩
          · rw [collectSegments_outside hsegment hread hi] at h
            cases h

end

/-! ## The whole loop -/

theorem collectedAt_segment {m : CJson} {rest : List CJson} {s : AssembledMoveSegment}
    {before : Fin 16 → AssembledMoveSegment} (hsegment : m.isSegment = true)
    (hs : readSegment m = some s) (hi : i < 16) :
    collectedAt rest (i + 1) (Function.update before ⟨i, hi⟩ s) =
      collectedAt (m :: rest) i before := by
  funext k
  unfold collectedAt
  by_cases hlt : k.val < i
  · have hne : k ≠ ⟨i, hi⟩ := by
      intro h
      rw [h] at hlt
      exact Nat.lt_irrefl i hlt
    rw [if_pos (by omega), if_pos hlt, Function.update_of_ne hne]
  · by_cases heq : k.val = i
    · have hk : k = ⟨i, hi⟩ := Fin.ext heq
      subst hk
      rw [if_pos (by simp), if_neg hlt, Function.update_self]
      simp [hsegment, hs]
    · have hne : k ≠ ⟨i, hi⟩ := fun h => heq (congrArg Fin.val h)
      rw [if_neg (by omega), if_neg hlt, Function.update_of_ne hne]
      have hsub : k.val - i = (k.val - (i + 1)) + 1 := by omega
      rw [hsub, List.getElem?_cons_succ]

theorem collectedAt_other {m : CJson} {rest : List CJson}
    {before : Fin 16 → AssembledMoveSegment} (hsegment : m.isSegment = false) :
    collectedAt rest (i + 1) before = collectedAt (m :: rest) i before := by
  funext k
  unfold collectedAt
  by_cases hlt : k.val < i
  · rw [if_pos (by omega), if_pos hlt]
  · by_cases heq : k.val = i
    · rw [if_pos (by omega), if_neg hlt]
      simp [heq, hsegment]
    · rw [if_neg (by omega), if_neg hlt]
      have hsub : k.val - i = (k.val - (i + 1)) + 1 := by omega
      rw [hsub, List.getElem?_cons_succ]

/-- However the members look, after the loop the array holds those that are
segments, each at its position, and has counted them. -/
theorem collectSegments_ok {t table : SegmentTable}
    (h : collectSegments members i t = .ok table) :
    table.numSegments = t.numSegments + (segmentPositions members i).length ∧
      table.storedAt = t.storedAt ++ segmentPositions members i ∧
      table.segments = collectedAt members i t.segments := by
  induction members generalizing i t with
  | nil =>
      cases h
      refine ⟨rfl, by simp [segmentPositions], ?_⟩
      funext k
      simp [collectedAt]
  | cons m rest ih =>
      rw [segmentPositions]
      -- a segment is stored at the position of its member, which is counted over all members
      rcases collectSegments_cons_ok h with ⟨hsegment, hrest⟩ | ⟨s, hi, hsegment, hs, hrest⟩
      · obtain ⟨hcount, hstored, hentries⟩ := ih hrest
        rw [hsegment, if_neg Bool.false_ne_true]
        exact ⟨hcount, hstored, hentries.trans (collectedAt_other hsegment)⟩
      · obtain ⟨hcount, hstored, hentries⟩ := ih hrest
        rw [hsegment, if_pos rfl]
        refine ⟨?_, ?_, hentries.trans (collectedAt_segment hsegment hs hi)⟩
        · rw [hcount, List.length_cons]
          show t.numSegments + 1 + _ = _
          omega
        · rw [hstored]
          simp

/-- The loop gets through, if all the positions are inside the array. -/
theorem collectSegments_of_inside {t : SegmentTable} (hfinds : ∀ m ∈ members, m.Finds)
    (hkeys : ∀ m ∈ members, m.string ≠ none)
    (hfields : ∀ m ∈ members, m.isSegment = true → m.exactSegment ≠ none)
    (hinside : ∀ j ∈ segmentPositions members i, j < 16) :
    ∃ table, collectSegments members i t = .ok table := by
  induction members generalizing i t with
  | nil => exact ⟨t, rfl⟩
  | cons m rest ih =>
      have hfinds' : ∀ m ∈ rest, m.Finds := fun m hm => hfinds m (List.mem_cons_of_mem _ hm)
      have hkeys' : ∀ m ∈ rest, m.string ≠ none := fun m hm =>
        hkeys m (List.mem_cons_of_mem _ hm)
      have hfields' : ∀ m ∈ rest, m.isSegment = true → m.exactSegment ≠ none := fun m hm =>
        hfields m (List.mem_cons_of_mem _ hm)
      rw [segmentPositions] at hinside
      cases hsegment : m.isSegment with
      | true =>
          rw [hsegment, if_pos rfl] at hinside
          obtain ⟨s, hs⟩ := exists_readSegment (hfinds m (by simp)) (hfields m (by simp) hsegment)
          rw [collectSegments_segment hsegment hs (hinside i (by simp))]
          exact ih hfinds' hkeys' hfields' fun j hj => hinside j (List.mem_cons_of_mem _ hj)
      | false =>
          rw [hsegment, if_neg Bool.false_ne_true] at hinside
          rw [collectSegments_other (hkeys m (by simp)) hsegment]
          exact ih hfinds' hkeys' hfields' hinside

end

end SmdControlServer
