import EventPipeline.Python.JsonLoads

/-!
# EventPipeline.Python.JsonUnique

No object `json.loads` builds repeats a key: an invariant of the machine, kept by
each of its steps.
-/

namespace EventPipeline.Python

namespace JsonLoads

variable {cfg : Config}

/-- The values inside an open container repeat no key. -/
def Frame.Unique : Frame → Prop
  | .items rev => ∀ v ∈ rev, Json.Unique v
  | .key d => Json.Unique (.obj d)
  | .member d _ => Json.Unique (.obj d)

/-- The values held by a mode repeat no key. -/
def Mode.Unique : Mode → Prop
  | .literal _ v => Json.Unique v
  | .done v => Json.Unique v
  | _ => True

/-- The machine only holds values that repeat no key. -/
structure State.Unique (st : State) : Prop where
  mode : st.mode.Unique
  stack : ∀ f ∈ st.stack, f.Unique

theorem unique_set {d : Dict} (hd : Json.Unique (.obj d)) {v : Json} (hv : Json.Unique v)
    (key : PyStr) : Json.Unique (.obj (d.set key v)) := by
  refine ⟨Dict.nodup_set hd.1 key v, Json.uniquePairs_iff.mpr fun p hp => ?_⟩
  rcases Dict.mem_set hp with hp | rfl
  · exact Json.uniquePairs_iff.mp hd.2 p hp
  · exact hv

theorem complete_unique {v : Json} (hv : Json.Unique v) {k : List Frame}
    (hk : ∀ f ∈ k, f.Unique) : (complete v k).Unique := by
  rcases k with _ | ⟨rev | d | ⟨d, key⟩, k⟩
  · exact ⟨hv, by simp [complete]⟩
  · refine ⟨trivial, fun f hf => ?_⟩
    simp only [complete, List.mem_cons] at hf
    rcases hf with rfl | hf
    · have hrev := hk (.items rev) (by simp)
      intro w hw
      rcases List.mem_cons.mp hw with rfl | hw
      · exact hv
      · exact hrev w hw
    · exact hk f (by simp [hf])
  · exact ⟨trivial, hk⟩
  · refine ⟨trivial, fun f hf => ?_⟩
    simp only [complete, List.mem_cons] at hf
    rcases hf with rfl | hf
    · exact unique_set (hk (.member d key) (by simp)) hv key
    · exact hk f (by simp [hf])

theorem unique_str (s : PyStr) : Json.Unique (.str s) := trivial

theorem unique_emptyArr : Json.Unique (.arr []) := trivial

theorem unique_emptyObj : Json.Unique (.obj []) := ⟨List.nodup_nil, trivial⟩

theorem completeString_unique (s : PyStr) {k : List Frame} (hk : ∀ f ∈ k, f.Unique) :
    (completeString s k).Unique := by
  rcases k with _ | ⟨rev | d | ⟨d, key⟩, k⟩
  · exact complete_unique (unique_str s) hk
  · exact complete_unique (unique_str s) hk
  · refine ⟨trivial, fun f hf => ?_⟩
    simp only [completeString, List.mem_cons] at hf
    rcases hf with rfl | hf
    · exact hk (.key d) (by simp)
    · exact hk f (by simp [hf])
  · exact complete_unique (unique_str s) hk

theorem push_unique {mode : Mode} (hmode : mode.Unique) {frame : Frame} (hframe : frame.Unique)
    {k : List Frame} (hk : ∀ f ∈ k, f.Unique) {st : State} (h : push cfg mode frame k = .ok st) :
    st.Unique := by
  unfold push at h
  split_ifs at h
  obtain rfl := Except.ok.inj h
  refine ⟨hmode, fun f hf => ?_⟩
  rcases List.mem_cons.mp hf with rfl | hf
  · exact hframe
  · exact hk f hf

theorem stepValue_unique {k : List Frame} (hk : ∀ f ∈ k, f.Unique) {c : CodePoint} {st : State}
    (h : stepValue cfg k c = .ok st) : st.Unique := by
  have hkey : Mode.firstKey.Unique := trivial
  have hitem : Mode.firstItem.Unique := trivial
  have hframe : (Frame.key []).Unique := unique_emptyObj
  unfold stepValue at h
  split_ifs at h
  · exact Except.ok.inj h ▸ ⟨trivial, hk⟩
  · exact push_unique hkey hframe hk h
  · exact push_unique hitem (by simp [Frame.Unique]) hk h
  all_goals exact Except.ok.inj h ▸ ⟨trivial, hk⟩

theorem stepAfter_unique {st st' : State} (hst : st.Unique) {c : CodePoint}
    (h : stepAfter st c = .ok st') : st'.Unique := by
  obtain ⟨mode, k⟩ := st
  have hk : ∀ f ∈ k, f.Unique := hst.stack
  unfold stepAfter at h
  by_cases hspace : isSpace c = true
  · rw [if_pos hspace] at h
    exact Except.ok.inj h ▸ hst
  rw [if_neg hspace] at h
  rcases k with _ | ⟨rev | d | ⟨d, key⟩, k⟩ <;> dsimp only at h
  · simp at h
  · have hk' : ∀ f ∈ k, f.Unique := fun f hf => hk f (by simp [hf])
    split_ifs at h
    · exact Except.ok.inj h ▸ ⟨trivial, hk⟩
    · have hrev : Json.Unique (.arr rev.reverse) :=
        Json.uniqueItems_iff.mpr fun v hv => hk (.items rev) (by simp) v (by simpa using hv)
      exact Except.ok.inj h ▸ complete_unique hrev hk'
  · simp at h
  · have hk' : ∀ f ∈ k, f.Unique := fun f hf => hk f (by simp [hf])
    have hd : Json.Unique (.obj d) := hk (.member d key) (by simp)
    split_ifs at h
    · obtain rfl := Except.ok.inj h
      refine ⟨trivial, fun f hf => ?_⟩
      rcases List.mem_cons.mp hf with rfl | hf
      · exact hd
      · exact hk' f hf
    · exact Except.ok.inj h ▸ complete_unique hd hk'

theorem stepString_unique {s : StrState} {k : List Frame} (hk : ∀ f ∈ k, f.Unique)
    {c : CodePoint} {st : State} (h : stepString s k c = .ok st) : st.Unique := by
  unfold stepString at h
  split at h
  · split_ifs at h
    · exact Except.ok.inj h ▸ completeString_unique _ hk
    · exact Except.ok.inj h ▸ ⟨trivial, hk⟩
    · exact Except.ok.inj h ▸ ⟨trivial, hk⟩
  · split_ifs at h
    · exact Except.ok.inj h ▸ ⟨trivial, hk⟩
    · split at h
      · exact Except.ok.inj h ▸ ⟨trivial, hk⟩
      · simp at h
  · split at h
    · simp at h
    · split_ifs at h
      · exact Except.ok.inj h ▸ ⟨trivial, hk⟩
      · exact Except.ok.inj h ▸ ⟨trivial, hk⟩

theorem numberValue_unique {l : FloatLexeme} {v : Json} (h : numberValue l = .ok v) :
    Json.Unique v := by
  unfold numberValue at h
  split_ifs at h <;> rw [← Except.ok.inj h] <;> exact trivial

theorem finishNumber_unique {phase : NumPhase} {l : FloatLexeme} {k : List Frame}
    (hk : ∀ f ∈ k, f.Unique) {st : State} (h : finishNumber phase l k = .ok st) : st.Unique := by
  unfold finishNumber at h
  split at h
  · simp at h
  · split at h
    · simp at h
    · rename_i v hv
      split_ifs at h
      exact Except.ok.inj h ▸ complete_unique (numberValue_unique hv) hk

theorem completeLiteral_unique {v : Json} (hv : Json.Unique v) {k : List Frame}
    (hk : ∀ f ∈ k, f.Unique) {st : State} (h : completeLiteral cfg v k = .ok st) :
    st.Unique := by
  unfold completeLiteral at h
  split at h
  · split_ifs at h
    exact Except.ok.inj h ▸ complete_unique hv hk
  · exact Except.ok.inj h ▸ complete_unique hv hk

/-- One step keeps the machine free of repeated keys. -/
theorem step_unique {st st' : State} (hst : st.Unique) {c : CodePoint}
    (h : step cfg st c = .ok st') : st'.Unique := by
  obtain ⟨mode, k⟩ := st
  have hk : ∀ f ∈ k, f.Unique := hst.stack
  -- one case a mode: only the end of a value and of a key change what is collected
  cases mode <;> dsimp only [step] at h
  case value =>
    split_ifs at h
    · exact Except.ok.inj h ▸ hst
    · exact stepValue_unique hk h
  case firstItem =>
    split_ifs at h
    · exact Except.ok.inj h ▸ hst
    · split at h
      · rename_i k' _
        exact Except.ok.inj h ▸ complete_unique unique_emptyArr fun f hf => hk f (by simp [hf])
      · exact stepValue_unique hk h
  case firstKey =>
    split_ifs at h
    · exact Except.ok.inj h ▸ hst
    · exact Except.ok.inj h ▸ ⟨trivial, hk⟩
    · split at h
      · exact Except.ok.inj h ▸ complete_unique unique_emptyObj fun f hf => hk f (by simp [hf])
      · simp at h
  case nextKey =>
    split_ifs at h
    · exact Except.ok.inj h ▸ hst
    · exact Except.ok.inj h ▸ ⟨trivial, hk⟩
  case colon =>
    split_ifs at h
    · exact Except.ok.inj h ▸ hst
    · exact Except.ok.inj h ▸ ⟨trivial, hk⟩
  case after => exact stepAfter_unique hst h
  case string s => exact stepString_unique hk h
  case literal rest v =>
    split at h
    · simp at h
    · split_ifs at h
      · exact completeLiteral_unique hst.mode hk h
      · exact Except.ok.inj h ▸ ⟨hst.mode, hk⟩
  case number phase l =>
    split at h
    · exact Except.ok.inj h ▸ ⟨trivial, hk⟩
    · split at h
      · exact Except.ok.inj h ▸ ⟨trivial, hk⟩
      · split at h
        · simp at h
        · rename_i st'' hfinish
          exact stepAfter_unique (finishNumber_unique hk hfinish) h
  case done v => exact stepAfter_unique hst h

theorem run_unique {st : State} (hst : st.Unique) {text : PyStr} {v : Json}
    (h : run cfg st text = .ok v) : Json.Unique v := by
  induction text generalizing st with
  | nil =>
      rw [run, finish] at h
      split at h
      · rename_i w hw
        have := hst.mode
        rw [hw] at this
        exact Except.ok.inj h ▸ this
      · split at h
        · simp at h
        · rename_i w k hfinish
          exact Except.ok.inj h ▸ (finishNumber_unique hst.stack hfinish).mode
        · simp at h
      · simp at h
  | cons c cs ih =>
      rw [run] at h
      split at h
      · simp at h
      · rename_i st' hstep
        exact ih (step_unique hst hstep) h

end JsonLoads

/-- No object `json.loads` builds repeats a key. -/
theorem loads_unique {cfg : JsonLoads.Config} {text : PyStr} {v : Json}
    (h : loads cfg text = .ok v) : Json.Unique v := by
  unfold loads at h
  split_ifs at h
  have hstart : JsonLoads.start.Unique := ⟨trivial, by simp [JsonLoads.start]⟩
  exact JsonLoads.run_unique hstart h

end EventPipeline.Python
