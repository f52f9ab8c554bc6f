import EventPipeline.Portfolio.RecentMessages

/-!
# EventPipeline.Guarantees.RecentMessages

The recent messages of a topic are its last ones, however `poll` splits them.

The consumer reads the last `limit` messages of each partition. A message before them has
`limit` messages of its own partition after it, none of which is older, so it cannot be
among the greatest keys of the topic.
-/

namespace EventPipeline.Guarantees

open EventPipeline.Sequences EventPipeline.Portfolio.RecentMessages

variable {Content : Type}

/-! ### Messages of a partition -/

theorem mem_numbered {partition offset : Nat} {messages : List (Message Content)}
    {item : Item Content} : item ∈ numbered partition offset messages ↔
      ∃ i message, messages[i]? = some message ∧
        item = ⟨partition, offset + i, message.timestamp, message.content⟩ := by
  induction messages generalizing offset with
  | nil => simp [numbered]
  | cons first messages ih =>
      rw [numbered, List.mem_cons, ih]
      constructor
      · rintro (rfl | ⟨i, message, hmessage, rfl⟩)
        · exact ⟨0, first, rfl, rfl⟩
        · exact ⟨i + 1, message, hmessage, by rw [Nat.add_assoc, Nat.add_comm 1 i]⟩
      · rintro ⟨i, message, hmessage, rfl⟩
        cases i with
        | zero =>
            obtain rfl : first = message := by simpa using hmessage
            exact Or.inl rfl
        | succ i => exact Or.inr ⟨i, message, hmessage, by rw [Nat.add_assoc, Nat.add_comm 1 i]⟩

theorem length_numbered {partition offset : Nat} {messages : List (Message Content)} :
    (numbered partition offset messages).length = messages.length := by
  induction messages generalizing offset with
  | nil => rfl
  | cons first messages ih => rw [numbered, List.length_cons, List.length_cons, ih]

theorem numbered_increasing {partition offset : Nat} {messages : List (Message Content)} :
    (numbered partition offset messages).Pairwise fun a b => a.offset < b.offset := by
  induction messages generalizing offset with
  | nil => exact List.Pairwise.nil
  | cons first messages ih =>
      refine List.Pairwise.cons (fun item hitem => ?_) ih
      obtain ⟨i, message, -, rfl⟩ := mem_numbered.mp hitem
      show offset < offset + 1 + i
      omega

theorem numbered_nodup {partition offset : Nat} {messages : List (Message Content)} :
    (numbered partition offset messages).Nodup :=
  numbered_increasing.imp fun hlt heq => absurd (heq ▸ hlt) (lt_irrefl _)

theorem mem_items_bounds {log : PartitionLog Content} {item : Item Content}
    (h : item ∈ log.items) : item.partition = log.partition ∧ log.beginning ≤ item.offset ∧
      item.offset < log.endOffset := by
  obtain ⟨i, message, hmessage, rfl⟩ := mem_numbered.mp h
  have hlt := (List.getElem?_eq_some_iff.mp hmessage).1
  refine ⟨rfl, Nat.le_add_right _ i, ?_⟩
  show log.beginning + i < log.beginning + log.messages.length
  omega

/-- An offset names one message of a partition. -/
theorem eq_of_offset {log : PartitionLog Content} {a b : Item Content} (ha : a ∈ log.items)
    (hb : b ∈ log.items) (h : a.offset = b.offset) : a = b := by
  obtain ⟨i, message, hmessage, rfl⟩ := mem_numbered.mp ha
  obtain ⟨j, other, hother, rfl⟩ := mem_numbered.mp hb
  obtain rfl : i = j := by simpa using h
  obtain rfl := Option.some.inj (hmessage.symm.trans hother)
  rfl

theorem length_fetch {log : PartitionLog Content} {position count : Nat} :
    (log.fetch position count).length =
      min count (log.messages.length - (position - log.beginning)) := by
  rw [PartitionLog.fetch, length_numbered, List.length_take, List.length_drop]

/-- The messages that are fetched are those from the position on. -/
theorem mem_fetch {log : PartitionLog Content} {position count : Nat}
    (hposition : log.beginning ≤ position) {item : Item Content} :
    item ∈ log.fetch position count ↔ item ∈ log.items ∧ position ≤ item.offset ∧
      item.offset < position + (log.fetch position count).length := by
  rw [length_fetch, PartitionLog.fetch, PartitionLog.items, mem_numbered, mem_numbered]
  constructor
  · rintro ⟨i, message, hmessage, rfl⟩
    rw [List.getElem?_take, List.getElem?_drop] at hmessage
    split_ifs at hmessage with hi
    have hlt := (List.getElem?_eq_some_iff.mp hmessage).1
    refine ⟨⟨position - log.beginning + i, message, hmessage, ?_⟩, by simp, ?_⟩
    · rw [← Nat.add_assoc, Nat.add_sub_cancel' hposition]
    · show position + i < _
      omega
  · rintro ⟨⟨j, message, hmessage, rfl⟩, hle, hlt⟩
    have hj := (List.getElem?_eq_some_iff.mp hmessage).1
    simp only at hle hlt
    refine ⟨log.beginning + j - position, message, ?_, ?_⟩
    · rw [List.getElem?_take, List.getElem?_drop, if_pos (by omega)]
      rw [show position - log.beginning + (log.beginning + j - position) = j by omega]
      exact hmessage
    · rw [Nat.add_sub_cancel' hle]

/-! ### Keys -/

/-- The timestamps of a partition do not decrease. -/
def Chronological (log : PartitionLog Content) : Prop :=
  (log.messages.map fun message => message.timestamp.getD 0).Pairwise (· ≤ ·)

/-- A later message of a partition has a greater key. -/
theorem key_lt_key {log : PartitionLog Content} (h : Chronological log) {a b : Item Content}
    (ha : a ∈ log.items) (hb : b ∈ log.items) (hlt : a.offset < b.offset) : a.key < b.key := by
  obtain ⟨i, message, hmessage, rfl⟩ := mem_numbered.mp ha
  obtain ⟨j, other, hother, rfl⟩ := mem_numbered.mp hb
  have hij : i < j := by simpa using hlt
  obtain ⟨hi, hi_eq⟩ := List.getElem?_eq_some_iff.mp hmessage
  obtain ⟨hj, hj_eq⟩ := List.getElem?_eq_some_iff.mp hother
  have hle : message.timestamp.getD 0 ≤ other.timestamp.getD 0 := by
    rw [Chronological, List.pairwise_map] at h
    have := List.pairwise_iff_getElem.mp h i j hi hj hij
    rwa [hi_eq, hj_eq] at this
  rw [Item.key, Item.key, Prod.Lex.toLex_lt_toLex]
  rcases hle.lt_or_eq with hlt | heq
  · exact Or.inl hlt
  · refine Or.inr ⟨heq, Prod.Lex.toLex_lt_toLex.mpr (Or.inr ⟨rfl, ?_⟩)⟩
    show log.beginning + i < log.beginning + j
    omega

theorem eq_of_key {a b : Item Content} (h : a.key = b.key) :
    a.partition = b.partition ∧ a.offset = b.offset := by
  have hinner := congrArg (fun key => (ofLex key).2) h
  have hpair : (a.partition, a.offset) = (b.partition, b.offset) := hinner
  exact Prod.mk.inj hpair

section

variable {topic : Topic Content}

/-- A number names one partition of a topic. -/
theorem eq_of_partition {log other : PartitionLog Content} (hlog : log ∈ topic.partitions)
    (hother : other ∈ topic.partitions) (h : log.partition = other.partition) : log = other :=
  List.inj_on_of_nodup_map (topic.sorted.imp fun hlt => hlt.ne) hlog hother h

theorem find?_partition {log : PartitionLog Content} (hlog : log ∈ topic.partitions) :
    topic.partitions.find? (·.partition = log.partition) = some log := by
  cases hfind : topic.partitions.find? (·.partition = log.partition) with
  | none =>
      have := List.find?_eq_none.mp hfind log hlog
      simp at this
  | some other =>
      have hsame := List.find?_some hfind
      rw [eq_of_partition (List.mem_of_find?_eq_some hfind) hlog (by simpa using hsame)]

theorem mem_topic_items {item : Item Content} :
    item ∈ topic.items ↔ ∃ log ∈ topic.partitions, item ∈ log.items := List.mem_flatMap

/-- Different messages have different keys: the key holds the partition and the offset, which
occur once in a topic. -/
theorem eq_of_key_of_mem {a b : Item Content} (ha : a ∈ topic.items) (hb : b ∈ topic.items)
    (h : a.key = b.key) : a = b := by
  obtain ⟨log, hlog, ha⟩ := mem_topic_items.mp ha
  obtain ⟨other, hother, hb⟩ := mem_topic_items.mp hb
  obtain ⟨hpartition, hoffset⟩ := eq_of_key h
  obtain rfl := eq_of_partition hlog hother
    ((mem_items_bounds ha).1.symm.trans (hpartition.trans (mem_items_bounds hb).1))
  exact eq_of_offset ha hb hoffset

theorem topic_items_nodup : topic.items.Nodup := by
  rw [Topic.items, List.nodup_flatMap]
  refine ⟨fun log _ => numbered_nodup, ?_⟩
  have hsorted := List.pairwise_map.mp topic.sorted
  refine hsorted.imp fun {log other} hlt item hitem hother => ?_
  have hlog := (mem_items_bounds hitem).1
  rw [(mem_items_bounds hother).1] at hlog
  omega

/-! ### The loop

At any point of the loop what was collected are the messages between the offsets it started from
and its positions, each once. The number of polls does not matter, and neither does what each of
them returns. -/

/-- The items are the messages between the first positions and the current ones, each of them
once. The positions only move forward, so that what has been collected stays in this range. -/
structure Collected (topic : Topic Content) (start positions : Positions)
    (items : List (Item Content)) : Prop where
  nodup : items.Nodup
  mem : ∀ item, item ∈ items ↔ ∃ log ∈ topic.partitions, item ∈ log.items ∧
    start log.partition ≤ item.offset ∧ item.offset < positions log.partition
  start_le : ∀ log ∈ topic.partitions, start log.partition ≤ positions log.partition
  beginning_le : ∀ log ∈ topic.partitions, log.beginning ≤ start log.partition

/-- The messages of one partition of an answer join the items. They begin where the collected ones
of the partition end, so nothing is missing between them and nothing is there twice. -/
theorem Collected.fetch {start positions : Positions} {items : List (Item Content)}
    (h : Collected topic start positions items) {log : PartitionLog Content}
    (hlog : log ∈ topic.partitions) (count : Nat) :
    Collected topic start (Function.update positions log.partition
        (positions log.partition + (log.fetch (positions log.partition) count).length))
      (items ++ log.fetch (positions log.partition) count) := by
  have hposition := (h.beginning_le log hlog).trans (h.start_le log hlog)
  refine ⟨?_, fun item => ?_, fun other hother => ?_, h.beginning_le⟩
  · -- what is fetched starts where the collected messages of the partition end
    refine List.nodup_append'.mpr ⟨h.nodup, numbered_nodup, fun item hitem hfetched => ?_⟩
    obtain ⟨hmem, hle, -⟩ := (mem_fetch hposition).mp hfetched
    obtain ⟨other, hother, hmem', -, hlt⟩ := (h.mem item).mp hitem
    obtain rfl := eq_of_partition hlog hother
      ((mem_items_bounds hmem).1.symm.trans (mem_items_bounds hmem').1)
    omega
  · rw [List.mem_append, h.mem, mem_fetch hposition]
    constructor
    · rintro (⟨other, hother, hmem, hle, hlt⟩ | ⟨hmem, hle, hlt⟩)
      · refine ⟨other, hother, hmem, hle, ?_⟩
        by_cases hsame : other.partition = log.partition
        · rw [hsame, Function.update_self]
          rw [hsame] at hlt
          omega
        · rwa [Function.update_of_ne hsame]
      · refine ⟨log, hlog, hmem, (h.start_le log hlog).trans hle, ?_⟩
        rwa [Function.update_self]
    · rintro ⟨other, hother, hmem, hle, hlt⟩
      by_cases hsame : other.partition = log.partition
      · obtain rfl := eq_of_partition hother hlog hsame
        rw [Function.update_self] at hlt
        rcases lt_or_ge item.offset (positions other.partition) with hbefore | hafter
        · exact Or.inl ⟨other, hother, hmem, hle, hbefore⟩
        · exact Or.inr ⟨hmem, hafter, hlt⟩
      · rw [Function.update_of_ne hsame] at hlt
        exact Or.inl ⟨other, hother, hmem, hle, hlt⟩
  · -- the position only grows
    have hle := h.start_le other hother
    by_cases hsame : other.partition = log.partition
    · rw [hsame, Function.update_self]
      rw [hsame] at hle
      omega
    · rwa [Function.update_of_ne hsame]

/-- One answer keeps the items those between the positions. -/
theorem Collected.fetchAll {start : Positions} (poll : Poll) {positions : Positions}
    {items : List (Item Content)} (h : Collected topic start positions items) :
    Collected topic start (fetchAll topic positions poll).2
      (items ++ (fetchAll topic positions poll).1) := by
  induction poll generalizing positions items with
  | nil => simpa [Portfolio.RecentMessages.fetchAll] using h
  | cons entry poll ih =>
      obtain ⟨partition, count⟩ := entry
      rw [Portfolio.RecentMessages.fetchAll]
      cases hfind : topic.partitions.find? (·.partition = partition) with
      | none => exact ih h
      | some log =>
          have hsame : log.partition = partition := by simpa using List.find?_some hfind
          subst hsame
          have hnext := ih (h.fetch (List.mem_of_find?_eq_some hfind) count)
          rw [List.append_assoc] at hnext
          exact hnext

/-- The loop ends with the messages between the positions, all of them at the end. -/
theorem collect_reached {start : Positions} {polls : List Poll} {positions : Positions}
    {items result : List (Item Content)} (h : Collected topic start positions items)
    (hresult : collect topic positions items polls = (result, .reached)) :
    ∃ last, Collected topic start last result ∧ reached topic last = true := by
  induction polls generalizing positions items with
  | nil =>
      rw [collect] at hresult
      split_ifs at hresult with hreached
      · obtain ⟨rfl, -⟩ := Prod.mk.inj hresult
        exact ⟨positions, h, hreached⟩
      · simp at hresult
  | cons poll polls ih =>
      rw [collect] at hresult
      split_ifs at hresult with hreached
      · obtain ⟨rfl, -⟩ := Prod.mk.inj hresult
        exact ⟨positions, h, hreached⟩
      · dsimp only at hresult
        split_ifs at hresult with hempty
        · simp at hresult
        · exact ih (h.fetchAll poll) hresult

theorem seeks_eq {log : PartitionLog Content} (hlog : log ∈ topic.partitions) (limit : Nat) :
    topic.seeks limit log.partition = log.seek limit := by
  rw [Topic.seeks, find?_partition hlog]

/-! ### The listing -/

/-- Where the loop reaches the end offsets, the listing has the messages with the greatest
keys of the whole topic: as many as the limit asks for and the topic has, in descending
order, each once.

The polls collect, of every partition, the messages from its seek position to where it was read
(`collect_reached`), and the loop stops where that is the end. A message that was not collected
lies before the seek position, so `limit` messages of its own partition come after it, and within
a partition keys grow with the offsets: there are `limit` greater ones (`isTop_topBy`). -/
theorem recentMessages_isTop (topic : Topic Content)
    (hchronological : ∀ log ∈ topic.partitions, Chronological log) (limit : Nat)
    (polls : List Poll) (hstop : (listRecentTopicMessages topic limit polls).2 = .reached) :
    IsTop Item.key limit topic.items (listRecentTopicMessages topic limit polls).1 := by
  have hstart : Collected topic (topic.seeks limit) (topic.seeks limit) [] := by
    refine ⟨List.nodup_nil, fun item => ?_, fun log _ => le_rfl, fun log hlog => ?_⟩
    · simp only [List.not_mem_nil, false_iff, not_exists, not_and, not_lt]
      exact fun log _ _ hle => hle
    · rw [seeks_eq hlog]
      exact le_max_left _ _
  obtain ⟨items, stop, hcollect⟩ : ∃ items stop,
      collect topic (topic.seeks limit) [] polls = (items, stop) := ⟨_, _, rfl⟩
  simp only [listRecentTopicMessages, hcollect] at hstop ⊢
  subst hstop
  obtain ⟨last, hcollected, hreached⟩ := collect_reached hstart hcollect
  have hends : ∀ log ∈ topic.partitions, log.endOffset ≤ last log.partition := by
    simpa [reached] using hreached
  have hsubset : items ⊆ topic.items := by
    intro item hitem
    obtain ⟨log, hlog, hmem, -⟩ := (hcollected.mem item).mp hitem
    exact mem_topic_items.mpr ⟨log, hlog, hmem⟩
  have hkeys : ∀ values : List (Item Content), values ⊆ topic.items → values.Nodup →
      (values.map Item.key).Nodup := fun values hvalues hnodup =>
    hnodup.map_on fun a ha b hb => eq_of_key_of_mem (hvalues ha) (hvalues hb)
  refine isTop_topBy (hkeys items hsubset hcollected.nodup)
    (hkeys topic.items (List.Subset.refl _) topic_items_nodup) hsubset fun other hother hout => ?_
  -- a message that is not read is before the last `limit` messages of its partition
  obtain ⟨log, hlog, hmem⟩ := mem_topic_items.mp hother
  obtain ⟨-, hbeginning, hend⟩ := mem_items_bounds hmem
  have hbefore : other.offset < log.seek limit := by
    by_contra hle
    refine hout ((hcollected.mem other).mpr ⟨log, hlog, hmem, ?_, ?_⟩)
    · rw [seeks_eq hlog]
      exact not_lt.mp hle
    · exact hend.trans_le (hends log hlog)
  have hseek : log.beginning ≤ log.seek limit := le_max_left _ _
  have hfetch : ∀ item, item ∈ log.fetch (log.seek limit) limit ↔
      item ∈ log.items ∧ log.seek limit ≤ item.offset ∧ item.offset < _ := fun item =>
    mem_fetch hseek
  refine ⟨log.fetch (log.seek limit) limit, numbered_nodup, fun item hitem => ?_, ?_,
    fun item hitem => ?_⟩
  · obtain ⟨hitem_mem, hle, -⟩ := (hfetch item).mp hitem
    refine (hcollected.mem item).mpr ⟨log, hlog, hitem_mem, ?_,
      (mem_items_bounds hitem_mem).2.2.trans_le (hends log hlog)⟩
    rwa [seeks_eq hlog]
  · rw [length_fetch]
    simp only [PartitionLog.seek, PartitionLog.endOffset] at hbefore ⊢
    omega
  · obtain ⟨hitem_mem, hle, -⟩ := (hfetch item).mp hitem
    exact key_lt_key (hchronological log hlog) hmem hitem_mem (hbefore.trans_le hle)

end

/-- A topic with two partitions. -/
def sampleTopic : Topic Nat :=
  ⟨[⟨0, 5, [⟨some 10, 0⟩, ⟨some 30, 1⟩]⟩, ⟨1, 0, [⟨none, 2⟩, ⟨some 20, 3⟩, ⟨some 20, 4⟩]⟩],
    by decide⟩

/-- The two recent messages of the sample topic, polled in three answers. -/
theorem recentMessages_isTop_sample : IsTop Item.key 2 sampleTopic.items
    (listRecentTopicMessages sampleTopic 2 [[(1, 1)], [(0, 5), (1, 0)], [(1, 3)]]).1 := by
  refine recentMessages_isTop sampleTopic (fun log hlog => ?_) 2 _ (by decide +kernel)
  simp only [sampleTopic, List.mem_cons, List.not_mem_nil, or_false] at hlog
  rcases hlog with rfl | rfl <;> simp [Chronological]

end EventPipeline.Guarantees
