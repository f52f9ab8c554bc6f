import EventPipeline.Sequences.TopBy
import Mathlib.Data.Prod.Lex

/-!
# EventPipeline.Portfolio.RecentMessages

`list_recent_topic_messages` of `portfolio/kafka_client.py`, on a topic that does not change.

The topics of the pipeline are neither compacted nor written in transactions, so the
offsets of a partition are consecutive. What is in a message besides its timestamp is a
parameter. An answer of `poll` takes any number of the next messages of some partitions;
the list of answers is what is polled before the deadline.
-/

namespace EventPipeline.Portfolio.RecentMessages

open EventPipeline.Sequences

variable {Content : Type}

/-- A message of a partition. -/
structure Message (Content : Type) where
  timestamp : Option Int
  content : Content

/-- A partition with its messages, from its beginning offset on. -/
structure PartitionLog (Content : Type) where
  partition : Nat
  beginning : Nat
  messages : List (Message Content)

/-- A topic: its partitions, each once, in the order of their numbers. -/
structure Topic (Content : Type) where
  partitions : List (PartitionLog Content)
  sorted : (partitions.map (·.partition)).Pairwise (· < ·)

/-- An entry of the result. -/
structure Item (Content : Type) where
  partition : Nat
  offset : Nat
  timestamp : Option Int
  content : Content

/-- The end offset of a partition. -/
def PartitionLog.endOffset (log : PartitionLog Content) : Nat :=
  log.beginning + log.messages.length

/-- The messages with consecutive offsets from `offset` on. -/
def numbered (partition : Nat) : Nat → List (Message Content) → List (Item Content)
  | _, [] => []
  | offset, message :: messages =>
      ⟨partition, offset, message.timestamp, message.content⟩
        :: numbered partition (offset + 1) messages

/-- All messages of a partition. -/
def PartitionLog.items (log : PartitionLog Content) : List (Item Content) :=
  numbered log.partition log.beginning log.messages

/-- All messages of a topic. -/
def Topic.items (topic : Topic Content) : List (Item Content) :=
  topic.partitions.flatMap (·.items)

/-- `(item["timestamp"] or 0, item["partition"], item["offset"])`. -/
def Item.key (item : Item Content) : Int ×ₗ Nat ×ₗ Nat :=
  toLex (item.timestamp.getD 0, toLex (item.partition, item.offset))

/-! ### The consumer -/

/-- The position the consumer seeks to: `max(beginning, end - limit)`. -/
def PartitionLog.seek (log : PartitionLog Content) (limit : Nat) : Nat :=
  max log.beginning (log.endOffset - limit)

/-- The messages `poll` returns of a partition: up to `count` from the position on. -/
def PartitionLog.fetch (log : PartitionLog Content) (position count : Nat) :
    List (Item Content) :=
  numbered log.partition position ((log.messages.drop (position - log.beginning)).take count)

/-- The positions of the consumer by partition. -/
abbrev Positions := Nat → Nat

/-- An answer of `poll`: partitions with a number of messages each. -/
abbrev Poll := List (Nat × Nat)

/-- The messages of an answer, and the positions after it. -/
def fetchAll (topic : Topic Content) : Positions → Poll → List (Item Content) × Positions
  | positions, [] => ([], positions)
  | positions, (partition, count) :: poll =>
      match topic.partitions.find? (·.partition = partition) with
      | none => fetchAll topic positions poll
      | some log =>
          let records := log.fetch (positions partition) count
          let rest := fetchAll topic
            (Function.update positions partition (positions partition + records.length)) poll
          (records ++ rest.1, rest.2)

/-- Every partition is read up to its end offset. -/
def reached (topic : Topic Content) (positions : Positions) : Bool :=
  topic.partitions.all fun log => log.endOffset ≤ positions log.partition

/-- How the loop ends. -/
inductive Stop
  | reached
  | emptyPoll
  | deadline
  deriving DecidableEq

/-- The loop over `poll`, with the items so far. -/
def collect (topic : Topic Content) :
    Positions → List (Item Content) → List Poll → List (Item Content) × Stop
  | positions, items, polls =>
      if reached topic positions = true then (items, .reached)
      else
        match polls with
        | [] => (items, .deadline)
        | poll :: polls =>
            let (records, next) := fetchAll topic positions poll
            if records.isEmpty then (items, .emptyPoll)
            else collect topic next (items ++ records) polls

/-- The positions the consumer seeks to before the loop. -/
def Topic.seeks (topic : Topic Content) (limit : Nat) : Positions := fun partition =>
  match topic.partitions.find? (·.partition = partition) with
  | some log => log.seek limit
  | none => 0

/-- `list_recent_topic_messages(topic, limit)`, and how its loop ended. -/
def listRecentTopicMessages (topic : Topic Content) (limit : Nat) (polls : List Poll) :
    List (Item Content) × Stop :=
  let (items, stop) := collect topic (topic.seeks limit) [] polls
  (topBy Item.key limit items, stop)

end EventPipeline.Portfolio.RecentMessages
